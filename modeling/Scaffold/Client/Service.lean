import Scaffold.Client.Reference
import Scaffold.Model

/-! The HTTP service of the client and its test. -/
namespace Scaffold.Client

namespace Service

structure Request where
  name : String
  params : String
  returns : String
  verb : String
  path : String
  body : Option String := none
  /-- Builds the query from the list of ids first. -/
  indexed : Bool := false

def requests (m : Model) : List Request :=
  let entity := m.names.entity
  let one := m.names.stem
  let many := one ++ "List"
  let key := m.keyClient.text
  [ { name := "getAll", params := "", returns := s!"{entity}[]", verb := "get"
      path := "/GetAll" },
    { name := "getById", params := s!"id: {key}", returns := entity, verb := "get"
      path := "/GetById?data=$\x7bid\x7d" },
    { name := "getMultiple", params := s!"ids: {key}[]", returns := s!"{entity}[]", verb := "get"
      path := "/GetMultiple?$\x7bqueryParams\x7d", indexed := true },
    { name := "insert", params := s!"{one}: {entity}", returns := "number", verb := "post"
      path := "/Insert", body := some one },
    { name := "insertMultiple", params := s!"{many}: {entity}[]", returns := "number"
      verb := "post", path := "/InsertMultiple", body := some many },
    { name := "update", params := s!"{one}: {entity}", returns := "number", verb := "put"
      path := "/Update", body := some one },
    { name := "updateMultiple", params := s!"{many}: {entity}[]", returns := "number"
      verb := "put", path := "/UpdateMultiple", body := some many },
    { name := "delete", params := s!"id: {key}", returns := "number", verb := "delete"
      path := "/Delete?data=$\x7bid\x7d" },
    { name := "deleteMultiple", params := s!"ids: {key}[]", returns := "number", verb := "delete"
      path := "/DeleteMultiple?$\x7bqueryParams\x7d", indexed := true }]

def Request.step (r : Request) : Step :=
  let url := s!"`$\x7bthis.baseUrl\x7d{r.path}`"
  let arguments := match r.body with
    | some body => s!"{url}, {body}"
    | none => url
  let query := "const queryParams = " ++
    "ids.map((id, index) => `data[$\x7bindex\x7d]=$\x7bid\x7d`).join('&');"
  .braces s!"{r.name}({r.params}): Observable<{r.returns}>" (
    (if r.indexed then [.line query] else []) ++
    Step.within s!"return this.http.{r.verb}<{r.returns}>({arguments}).pipe(" ");"
      [.line "catchError(this.handleError)"])

end Service

def service (m : Model) : Source :=
  { imports := [[
      ⟨["Injectable"], "@angular/core"⟩,
      ⟨["HttpClient"], "@angular/common/http"⟩,
      ⟨["Observable", "throwError"], "rxjs"⟩,
      ⟨["catchError"], "rxjs/operators"⟩,
      entityImport m.names]]
    decorator := .injectable
    exported := [{
      keyword := "class"
      name := m.names.clientService
      body := [
          .line s!"private baseUrl = 'YourApiUrl/{m.names.route}';",
          .blank,
          .line "constructor(private http: HttpClient) \x7b \x7d"] ++
        (Service.requests m).flatMap (fun r => [.blank, r.step]) ++ [
          .blank,
          .braces "private handleError(error: any): Observable<never>" [
            .line "console.error('An error occurred:', error);",
            .line ("return throwError(() => " ++
              "new Error('Something went wrong; please try again later.'));")]] }] }

def serviceTest (m : Model) : Source :=
  let name := m.names.clientService
  { imports := [
      [ ⟨["TestBed"], "@angular/core/testing"⟩,
        ⟨["HttpClientTestingModule"], "@angular/common/http/testing"⟩],
      [⟨[name], s!"./{m.names.stem}.service"⟩]]
    body := [
      .block s!"describe('{name}', () =>" "\x7d);" [
        .line s!"let service: {name};",
        .blank,
        .block "beforeEach(() =>" "\x7d);" (
          Step.within "TestBed.configureTestingModule(\x7b" "\x7d);"
            [.line "imports: [HttpClientTestingModule]"] ++
          [.line s!"service = TestBed.inject({name});"]),
        .blank,
        .block "it('should be created', () =>" "\x7d);" [
          .line "expect(service).toBeTruthy();"]]] }

end Scaffold.Client

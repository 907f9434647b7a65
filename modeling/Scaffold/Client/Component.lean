import Scaffold.Client.Reference
import Scaffold.Model

/-! The per-record components: class, style sheet and test. -/
namespace Scaffold.Client.Component

/-- The route's `id`, in the client type of the key. -/
def routeId (m : Model) : String := if m.keyClient = .number then "Number(id)" else "id"

def imports (m : Model) (op : Operation) : List Import :=
  let core := match op with
    | .insert => ["Component"]
    | _ => ["Component", "OnInit"]
  let router := match op with
    | .insert => []
    | .delete => [⟨["ActivatedRoute", "Router"], "@angular/router"⟩]
    | _ => [⟨["ActivatedRoute"], "@angular/router"⟩]
  ⟨core, "@angular/core"⟩ :: router ++ [serviceImport m.names, entityImport m.names]

def decorator (n : Names) (op : Operation) : Decorator :=
  let stem := n.componentStem op
  .component (n.componentSelector op) s!"./{stem}.component.html" [s!"./{stem}.component.css"]

def insertBody (n : Names) : List Step := [
  .line s!"{n.stem}: {n.entity} = \x7b\x7d as {n.entity};",
  .blank,
  .line s!"constructor(private {n.serviceVariable}: {n.clientService}) \x7b \x7d",
  .blank,
  .braces "onSubmit(): void" (
    Step.within s!"this.{n.serviceVariable}.insert(this.{n.stem}).subscribe(\x7b" "\x7d);" [
      .block "next: (response) =>" "\x7d," [
        .line s!"console.log('{n.entity} added successfully:', response);",
        .line "this.resetForm();"],
      .line s!"error: (error) => console.error('Failed to add {n.stem}:', error)"]),
  .blank,
  .braces "private resetForm(): void" [
    .line s!"this.{n.stem} = \x7b\x7d as {n.entity};"]]

/-- Loads the record that the route names. -/
def onInit (m : Model) : Step :=
  let n := m.names
  .braces "ngOnInit(): void" ([
    .line "const id = this.route.snapshot.paramMap.get('id');",
    .braces "if (id === null)" [
      .line s!"this.errorMessage = 'No {n.stem} id provided in route.';",
      .line "return;"],
    .line s!"this.id = {routeId m};"] ++
    Step.within s!"this.{n.serviceVariable}.getById(this.id).subscribe(\x7b" "\x7d);" [
      .line s!"next: (data) => this.{n.stem} = data,",
      .braces "error: (error) =>" [
        .line s!"console.error('Failed to fetch {n.stem}:', error);",
        .line s!"this.errorMessage = 'Failed to fetch {n.stem}. Please try again later.';"]])

/-- What the components of one record have in common; `router` is an injected parameter more. -/
def recordBody (m : Model) (router : String) : List Step :=
  let n := m.names
  [ .line s!"id!: {m.keyClient.text};",
    .line s!"{n.stem}?: {n.entity};",
    .line "errorMessage?: string;",
    .blank,
    .line (s!"constructor(private route: ActivatedRoute, {router}" ++
      s!"private {n.serviceVariable}: {n.clientService}) \x7b \x7d"),
    .blank,
    onInit m]

def updateBody (m : Model) : List Step :=
  let n := m.names
  recordBody m "" ++ [
    .blank,
    .braces "onSubmit(): void" (
      .braces s!"if (!this.{n.stem})" [.line "return;"] ::
      Step.within s!"this.{n.serviceVariable}.update(this.{n.stem}).subscribe(\x7b" "\x7d);" [
        .line s!"next: () => console.log('{n.entity} updated successfully'),",
        .line s!"error: (error) => console.error('Failed to update {n.stem}:', error)"])]

def deleteBody (m : Model) : List Step :=
  let n := m.names
  recordBody m "private router: Router, " ++ [
    .blank,
    .braces "onDelete(): void" (
      Step.within s!"this.{n.serviceVariable}.delete(this.id).subscribe(\x7b" "\x7d);" [
        .block "next: () =>" "\x7d," [
          .line s!"console.log('{n.entity} deleted successfully');",
          .line s!"this.router.navigate(['/{n.stem}']);"],
        .line s!"error: (error) => console.error('Failed to delete {n.stem}:', error)"])]

def body (m : Model) : Operation → List Step
  | .insert => insertBody m.names
  | .update => updateBody m
  | .delete => deleteBody m
  | .get => recordBody m ""

def source (m : Model) (op : Operation) : Source :=
  { imports := [imports m op]
    decorator := decorator m.names op
    exported := [{
      keyword := "class"
      name := m.names.componentClass op
      clause := if op = .insert then "" else " implements OnInit"
      body := body m op }] }

def styleSheet (m : Model) (op : Operation) : List Step := [
  .line s!"/* Styles for {m.names.componentStem op} */"]

def routerTesting : Import := ⟨["RouterTestingModule"], "@angular/router/testing"⟩

def forms : Import := ⟨["FormsModule"], "@angular/forms"⟩

/-- Modules that the test of a component needs beside HTTP. -/
def testModules : Operation → List Import
  | .insert => [forms]
  | .update => [routerTesting, forms]
  | .delete | .get => [routerTesting]

def test (m : Model) (op : Operation) : Source :=
  let name := m.names.componentClass op
  let modules := testModules op
  let imported := ", ".intercalate ("HttpClientTestingModule" :: modules.flatMap (·.names))
  { imports := [
      [ ⟨["ComponentFixture", "TestBed"], "@angular/core/testing"⟩,
        ⟨["HttpClientTestingModule"], "@angular/common/http/testing"⟩] ++ modules,
      [⟨[name], s!"./{m.names.componentStem op}.component"⟩]]
    body := [
      .block s!"describe('{name}', () =>" "\x7d);" [
        .line s!"let component: {name};",
        .line s!"let fixture: ComponentFixture<{name}>;",
        .blank,
        .block "beforeEach(async () =>" "\x7d);" (
          Step.within "await TestBed.configureTestingModule(\x7b" "\x7d)" [
            .line s!"imports: [{imported}],",
            .line s!"declarations: [{name}]"] ++ [
          .line ".compileComponents();",
          .blank,
          .line s!"fixture = TestBed.createComponent({name});",
          .line "component = fixture.componentInstance;",
          .line "fixture.detectChanges();"]),
        .blank,
        .block "it('should create', () =>" "\x7d);" [
          .line "expect(component).toBeTruthy();"]]] }

end Scaffold.Client.Component

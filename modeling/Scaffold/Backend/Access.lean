import Scaffold.Backend.Literal
import Scaffold.Layout
import Scaffold.Model

/-! The data-access class: constants, single-row methods, chunked bulk methods and their helpers. -/
namespace Scaffold.Backend.Access

def suppliedParams : String := "SqlConnection connection, SqlTransaction transaction"

/-- Named statement texts. -/
def queries (s : Statements) : List (String × String) := [
  ("GetQuery", s.get),
  ("GetAllQuery", s.getAll),
  ("GetMultipleQuery", s.getMultipleTemplate),
  ("InsertQuery", s.insert),
  ("InsertRowTemplate", s.insertRowTemplate),
  ("UpdateQuery", s.update),
  ("UpdateRowTemplate", s.updateRowTemplate),
  ("DeleteQuery", s.delete),
  ("DeleteMultipleQuery", s.deleteMultipleTemplate),
  ("IdParamTemplate", s.idTemplate)]

def chunkConstant (op : Bulk) : Connection → String
  | .ambient => op.text ++ "ChunkSize"
  | .supplied => op.text ++ "WithTransactionChunkSize"

def chunkSizes (m : Model) : List (String × Nat) :=
  Connection.all.flatMap fun v => Bulk.all.map fun op => (chunkConstant op v, m.chunkSize v op)

def constants (m : Model) : List Step := [
  .lines ((queries m.statements).map fun q =>
    s!"private const string {q.1} = {literal q.2};"),
  .blank,
  .lines ((chunkSizes m).map fun c => s!"private const int {c.1} = {c.2};")]

/-- Where a parameter's value comes from. A nullable member is sent as a database null. -/
inductive Source
  | id
  | member (name : String)
  | nullableMember (name : String)
deriving DecidableEq

structure Binding where
  column : String
  source : Source
deriving DecidableEq

namespace Binding

def parameter (b : Binding) : String := "@" ++ b.column

def member? (b : Binding) : Option String :=
  match b.source with
  | .id => none
  | .member name | .nullableMember name => some name

def value (b : Binding) (id item : String) : String :=
  match b.source with
  | .id => id
  | .member name => s!"{item}.{name}"
  | .nullableMember name => s!"(object){item}.{name} ?? DBNull.Value"

/-- Binds the parameter of a single-row statement. -/
def single (b : Binding) : Step :=
  let value := b.value "id" "item"
  .line s!"sqlCommand.Parameters.AddWithValue({literal b.parameter}, {value});"

/-- Binds the parameter of row `i` of a chunk. -/
def indexed (b : Binding) : Step :=
  let value := b.value "ids[i]" "items[i]"
  .line s!"sqlCommand.Parameters.AddWithValue({literal b.parameter} + i, {value});"

end Binding

def idBinding (m : Model) : Binding := ⟨m.key.name, .id⟩

def keyBinding (m : Model) : Binding := ⟨m.key.name, .member m.key.name⟩

def writtenBindings (m : Model) : List Binding :=
  m.written.map fun c => ⟨c.name, .nullableMember c.name⟩

def insertBindings (m : Model) : List Binding := writtenBindings m

def updateBindings (m : Model) : List Binding := keyBinding m :: writtenBindings m

/-- What each row of a chunk binds. -/
def rowBindings (m : Model) : Bulk → List Binding
  | .getMultiple | .deleteMultiple => [idBinding m]
  | .insertMultiple => writtenBindings m
  | .updateMultiple => writtenBindings m ++ [keyBinding m]

def command (query : String) (body : List Step) : Step :=
  .braces s!"using (var sqlCommand = new SqlCommand({query}, connection, transaction))" body

/-- The body must commit and return. -/
def ambientScope (m : Model) (body : List Step) : Step :=
  let text := m.names.configNamespace ++ ".Config.GetConnectionString()"
  .braces s!"using (var connection = new SqlConnection({text}))"
    [ .line "connection.Open();",
      .braces "using (var transaction = connection.BeginTransaction())" body]

def fillTable : Step := .line "new SqlDataAdapter(sqlCommand).Fill(dataTable);"

def executeCount : Step := .line "return sqlCommand.ExecuteNonQuery();"

def newTable : Step := .line "var dataTable = new DataTable();"

def allRows (m : Model) : Step :=
  .line s!"return dataTable.Rows.Cast<DataRow>().Select(row => new {m.names.entity}(row)).ToList();"

/-- Signature and delegated call of the single-row methods. -/
def singles (m : Model) : List (String × String) :=
  let entity := m.names.entity
  let key := m.keyBackend.text
  [ (s!"{entity} Get({key} id)", "GetWithTransaction(id, "),
    (s!"List<{entity}> GetAll()", "GetAllWithTransaction("),
    (s!"int Insert({entity} item)", "InsertWithTransaction(item, "),
    (s!"int Update({entity} item)", "UpdateWithTransaction(item, "),
    (s!"int Delete({key} id)", "DeleteWithTransaction(id, ")]

/-- What the public method of a bulk operation and its chunk worker have in common. -/
structure BulkShape where
  returns : String
  input : String
  inputType : String
  collectsRows : Bool

namespace BulkShape

def of (m : Model) : Bulk → BulkShape
  | .getMultiple => ⟨s!"List<{m.names.entity}>", "ids", s!"List<{m.keyBackend.text}>", true⟩
  | .deleteMultiple => ⟨"int", "ids", s!"List<{m.keyBackend.text}>", false⟩
  | .insertMultiple | .updateMultiple => ⟨"int", "items", s!"List<{m.names.entity}>", false⟩

def inputDeclaration (s : BulkShape) : String := s!"{s.inputType} {s.input}"

def emptyGuard (s : BulkShape) : List Step := [
  .braces s!"if ({s.input} == null || {s.input}.Count == 0)" [
    .line (if s.collectsRows then s!"return new {s.returns}();" else "return 0;")],
  .blank]

def worker (op : Bulk) : String := op.text ++ "Chunk"

def loop (s : BulkShape) (op : Bulk) (v : Connection) : List Step :=
  let call := s!"{worker op}(chunk, connection, transaction)"
  [ .line (if s.collectsRows then s!"var results = new {s.returns}();" else "int results = 0;"),
    .braces s!"foreach (var chunk in Chunk({s.input}, {chunkConstant op v}))" [
      .line (if s.collectsRows then s!"results.AddRange({call});" else s!"results += {call};")]]

end BulkShape

def ambientMethods (m : Model) : List Step :=
  (singles m).flatMap (fun (signature, call) => [
    .braces s!"public {signature}" [
      ambientScope m [
        .line s!"var result = {call}connection, transaction);",
        .line "transaction.Commit();",
        .line "return result;"]],
    .blank]) ++
  Bulk.all.flatMap fun op =>
    let shape := BulkShape.of m op
    [ .braces s!"public {shape.returns} {op.text}({shape.inputDeclaration})" (
        shape.emptyGuard ++ [
        ambientScope m (
          shape.loop op .ambient ++ [
          .line "transaction.Commit();",
          .line "return results;"])]),
      .blank]

/-- Insert returns the new key, if the statement does. -/
def insertResult (m : Model) : List Step :=
  if m.statements.returnsKey then [
    .line "var result = sqlCommand.ExecuteScalar();",
    .line "return result == null || result == DBNull.Value ? 0 : Convert.ToInt32(result);"]
  else [executeCount]

def suppliedMethods (m : Model) : List Step :=
  let entity := m.names.entity
  let key := m.keyBackend.text
  [ .braces s!"public {entity} GetWithTransaction({key} id, {suppliedParams})" [
      newTable,
      command "GetQuery" [(idBinding m).single, fillTable],
      .blank,
      .line s!"return dataTable.Rows.Count > 0 ? new {entity}(dataTable.Rows[0]) : null;"],
    .blank,
    .braces s!"public List<{entity}> GetAllWithTransaction({suppliedParams})" [
      newTable,
      command "GetAllQuery" [fillTable],
      .blank,
      allRows m],
    .blank,
    .braces s!"public int InsertWithTransaction({entity} item, {suppliedParams})" [
      command "InsertQuery" (
        (insertBindings m).map Binding.single ++ .blank :: insertResult m)],
    .blank,
    .braces s!"public int UpdateWithTransaction({entity} item, {suppliedParams})" [
      command "UpdateQuery" (
        (updateBindings m).map Binding.single ++ [.blank, executeCount])],
    .blank,
    .braces s!"public int DeleteWithTransaction({key} id, {suppliedParams})" [
      command "DeleteQuery" [(idBinding m).single, executeCount]],
    .blank] ++
  Bulk.all.flatMap fun op =>
    let shape := BulkShape.of m op
    let params := s!"{shape.inputDeclaration}, {suppliedParams}"
    [ .braces s!"public {shape.returns} {op.text}WithTransaction({params})"
        (shape.emptyGuard ++ shape.loop op .supplied ++ [.line "return results;"]),
      .blank]

/-- The statement text that a chunk worker builds. -/
def chunkQuery : Bulk → String
  | .getMultiple => s!"GetMultipleQuery.Replace({literal Statements.idsMark}, IdList(ids.Count))"
  | .deleteMultiple =>
    s!"DeleteMultipleQuery.Replace({literal Statements.idsMark}, IdList(ids.Count))"
  | .insertMultiple => "RenderRows(InsertRowTemplate, items.Count)"
  | .updateMultiple => "RenderRows(UpdateRowTemplate, items.Count)"

def chunkWorker (m : Model) (op : Bulk) : List Step :=
  let shape := BulkShape.of m op
  let bindings := (rowBindings m op).map Binding.indexed
  [ .braces
      s!"private {shape.returns} {BulkShape.worker op}({shape.inputDeclaration}, {suppliedParams})"
      ((if shape.collectsRows then [newTable] else []) ++ [
      command (chunkQuery op) [
        .braces s!"for (int i = 0; i < {shape.input}.Count; i++)" bindings,
        if shape.collectsRows then fillTable else executeCount]] ++
      (if shape.collectsRows then [.blank, allRows m] else [])),
    .blank]

def chunkWorkers (m : Model) : List Step :=
  [Bulk.getMultiple, .deleteMultiple, .insertMultiple, .updateMultiple].flatMap (chunkWorker m)

def helpers : List Step :=
  let mark := literal Statements.rowMark
  let id := s!"IdParamTemplate.Replace({mark}, i.ToString())"
  [ .braces "private static string IdList(int count)" [
      .line s!"return string.Join(\",\", Enumerable.Range(0, count).Select(i => {id}));"],
    .blank,
    .braces "private static string RenderRows(string rowTemplate, int count)" [
      .line "var query = new StringBuilder();",
      .braces "for (int i = 0; i < count; i++)" [
        .line "if (i > 0) query.Append(' ');",
        .line s!"query.Append(rowTemplate.Replace({mark}, i.ToString()));"],
      .line "return query.ToString();"],
    .blank,
    .braces
      "private static IEnumerable<List<TItem>> Chunk<TItem>(List<TItem> items, int chunkSize)" [
      .braces "for (int start = 0; start < items.Count; start += chunkSize)" [
        .line "yield return items.GetRange(start, Math.Min(chunkSize, items.Count - start));"]],
    .blank]

def region (name : String) (body : List Step) : List Step :=
  .line s!"#region {name}" :: .blank :: body ++ [.line s!"#endregion {name}"]

end Access

def access (m : Model) : List Step := [
  .lines [
    "using System;",
    "using System.Collections.Generic;",
    "using System.Data;",
    "using System.Linq;",
    "using System.Text;",
    "using Microsoft.Data.SqlClient;",
    s!"using {m.names.entitiesNamespace};"],
  .blank,
  .braces s!"namespace {m.names.accessNamespace}" [
    .braces s!"public class {m.names.accessClass}" (
      Access.constants m ++ .blank ::
      Access.region "Default Methods" (Access.ambientMethods m) ++ .blank ::
      Access.region "Transaction Methods" (Access.suppliedMethods m) ++ .blank ::
      Access.region "Chunk Workers" (Access.chunkWorkers m ++ Access.helpers) ++ .blank ::
      Access.region "Custom Methods" [])]]

end Scaffold.Backend

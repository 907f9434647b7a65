import Scaffold.Schema.Names
import Scaffold.SqlType
import Scaffold.Statement.Template
import Scaffold.Text.Title

/-! All that the artifacts of a table are made from, derived once. -/
namespace Scaffold

/-- Findings that do not stop generation. -/
inductive Warning
  | assumedKey (table key : String)
  | unmappedType (table column sourceType : String)
  | budgetExceeded (table : String) (op : Bulk) (connection : Connection) (params budget : Nat)
deriving DecidableEq

def Warning.text : Warning → String
  | assumedKey table key => s!"table `{table}` has no primary key column; assuming `{key}`"
  | unmappedType table column sourceType =>
    s!"column `{table}.{column}` has unmapped type `{sourceType}`; using opaque fallback types"
  | budgetExceeded table op connection params budget =>
    let suffix := match connection with
      | .ambient => ""
      | .supplied => "WithTransaction"
    s!"`{op.text}{suffix}` on `{table}` binds up to {params} parameters per statement " ++
      s!"(budget {budget})"

structure ColumnModel where
  name : String
  sourceType : String
  /-- The name in lower case. -/
  field : String
  label : String
  backend : BackendType
  client : ClientType
  input : InputType
  attributes : Option (List String)
  isKey : Bool
  identity : Bool

def ColumnModel.of (k : Key) (c : Column) : ColumnModel :=
  let m := SqlType.mapping c.sourceType
  { name := c.name
    sourceType := c.sourceType
    field := Text.lower c.name
    label := Text.title c.name
    backend := m.backend
    client := m.client
    input := m.input
    attributes := SqlType.attributes? c
    isKey := k.excludes c.name
    identity := c.identity }

structure Model where
  names : Names
  database : String
  key : Key
  keyBackend : BackendType
  keyClient : ClientType
  columns : List ColumnModel
  statements : Statements
  budget : ParamBudget
  warnings : List Warning

namespace Model

def keyWarnings (t : Table) (k : Key) : List Warning :=
  if k.assumed then [.assumedKey t.name k.name] else []

def typeWarnings (t : Table) : List Warning :=
  (t.columns.filter (!SqlType.isKnown ·.sourceType)).map fun c =>
    .unmappedType t.name c.name c.sourceType

def budgetWarnings (t : Table) (b : ParamBudget) (n : ColumnCounts) : List Warning :=
  Connection.all.flatMap fun v => Bulk.all.filterMap fun op =>
    (b.overflow? op v n).map fun params => .budgetExceeded t.name op v params b.budget

/-- A key that is not a column of the table is taken to be a number. -/
def keyTypes (k : Key) : BackendType × ClientType :=
  match k.sourceType with
  | some s => ((SqlType.mapping s).backend, (SqlType.mapping s).client)
  | none => (.int, .number)

/-- The table's own database unless that is absent or blank. -/
def databaseOf (t : Table) (default : String) : String :=
  match t.database with
  | some d => if Text.allBlank d then default else d
  | none => default

def build (t : Table) (defaultDatabase : String) (b : ParamBudget) : Except TableFault Model :=
  match t.fault? with
  | some f => .error f
  | none =>
    let k := Key.ofTable t
    let s := Statements.ofTable t k
    let database := databaseOf t defaultDatabase
    .ok
      { names := .ofTable t database
        database
        key := k
        keyBackend := (keyTypes k).1
        keyClient := (keyTypes k).2
        columns := t.columns.map (.of k)
        statements := s
        budget := b
        warnings := keyWarnings t k ++ typeWarnings t ++ budgetWarnings t b s.counts }

/-- Columns that insert and update write. -/
def written (m : Model) : List ColumnModel := m.columns.filter (!·.isKey)

def chunkSize (m : Model) (v : Connection) (op : Bulk) : Nat :=
  m.budget.chunkSize op v m.statements.counts

def needsSqlServerTypes (m : Model) : Bool := m.columns.any (·.backend.isSqlServerType)

end Model

end Scaffold

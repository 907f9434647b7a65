import Scaffold.Text.Blank
import Scaffold.Text.Case

/-! Table descriptions and the conditions under which code can be produced for one. -/
namespace Scaffold

structure Column where
  name : String
  sourceType : String
  flaggedKey : Bool := false
  identity : Bool := false
deriving DecidableEq, Inhabited

structure Table where
  name : String
  rootNamespace : String := ""
  entityName : Option String := none
  database : Option String := none
  columns : List Column
deriving DecidableEq, Inhabited

inductive TableFault
  | blankName
  | noColumns (table : String)
  | blankColumn (table sourceType : String)
deriving DecidableEq

def TableFault.message : TableFault → String
  | blankName => "table name must not be empty"
  | noColumns table => s!"table `{table}` has no columns"
  | blankColumn table sourceType =>
    s!"table `{table}` has a column with an empty name (type `{sourceType}`)"

namespace Table

def fault? (t : Table) : Option TableFault :=
  if Text.allBlank t.name then some .blankName
  else if t.columns.isEmpty then some (.noColumns t.name)
  else (t.columns.find? (Text.allBlank ·.name)).map fun c => .blankColumn t.name c.sourceType

/-- The table's own name stands in for an absent or empty entity name. -/
def entity (t : Table) : String :=
  match t.entityName with
  | some e => if e.isEmpty then t.name else e
  | none => t.name

/-- The first column of that name; ASCII case does not count. -/
def column? (t : Table) (name : String) : Option Column :=
  t.columns.find? (Text.eqIgnoringAsciiCase ·.name name)

def flaggedKey? (t : Table) : Option Column := t.columns.find? (·.flaggedKey)

end Table

end Scaffold

import Scaffold.Schema.Table

/-! The one key column that single-row statements address. -/
namespace Scaffold

/-- A key without a source type is assumed and not a column of the table. -/
structure Key where
  name : String
  assumed : Bool
  identity : Bool
  sourceType : Option String
deriving DecidableEq

namespace Key

def defaultName : String := "Id"

/-- The first flagged column; failing that, a column called `Id`; failing that, the name alone. -/
def ofTable (t : Table) : Key :=
  match t.flaggedKey? with
  | some c => ⟨c.name, false, c.identity, some c.sourceType⟩
  | none =>
    match t.column? defaultName with
    | some c => ⟨c.name, true, c.identity, some c.sourceType⟩
    | none => ⟨defaultName, true, false, none⟩

/-- Columns of the key's name are not written by insert and update. -/
def excludes (k : Key) (column : String) : Bool := Text.eqIgnoringAsciiCase k.name column

end Key

end Scaffold

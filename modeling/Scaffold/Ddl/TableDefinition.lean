import Scaffold.Ddl.DataType
import Scaffold.Schema.Table
import Scaffold.Text.Replace

/-! Table definitions as trees, and the tables they describe. -/
namespace Scaffold.Ddl

/-- Keys are told apart. An option of one dialect is kept by its words, any other one by its
printed form. -/
inductive ColumnOption
  | primaryKey
  | dialectSpecific (words : List String)
  | other (text : String)
deriving DecidableEq

structure ColumnDefinition where
  name : Ident
  type : DataType
  options : List ColumnOption

/-- A key is a list of columns or other expressions, of which the printed form is kept. -/
inductive KeyPart
  | column (name : Ident)
  | expression (text : String)
deriving DecidableEq

inductive TableConstraint
  | primaryKey (parts : List KeyPart)
  | other
deriving DecidableEq

structure TableDefinition where
  name : List Ident
  columns : List ColumnDefinition
  constraints : List TableConstraint

/-- Seed and increment of an identity are printed after the key word. -/
def ColumnOption.isIdentity : ColumnOption → Bool
  | primaryKey => false
  | dialectSpecific words =>
    let text := Text.upper (" ".intercalate words)
    Text.occurs "IDENTITY" text || Text.occurs "AUTO_INCREMENT" text
  | other text => "IDENTITY".toList.isPrefixOf (Text.upper text).toList

namespace ColumnDefinition

def toColumn (d : ColumnDefinition) : Column :=
  { name := d.name.value
    sourceType := Text.lower d.type.text
    flaggedKey := d.options.contains .primaryKey
    identity := d.options.any (·.isIdentity) }

end ColumnDefinition

/-- An expression counts as the name that its printed form spells. -/
def KeyPart.name : KeyPart → String
  | column name => name.value
  | expression text => text

def TableConstraint.keyNames : TableConstraint → List String
  | primaryKey parts => parts.map KeyPart.name
  | other => []

namespace TableDefinition

/-- Flags the first column of that name; ASCII case does not count. -/
def flagFirst (name : String) : List Column → List Column
  | [] => []
  | c :: cs =>
    if Text.eqIgnoringAsciiCase c.name name then { c with flaggedKey := true } :: cs
    else c :: flagFirst name cs

def keyNames (d : TableDefinition) : List String := d.constraints.flatMap (·.keyNames)

/-- The last part of the name is the table's own. -/
def tableName (d : TableDefinition) : String := (d.name.getLast?.map (·.value)).getD ""

def toTable (d : TableDefinition) : Table :=
  { name := d.tableName
    columns := d.keyNames.foldl (fun cs name => flagFirst name cs) (d.columns.map (·.toColumn)) }

end TableDefinition

end Scaffold.Ddl

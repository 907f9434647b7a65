import Scaffold.Batch.Budget
import Scaffold.Schema.Key
import Scaffold.Text.Replace

/-! The statements of a table: single-row, and templates for many rows at once. -/
namespace Scaffold

/-- Square brackets, with each closing bracket inside doubled. -/
def quoteName (name : String) : String := "[" ++ Text.replace "]" "]]" name ++ "]"

/-- `columns` are the written ones, in order of declaration. -/
structure Statements where
  table : String
  key : String
  returnsKey : Bool
  columns : List String
  declared : Nat
deriving DecidableEq

namespace Statements

def ofTable (t : Table) (k : Key) : Statements :=
  { table := t.name
    key := k.name
    returnsKey := k.identity
    columns := (t.columns.filter (!k.excludes ·.name)).map (·.name)
    declared := t.columns.length }

def counts (s : Statements) : ColumnCounts := .of s.columns.length s.declared

/-- Stands for the position of the row within its chunk. -/
def rowMark : String := "\x7bi\x7d"

/-- Stands for the list of key parameters. -/
def idsMark : String := "\x7bids\x7d"

def param (name suffix : String) : String := "@" ++ name ++ suffix

def quotedTable (s : Statements) : String := quoteName s.table

def quotedKey (s : Statements) : String := quoteName s.key

def columnList (s : Statements) : String := ",".intercalate (s.columns.map quoteName)

def valueList (s : Statements) (suffix : String) : String :=
  ",".intercalate (s.columns.map (param · suffix))

def setList (s : Statements) (suffix : String) : String :=
  ", ".intercalate (s.columns.map fun c => quoteName c ++ " = " ++ param c suffix)

def insertWith (s : Statements) (suffix : String) (output : Bool) : String :=
  let returned := if output then " OUTPUT INSERTED." ++ s.quotedKey else ""
  if s.columns.isEmpty then "INSERT INTO " ++ s.quotedTable ++ returned ++ " DEFAULT VALUES"
  else
    "INSERT INTO " ++ s.quotedTable ++ " (" ++ s.columnList ++ ")" ++ returned ++
      " VALUES (" ++ s.valueList suffix ++ ")"

def updateWith (s : Statements) (suffix : String) : String :=
  "UPDATE " ++ s.quotedTable ++ " SET " ++ s.setList suffix ++ " WHERE " ++ s.quotedKey ++
    " = " ++ param s.key suffix

/-- One key parameter for each row. -/
def idList (s : Statements) (rows : Nat) : String :=
  ",".intercalate ((List.range rows).map fun i => param s.key (toString i))

def get (s : Statements) : String :=
  "SELECT * FROM " ++ s.quotedTable ++ " WHERE " ++ s.quotedKey ++ " = " ++ param s.key ""

def getAll (s : Statements) : String := "SELECT * FROM " ++ s.quotedTable

def insert (s : Statements) : String := s.insertWith "" s.returnsKey

def update (s : Statements) : String := s.updateWith ""

def delete (s : Statements) : String :=
  "DELETE FROM " ++ s.quotedTable ++ " WHERE " ++ s.quotedKey ++ " = " ++ param s.key ""

def getMultipleTemplate (s : Statements) : String :=
  "SELECT * FROM " ++ s.quotedTable ++ " WHERE " ++ s.quotedKey ++ " IN (" ++ idsMark ++ ")"

def deleteMultipleTemplate (s : Statements) : String :=
  "DELETE FROM " ++ s.quotedTable ++ " WHERE " ++ s.quotedKey ++ " IN (" ++ idsMark ++ ")"

def insertRowTemplate (s : Statements) : String := s.insertWith rowMark false ++ ";"

def updateRowTemplate (s : Statements) : String := s.updateWith rowMark ++ ";"

def idTemplate (s : Statements) : String := param s.key rowMark

/-- Copies of a row template, numbered from zero. -/
def renderRows (template : String) (rows : Nat) : String :=
  " ".intercalate ((List.range rows).map fun i => Text.replace rowMark (toString i) template)

def render (s : Statements) (op : Bulk) (rows : Nat) : String :=
  match op with
  | .getMultiple => Text.replace idsMark (s.idList rows) s.getMultipleTemplate
  | .insertMultiple => renderRows s.insertRowTemplate rows
  | .updateMultiple => renderRows s.updateRowTemplate rows
  | .deleteMultiple => Text.replace idsMark (s.idList rows) s.deleteMultipleTemplate

/-- One statement for each chunk of a bulk call. -/
def planned (s : Statements) (b : ParamBudget) (op : Bulk) (v : Connection) (items : Nat) :
    List (Batch.Chunk × String) :=
  (b.plan op v s.counts items).map fun c => (c, s.render op c.len)

end Statements

end Scaffold

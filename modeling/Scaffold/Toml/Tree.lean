import Scaffold.Toml.Basic

/-! Tables as a document builds them up from headers and assignments. -/
namespace Scaffold.Toml

/-- How a table came about. -/
inductive Origin
  /-- A longer header or key runs through it. -/
  | implied
  | dotted
  | header
deriving DecidableEq

/-- Values are closed: nothing is added to an inline table or an array. The last table of an array
comes first and is the one that is added to. -/
inductive Tree
  | value (v : Toml)
  | table (origin : Origin) (entries : List (String × Tree))
  | tables (items : List (List (String × Tree)))

abbrev Entries := List (String × Tree)

namespace Tree

/-- Puts what the function makes of the entry under a key in its place; a new key comes last. -/
def alter (key : String) (f : Option Tree → Option Tree) : Entries → Option Entries
  | [] => do return [(key, ← f none)]
  | (k, t) :: es =>
    if k = key then do return (k, ← f (some t)) :: es
    else do return (k, t) :: (← alter key f es)

/-- Changes the entries of the table that a header names. -/
def within (path : List String) (f : Entries → Option Entries) (es : Entries) : Option Entries :=
  match path with
  | [] => f es
  | key :: rest =>
    alter key (fun
      | none => table .implied <$> within rest f []
      | some (table origin inner) => table origin <$> within rest f inner
      | some (tables (last :: earlier)) => do return tables ((← within rest f last) :: earlier)
      | some _ => none) es

def openTable : Option Tree → Option Tree
  | none => some (table .header [])
  | some (table .implied inner) => some (table .header inner)
  | some _ => none

def openArray : Option Tree → Option Tree
  | none => some (tables [[]])
  | some (tables items) => some (tables ([] :: items))
  | some _ => none

/-- Does for the last key of a path what `within` does for the others. -/
def atPath (path : List String) (f : Option Tree → Option Tree) (es : Entries) : Option Entries :=
  match path.getLast? with
  | none => none
  | some key => within path.dropLast (alter key f) es

/-- A key is assigned once, and dotted keys do not reach into tables with headers. -/
def assign (path : List String) (v : Toml) (es : Entries) : Option Entries :=
  match path with
  | [] => none
  | [key] => alter key (fun | none => some (value v) | some _ => none) es
  | key :: rest =>
    alter key (fun
      | none => table .dotted <$> assign rest v []
      | some (table .header _) => none
      | some (table origin inner) => table origin <$> assign rest v inner
      | some _ => none) es

mutual

def toToml : Tree → Toml
  | value v => v
  | table _ es => .table (entriesToToml es)
  | tables items => .array (itemsToToml items).reverse

def entriesToToml : Entries → List (String × Toml)
  | [] => []
  | (key, t) :: es => (key, t.toToml) :: entriesToToml es

def itemsToToml : List Entries → List Toml
  | [] => []
  | es :: items => .table (entriesToToml es) :: itemsToToml items

end

end Tree

/-- The parts of a document in order. -/
inductive Statement
  | table (path : List String)
  | array (path : List String)
  | assign (path : List String) (value : Toml)

/-- Assignments go to the table of the last header. -/
def Statement.apply (state : List String × Entries) : Statement → Option (List String × Entries)
  | table path => do return (path, ← Tree.atPath path Tree.openTable state.2)
  | array path => do return (path, ← Tree.atPath path Tree.openArray state.2)
  | assign path v => do return (state.1, ← Tree.within state.1 (Tree.assign path v) state.2)

def ofStatements? (ss : List Statement) : Option Toml := do
  let (_, es) ← ss.foldlM Statement.apply ([], [])
  return .table (Tree.entriesToToml es)

end Scaffold.Toml

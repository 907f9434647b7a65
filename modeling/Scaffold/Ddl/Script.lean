import Scaffold.Ddl.Statement

/-! Scripts: statements with semicolons between. -/
namespace Scaffold.Ddl

open Reader

/-- Constructs nest up to the given depth. -/
def Inner.level : Nat → Inner
  | 0 => ⟨fun _ => failure, failure, failure⟩
  | depth + 1 =>
    let inner := level depth
    ⟨Expression.read inner, Query.read inner, discard (Statement.read inner)⟩

namespace Script

def maxDepth : Nat := 50

def statement : Reader Token (Option TableDefinition) := Statement.read (.level (maxDepth - 1))

/-- An `END` right after a statement ends the script, whatever follows. -/
def definitions : Reader Token (List (Option TableDefinition)) := do
  let semicolons := many (mark ";")
  discard semicolons
  let first ← opt statement
  let rest ← match first with
    | none => pure []
    | some _ => many (many1 (mark ";") *> statement)
  if first.isSome && (← ahead (keyword "END")) then set ([] : List Token)
  discard semicolons
  return first.toList ++ rest

/-- The tables of a script, in order; nothing if any of its statements is malformed. -/
def tables? (s : String) : Option (List Table) := do
  let ts ← Token.ofText? s
  let ds ← whole? definitions ts
  return (ds.filterMap id).map (·.toTable)

end Script

end Scaffold.Ddl

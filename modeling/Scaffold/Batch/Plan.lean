/-! Splitting a number of items into consecutive chunks under a parameter budget. -/
namespace Scaffold.Batch

structure Chunk where
  start : Nat
  len : Nat
deriving DecidableEq

namespace Chunk

def stop (c : Chunk) : Nat := c.start + c.len

def text (c : Chunk) : String := s!"[{c.start}, {c.stop})"

end Chunk

/-- The most items whose parameters fit the budget, but never less than one. -/
def maxLen (perItem budget : Nat) : Nat :=
  if perItem = 0 then max budget 1 else max (budget / perItem) 1

/-- As many full chunks as there are, then what remains. -/
def plan (items perItem budget : Nat) : List Chunk :=
  let size := maxLen perItem budget
  let full := items / size
  (List.range full).map (fun i => ⟨i * size, size⟩) ++
    if items % size = 0 then [] else [⟨full * size, items % size⟩]

end Scaffold.Batch

/-! Readers, which take a value off the front of a list of symbols or fail. -/
namespace Scaffold

abbrev Reader (σ α : Type) := StateT (List σ) Option α

namespace Reader

variable {σ α β : Type}

def peek? : Reader σ (Option σ) := fun s => some (s.head?, s)

def item : Reader σ σ
  | [] => none
  | c :: s => some (c, s)

def sat (p : σ → Bool) : Reader σ σ
  | [] => none
  | c :: s => if p c then some (c, s) else none

def one [BEq σ] (c : σ) : Reader σ Unit := discard (sat (· == c))

/-- The given symbols in turn. -/
def exactly [BEq σ] (cs : List σ) : Reader σ Unit := cs.forM one

def takeWhile (p : σ → Bool) : Reader σ (List σ) := fun s => some (s.takeWhile p, s.dropWhile p)

def skipWhile (p : σ → Bool) : Reader σ Unit := fun s => some ((), s.dropWhile p)

def takeWhile1 (p : σ → Bool) : Reader σ (List σ) := do
  let first ← sat p
  return first :: (← takeWhile p)

def ofOption : Option α → Reader σ α
  | some a => pure a
  | none => failure

def require (b : Bool) : Reader σ Unit := if b then pure () else failure

def opt (r : Reader σ α) : Reader σ (Option α) := some <$> r <|> pure none

/-- Whether the reader succeeds; if not, nothing is taken. -/
def accepts (r : Reader σ α) : Reader σ Bool := r *> pure true <|> pure false

/-- Whether the reader would succeed. -/
def ahead (r : Reader σ α) : Reader σ Bool := fun s => some ((r s).isSome, s)

/-- Fails unless the reader would succeed, and takes nothing. -/
def before (r : Reader σ α) : Reader σ Unit := do require (← ahead r)

def notBefore (r : Reader σ α) : Reader σ Unit := do require !(← ahead r)

def whenOne [BEq σ] (c : σ) (r : Reader σ α) : Reader σ (Option α) := opt (one c *> r)

/-- The first of the readers that accepts. -/
def firstOf : List (Reader σ α) → Reader σ α
  | [] => failure
  | r :: rs => r <|> firstOf rs

def manyUpTo (r : Reader σ α) : Nat → Reader σ (List α)
  | 0 => pure []
  | n + 1 => (do let a ← r; return a :: (← manyUpTo r n)) <|> pure []

/-- As often as the reader succeeds. One that takes at least one symbol each time cannot succeed
more often than there are symbols. -/
def many (r : Reader σ α) : Reader σ (List α) := fun s => manyUpTo r s.length s

def many1 (r : Reader σ α) : Reader σ (List α) := do
  let first ← r
  return first :: (← many r)

def sepBy1 (sep : Reader σ β) (r : Reader σ α) : Reader σ (List α) := do
  let first ← r
  return first :: (← many (sep *> r))

def sepBy (sep : Reader σ β) (r : Reader σ α) : Reader σ (List α) := sepBy1 sep r <|> pure []

def done : Reader σ Unit := fun s => if s.isEmpty then some ((), s) else none

/-- What a reader makes of the whole list. -/
def whole? (r : Reader σ α) (s : List σ) : Option α := (r <* done).run' s

end Reader

end Scaffold

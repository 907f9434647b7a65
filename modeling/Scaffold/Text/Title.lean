import Scaffold.Text.Blank
import Scaffold.Text.Case

/-! Human-readable titles of identifiers. -/
namespace Scaffold.Text

/-- The case of the word so far, as far as its last cased character tells. -/
inductive WordCase
  | unknown
  | lower
  | upper

def WordCase.after (w : WordCase) (c : Char) : WordCase :=
  if isLower c then .lower else if isUpper c then .upper else w

/-- A word ends before a capital that follows a small letter, and before the last capital of a run
of capitals that a small letter follows. `word` holds the current word in reverse order. -/
def camelWords (word : List Char) (w : WordCase) : List Char → List (List Char)
  | [] => [word.reverse]
  | [c] => [(c :: word).reverse]
  | c :: next :: cs =>
    match w.after c, w with
    | .lower, _ =>
      if isUpper next then (c :: word).reverse :: camelWords [] .unknown (next :: cs)
      else camelWords (c :: word) .lower (next :: cs)
    | w', .upper =>
      if isUpper c && isLower next then word.reverse :: camelWords [c] .unknown (next :: cs)
      else camelWords (c :: word) w' (next :: cs)
    | w', _ => camelWords (c :: word) w' (next :: cs)

def lowerTail : List Char → List Char
  | [] => []
  | [c] => if c == 'Σ' then ['ς'] else lowerChar c
  | c :: cs => lowerChar c ++ lowerTail cs

def capitalize : List Char → List Char
  | [] => []
  | c :: cs => upperChar c ++ lowerTail cs

def title (s : String) : String :=
  let runs := runsWithout (!isAlphanumeric ·) s.toList
  " ".intercalate ((runs.flatMap (camelWords [] .unknown)).map (String.ofList ∘ capitalize))

end Scaffold.Text

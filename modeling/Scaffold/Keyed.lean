/-! Maps with text keys, as lists of values in the order of their keys. -/
namespace Scaffold.Keyed

variable {α : Type} (key : α → String)

/-- Puts a value under its key, in place of one that is there already. -/
def insert (x : α) : List α → List α
  | [] => [x]
  | y :: rest =>
    if key x = key y then x :: rest
    else if key x < key y then x :: y :: rest
    else y :: insert x rest

/-- Of values with one key the last stays. -/
def ofList (xs : List α) : List α := xs.foldl (fun m x => insert key x m) []

end Scaffold.Keyed

/-! Literal patterns: whether one occurs, and their replacement, from left to right and never within
what was put in. -/
namespace Scaffold.Text

def occursIn (pattern : List Char) : List Char → Bool
  | [] => pattern.isEmpty
  | c :: cs => pattern.isPrefixOf (c :: cs) || occursIn pattern cs

/-- Whether the pattern stands anywhere in the text. -/
def occurs (pattern s : String) : Bool := occursIn pattern.toList s.toList

/-- The rest of the text after the pattern, if the text begins with it. -/
def afterPattern? : List Char → List Char → Option (List Char)
  | [], cs => some cs
  | _ :: _, [] => none
  | p :: ps, c :: cs => if p == c then afterPattern? ps cs else none

theorem length_afterPattern? {ps cs rest : List Char} (h : afterPattern? ps cs = some rest) :
    rest.length + ps.length = cs.length := by
  induction ps generalizing cs with
  | nil => simp_all [afterPattern?]
  | cons p ps ih =>
    cases cs with
    | nil => simp [afterPattern?] at h
    | cons c cs =>
      simp only [afterPattern?] at h
      split at h
      · have := ih h
        simp only [List.length_cons]
        omega
      · contradiction

/-- The pattern is `p` followed by `ps`, so it is never empty. -/
def replaceChars (p : Char) (ps value : List Char) : List Char → List Char
  | [] => []
  | c :: cs =>
    if p == c then
      match _ : afterPattern? ps cs with
      | some rest => value ++ replaceChars p ps value rest
      | none => c :: replaceChars p ps value cs
    else c :: replaceChars p ps value cs
termination_by cs => cs.length
decreasing_by
  · have := length_afterPattern? (by assumption)
    simp only [List.length_cons]
    omega
  · simp
  · simp

/-- An empty pattern replaces nothing. -/
def replace (pattern value s : String) : String :=
  match pattern.toList with
  | [] => s
  | p :: ps => String.ofList (replaceChars p ps value.toList s.toList)

end Scaffold.Text

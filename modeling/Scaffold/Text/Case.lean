import Scaffold.Text.CharTables

/-! Full case conversion, character classes, and equality that ignores ASCII case. -/
namespace Scaffold.Text

private def inRuns (runs : List CodeRun) (c : Char) : Bool := runs.any (·.holds c.toNat)

def isAsciiLower (c : Char) : Bool := 'a' ≤ c && c ≤ 'z'

def isAsciiUpper (c : Char) : Bool := 'A' ≤ c && c ≤ 'Z'

def isAsciiDigit (c : Char) : Bool := '0' ≤ c && c ≤ '9'

def isAlphabetic (c : Char) : Bool :=
  if c.toNat < 0x80 then isAsciiLower c || isAsciiUpper c else inRuns alphabeticRuns c

def isAlphanumeric (c : Char) : Bool :=
  isAlphabetic c || (if c.toNat < 0x80 then isAsciiDigit c else inRuns numericRuns c)

def isLower (c : Char) : Bool :=
  if c.toNat < 0x80 then isAsciiLower c else inRuns lowercaseRuns c

def isUpper (c : Char) : Bool :=
  if c.toNat < 0x80 then isAsciiUpper c else inRuns uppercaseRuns c

def isCased (c : Char) : Bool := isLower c || isUpper c || inRuns titlecaseRuns c

/-- Characters that case conversion looks through, such as marks and some punctuation. -/
def isCaseIgnorable (c : Char) : Bool :=
  if c.toNat < 0x80 then c == '\'' || c == '.' || c == ':' || c == '^' || c.toNat == 0x60
  else inRuns caseIgnorableRuns c

def asciiLowerChar (c : Char) : Char :=
  if isAsciiUpper c then Char.ofNat (c.toNat + 32) else c

def asciiUpperChar (c : Char) : Char :=
  if isAsciiLower c then Char.ofNat (c.toNat - 32) else c

def mapChar (runs : List CaseRun) (c : Char) : Char :=
  match runs.findSome? (·.image? c.toNat) with
  | some n => Char.ofNat n
  | none => c

def lowerChar (c : Char) : List Char :=
  if c.toNat < 0x80 then [asciiLowerChar c]
  else if c.toNat == 0x130 then ['i', '\u0307']
  else [mapChar lowerRuns c]

def upperChar (c : Char) : List Char :=
  if c.toNat < 0x80 then [asciiUpperChar c]
  else match upperSequences.lookup c.toNat with
    | some ns => ns.map Char.ofNat
    | none => [mapChar upperRuns c]

private def meetsCased (cs : List Char) : Bool :=
  match cs.dropWhile isCaseIgnorable with
  | [] => false
  | c :: _ => isCased c

/-- A capital sigma ends a word when, beyond what case conversion looks through, a cased character
stands before it and none after. -/
def isFinalSigma (before after : List Char) : Bool := meetsCased before && !meetsCased after

theorem isFinalSigma_eq (before after : List Char) :
    isFinalSigma before after = ((before.dropWhile isCaseIgnorable).head?.any isCased &&
      !(after.dropWhile isCaseIgnorable).head?.any isCased) := by
  have hmeets : ∀ cs, meetsCased cs = (cs.dropWhile isCaseIgnorable).head?.any isCased := by
    intro cs
    unfold meetsCased
    cases cs.dropWhile isCaseIgnorable <;> rfl
  rw [isFinalSigma, hmeets, hmeets]

/-- The characters already passed come in reverse order. -/
def lowerAfter (before : List Char) : List Char → List Char
  | [] => []
  | c :: cs =>
    (if c == 'Σ' then [if isFinalSigma before cs then 'ς' else 'σ'] else lowerChar c) ++
      lowerAfter (c :: before) cs

def lower (s : String) : String := String.ofList (lowerAfter [] s.toList)

def upper (s : String) : String := String.ofList (s.toList.flatMap upperChar)

def asciiLower (s : String) : String := s.map asciiLowerChar

def eqIgnoringAsciiCase (s t : String) : Bool := asciiLower s == asciiLower t

end Scaffold.Text

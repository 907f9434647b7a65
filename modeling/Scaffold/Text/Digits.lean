import Scaffold.Text.Case

/-! Numerals in bases up to thirty-six. -/
namespace Scaffold.Text

def digitValue (c : Char) : Nat :=
  if isAsciiDigit c then c.toNat - '0'.toNat
  else if isAsciiLower c then c.toNat - 'a'.toNat + 10
  else if isAsciiUpper c then c.toNat - 'A'.toNat + 10
  else 36

def isDigit (base : Nat) (c : Char) : Bool := digitValue c < min base 36

def ofDigits (base : Nat) (cs : List Char) : Nat :=
  cs.foldl (fun n c => n * base + digitValue c) 0

/-- Numbers of sixty-four bits are below. -/
def unsignedBound : Nat := 0x10000000000000000

/-- Signed numbers of sixty-four bits are below, and not below its negative. -/
def signedBound : Nat := 0x8000000000000000

def isSignedWord (n : Int) : Bool := -(signedBound : Int) ≤ n && n < signedBound

end Scaffold.Text

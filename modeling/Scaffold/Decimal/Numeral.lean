import Scaffold.Decimal.FloatValue
import Scaffold.Text.Digits
import Scaffold.Text.Reader

/-! Reading of decimal numerals. -/
namespace Scaffold.Numeral

open Reader

def sign : Reader Char Bool := do
  return (← opt (sat fun c => c == '+' || c == '-')) == some '-'

def digits : Reader Char (List Char) := takeWhile1 Text.isAsciiDigit

def natural : Reader Char Nat := Text.ofDigits 10 <$> digits

def integer : Reader Char Int := do
  let negative ← sign
  let n ← natural
  return if negative then -(n : Int) else n

def word (w : String) : Reader Char Unit :=
  w.toList.forM fun c => discard (sat (Text.asciiLowerChar · == c))

def exponent : Reader Char Int := do
  discard (sat fun c => c == 'e' || c == 'E')
  integer

/-- There is a digit before the point or after it. -/
def magnitude : Reader Char (Nat × Int) := do
  let whole ← takeWhile Text.isAsciiDigit
  let places := (← whenOne '.' (takeWhile Text.isAsciiDigit)).getD []
  require !(whole.isEmpty && places.isEmpty)
  let e ← opt exponent
  return (Text.ofDigits 10 (whole ++ places), e.getD 0 - places.length)

def float : Reader Char FloatValue := do
  let negative ← sign
  firstOf [
    word "infinity" *> pure (.infinite negative), word "inf" *> pure (.infinite negative),
    word "nan" *> pure .notANumber,
    do
      let (m, e) ← magnitude
      return .ofDecimal negative m e]

/-- Within sixty-four bits. A plus sign may stand in front. -/
def natural? (s : String) : Option Nat :=
  (whole? (opt (one '+') *> natural) s.toList).filter (· < Text.unsignedBound)

/-- Within sixty-four bits. -/
def integer? (s : String) : Option Int :=
  (whole? integer s.toList).filter Text.isSignedWord

def float? (s : String) : Option FloatValue := whole? float s.toList

end Scaffold.Numeral

import Scaffold.Decimal.Shortest

/-! Signed doubles with infinities and the value that is no number. -/
namespace Scaffold

inductive FloatValue
  | finite (negative : Bool) (magnitude : Double)
  | infinite (negative : Bool)
  | notANumber
deriving DecidableEq

namespace FloatValue

/-- A magnitude beyond the range is infinite. -/
def ofDecimal (negative : Bool) (m : Nat) (e : Int) : FloatValue :=
  match Double.ofDecimal? m e with
  | some d => finite negative d
  | none => infinite negative

def sign (negative : Bool) : String := if negative then "-" else ""

def text : FloatValue → String
  | finite negative d => sign negative ++ d.text
  | infinite negative => sign negative ++ "inf"
  | notANumber => "NaN"

def isZero : FloatValue → Bool
  | finite _ d => d.significand == 0
  | _ => false

/-- The nearest integer that the bound and zero allow. -/
def toNat (bound : Nat) : FloatValue → Nat
  | finite false d => min d.rounded bound
  | infinite false => bound
  | _ => 0

end FloatValue

end Scaffold

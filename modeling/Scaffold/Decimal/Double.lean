/-! Nonnegative finite doubles, and the one nearest to a decimal number. -/
namespace Scaffold

/-- The number `significand · 2 ^ exponent`. -/
structure Double where
  significand : Nat
  exponent : Int
deriving DecidableEq

/-- A quotient rounded to the nearest integer, a half to the even one. -/
def roundDiv (num den : Nat) : Nat :=
  let q := num / den
  let r := num % den
  if 2 * r > den || (2 * r == den && q % 2 == 1) then q + 1 else q

namespace Double

def zero : Double := ⟨0, -1074⟩

def minExponent : Int := -1074

def maxExponent : Int := 971

def precision : Nat := 53

/-- The quotient `num / (den · 2 ^ e)` as another quotient. -/
def scaled (num den : Nat) (e : Int) : Nat × Nat :=
  if e < 0 then (num * Nat.pow 2 (-e).toNat, den) else (num, den * Nat.pow 2 e.toNat)

/-- The exponent at which the quotient has a significand of full precision, unless that is below the
least one. -/
def exponentOf (num den : Nat) : Int :=
  let e : Int := (num.log2 : Int) - den.log2 - (precision - 1 : Nat)
  let (n, d) := scaled num den e
  max minExponent (if n / d < Nat.pow 2 (precision - 1) then e - 1 else e)

/-- Nothing if the quotient is too large for a double. -/
def nearest? (num den : Nat) : Option Double :=
  if num = 0 then some zero
  else
    let e := exponentOf num den
    let (n, d) := scaled num den e
    let s := roundDiv n d
    let r : Double := if s = Nat.pow 2 precision then ⟨Nat.pow 2 (precision - 1), e + 1⟩ else ⟨s, e⟩
    if r.exponent > maxExponent then none else some r

/-- The double nearest to `m · 10 ^ e`. Beyond some powers of ten the answer does not depend on the
digits, and they are not multiplied out. -/
def ofDecimal? (m : Nat) (e : Int) : Option Double :=
  let magnitude : Int := (Nat.toDigits 10 m).length + e
  if m = 0 || magnitude < -330 then some zero
  else if magnitude > 310 then none
  else if e < 0 then nearest? m (Nat.pow 10 (-e).toNat)
  else nearest? (m * Nat.pow 10 e.toNat) 1

end Double

end Scaffold

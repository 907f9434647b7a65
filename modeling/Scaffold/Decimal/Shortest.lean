import Scaffold.Decimal.Double

/-! The shortest decimal number that is read back as a given double. -/
namespace Scaffold.Double

/-- A quarter of the distance to the next larger double, as a fraction. -/
def quarter (d : Double) : Nat × Nat :=
  let e := d.exponent - 2
  if e < 0 then (1, Nat.pow 2 (-e).toNat) else (Nat.pow 2 e.toNat, 1)

/-- What lies between, in quarters, is nearest to `d`. Below a power of two the doubles lie closer
together. -/
def bounds (d : Double) : Nat × Nat :=
  let down := if d.significand = Nat.pow 2 (precision - 1) && d.exponent > minExponent then 1 else 2
  (4 * d.significand - down, 4 * d.significand + 2)

/-- Whether `c · 10 ^ e` is read back as `d`. A tie goes to an even significand. -/
def rounds (d : Double) (c : Nat) (e : Int) : Bool :=
  let (unit, den) := d.quarter
  let (low, high) := d.bounds
  let point := if e < 0 then c * den else c * Nat.pow 10 e.toNat * den
  let scale := if e < 0 then Nat.pow 10 (-e).toNat * unit else unit
  if d.significand % 2 = 0 then low * scale ≤ point && point ≤ high * scale
  else low * scale < point && point < high * scale

/-- The number of digits before the decimal point; zero or less for small numbers. -/
def magnitude (d : Double) : Int :=
  let (unit, den) := d.quarter
  let shift : Nat := 400
  ((Nat.toDigits 10 (4 * d.significand * unit * Nat.pow 10 shift / den)).length : Int) - shift

/-- The nearer of the two neighbours with the given number of digits, if one is read back. -/
def withDigits? (d : Double) (digits : Nat) : Option (Nat × Int) :=
  let e := d.magnitude - digits
  let (unit, den) := d.quarter
  let value := 4 * d.significand * unit
  let (num, den) :=
    if e < 0 then (value * Nat.pow 10 (-e).toNat, den) else (value, den * Nat.pow 10 e.toNat)
  let below := num / den
  let near := if 2 * (num % den) < den then [below, below + 1] else [below + 1, below]
  (near.find? (d.rounds · e)).map (·, e)

/-- Seventeen digits are always enough. Only a power of ten is found with a zero at the end. -/
def shortest (d : Double) : Nat × Int :=
  match (List.range 17).findSome? fun i => d.withDigits? (i + 1) with
  | some (c, e) => if c % 10 = 0 then (c / 10, e + 1) else (c, e)
  | none => (d.significand, 0)

/-- Positional notation of `c · 10 ^ e`. -/
def positional (c : Nat) (e : Int) : String :=
  let digits := Nat.toDigits 10 c
  if e ≥ 0 then String.ofList (digits ++ List.replicate e.toNat '0')
  else
    let places := (-e).toNat
    let padded := List.replicate (places + 1 - digits.length) '0' ++ digits
    let whole := padded.length - places
    String.ofList (padded.take whole ++ '.' :: padded.drop whole)

def text (d : Double) : String :=
  if d.significand = 0 then "0" else positional d.shortest.1 d.shortest.2

/-- The nearest integer; a half goes up. -/
def rounded (d : Double) : Nat :=
  let (unit, den) := d.quarter
  (2 * (4 * d.significand * unit) + den) / (2 * den)

end Scaffold.Double

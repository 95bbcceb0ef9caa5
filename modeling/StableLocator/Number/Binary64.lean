import StableLocator.Number.Integer

/-!
# Binary floating point numbers of 64 bits

* `Binary64` is a number with a sign, a mantissa below `2 ^ 53` and a power of two, or infinite, or
  no number.
* `ofDecimal` rounds a decimal number to the nearest one, a tie to the even mantissa, and
  `ofQuotient` a quotient of integers.
* `whole` drops the fraction.
* `write` gives the shortest decimal that rounds back, as `Layout.plain` lays it out.
-/

namespace StableLocator
namespace Number

/-- A finite number is `± mantissa * 2 ^ exponent`. -/
inductive Binary64
  | nan
  | infinite (negative : Bool)
  | finite (negative : Bool) (mantissa : Nat) (exponent : Int)
  deriving DecidableEq, Repr

namespace Binary64

/-- The quotient rounded to the nearest integer, a tie to the even one. -/
def roundDiv (num den : Nat) : Nat :=
  let q := num / den
  let twice := 2 * (num % den)
  if twice < den then q
  else if den < twice then q + 1
  else if q % 2 = 0 then q else q + 1

/-- A power of two as a fraction's numerator and denominator. -/
def scale (base : Nat) (power : Int) : Nat × Nat :=
  if 0 ≤ power then (Nat.pow base power.toNat, 1) else (1, Nat.pow base (-power).toNat)

def mantissaLimit : Nat := Nat.pow 2 53

def leastFullMantissa : Nat := Nat.pow 2 52

def minExponent : Int := -1074

def maxExponent : Int := 971

def ofFraction (negative : Bool) (num den : Nat) : Binary64 :=
  let guess : Int := max minExponent ((Nat.log2 num : Int) - Nat.log2 den - 53)
  let quotient (e : Int) : Nat × Nat :=
    let (up, down) := scale 2 e
    (num * down, den * up)
  let small (e : Int) : Bool :=
    let (n, d) := quotient e
    n / d < mantissaLimit
  let exponent := if small guess then guess else if small (guess + 1) then guess + 1 else guess + 2
  let (n, d) := quotient exponent
  let mantissa := roundDiv n d
  let (mantissa, exponent) :=
    if mantissa = mantissaLimit then (leastFullMantissa, exponent + 1) else (mantissa, exponent)
  if maxExponent < exponent then .infinite negative else .finite negative mantissa exponent

/-- The nearest number to `± digits * 10 ^ power`. -/
def ofDecimal (negative : Bool) (digits : Nat) (power : Int) : Binary64 :=
  let width : Int := (Nat.toDigits 10 digits).length
  if digits = 0 then .finite negative 0 minExponent
  else if 310 < width + power then .infinite negative
  else if width + power < -330 then .finite negative 0 minExponent
  else
    let (up, down) := scale 10 power
    ofFraction negative (digits * up) down

def ofQuotient (num den : Int) : Binary64 :=
  ofFraction (decide (num < 0) != decide (den < 0)) num.natAbs den.natAbs

def isInfinite : Binary64 → Bool
  | .infinite _ => true
  | _ => false

/-- The number is whole and not negative; a zero counts whatever its sign. -/
def isNatural : Binary64 → Bool
  | .finite negative mantissa exponent =>
    mantissa == 0 || (!negative && mantissa % (scale 2 exponent).2 == 0)
  | _ => false

def isZero : Binary64 → Bool
  | .finite _ 0 _ => true
  | _ => false

/-- The magnitude of a finite number without its fraction. -/
def whole (mantissa : Nat) (exponent : Int) : Nat :=
  let (up, down) := scale 2 exponent
  mantissa * up / down

/-! ## Shortest decimals -/

/-- The bounds of the decimals that round to a number, and the number, over one denominator:
below, value, above, denominator, and whether the bounds belong to them. -/
structure Rounding where
  below : Nat
  value : Nat
  above : Nat
  den : Nat
  closed : Bool

/-- The decimals that round to `mantissa * 2 ^ exponent`. -/
def Rounding.ofParts (mantissa : Nat) (exponent : Int) : Rounding :=
  let (up, down) := scale 2 exponent
  let narrow := mantissa = leastFullMantissa ∧ minExponent < exponent
  { below := (4 * mantissa - (if narrow then 1 else 2)) * up
    value := 4 * mantissa * up
    above := (4 * mantissa + 2) * up
    den := 4 * down
    closed := mantissa % 2 = 0 }

def Rounding.holds (r : Rounding) (count : Nat) (power : Int) : Bool :=
  let (up, down) := scale 10 power
  let point := count * up * r.den
  let below := r.below * down
  let above := r.above * down
  if r.closed then below ≤ point && point ≤ above else below < point && point < above

/-- Of the two neighbours of the value on the grid of `10 ^ power`, the one that rounds back; of
two, the nearer, and of two as near the even one. -/
def Rounding.onGrid? (r : Rounding) (power : Int) : Option Nat :=
  let (up, down) := scale 10 power
  let num := r.value * down
  let den := r.den * up
  let low := num / den
  match r.holds low power, r.holds (low + 1) power with
  | true, true => some (roundDiv num den)
  | true, false => some low
  | false, true => some (low + 1)
  | false, false => none

/-- The grid tried first: one digit before the point of scientific notation. -/
def leadingPower (r : Rounding) : Int :=
  let down := (Nat.log2 r.value : Int) - Nat.log2 r.den
  let guess := down * 30103 / 100000 - 1
  let fits (power : Int) : Bool :=
    let (up, den) := scale 10 power
    up * r.den ≤ r.value * den
  if fits (guess + 3) then guess + 3
  else if fits (guess + 2) then guess + 2
  else if fits (guess + 1) then guess + 1
  else guess

/-- The first grid, from coarse to fine, with a decimal that rounds back. -/
def Rounding.search (r : Rounding) (power : Int) : Nat → Nat × Int
  | 0 => (r.value / r.den, 0)
  | steps + 1 =>
    match r.onGrid? power with
    | some count => (count, power)
    | none => r.search (power - 1) steps

/-- The shortest decimal that rounds to the number, as `count * 10 ^ power`. -/
def shortest (mantissa : Nat) (exponent : Int) : Nat × Int :=
  let r := Rounding.ofParts mantissa exponent
  r.search (leadingPower r) 18

/-- Where decimals are written positionally and how the exponent looks elsewhere. -/
structure Layout where
  /-- The least power of ten of the first digit in positional notation. -/
  leastPositional : Int
  /-- The first power of ten of the first digit that is too large for it. -/
  endPositional : Int
  /-- The least number of digits of an exponent. -/
  exponentWidth : Nat

/-- Positional from `0.0001` to below `10 ^ 16`, always with a point; else an exponent with its sign
and two digits at least. -/
def Layout.plain : Layout := ⟨-4, 16, 2⟩

def stripZeros (digits : List Char) : List Char :=
  (digits.reverse.dropWhile (· == '0')).reverse

/-- A positive decimal laid out: `digits` with the first one at the given power of ten. -/
def Layout.write (layout : Layout) (digits : List Char) (first : Int) : List Char :=
  if layout.leastPositional ≤ first ∧ first < layout.endPositional then
    if first < 0 then '0' :: '.' :: List.replicate (-first - 1).toNat '0' ++ digits
    else
      let wholeWidth := first.toNat + 1
      let before := digits.take wholeWidth
      let padded := before ++ List.replicate (wholeWidth - before.length) '0'
      let after := digits.drop wholeWidth
      padded ++ '.' :: (if after.isEmpty then ['0'] else after)
  else
    let body := match digits with
      | [] => []
      | [d] => [d]
      | d :: rest => d :: '.' :: rest
    let power := Nat.toDigits 10 first.natAbs
    body ++ 'e' :: (if first < 0 then '-' else '+') ::
      (List.replicate (layout.exponentWidth - power.length) '0' ++ power)

def write : Binary64 → String
  | .nan => "nan"
  | .infinite negative => if negative then "-inf" else "inf"
  | .finite negative mantissa exponent =>
    let body :=
      if mantissa = 0 then ['0', '.', '0']
      else
        let (count, power) := shortest mantissa exponent
        let digits := Nat.toDigits 10 count
        Layout.plain.write (stripZeros digits) (power + digits.length - 1)
    String.ofList (if negative then '-' :: body else body)

end Binary64
end Number
end StableLocator

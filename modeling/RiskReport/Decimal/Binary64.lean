/-!
# Finite double-precision numbers

A finite double is a sign, a mantissa below 2^53 and a power of two. Everything here is exact
arithmetic on natural numbers: `ofRatio` rounds a quotient to the nearest double, ties going to the
even mantissa, and `ofDecimal` is the rule by which a decimal numeral is read: its significand is
rounded to a double and scaled once by the double nearest to the power of ten.
-/

namespace RiskReport.Decimal

/-- The number `mantissa * 2 ^ exponent`, with a sign. Zero has mantissa zero and the least
exponent; any other number has a mantissa of 53 bits unless its exponent is the least one. -/
structure Binary64 where
  negative : Bool
  mantissa : Nat
  exponent : Int
  deriving DecidableEq, Repr, Inhabited

namespace Binary64

/-- The exponent of the smallest double. -/
def minExponent : Int := -1074

/-- The exponent of the largest doubles. -/
def maxExponent : Int := 971

/-- Zero with a sign. -/
def zero (negative : Bool) : Binary64 := ⟨negative, 0, minExponent⟩

/-- The magnitude as a quotient of natural numbers. -/
def ratio (x : Binary64) : Nat × Nat :=
  (x.mantissa * Nat.pow 2 x.exponent.toNat, Nat.pow 2 (-x.exponent).toNat)

/-- The quotient rounded to a whole number, a tie going to the even one. -/
def roundDiv (num den : Nat) : Nat :=
  let q := num / den
  let r := num % den
  if den < 2 * r || (2 * r == den && q % 2 == 1) then q + 1 else q

/-- The double nearest to `num / den`, or nothing if it would be past the largest one. -/
def ofRatio (negative : Bool) (num den : Nat) : Option Binary64 :=
  if num == 0 then some (zero negative)
  else
    let guess : Int := (num.log2 : Int) - den.log2 - 53
    -- The quotient over 2 ^ guess lies between 2 ^ 52 and 2 ^ 54.
    let wide := Nat.pow 2 53 * den * Nat.pow 2 guess.toNat ≤ num * Nat.pow 2 (-guess).toNat
    let exponent := max (if wide then guess + 1 else guess) minExponent
    let m := roundDiv (num * Nat.pow 2 (-exponent).toNat) (den * Nat.pow 2 exponent.toNat)
    let (m, exponent) := if m == Nat.pow 2 53 then (Nat.pow 2 52, exponent + 1) else (m, exponent)
    if maxExponent < exponent then none
    else if m == 0 then some (zero negative)
    else some ⟨negative, m, exponent⟩

/-- The double nearest to a natural number. -/
def ofNat (n : Nat) : Binary64 :=
  (ofRatio false n 1).getD (zero false)

/-- The double nearest to `10 ^ k`. -/
def powerOfTen (k : Nat) : Binary64 :=
  ofNat (Nat.pow 10 k)

/-- The double nearest to the product. -/
def mul? (x y : Binary64) : Option Binary64 :=
  ofRatio (x.negative != y.negative) (x.ratio.1 * y.ratio.1) (x.ratio.2 * y.ratio.2)

/-- The double nearest to the quotient; the divisor is not zero. -/
def div? (x y : Binary64) : Option Binary64 :=
  ofRatio (x.negative != y.negative) (x.ratio.1 * y.ratio.2) (x.ratio.2 * y.ratio.1)

/-- The double nearest to the sum of two magnitudes. -/
def addMagnitudes (x y : Binary64) : Binary64 :=
  (ofRatio false (x.ratio.1 * y.ratio.2 + y.ratio.1 * x.ratio.2) (x.ratio.2 * y.ratio.2)).getD
    (zero false)

/-- Scale a double by `10 ^ exponent`. Powers past `10 ^ 308` are applied in steps of that size;
three steps take every double to zero. Nothing, if the result would be past the largest double. -/
def scale : Nat → Binary64 → Int → Option Binary64
  | 0, x, _ => some x
  | steps + 1, x, exponent =>
    if exponent.natAbs ≤ 308 then
      if 0 ≤ exponent then mul? x (powerOfTen exponent.natAbs)
      else div? x (powerOfTen exponent.natAbs)
    else if x.mantissa == 0 then some x
    else if 0 ≤ exponent then none
    else (div? x (powerOfTen 308)).bind fun y => scale steps y (exponent + 308)

/-- The double read from `significand * 10 ^ exponent`: the significand is rounded first, and the
scaling rounds once more. -/
def ofDecimal (negative : Bool) (significand : Nat) (exponent : Int) : Option Binary64 :=
  (scale 4 (ofNat significand) exponent).map fun x => { x with negative }

end Binary64

end RiskReport.Decimal

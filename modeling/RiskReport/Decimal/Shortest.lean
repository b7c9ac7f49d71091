import RiskReport.Decimal.Binary64

/-!
# The shortest decimal that reads back

`shortest` finds, for a double other than zero, the decimal with the fewest digits in the interval
of numbers that round to it, and of those the one nearest to it. The interval includes its ends
exactly when the mantissa is even. `Layout` says how the digits are then written: where
positional notation ends, and whether a whole number shows a fraction.
-/

namespace RiskReport.Decimal

namespace Binary64

/-- Whether `10 ^ t * den ≤ num`, for a power of either sign. -/
def powerLe (t : Int) (num den : Nat) : Bool :=
  Nat.pow 10 t.toNat * den ≤ num * Nat.pow 10 (-t).toNat

/-- The power of ten of the leading digit of `num / den`. -/
def leadingPower (num den : Nat) : Int :=
  let guess : Int := ((num.log2 : Int) - den.log2) * 30103 / 100000
  if powerLe (guess + 1) num den then guess + 1
  else if powerLe guess num den then guess
  else if powerLe (guess - 1) num den then guess - 1
  else guess - 2

/-- Four times the mantissa and its two neighbours' midpoints, over `ratioQuarter`. The gap below
a power of two is half as wide. -/
def bounds (x : Binary64) : Nat × Nat × Nat :=
  let below := if x.mantissa == Nat.pow 2 52 && minExponent < x.exponent then 1 else 2
  (4 * x.mantissa - below, 4 * x.mantissa, 4 * x.mantissa + 2)

/-- The decimal `digits * 10 ^ power` among the two grid points around the double, if one of them
rounds to it: the nearer one, or the even one of two equally near. -/
def gridPoint? (x : Binary64) (power : Int) : Option (Nat × Int) :=
  let (low, mid, high) := x.bounds
  let e := x.exponent - 2
  -- All quantities are brought to the common denominator of 2 ^ e and 10 ^ power.
  let left := Nat.pow 2 e.toNat * Nat.pow 10 (-power).toNat
  let unit := Nat.pow 2 (-e).toNat * Nat.pow 10 power.toNat
  let inside (d : Nat) : Bool :=
    if x.mantissa % 2 == 0 then low * left ≤ d * unit && d * unit ≤ high * left
    else low * left < d * unit && d * unit < high * left
  let d := mid * left / unit
  let rest := mid * left % unit
  let preferUpper := unit < 2 * rest || (2 * rest == unit && d % 2 == 1)
  match inside d, inside (d + 1) with
  | true, true => some (if preferUpper then (d + 1, power) else (d, power))
  | true, false => some (d, power)
  | false, true => some (d + 1, power)
  | false, false => none

/-- Drop the zeros at the end of a numeral, at most `fuel` of them. -/
def stripZeros : Nat → Nat → Int → Nat × Int
  | 0, d, power => (d, power)
  | fuel + 1, d, power =>
    if d % 10 == 0 && d != 0 then stripZeros fuel (d / 10) (power + 1) else (d, power)

/-- The shortest decimal `digits * 10 ^ power` that reads back as the magnitude of a double. -/
def shortest (x : Binary64) : Nat × Int :=
  if x.mantissa == 0 then (0, 0)
  else
    let (num, den) := x.ratio
    let top := leadingPower num den
    let found := (List.range 17).findSome? fun (k : Nat) => x.gridPoint? (top - k)
    match found with
    | some (d, power) => stripZeros 20 d power
    | none => (num, 0)

end Binary64

/-- How the digits of a decimal are written. -/
structure Layout where
  /-- The greatest number of places before the point in positional notation. -/
  maxWhole : Int
  /-- The greatest number of zeros after the point in positional notation. -/
  maxZeros : Int
  /-- Whether a whole number is written with a zero after the point. -/
  showFraction : Bool
  /-- Whether a positive exponent has a sign. -/
  signExponent : Bool

namespace Layout

/-- Numbers in JSON texts and in messages: positional up to sixteen places, always told apart from
a whole number. -/
def json : Layout := ⟨16, 4, true, true⟩

/-- Numbers in running text: always positional. -/
def prose : Layout := ⟨400, 400, false, true⟩

/-- Write `digits * 10 ^ power`. -/
def write (style : Layout) (digits : Nat) (power : Int) : String :=
  let ds := (toString digits).toList
  let places : Int := ds.length + power
  let fraction := if style.showFraction then ".0" else ""
  if digits == 0 then "0" ++ fraction
  else if 0 ≤ power && places ≤ style.maxWhole then
    String.ofList (ds ++ List.replicate power.toNat '0') ++ fraction
  else if 0 < places && places ≤ style.maxWhole then
    String.ofList (ds.take places.toNat ++ '.' :: ds.drop places.toNat)
  else if -style.maxZeros ≤ places && places ≤ 0 then
    String.ofList ('0' :: '.' :: List.replicate (-places).toNat '0' ++ ds)
  else
    let e := places - 1
    let mark := if e < 0 then "e-" else if style.signExponent then "e+" else "e"
    let point := if ds.length == 1 then "" else "."
    String.ofList (ds.take 1) ++ point ++ String.ofList (ds.drop 1) ++ mark ++ toString e.natAbs

end Layout

/-- A double in a notation, with its sign. -/
def Binary64.write (style : Layout) (x : Binary64) : String :=
  let (digits, power) := x.shortest
  (if x.negative then "-" else "") ++ style.write digits power

end RiskReport.Decimal

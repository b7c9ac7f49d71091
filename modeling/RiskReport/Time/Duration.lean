import RiskReport.Json.Decode

/-!
# Durations

A duration is a number of nanoseconds; its whole seconds fit 64 bits. Arithmetic that would leave
that range gives nothing (`scale?`) or the longest duration.
-/

namespace RiskReport

open Decimal

/-- A length of time in nanoseconds. -/
structure Duration where
  total : Nat
  deriving DecidableEq, Repr, Inhabited

namespace Duration

/-- Nanoseconds in a second. -/
def perSecond : Nat := 1000000000

/-- Nanoseconds in a millisecond. -/
def perMilli : Nat := 1000000

/-- A number of seconds. -/
def ofSeconds (n : Nat) : Duration := ⟨n * perSecond⟩

/-- A number of milliseconds. -/
def ofMillis (n : Nat) : Duration := ⟨n * perMilli⟩

/-- The whole seconds. -/
def seconds (d : Duration) : Nat := d.total / perSecond

/-- The nanoseconds past the whole seconds. -/
def nanos (d : Duration) : Nat := d.total % perSecond

/-- Whether the whole seconds fit 64 bits. -/
def fits (d : Duration) : Bool := d.seconds < Nat.pow 2 64

/-- The shorter of two durations. -/
def shorter (a b : Duration) : Duration := if b.total < a.total then b else a

/-- The duration times a factor, if it is not too long. -/
def scale? (d : Duration) (factor : Nat) : Option Duration :=
  let e : Duration := ⟨d.total * factor⟩
  if e.fits then some e else none

/-- The milliseconds of a clock that ticks once a millisecond: a started one counts. -/
def ticks (d : Duration) : Nat := (d.total + (perMilli - 1)) / perMilli

/-- A whole number and a fraction of `places` digits, without the zeros at its end. -/
def writeFraction (whole fraction places : Nat) : String :=
  let ds := (toString fraction).toList
  let ds := (List.replicate (places - ds.length) '0' ++ ds).reverse.dropWhile (· == '0')
  toString whole ++ (if fraction == 0 then "" else "." ++ String.ofList ds.reverse)

/-- The duration in the largest unit of which it has at least one. -/
def describe (d : Duration) : String :=
  if perSecond ≤ d.total then writeFraction d.seconds d.nanos 9 ++ "s"
  else if perMilli ≤ d.total then writeFraction (d.total / perMilli) (d.total % perMilli) 6 ++ "ms"
  else if 1000 ≤ d.total then writeFraction (d.total / 1000) (d.total % 1000) 3 ++ "µs"
  else toString d.total ++ "ns"

/-- The seconds as a double. -/
def asSeconds (d : Duration) : Binary64 :=
  Binary64.addMagnitudes (Binary64.ofNat d.seconds)
    ((Binary64.ofRatio false d.nanos perSecond).getD (Binary64.zero false))

/-- The duration as JSON: its seconds and nanoseconds. -/
def toJson (d : Duration) : Json :=
  .record [("secs", .ofNat d.seconds), ("nanos", .ofNat d.nanos)]

/-- A duration from its seconds and nanoseconds; whole seconds among the latter are carried over,
and no other field is allowed. -/
def decoder : Json.Decoder Duration :=
  let fields := (Prod.mk <$> Json.Fields.required "secs" (Json.Decoder.unsigned 64)
    <*> Json.Fields.required "nanos" (Json.Decoder.unsigned 32)).refine fun (s, n) =>
      let d : Duration := ⟨s * perSecond + n⟩
      if d.fits then .ok d else .error (.malformed "overflow deserializing Duration")
  Json.Decoder.record
    { title := "struct Duration", whole := "struct Duration", fewer := "fewer elements in array",
      strict := true }
    fields

end Duration

end RiskReport

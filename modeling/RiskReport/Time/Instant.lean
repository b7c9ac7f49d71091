import RiskReport.Text.Blank
import RiskReport.Time.Duration

/-!
# Instants

An instant of Coordinated Universal Time: the second since the start of 1970, and the nanoseconds
into it. A leap second is the second before it with a further 10^9 nanoseconds. Years reach from
-262143 to 262142. `Instant.write` and `Instant.parse?` are the Internet date and time format;
reading is lenient about blanks, the separator between date and time, and the offset.
-/

namespace RiskReport

open Text

/-- An instant of Coordinated Universal Time. -/
structure Instant where
  second : Int
  nano : Nat
  deriving DecidableEq, Repr, Inhabited

namespace Instant

/-- The number of days from 1970-01-01 to a date of the Gregorian calendar. -/
def daysOfDate (year : Int) (month day : Nat) : Int :=
  let y := if month ≤ 2 then year - 1 else year
  let era := y / 400
  let yearOfEra := y % 400
  let shifted : Int := ((month + 9) % 12 : Nat)
  let dayOfYear := (153 * shifted + 2) / 5 + (day : Int) - 1
  let dayOfEra := yearOfEra * 365 + yearOfEra / 4 - yearOfEra / 100 + dayOfYear
  era * 146097 + dayOfEra - 719468

/-- The date of the Gregorian calendar that many days after 1970-01-01. -/
def dateOfDays (days : Int) : Int × Nat × Nat :=
  let z := days + 719468
  let era := z / 146097
  let dayOfEra := z % 146097
  let yearOfEra := (dayOfEra - dayOfEra / 1460 + dayOfEra / 36524 - dayOfEra / 146096) / 365
  let dayOfYear := dayOfEra - (365 * yearOfEra + yearOfEra / 4 - yearOfEra / 100)
  let shifted := (5 * dayOfYear + 2) / 153
  let day := dayOfYear - (153 * shifted + 2) / 5 + 1
  let month := if shifted < 10 then shifted + 3 else shifted - 9
  (yearOfEra + era * 400 + (if month ≤ 2 then 1 else 0), month.toNat, day.toNat)

/-- The number of days in a month. -/
def daysInMonth (year : Int) (month : Nat) : Nat :=
  if month == 2 then
    if year % 4 == 0 && (year % 100 != 0 || year % 400 == 0) then 29 else 28
  else if month == 4 || month == 6 || month == 9 || month == 11 then 30
  else 31

/-- The first and the last year that an instant can lie in. -/
def firstYear : Int := -262143

/-- The last year that an instant can lie in. -/
def lastYear : Int := 262142

/-- The earliest instant. -/
def earliest : Instant := ⟨daysOfDate firstYear 1 1 * 86400, 0⟩

/-- The last second of the last year. -/
def lastSecond : Int := daysOfDate (lastYear + 1) 1 1 * 86400 - 1

/-- Whether a second lies in the years that an instant can lie in. -/
def inRange (second : Int) : Bool :=
  earliest.second ≤ second && second ≤ lastSecond

/-- Whether one instant is not after another. -/
def le (a b : Instant) : Bool :=
  a.second < b.second || (a.second == b.second && a.nano ≤ b.nano)

/-- Whether one instant is before another. -/
def lt (a b : Instant) : Bool :=
  a.second < b.second || (a.second == b.second && a.nano < b.nano)

/-- The instant that many nanoseconds later, or earlier if they are negative; nothing, if it would
be out of range. The instant is not inside a leap second. -/
def shift? (t : Instant) (nanos : Int) : Option Instant :=
  let total := t.second * Duration.perSecond + t.nano + nanos
  let second := total / Duration.perSecond
  if inRange second then some ⟨second, (total % Duration.perSecond).toNat⟩ else none

/-- The longest duration by which an instant can be moved: 2^63 - 1 milliseconds. -/
def maxShift : Nat := (Nat.pow 2 63 - 1) * Duration.perMilli

/-- A duration in nanoseconds, if an instant can be moved by it. -/
def shiftOf? (d : Duration) : Option Nat :=
  if d.total ≤ maxShift then some d.total else none

/-- Two digits. -/
def pad2 (n : Nat) : String :=
  if n < 10 then "0" ++ toString n else toString n

/-- A number with zeros in front of it up to a width. -/
def pad (width n : Nat) : String :=
  let ds := toString n
  String.ofList (List.replicate (width - ds.length) '0') ++ ds

/-- A year: four digits, or a sign and at least four digits. -/
def writeYear (year : Int) : String :=
  if 0 ≤ year && year ≤ 9999 then pad 4 year.toNat
  else (if year < 0 then "-" else "+") ++ pad 4 year.natAbs

/-- The fraction of a second in no, three, six or nine digits, as many as it needs. -/
def writeNanos (n : Nat) : String :=
  if n == 0 then ""
  else if n % 1000000 == 0 then "." ++ pad 3 (n / 1000000)
  else if n % 1000 == 0 then "." ++ pad 6 (n / 1000)
  else "." ++ pad 9 n

/-- The instant as a date and a time in Coordinated Universal Time. -/
def write (t : Instant) : String :=
  let days := t.second / 86400
  let ofDay := (t.second % 86400).toNat
  let (year, month, day) := dateOfDays days
  let leap := Duration.perSecond ≤ t.nano
  writeYear year ++ "-" ++ pad2 month ++ "-" ++ pad2 day ++ "T" ++ pad2 (ofDay / 3600) ++ ":" ++
    pad2 (ofDay / 60 % 60) ++ ":" ++ pad2 (ofDay % 60 + (if leap then 1 else 0)) ++
    writeNanos (t.nano % Duration.perSecond) ++ "Z"

/-- Why a text is no instant. -/
inductive Refusal where
  | outOfRange
  | impossible
  | invalid
  | tooShort
  | tooLong
  deriving DecidableEq, Repr, Inhabited

/-- The wording of a refusal. -/
def Refusal.message : Refusal → String
  | .outOfRange => "input is out of range"
  | .impossible => "no possible date and time matching input"
  | .invalid => "input contains invalid characters"
  | .tooShort => "premature end of input"
  | .tooLong => "trailing input"

/-- Read at least one digit and at most `width` of them, if there is a limit. -/
def readDigits (width : Option Nat) (cs : List Char) : Except Refusal (Nat × List Char) :=
  match cs with
  | [] => .error .tooShort
  | _ =>
    let run := cs.takeWhile Char.isDigit
    let ds := match width with
      | some w => run.take w
      | none => run
    if ds.isEmpty then .error .invalid
    else
      let n := ds.foldl (fun n d => n * 10 + (d.toNat - '0'.toNat)) 0
      if n < Nat.pow 2 63 then .ok (n, cs.drop ds.length) else .error .outOfRange

/-- Read a number of at most two digits between two bounds, after blanks. -/
def readField (low high : Nat) (cs : List Char) : Except Refusal (Nat × List Char) := do
  let (n, cs) ← readDigits (some 2) (trimStartChars cs)
  if low ≤ n && n ≤ high then return (n, cs) else throw .outOfRange

/-- Read a year: four digits at most, or a sign and any number of them. -/
def readYear (cs : List Char) : Except Refusal (Int × List Char) := do
  let (year, cs) ← match trimStartChars cs with
    | '-' :: cs => do
      let (n, cs) ← readDigits none cs
      pure (-(n : Int), cs)
    | '+' :: cs => do
      let (n, cs) ← readDigits none cs
      pure ((n : Int), cs)
    | cs => do
      let (n, cs) ← readDigits (some 4) cs
      pure ((n : Int), cs)
  if -2147483648 ≤ year && year < 2147483648 then return (year, cs) else throw .outOfRange

/-- Read one given character. -/
def readMark (mark : Char) (cs : List Char) : Except Refusal (List Char) :=
  match cs with
  | [] => .error .tooShort
  | c :: cs => if c == mark then .ok cs else .error .invalid

/-- Read the fraction of a second, if there is one; digits past the ninth are dropped. -/
def readNanos (cs : List Char) : Except Refusal (Nat × List Char) :=
  match cs with
  | '.' :: cs => do
    let (n, rest) ← readDigits (some 9) cs
    let used := cs.length - rest.length
    return (n * Nat.pow 10 (9 - used), rest.dropWhile Char.isDigit)
  | cs => .ok (0, cs)

/-- Read two digits of an offset. -/
def readTwo (cs : List Char) : Except Refusal (Nat × List Char) :=
  match cs with
  | a :: b :: cs =>
    if a.isDigit && b.isDigit then
      .ok ((a.toNat - '0'.toNat) * 10 + (b.toNat - '0'.toNat), cs)
    else .error .invalid
  | _ => .error .tooShort

/-- Read an offset from Coordinated Universal Time in seconds. -/
def readOffset (cs : List Char) : Except Refusal (Int × List Char) :=
  let signed (sign : Int) (cs : List Char) : Except Refusal (Int × List Char) := do
    let (hours, cs) ← readTwo cs
    let (minutes, cs) ← readTwo (cs.dropWhile fun c => c == ':' || isBlank c)
    if minutes < 60 then return (sign * (hours * 3600 + minutes * 60 : Nat), cs)
    else throw .outOfRange
  match cs with
  | [] => .error .tooShort
  | c :: rest =>
    if c == 'Z' || c == 'z' then .ok (0, rest)
    else if lowerAscii (String.ofList (cs.take 3)) == "utc" then .ok (0, cs.drop 3)
    else if c == '+' then signed 1 rest
    else if c == '-' || c == '\u2212' then signed (-1) rest
    else .error .invalid

/-- Read a date and a time with an offset. -/
def parseChars (cs : List Char) : Except Refusal Instant := do
  let (year, cs) ← readYear cs
  let cs ← readMark '-' (trimStartChars cs)
  let (month, cs) ← readField 1 12 cs
  let cs ← readMark '-' (trimStartChars cs)
  let (day, cs) ← readField 1 31 cs
  let cs ← match cs with
    | [] => throw .tooShort
    | c :: cs => if c == 'T' || c == 't' || c == ' ' then pure cs else throw .invalid
  let (hour, cs) ← readField 0 23 cs
  let cs ← readMark ':' (trimStartChars cs)
  let (minute, cs) ← readField 0 59 cs
  let cs ← readMark ':' (trimStartChars cs)
  let (second, cs) ← readField 0 60 cs
  let (nanos, cs) ← readNanos cs
  let (offset, cs) ← readOffset (trimStartChars cs)
  if !(trimStartChars cs).isEmpty then throw .tooLong
  if year < firstYear || lastYear < year || daysInMonth year month < day then throw .outOfRange
  if 86400 ≤ offset.natAbs then throw .outOfRange
  let leap := second == 60
  let ofDay := hour * 3600 + minute * 60 + (if leap then 59 else second)
  let utc := daysOfDate year month day * 86400 + ofDay - offset
  if inRange utc then return ⟨utc, nanos + (if leap then Duration.perSecond else 0)⟩
  else throw .impossible

/-- Read a date and a time with an offset, or say what is wrong with the text. -/
def parse (s : String) : Except String Instant :=
  (parseChars s.toList).mapError Refusal.message

/-- An instant as JSON. -/
def toJson (t : Instant) : Json := .string t.write

/-- An instant from its text. -/
def decoder : Json.Decoder Instant :=
  Json.Decoder.parsed "an RFC 3339 formatted date and time string" parse

end Instant

end RiskReport

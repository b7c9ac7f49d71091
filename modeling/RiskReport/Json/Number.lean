import RiskReport.Json.Basic

/-!
# Places in a text, and numerals

A `Cursor` is a place in a JSON text: the characters still to be read and the number of bytes
before them. `readNumber` reads a numeral to its value; `skipNumber` only passes over one, and so
accepts numerals whose value would be too large.
-/

namespace RiskReport

open Decimal

/-- What is wrong with a JSON text. -/
inductive SyntaxError where
  | eofValue
  | eofString
  | eofList
  | eofObject
  | expectedColon
  | expectedListSeparator
  | expectedObjectSeparator
  | expectedWord
  | expectedValue
  | keyNotText
  | invalidEscape
  | invalidNumber
  | numberOutOfRange
  | loneSurrogate
  | unfinishedSurrogate
  | controlCharacter
  | trailingComma
  | trailingCharacters
  | tooDeep
  deriving DecidableEq, Repr, Inhabited

/-- The wording of a syntax error. -/
def SyntaxError.message : SyntaxError → String
  | .eofValue => "EOF while parsing a value"
  | .eofString => "EOF while parsing a string"
  | .eofList => "EOF while parsing a list"
  | .eofObject => "EOF while parsing an object"
  | .expectedColon => "expected `:`"
  | .expectedListSeparator => "expected `,` or `]`"
  | .expectedObjectSeparator => "expected `,` or `\x7d`"
  | .expectedWord => "expected ident"
  | .expectedValue => "expected value"
  | .keyNotText => "key must be a string"
  | .invalidEscape => "invalid escape"
  | .invalidNumber => "invalid number"
  | .numberOutOfRange => "number out of range"
  | .loneSurrogate => "lone leading surrogate in hex escape"
  | .unfinishedSurrogate => "unexpected end of hex escape"
  | .controlCharacter => "control character (\\u0000-\\u001F) found while parsing a string"
  | .trailingComma => "trailing comma"
  | .trailingCharacters => "trailing characters"
  | .tooDeep => "recursion limit exceeded"

namespace Json

/-- A syntax error and the number of bytes read when it was found. -/
structure Flaw where
  error : SyntaxError
  offset : Nat
  deriving DecidableEq, Repr, Inhabited

/-- A place in a text. -/
structure Cursor where
  rest : List Char
  offset : Nat
  deriving DecidableEq, Repr, Inhabited

/-- The number of bytes of some characters in UTF-8. -/
def byteLength (cs : List Char) : Nat :=
  cs.foldl (fun n c => n + c.utf8Size) 0

namespace Cursor

/-- The place after the blanks of JSON: space, tab, line feed and carriage return. -/
def skipBlanks (c : Cursor) : Cursor :=
  go c.rest c.offset
where
  go : List Char → Nat → Cursor
    | [], n => ⟨[], n⟩
    | x :: xs, n =>
      if x == ' ' || x == '\n' || x == '\t' || x == '\r' then go xs (n + 1) else ⟨x :: xs, n⟩

/-- An error at the next character, which counts as read unless the text has ended. -/
def flawAhead (c : Cursor) (e : SyntaxError) : Flaw :=
  ⟨e, if c.rest.isEmpty then c.offset else c.offset + 1⟩

/-- An error after the last character read. -/
def flawHere (c : Cursor) (e : SyntaxError) : Flaw :=
  ⟨e, c.offset⟩

/-- The next character, or the character NUL at the end. -/
def peek (c : Cursor) : Char :=
  c.rest.headD '\x00'

/-- The place after the next character, which takes one byte. -/
def eat (c : Cursor) : Cursor :=
  ⟨c.rest.tail, c.offset + 1⟩

/-- The digits at this place, and the place after them. -/
def digits (c : Cursor) : List Char × Cursor :=
  let ds := c.rest.takeWhile Char.isDigit
  (ds, ⟨c.rest.dropWhile Char.isDigit, c.offset + ds.length⟩)

end Cursor

/-- The value of a digit. -/
def digitValue (c : Char) : Nat :=
  c.toNat - '0'.toNat

/-- Read digits after a number as long as it stays below `limit`: the number, and how many digits
it took. -/
def accumulate (limit : Nat) : Nat → List Char → Nat × Nat
  | n, [] => (n, 0)
  | n, d :: ds =>
    let n' := n * 10 + digitValue d
    if n' < limit then
      let (m, k) := accumulate limit n' ds
      (m, k + 1)
    else (n, 0)

/-- The number of natural numbers of 64 bits. -/
def limit64 : Nat := Nat.pow 2 64

/-- The number of natural numbers of 31 bits. -/
def limit31 : Nat := Nat.pow 2 31

/-- The double with these parts, for a numeral that ends at this place. -/
def floatAt (c : Cursor) (negative : Bool) (significand : Nat) (exponent : Int) :
    Except Flaw (Number × Cursor) :=
  match Binary64.ofDecimal negative significand exponent with
  | some x => .ok (.float x, c)
  | none => .error (c.flawHere .numberOutOfRange)

/-- Read the exponent of a numeral, from its letter on. An exponent past 31 bits gives zero, or an
error if the number would be too large. -/
def readExponent (c : Cursor) (negative : Bool) (significand : Nat) (start : Int) :
    Except Flaw (Number × Cursor) :=
  let c := c.eat
  let down := c.peek == '-'
  let c := if c.peek == '+' || c.peek == '-' then c.eat else c
  if c.rest.isEmpty then .error (c.flawHere .eofValue)
  else if !c.peek.isDigit then .error (c.eat.flawHere .invalidNumber)
  else
    let (ds, after) := c.digits
    let (e, used) := accumulate limit31 0 ds
    if used < ds.length then
      if significand != 0 && !down then
        .error ⟨.numberOutOfRange, c.offset + used + 1⟩
      else .ok (.float (Binary64.zero negative), after)
    else floatAt after negative significand (if down then start - e else start + e)

/-- Read the fraction of a numeral, from its point on. Digits past 64 bits are dropped. -/
def readFraction (c : Cursor) (negative : Bool) (significand : Nat) (start : Int) :
    Except Flaw (Number × Cursor) :=
  let (ds, after) := c.eat.digits
  if ds.isEmpty then
    .error (c.eat.flawAhead (if c.eat.rest.isEmpty then .eofValue else .invalidNumber))
  else
    let (s, used) := accumulate limit64 significand ds
    let exponent := start - used
    if after.peek == 'e' || after.peek == 'E' then readExponent after negative s exponent
    else floatAt after negative s exponent

/-- Read a numeral. A whole number that does not fit 64 bits is read as a double, and so is a
negative zero. -/
def readNumber (c : Cursor) : Except Flaw (Number × Cursor) :=
  let negative := c.peek == '-'
  let c := if negative then c.eat else c
  if c.rest.isEmpty then .error (c.flawHere .eofValue)
  else if !c.peek.isDigit then .error (c.eat.flawHere .invalidNumber)
  else if c.peek == '0' && c.eat.peek.isDigit then .error (c.eat.flawAhead .invalidNumber)
  else
    let (ds, after) := c.digits
    let (s, used) := accumulate limit64 0 ds
    let dropped : Int := ds.length - used
    if after.peek == '.' then readFraction after negative s dropped
    else if after.peek == 'e' || after.peek == 'E' then readExponent after negative s dropped
    else if dropped != 0 then floatAt after negative s dropped
    else if !negative then .ok (.int s, after)
    else if s != 0 && s ≤ Nat.pow 2 63 then .ok (.int (-s), after)
    else .ok (.float { Binary64.ofNat s with negative := true }, after)

/-- Pass over the exponent of a numeral. -/
def skipExponent (c : Cursor) : Except Flaw Cursor :=
  let c := c.eat
  let c := if c.peek == '+' || c.peek == '-' then c.eat else c
  if c.peek.isDigit then .ok c.digits.2
  else .error ((if c.rest.isEmpty then c else c.eat).flawHere .invalidNumber)

/-- Pass over a numeral, whatever its size. -/
def skipNumber (c : Cursor) : Except Flaw Cursor :=
  let c := if c.peek == '-' then c.eat else c
  if !c.peek.isDigit then
    .error ((if c.rest.isEmpty then c else c.eat).flawHere .invalidNumber)
  else if c.peek == '0' && c.eat.peek.isDigit then .error (c.eat.flawAhead .invalidNumber)
  else
    let after := if c.peek == '0' then c.eat else c.digits.2
    if after.peek == '.' then
      let (ds, last) := after.eat.digits
      if ds.isEmpty then .error (after.eat.flawAhead .invalidNumber)
      else if last.peek == 'e' || last.peek == 'E' then skipExponent last
      else .ok last
    else if after.peek == 'e' || after.peek == 'E' then skipExponent after
    else .ok after

end Json

end RiskReport

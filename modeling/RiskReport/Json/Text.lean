import RiskReport.Json.Number

/-!
# Strings of a JSON text

`readText` reads a string after its opening quote; `skipText` only passes over one, and so accepts
escapes of surrogates that stand alone.
-/

namespace RiskReport.Json

/-- The value of a hexadecimal digit. -/
def hexValue? (c : Char) : Option Nat :=
  if c.isDigit then some (c.toNat - '0'.toNat)
  else if 'a' ≤ c && c ≤ 'f' then some (c.toNat - 'a'.toNat + 10)
  else if 'A' ≤ c && c ≤ 'F' then some (c.toNat - 'A'.toNat + 10)
  else none

/-- The value of four hexadecimal digits. -/
def hex4? (a b c d : Char) : Option Nat := do
  some (((← hexValue? a) * 16 + (← hexValue? b)) * 256 + (← hexValue? c) * 16 + (← hexValue? d))

/-- Read the four digits of an escape, which take four bytes. -/
def readHex4 (cs : List Char) (offset : Nat) : Except Flaw Nat :=
  let value? : Option Nat :=
    match cs with
    | a :: b :: c :: d :: _ => hex4? a b c d
    | _ => none
  match value? with
  | some n => .ok n
  | none =>
    if 4 ≤ byteLength cs then .error ⟨.invalidEscape, offset + 4⟩
    else .error ⟨.eofString, offset + byteLength cs⟩

/-- The character of a short escape. -/
def shortEscape? (c : Char) : Option Char :=
  if c == '"' || c == '\\' || c == '/' then some c
  else if c == 'b' then some '\x08'
  else if c == 'f' then some '\x0C'
  else if c == 'n' then some '\n'
  else if c == 'r' then some '\r'
  else if c == 't' then some '\t'
  else none

/-- The character of a pair of surrogates. -/
def joinSurrogates (high low : Nat) : Char :=
  Char.ofNat ((high - 0xD800) * 0x400 + (low - 0xDC00) + 0x10000)

/-- Read the second surrogate of a pair: the characters after `\uXXXX`, and the bytes before them.
The result is its value; twelve bytes make up the pair. -/
def readLowSurrogate (cs : List Char) (offset : Nat) : Except Flaw Nat :=
  match cs with
  | [] => .error ⟨.eofString, offset⟩
  | '\\' :: [] => .error ⟨.eofString, offset + 1⟩
  | '\\' :: 'u' :: rest =>
    match readHex4 rest (offset + 2) with
    | .error e => .error e
    | .ok low =>
      if 0xDC00 ≤ low && low ≤ 0xDFFF then .ok low else .error ⟨.loneSurrogate, offset + 6⟩
  | '\\' :: _ :: _ => .error ⟨.unfinishedSurrogate, offset + 2⟩
  | _ :: _ => .error ⟨.unfinishedSurrogate, offset + 1⟩

/-- Read a string whose opening quote has been read. `done` holds the characters read so far, the
last one first. -/
def readText (done : List Char) (cs : List Char) (offset : Nat) :
    Except Flaw (String × Cursor) :=
  match cs with
  | [] => .error ⟨.eofString, offset⟩
  | '"' :: rest => .ok (String.ofList done.reverse, ⟨rest, offset + 1⟩)
  | '\\' :: [] => .error ⟨.eofString, offset + 1⟩
  | '\\' :: 'u' :: rest =>
    match readHex4 rest (offset + 2) with
    | .error e => .error e
    | .ok n =>
      if 0xDC00 ≤ n && n ≤ 0xDFFF then .error ⟨.loneSurrogate, offset + 6⟩
      else if 0xD800 ≤ n && n ≤ 0xDBFF then
        match readLowSurrogate (rest.drop 4) (offset + 6) with
        | .error e => .error e
        | .ok low => readText (joinSurrogates n low :: done) (rest.drop 10) (offset + 12)
      else readText (Char.ofNat n :: done) (rest.drop 4) (offset + 6)
  | '\\' :: c :: rest =>
    match shortEscape? c with
    | some x => readText (x :: done) rest (offset + 2)
    | none => .error ⟨.invalidEscape, offset + 2⟩
  | c :: rest =>
    if c.toNat < 0x20 then .error ⟨.controlCharacter, offset + 1⟩
    else readText (c :: done) rest (offset + c.utf8Size)
termination_by cs.length
decreasing_by all_goals simp only [List.length_cons, List.length_drop]; omega

/-- Pass over a string whose opening quote has been read. -/
def skipText (cs : List Char) (offset : Nat) : Except Flaw Cursor :=
  match cs with
  | [] => .error ⟨.eofString, offset⟩
  | '"' :: rest => .ok ⟨rest, offset + 1⟩
  | '\\' :: [] => .error ⟨.eofString, offset + 1⟩
  | '\\' :: 'u' :: rest =>
    match readHex4 rest (offset + 2) with
    | .error e => .error e
    | .ok _ => skipText (rest.drop 4) (offset + 6)
  | '\\' :: c :: rest =>
    match shortEscape? c with
    | some _ => skipText rest (offset + 2)
    | none => .error ⟨.invalidEscape, offset + 2⟩
  | c :: rest =>
    if c.toNat < 0x20 then .error ⟨.controlCharacter, offset⟩
    else skipText rest (offset + c.utf8Size)
termination_by cs.length
decreasing_by all_goals simp only [List.length_cons, List.length_drop]; omega

end RiskReport.Json

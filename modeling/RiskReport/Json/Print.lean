import RiskReport.Json.Basic

/-!
# Writing JSON

The compact form of a JSON value: no blanks, quotes, backslashes and control characters escaped,
every other character as it is.
-/

namespace RiskReport.Json

open Decimal

/-- Four lower-case hexadecimal digits. -/
def hex4 (n : Nat) : List Char :=
  let ds := Nat.toDigits 16 n
  List.replicate (4 - ds.length) '0' ++ ds

/-- One character as it stands in a JSON string. -/
def escapeChar (c : Char) : List Char :=
  if c == '"' then ['\\', '"']
  else if c == '\\' then ['\\', '\\']
  else if c == '\x08' then ['\\', 'b']
  else if c == '\x0C' then ['\\', 'f']
  else if c == '\n' then ['\\', 'n']
  else if c == '\r' then ['\\', 'r']
  else if c == '\t' then ['\\', 't']
  else if c.toNat < 0x20 then ['\\', 'u'] ++ hex4 c.toNat
  else [c]

/-- A string in quotes. -/
def printString (s : String) : List Char :=
  '"' :: s.toList.flatMap escapeChar ++ ['"']

/-- A number. -/
def printNumber : Number → List Char
  | .int i => (toString i).toList
  | .float x => (x.write .json).toList

mutual

/-- The characters of a value, put in front of `tail`. -/
def printOnto (tail : List Char) : Json → List Char
  | .null => 'n' :: 'u' :: 'l' :: 'l' :: tail
  | .bool true => 't' :: 'r' :: 'u' :: 'e' :: tail
  | .bool false => 'f' :: 'a' :: 'l' :: 's' :: 'e' :: tail
  | .number n => printNumber n ++ tail
  | .string s => printString s ++ tail
  | .array items => '[' :: printItems true (']' :: tail) items
  | .object fields => '{' :: printFields true ('}' :: tail) fields

/-- The items of an array, with a comma before each but the first. -/
def printItems (first : Bool) (tail : List Char) : List Json → List Char
  | [] => tail
  | v :: vs =>
    let rest := printOnto (printItems false tail vs) v
    if first then rest else ',' :: rest

/-- The fields of an object, with a comma before each but the first. -/
def printFields (first : Bool) (tail : List Char) : List (String × Json) → List Char
  | [] => tail
  | (k, v) :: fs =>
    let rest := printString k ++ ':' :: printOnto (printFields false tail fs) v
    if first then rest else ',' :: rest

end

/-- The compact text of a value. -/
def print (v : Json) : String :=
  String.ofList (printOnto [] v)

end RiskReport.Json

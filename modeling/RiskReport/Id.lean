import RiskReport.Json.Decode

/-!
# Identifiers and access tokens

Rows are identified by 128-bit identifiers that begin with the time of their making, so that their
order is the order of creation. They are written in five groups of lower-case hexadecimal digits
and read in that form, without hyphens, in braces, or after `urn:uuid:`, in either case. A finished
report is not found by its identifier but by an access token, which cannot be guessed.
-/

namespace RiskReport

open Json

/-- A 128-bit identifier. -/
structure Uuid where
  value : Nat
  deriving DecidableEq, Repr, Inhabited

namespace Uuid

/-- The digits of the identifier, 32 of them. -/
def digits (u : Uuid) : List Char :=
  let ds := Nat.toDigits 16 u.value
  List.replicate (32 - ds.length) '0' ++ ds

/-- The identifier in groups of 8, 4, 4, 4 and 12 digits. -/
def write (u : Uuid) : String :=
  let ds := u.digits
  String.ofList (ds.take 8 ++ '-' :: (ds.drop 8).take 4 ++ '-' :: (ds.drop 12).take 4 ++
    '-' :: (ds.drop 16).take 4 ++ '-' :: ds.drop 20)

/-- Why a text is no identifier. -/
inductive Refusal where
  /-- A character that no identifier has, and its place in bytes. -/
  | character (c : Char) (index : Nat)
  | length (length : Nat)
  | groupCount (count : Nat)
  | groupLength (group expected length : Nat)
  deriving DecidableEq, Repr, Inhabited

/-- The wording of a refusal. -/
def Refusal.message : Refusal → String
  | .character c i => "invalid character: found `" ++ c.toString ++ "` at " ++ toString i
  | .length n => "invalid length: found " ++ toString n
  | .groupCount n => "invalid group count: expected 5, found " ++ toString n
  | .groupLength g e n =>
    "invalid group length in group " ++ toString g ++ ": expected " ++ toString e ++ ", found " ++
      toString n

/-- The value of some hexadecimal digits. -/
def hexNumber? (cs : List Char) : Option Nat :=
  cs.foldlM (fun n c => (hexValue? c).map (n * 16 + ·)) 0

/-- The identifier of five groups of digits with hyphens between them. -/
def ofGroups? (cs : List Char) : Option Uuid :=
  match cs.splitOn '-' with
  | [a, b, c, d, e] =>
    if [a, b, c, d, e].map List.length == [8, 4, 4, 4, 12] then
      (hexNumber? (a ++ b ++ c ++ d ++ e)).map Uuid.mk
    else none
  | _ => none

/-- What may stand in front of the groups, in either case. -/
def scheme : List Char := "urn:uuid:".toList

/-- The length of the longest form: the scheme and five groups with hyphens between them. -/
def longest : Nat := 45

/-- The text without its braces or its scheme, how many characters stood in front, and whether
there was neither. -/
def unwrap (cs : List Char) : List Char × Nat × Bool :=
  if (cs.take scheme.length).map Char.toLower == scheme then
    (cs.drop scheme.length, scheme.length, false)
  else if 2 ≤ cs.length && cs.head? == some '{' && cs.getLast? == some '}' then
    (cs.tail.dropLast, 1, false)
  else (cs, 0, true)

/-- What is wrong with a text that is no identifier. A text beyond the longest form is refused for
its length alone; otherwise a foreign character counts first, and then the hyphens. -/
def diagnose (cs : List Char) : Refusal :=
  let (inner, offset, simple) := unwrap cs
  let bad := inner.zipIdx.find? fun (c, _) => c != '-' && (hexValue? c).isNone
  let groups := inner.splitOn '-'
  if longest < byteLength cs then .length (byteLength cs)
  else
    match bad with
    | some (c, i) => .character c (offset + byteLength (inner.take i))
    | none =>
      if groups.length == 1 && simple then .length (byteLength cs)
      else if groups.length != 5 then .groupCount groups.length
      else
        let wrong := (groups.zip [8, 4, 4, 4, 12]).zipIdx.find? fun ((g, n), _) => g.length != n
        match wrong with
        | some ((g, n), i) => .groupLength i n g.length
        | none => .groupLength 4 12 12

/-- Read an identifier in one of its four forms. -/
def parse (s : String) : Except Refusal Uuid :=
  let cs := s.toList
  let (inner, _, simple) := unwrap cs
  let found :=
    if simple && cs.length == 32 then (hexNumber? cs).map Uuid.mk
    else if inner.length == 36 then ofGroups? inner
    else none
  match found with
  | some u => .ok u
  | none => .error (diagnose cs)

/-- An identifier as JSON. -/
def toJson (u : Uuid) : Json := .string u.write

/-- An identifier from its text. -/
def decoder : Decoder Uuid :=
  Decoder.parsed "a formatted UUID string" fun s =>
    (parse s).mapError fun e => "UUID parsing failed: " ++ e.message

/-- The identifier of version 7 for a time in milliseconds and 74 further bits. -/
def ofTime (millis further : Nat) : Uuid :=
  let bits := Nat.pow 2
  ⟨(millis % bits 48) * bits 80 + 7 * bits 76 + (further / bits 62 % bits 12) * bits 64 +
    2 * bits 62 + further % bits 62⟩

/-- The version that an identifier says it has. -/
def version (u : Uuid) : Nat := u.value / Nat.pow 2 76 % 16

end Uuid

/-- The identifier of a visitor's session. -/
structure SessionId where
  uuid : Uuid
  deriving DecidableEq, Repr, Inhabited

/-- The identifier of a report. -/
structure ReportId where
  uuid : Uuid
  deriving DecidableEq, Repr, Inhabited

/-- The identifier of one result row of a report. -/
structure RiskResultId where
  uuid : Uuid
  deriving DecidableEq, Repr, Inhabited

namespace SessionId

/-- The identifier as a text. -/
def write (i : SessionId) : String := i.uuid.write

/-- The identifier named with its kind. -/
def describe (i : SessionId) : String := "SessionId(" ++ i.write ++ ")"

/-- The identifier as JSON. -/
def toJson (i : SessionId) : Json := i.uuid.toJson

/-- An identifier from JSON. -/
def decoder : Decoder SessionId := fun n => (Uuid.decoder n).map SessionId.mk

end SessionId

namespace ReportId

/-- The identifier as a text. -/
def write (i : ReportId) : String := i.uuid.write

/-- The identifier named with its kind. -/
def describe (i : ReportId) : String := "ReportId(" ++ i.write ++ ")"

/-- The identifier as JSON. -/
def toJson (i : ReportId) : Json := i.uuid.toJson

/-- An identifier from JSON. -/
def decoder : Decoder ReportId := fun n => (Uuid.decoder n).map ReportId.mk

end ReportId

namespace RiskResultId

/-- The identifier as a text. -/
def write (i : RiskResultId) : String := i.uuid.write

/-- The identifier as JSON. -/
def toJson (i : RiskResultId) : Json := i.uuid.toJson

/-- An identifier from JSON. -/
def decoder : Decoder RiskResultId := fun n => (Uuid.decoder n).map RiskResultId.mk

end RiskResultId

/-- A bearer token that grants reading access to one report. -/
structure AccessToken where
  text : String
  deriving DecidableEq, Repr, Inhabited

namespace AccessToken

/-- The alphabet of tokens, which is safe in addresses. -/
def alphabet : List Char :=
  "ABCDEFGHIJKLMNOPQRSTUVWXYZabcdefghijklmnopqrstuvwxyz0123456789-_".toList

/-- The number of characters in a token. -/
def length : Nat := 32

/-- The token that spells 192 random bits, six to a character. -/
def ofBits (n : Nat) : AccessToken :=
  ⟨String.ofList ((List.range length).map fun i =>
    alphabet.getD (n / Nat.pow 64 (length - 1 - i) % 64) 'A')⟩

/-- A token from JSON. -/
def decoder : Decoder AccessToken := fun n => (Decoder.string n).map AccessToken.mk

end AccessToken

end RiskReport

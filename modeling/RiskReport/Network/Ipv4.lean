import RiskReport.Json.Text

/-!
# Addresses of four bytes

`isQuad` knows the plain form: four numbers from 0 to 255 with dots between them. A host may be
written more freely (`parse?`): in fewer parts, of which the last one then takes up the bytes that
are left, with parts in base 8 or 16, and with a dot at the end. A host whose last part is a number
(`endsInNumber`) is such an address or nothing.
-/

namespace RiskReport.Network.Ipv4

/-- Whether some characters are a number from 0 to 255 without leading zeros. -/
def isByte (cs : List Char) : Bool :=
  match cs with
  | [] => false
  | '0' :: _ :: _ => false
  | _ => cs.length ≤ 3 && cs.all Char.isDigit && (String.ofList cs).toNat?.getD 256 < 256

/-- Whether some characters are an address of four bytes in its plain form. -/
def isQuad (cs : List Char) : Bool :=
  let parts := cs.splitOn '.'
  parts.length == 4 && parts.all isByte

/-- The value of some digits in a base. -/
def digits? (base : Nat) (cs : List Char) : Option Nat :=
  cs.foldlM (fun n c => do
    let d ← Json.hexValue? c
    if d < base then some (n * base + d) else none) 0

/-- A part of a host as a number: in base 16 after `0x`, in base 8 after another zero, and
otherwise in base 10. -/
def number? (cs : List Char) : Option Nat :=
  match cs with
  | [] => none
  | '0' :: 'x' :: ds => digits? 16 ds
  | '0' :: 'X' :: ds => digits? 16 ds
  | '0' :: d :: ds => digits? 8 (d :: ds)
  | ds => digits? 10 ds

/-- The parts of a host between its dots; a dot at the end has no part after it. -/
def parts (host : List Char) : List (List Char) :=
  let parts := host.splitOn '.'
  if parts.getLast? == some [] then parts.dropLast else parts

/-- Whether the last part of a host is a number. -/
def endsInNumber (host : List Char) : Bool :=
  match (parts host).getLast? with
  | some part => (!part.isEmpty && part.all Char.isDigit) || (number? part).isSome
  | none => false

/-- The address that some numbers make up: each but the last one is a byte, and the last one fills
what is left of 32 bits. -/
def ofNumbers? (numbers : List Nat) : Option Nat :=
  match numbers.getLast? with
  | none => none
  | some last =>
    let bytes := numbers.dropLast
    if bytes.length < 4 && bytes.all (· < 256) && last < Nat.pow 256 (4 - bytes.length) then
      some (bytes.foldl (· * 256 + ·) 0 * Nat.pow 256 (4 - bytes.length) + last)
    else none

/-- Read a host as an address. -/
def parse? (host : List Char) : Option Nat := do
  ofNumbers? (← (parts host).mapM number?)

/-- An address in its plain form. -/
def write (address : Nat) : String :=
  ".".intercalate ([3, 2, 1, 0].map fun i => toString (address / Nat.pow 256 i % 256))

end RiskReport.Network.Ipv4

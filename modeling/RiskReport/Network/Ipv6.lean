import RiskReport.Network.Ipv4

/-!
# Addresses of eight groups

An address of 128 bits is written as eight groups of up to four hexadecimal digits. One double
colon stands for one or more groups of zeros, and the last two groups may be written as an address
of four bytes.
-/

namespace RiskReport.Network.Ipv6

/-- Whether some characters are a group. -/
def isGroup (cs : List Char) : Bool :=
  !cs.isEmpty && cs.length ≤ 4 && cs.all fun c => (Json.hexValue? c).isSome

/-- How many groups some characters stand for, if they are groups. Only at the end of the address
may there be four bytes. -/
def groupCount? (atEnd : Bool) (cs : List Char) : Option Nat :=
  if cs.isEmpty then some 0
  else
    let groups := cs.splitOn ':'
    let bytes := atEnd && (groups.getLast?.map Ipv4.isQuad).getD false
    let plain := if bytes then groups.dropLast else groups
    if plain.all isGroup then some (plain.length + (if bytes then 2 else 0)) else none

/-- What stands before and after the first double colon, if there is one. -/
def splitDouble : List Char → Option (List Char × List Char)
  | ':' :: ':' :: rest => some ([], rest)
  | c :: rest => (splitDouble rest).map fun (left, right) => (c :: left, right)
  | [] => none

/-- Whether some characters are an address. -/
def isAddress (cs : List Char) : Bool :=
  match splitDouble cs with
  | none => groupCount? true cs == some 8
  | some (left, right) =>
    match groupCount? false left, groupCount? true right with
    | some a, some b => a + b ≤ 7
    | _, _ => false

end RiskReport.Network.Ipv6

/-!
# Labels in ASCII

A label of a domain name that has characters beyond ASCII can be written in ASCII: its ASCII
characters come first, and after a hyphen come digits in base 36 that say which characters to insert
where. A number of these digits ends with the first digit below a threshold, which adapts to the
numbers before it (`threshold`, `adapt`).
-/

namespace RiskReport.Network.Punycode

/-- The value of a digit. -/
def digit? (c : Char) : Option Nat :=
  if c.isLower then some (c.toNat - 'a'.toNat)
  else if c.isUpper then some (c.toNat - 'A'.toNat)
  else if c.isDigit then some (c.toNat - '0'.toNat + 26)
  else none

/-- The threshold of a digit, of which `place` counts the position in steps of 36. -/
def threshold (place bias : Nat) : Nat :=
  min 26 (max 1 (place - bias))

/-- Divide a number by 35 while it is large, counting the steps by 36. -/
def scaleDown (number steps : Nat) : Nat × Nat :=
  if 455 < number then scaleDown (number / 35) (steps + 36) else (number, steps)
termination_by number
decreasing_by exact Nat.div_lt_self (by omega) (by omega)

/-- The bias after a number has been read, when there are `count` characters. -/
def adapt (number count : Nat) (first : Bool) : Nat :=
  let number := if first then number / 700 else number / 2
  let (number, steps) := scaleDown (number + number / count) 0
  steps + 36 * number / (number + 38)

/-- A label being decoded: the characters so far, the code point and the place of the last
insertion, and the number that is being read. -/
structure Progress where
  chars : List Char
  code : Nat := 128
  start : Nat := 0
  number : Nat := 0
  weight : Nat := 1
  place : Nat := 36
  bias : Nat := 72
  first : Bool := true
  deriving DecidableEq, Repr, Inhabited

/-- Insert the character that a number calls for. -/
def Progress.insert? (p : Progress) : Option Progress :=
  let count := p.chars.length + 1
  let code := p.code + (p.start + p.number) / count
  let index := (p.start + p.number) % count
  if code.isValidChar then
    some
      { chars := p.chars.take index ++ Char.ofNat code :: p.chars.drop index
        code, start := index + 1, bias := adapt p.number count p.first, first := false }
  else none

/-- Insert the characters that some digits call for. -/
def insertAll (p : Progress) : List Char → Option (List Char)
  | [] => if p.place == 36 then some p.chars else none
  | c :: cs => do
    let d ← digit? c
    let t := threshold p.place p.bias
    let p := { p with number := p.number + d * p.weight }
    if d < t then insertAll (← p.insert?) cs
    else insertAll { p with weight := p.weight * (36 - t), place := p.place + 36 } cs

/-- The label that some characters of ASCII stand for. -/
def decode? (cs : List Char) : Option (List Char) :=
  let digits := (cs.reverse.takeWhile (· != '-')).reverse
  if digits.length == cs.length then insertAll { chars := [] } digits
  else insertAll { chars := cs.take (cs.length - digits.length - 1) } digits

end RiskReport.Network.Punycode

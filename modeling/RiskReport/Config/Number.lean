/-!
# Numbers in settings

A whole number is written in decimal digits with an optional sign; a minus sign is allowed only
where the number may be negative. Reading goes from left to right and stops at the first digit with
which the number leaves its range, even if what follows is no digit.
-/

namespace RiskReport

/-- Why a text is no number of its kind. -/
inductive NumberError where
  | empty
  | invalidDigit
  | tooLarge
  | tooSmall
  deriving DecidableEq, Repr, Inhabited

/-- The wording of a refusal. -/
def NumberError.message : NumberError → String
  | .empty => "cannot parse integer from empty string"
  | .invalidDigit => "invalid digit found in string"
  | .tooLarge => "number too large to fit in target type"
  | .tooSmall => "number too small to fit in target type"

/-- Read digits onto a number that may grow up to a limit. -/
def readDigitsUpTo (limit : Nat) (exceeded : NumberError) :
    Nat → List Char → Except NumberError Nat
  | n, [] => .ok n
  | n, c :: cs =>
    if c.isDigit then
      let n := n * 10 + (c.toNat - '0'.toNat)
      if n ≤ limit then readDigitsUpTo limit exceeded n cs else .error exceeded
    else .error .invalidDigit

/-- Read at least one digit. -/
def readNumberUpTo (limit : Nat) (exceeded : NumberError) (cs : List Char) :
    Except NumberError Nat :=
  if cs.isEmpty then .error .invalidDigit else readDigitsUpTo limit exceeded 0 cs

/-- Read a natural number below `2 ^ bits`. -/
def readUnsigned (bits : Nat) (s : String) : Except NumberError Nat :=
  match s.toList with
  | [] => .error .empty
  | '+' :: cs => readNumberUpTo (Nat.pow 2 bits - 1) .tooLarge cs
  | cs => readNumberUpTo (Nat.pow 2 bits - 1) .tooLarge cs

/-- Read a whole number of `bits` bits with its sign. -/
def readSigned (bits : Nat) (s : String) : Except NumberError Int :=
  match s.toList with
  | [] => .error .empty
  | '-' :: cs => (readNumberUpTo (Nat.pow 2 (bits - 1)) .tooSmall cs).map fun n => -(n : Int)
  | '+' :: cs => (readNumberUpTo (Nat.pow 2 (bits - 1) - 1) .tooLarge cs).map Int.ofNat
  | cs => (readNumberUpTo (Nat.pow 2 (bits - 1) - 1) .tooLarge cs).map Int.ofNat

end RiskReport

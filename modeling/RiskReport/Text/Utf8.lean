/-!
# Reading bytes as text

`decode` reads UTF-8, or says where the bytes stop being text. `decodeLossy` never fails: each
longest run of bytes that begins a character but does not finish one is read as the replacement
character, as is each byte that begins none. The ranges of the second byte exclude overlong forms,
surrogates and code points past the last one.
-/

namespace RiskReport.Text

/-- The character that stands for bytes which are not text. -/
def replacement : Char := '\uFFFD'

/-- Whether a byte continues a character. -/
def isContinuation (b : UInt8) : Bool :=
  0x80 ≤ b && b ≤ 0xBF

/-- For a byte that leads a character of several bytes: how many bytes follow, the bits that the
leading byte gives, and the range of the byte after it. -/
def leadByte? (b : UInt8) : Option (Nat × Nat × UInt8 × UInt8) :=
  if 0xC2 ≤ b && b ≤ 0xDF then some (1, b.toNat % 32, 0x80, 0xBF)
  else if b == 0xE0 then some (2, 0, 0xA0, 0xBF)
  else if b == 0xED then some (2, 13, 0x80, 0x9F)
  else if 0xE1 ≤ b && b ≤ 0xEF then some (2, b.toNat % 16, 0x80, 0xBF)
  else if b == 0xF0 then some (3, 0, 0x90, 0xBF)
  else if 0xF1 ≤ b && b ≤ 0xF3 then some (3, b.toNat % 8, 0x80, 0xBF)
  else if b == 0xF4 then some (3, 4, 0x80, 0x8F)
  else none

/-- Take up to `n` continuation bytes: the code point so far with their bits, whether all `n` were
there, and the bytes after them. -/
def takeContinuations : Nat → Nat → List UInt8 → Nat × Bool × List UInt8
  | 0, acc, bs => (acc, true, bs)
  | _ + 1, acc, [] => (acc, false, [])
  | n + 1, acc, b :: bs =>
    if isContinuation b then takeContinuations n (acc * 64 + b.toNat % 64) bs
    else (acc, false, b :: bs)

theorem takeContinuations_length (n acc : Nat) (bs : List UInt8) :
    (takeContinuations n acc bs).2.2.length ≤ bs.length := by
  induction n generalizing acc bs with
  | zero => simp [takeContinuations]
  | succ n ih =>
    cases bs with
    | nil => simp [takeContinuations]
    | cons b bs =>
      simp only [takeContinuations]
      split
      · exact Nat.le_succ_of_le (ih _ _)
      · simp

/-- The first character of the bytes, if they begin with one, and the bytes after it or after what
was to be one. -/
def nextChar (b : UInt8) (bs : List UInt8) : Option Char × List UInt8 :=
  if b < 0x80 then (some (Char.ofNat b.toNat), bs)
  else
    match leadByte? b with
    | none => (none, bs)
    | some (follow, bits, low, high) =>
      match bs with
      | [] => (none, [])
      | b₂ :: rest =>
        if low ≤ b₂ && b₂ ≤ high then
          let bits := bits * 64 + b₂.toNat % 64
          let (code, complete, rest) := takeContinuations (follow - 1) bits rest
          (if complete then some (Char.ofNat code) else none, rest)
        else (none, b₂ :: rest)

theorem nextChar_length (b : UInt8) (bs : List UInt8) :
    (nextChar b bs).2.length ≤ bs.length := by
  unfold nextChar
  split
  · simp
  · split
    · simp
    · split
      · simp
      · split
        · exact Nat.le_succ_of_le (takeContinuations_length _ _ _)
        · simp

/-! ## Reading what may not be text -/

/-- Read UTF-8, with a replacement character for each run of bytes that is not text. -/
def decodeLossyChars : List UInt8 → List Char
  | [] => []
  | b :: bs => (nextChar b bs).1.getD replacement :: decodeLossyChars (nextChar b bs).2
termination_by bs => bs.length
decreasing_by
  have := nextChar_length b bs
  simp only [List.length_cons]
  omega

/-- Read UTF-8, with a replacement character for each run of bytes that is not text. -/
def decodeLossy (bytes : List UInt8) : String :=
  String.ofList (decodeLossyChars bytes)

/-! ## Reading what must be text -/

/-- Bytes that are not text, from an index on. -/
inductive Utf8Error where
  /-- So many bytes begin no character. -/
  | invalid (index length : Nat)
  /-- The bytes end within a character. -/
  | incomplete (index : Nat)
  deriving DecidableEq, Repr, Inhabited

/-- The wording of a refusal. -/
def Utf8Error.message : Utf8Error → String
  | .invalid i n =>
    "invalid utf-8 sequence of " ++ toString n ++ " bytes from index " ++ toString i
  | .incomplete i => "incomplete utf-8 byte sequence from index " ++ toString i

/-- Read UTF-8 that begins at an index. -/
def decodeChars (index : Nat) : List UInt8 → Except Utf8Error (List Char)
  | [] => .ok []
  | b :: bs =>
    let rest := (nextChar b bs).2
    let taken := bs.length + 1 - rest.length
    match (nextChar b bs).1 with
    | some c => (decodeChars (index + taken) rest).map (c :: ·)
    | none =>
      if rest.isEmpty && (leadByte? b).isSome then .error (.incomplete index)
      else .error (.invalid index taken)
termination_by bs => bs.length
decreasing_by
  have := nextChar_length b bs
  simp only [List.length_cons]
  omega

/-- Read UTF-8. -/
def decode (bytes : List UInt8) : Except Utf8Error String :=
  (decodeChars 0 bytes).map String.ofList

end RiskReport.Text

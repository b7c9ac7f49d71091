import Mathlib.Tactic.SplitIfs
import RiskReport.Config.Number

/-!
# What numbers in settings denote

A number is at least one decimal digit after a sign, if there is one (`Denotes`, `DenotesInt`); the
value of digits is that of `Nat.ofDigitChars`. Reading checks the range after every digit. Nothing
is refused by that which the range allows, since a number does not get smaller when digits are
added (`le_ofDigitChars`).

**Theorem (`readUnsigned_eq_ok_iff`, `readSigned_eq_ok_iff`).** Exactly the numbers of the range are
read, and each is read as what it denotes.
-/

namespace RiskReport

/-! ## Runs that succeed -/

namespace Except

variable {α β ε : Type} {x : Except ε α} {b : β}

/-- A run succeeds exactly if its first part does, and the rest after it. -/
theorem bind_eq_ok_iff {f : α → Except ε β} : x >>= f = .ok b ↔ ∃ a, x = .ok a ∧ f a = .ok b := by
  cases x with
  | error e => exact ⟨nofun, nofun⟩
  | ok a => exact ⟨fun h => ⟨a, rfl, h⟩, fun ⟨_, ha, h⟩ => Except.ok.inj ha ▸ h⟩

/-- A part of a run that succeeds has succeeded. -/
theorem bind_eq_ok {f : α → Except ε β} (h : x >>= f = .ok b) : ∃ a, x = .ok a ∧ f a = .ok b :=
  bind_eq_ok_iff.1 h

/-- After a part that succeeds a run goes on with its value. -/
theorem bind_of_eq_ok {f : α → Except ε β} {a : α} (hx : x = .ok a) : x >>= f = f a := by
  rw [hx]
  rfl

theorem map_eq_ok_iff {f : α → β} : x.map f = .ok b ↔ ∃ a, x = .ok a ∧ f a = b := by
  cases x with
  | error e => exact ⟨nofun, nofun⟩
  | ok a => exact ⟨fun h => ⟨a, rfl, Except.ok.inj h⟩, fun ⟨_, ha, h⟩ => Except.ok.inj ha ▸ h ▸ rfl⟩

/-- A refusal in other words is a refusal still. -/
theorem mapError_eq_ok_iff {ε' : Type} {f : ε → ε'} {a : α} : x.mapError f = .ok a ↔ x = .ok a := by
  cases x with
  | error e => exact ⟨nofun, nofun⟩
  | ok b => exact ⟨fun h => congrArg _ (Except.ok.inj h), fun h => congrArg _ (Except.ok.inj h)⟩

end Except

/-! ## Digits -/

/-- Decimal digits, one at least, with the number that they denote. -/
structure Digits (cs : List Char) (n : Nat) : Prop where
  nonempty : cs ≠ []
  digits : ∀ c ∈ cs, c.isDigit
  value : Nat.ofDigitChars 10 cs 0 = n

theorem not_digits_cons {c : Char} {cs : List Char} {n : Nat} (hc : ¬ c.isDigit) :
    ¬ Digits (c :: cs) n :=
  fun h => hc (h.digits c List.mem_cons_self)

/-- More digits make no smaller number. -/
theorem le_ofDigitChars (cs : List Char) (n : Nat) : n ≤ Nat.ofDigitChars 10 cs n := by
  induction cs generalizing n with
  | nil => exact Nat.le_of_eq Nat.ofDigitChars_nil.symm
  | cons c cs ih =>
    rw [Nat.ofDigitChars_cons]
    have hnext := ih (10 * n + (c.toNat - '0'.toNat))
    omega

section

variable {limit m n : Nat} {exceeded : NumberError} {cs : List Char}

/-- Digits are read onto a number exactly if they leave it in the range. -/
theorem readDigitsUpTo_eq_ok_iff (hm : m ≤ limit) :
    readDigitsUpTo limit exceeded m cs = .ok n ↔
      (∀ c ∈ cs, c.isDigit) ∧ Nat.ofDigitChars 10 cs m = n ∧ n ≤ limit := by
  induction cs generalizing m with
  | nil =>
    rw [readDigitsUpTo, Nat.ofDigitChars_nil, Except.ok.injEq]
    constructor
    · rintro rfl
      exact ⟨fun c hc => (List.not_mem_nil hc).elim, rfl, hm⟩
    · exact fun h => h.2.1
  | cons c cs ih =>
    rw [readDigitsUpTo, Nat.ofDigitChars_cons, List.forall_mem_cons, Nat.mul_comm 10 m]
    dsimp only
    split_ifs with hc hnext
    · rw [ih hnext, and_iff_right hc]
    · -- The number has left the range, and no further digit brings it back.
      have hle := le_ofDigitChars cs (m * 10 + (c.toNat - '0'.toNat))
      simp only [false_iff, not_and]
      omega
    · simp only [hc, Bool.false_eq_true, false_and]

theorem readNumberUpTo_eq_ok_iff :
    readNumberUpTo limit exceeded cs = .ok n ↔ Digits cs n ∧ n ≤ limit := by
  unfold readNumberUpTo
  cases cs with
  | nil =>
    simp only [List.isEmpty_nil, if_true, reduceCtorEq, false_iff]
    exact fun h => h.1.nonempty rfl
  | cons c cs =>
    simp only [List.isEmpty_cons, Bool.false_eq_true, if_false]
    rw [readDigitsUpTo_eq_ok_iff (Nat.zero_le limit)]
    constructor
    · rintro ⟨digits, value, hn⟩
      exact ⟨⟨List.cons_ne_nil c cs, digits, value⟩, hn⟩
    · rintro ⟨⟨-, digits, value⟩, hn⟩
      exact ⟨digits, value, hn⟩

end

/-! ## Signs -/

/-- A text denotes a natural number: digits, with or without a plus sign. -/
def Denotes (s : String) (n : Nat) : Prop :=
  ∃ cs, Digits cs n ∧ (s.toList = cs ∨ s.toList = '+' :: cs)

/-- A text denotes a whole number, which is not positive after a minus sign. -/
def DenotesInt (s : String) (z : Int) : Prop :=
  (∃ n : Nat, Denotes s n ∧ z = n) ∨ ∃ cs n, Digits cs n ∧ s.toList = '-' :: cs ∧ z = -n

variable {s : String} {cs : List Char} {n bits : Nat}

theorem denotes_plus (h : s.toList = '+' :: cs) : Denotes s n ↔ Digits cs n := by
  constructor
  · rintro ⟨cs', digits, hs | hs⟩
    · rw [← hs, h] at digits
      exact absurd digits (not_digits_cons (by decide))
    · rwa [(List.cons.inj (h.symm.trans hs)).2]
  · exact fun digits => ⟨cs, digits, .inr h⟩

theorem denotes_of_not_plus (h : ∀ cs, s.toList ≠ '+' :: cs) :
    Denotes s n ↔ Digits s.toList n := by
  constructor
  · rintro ⟨cs, digits, hs | hs⟩
    · rwa [hs]
    · exact absurd hs (h cs)
  · exact fun digits => ⟨s.toList, digits, .inl rfl⟩

theorem not_denotes_minus (h : s.toList = '-' :: cs) : ¬ Denotes s n := by
  rw [denotes_of_not_plus (by rw [h]; simp), h]
  exact not_digits_cons (by decide)

/-- Without a minus sign a whole number is a natural one. -/
theorem denotesInt_of_not_minus {z : Int} (h : ∀ cs, s.toList ≠ '-' :: cs) :
    DenotesInt s z ↔ ∃ n : Nat, Denotes s n ∧ z = n := by
  constructor
  · rintro (h' | ⟨cs, n, -, hs, -⟩)
    · exact h'
    · exact absurd hs (h cs)
  · exact .inl

theorem denotesInt_minus {z : Int} (h : s.toList = '-' :: cs) :
    DenotesInt s z ↔ ∃ n : Nat, Digits cs n ∧ z = -n := by
  constructor
  · rintro (⟨n, hn, -⟩ | ⟨cs', n, digits, hs, hz⟩)
    · exact absurd hn (not_denotes_minus h)
    · rw [← (List.cons.inj (h.symm.trans hs)).2] at digits
      exact ⟨n, digits, hz⟩
  · rintro ⟨n, digits, hz⟩
    exact .inr ⟨cs, n, digits, h, hz⟩

/-! ## Reading -/

/-- The largest natural number with so many bits. -/
def largest (bits : Nat) : Nat := Nat.pow 2 bits - 1

theorem pow_eq_largest_add_one (bits : Nat) : Nat.pow 2 bits = largest bits + 1 :=
  (Nat.sub_add_cancel (Nat.two_pow_pos bits)).symm

/-- Exactly the texts that denote a natural number of so many bits are read, as that number. -/
theorem readUnsigned_eq_ok_iff : readUnsigned bits s = .ok n ↔ Denotes s n ∧ n ≤ largest bits := by
  unfold readUnsigned
  rw [← largest]
  split
  · next h =>
    rw [denotes_of_not_plus (by rw [h]; simp), h]
    simp only [reduceCtorEq, false_iff]
    exact fun h => h.1.nonempty rfl
  · next h => rw [readNumberUpTo_eq_ok_iff, denotes_plus h]
  · next h => rw [readNumberUpTo_eq_ok_iff, denotes_of_not_plus h]

/-- A whole number has so many bits and a sign. -/
def InBits (bits : Nat) (z : Int) : Prop :=
  -(largest (bits - 1) : Int) - 1 ≤ z ∧ z ≤ largest (bits - 1)

instance (bits : Nat) (z : Int) : Decidable (InBits bits z) :=
  inferInstanceAs (Decidable (_ ∧ _))

/-- Without a minus sign only the upper end of the range counts. -/
theorem denotesInt_inBits_iff {z : Int} (h : ∀ cs, s.toList ≠ '-' :: cs) :
    DenotesInt s z ∧ InBits bits z ↔
      ∃ n : Nat, (Denotes s n ∧ n ≤ largest (bits - 1)) ∧ (n : Int) = z := by
  unfold InBits
  rw [denotesInt_of_not_minus h]
  constructor
  · rintro ⟨⟨n, hn, rfl⟩, -, hle⟩
    exact ⟨n, ⟨hn, by omega⟩, rfl⟩
  · rintro ⟨n, ⟨hn, hle⟩, rfl⟩
    exact ⟨⟨n, hn, rfl⟩, by omega, by omega⟩

/-- Exactly the texts that denote a whole number in the range are read, as that number. -/
theorem readSigned_eq_ok_iff {z : Int} :
    readSigned bits s = .ok z ↔ DenotesInt s z ∧ InBits bits z := by
  unfold readSigned
  rw [← largest]
  split
  · next h =>
    rw [denotesInt_inBits_iff (by rw [h]; simp)]
    simp only [reduceCtorEq, false_iff]
    rintro ⟨n, ⟨hn, -⟩, -⟩
    rw [denotes_of_not_plus (by rw [h]; simp), h] at hn
    exact hn.nonempty rfl
  · next cs h =>
    rw [Except.map_eq_ok_iff, denotesInt_minus h, pow_eq_largest_add_one, InBits]
    simp only [Except.bind_eq_ok_iff, readNumberUpTo_eq_ok_iff]
    constructor
    · rintro ⟨_, ⟨n, ⟨digits, hle⟩, ⟨⟩⟩, rfl⟩
      exact ⟨⟨n, digits, rfl⟩, by omega, by omega⟩
    · rintro ⟨⟨n, digits, rfl⟩, hle, -⟩
      exact ⟨_, ⟨n, ⟨digits, by omega⟩, rfl⟩, rfl⟩
  · next cs h =>
    rw [Except.map_eq_ok_iff, denotesInt_inBits_iff (by rw [h]; simp)]
    simp only [readNumberUpTo_eq_ok_iff, denotes_plus h]
    rfl
  · next hminus hplus =>
    rw [Except.map_eq_ok_iff, denotesInt_inBits_iff hminus]
    simp only [readNumberUpTo_eq_ok_iff, denotes_of_not_plus hplus]
    rfl

end RiskReport

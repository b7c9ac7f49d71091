import RiskReport.Mail.Template
import RiskReport.Proofs.Config.Number

/-!
# Amounts of money in mail

An amount is a whole number of hundredths, and it is written with a sign, its whole units and two
decimals, and the currency. A reader takes that apart again (`readAmount?`): the digits up to the
point are the units, the two behind it the hundredths, and nothing or a blank follows.

The sign is taken from the amount and not from its units, so it is there when there are no units.
The digits are worked out in a word of 64 bits, which has room for the absolute value of every
amount in a signed word, also of the least one (`toNat_unsignedAbs`).

**Theorem (`amounts_exact`).** What is worked out in words is the text of the amount, and the text
is read back to the amount, in any currency; so no two amounts in one currency have the same text.
-/

namespace RiskReport

open Text

/-! ## Reading -/

/-- Hundredths from their text and what follows them: digits, a point and two more digits. -/
def readHundredths? (cs : List Char) : Option (Nat × List Char) :=
  match cs.dropWhile Char.isDigit with
  | '.' :: a :: b :: rest =>
    let units := cs.takeWhile Char.isDigit
    if units ≠ [] ∧ a.isDigit ∧ b.isDigit then
      some (100 * Nat.ofDigitChars 10 units 0 + Nat.ofDigitChars 10 [a, b] 0, rest)
    else none
  | _ => none

/-- Hundredths with their currency, which is put behind them unless they are dollars. -/
def readMoney? : List Char → Option (Nat × Option String)
  | '$' :: cs =>
    match readHundredths? cs with
    | some (n, []) => some (n, none)
    | _ => none
  | cs =>
    match readHundredths? cs with
    | some (n, ' ' :: currency) => some (n, some (String.ofList currency))
    | _ => none

/-- An amount in hundredths from its text, with the currency unless it is in dollars. -/
def readAmount? (s : String) : Option (Int × Option String) :=
  match s.toList with
  | '-' :: cs => (readMoney? cs).map fun money => (-(money.1 : Int), money.2)
  | cs => (readMoney? cs).map fun money => ((money.1 : Int), money.2)

variable {units cs : List Char} {a b : Char} {n m : Nat}

theorem readHundredths?_append (hn : Digits units n) (hm : Digits [a, b] m) (rest : List Char) :
    readHundredths? (units ++ '.' :: a :: b :: rest) = some (100 * n + m, rest) := by
  have hpoint : ¬ '.'.isDigit = true := by decide
  have htake : (units ++ '.' :: a :: b :: rest).takeWhile Char.isDigit = units := by
    rw [List.takeWhile_append_of_pos hn.digits, List.takeWhile_cons_of_neg hpoint, List.append_nil]
  have hdrop : (units ++ '.' :: a :: b :: rest).dropWhile Char.isDigit = '.' :: a :: b :: rest := by
    rw [List.dropWhile_append_of_pos hn.digits, List.dropWhile_cons_of_neg hpoint]
  have hdigits : units ≠ [] ∧ a.isDigit = true ∧ b.isDigit = true :=
    ⟨hn.nonempty, hm.digits a (by simp), hm.digits b (by simp)⟩
  simp only [readHundredths?, hdrop, htake, hn.value, hm.value, if_pos hdigits]

/-- Digits begin with nothing but a digit. -/
theorem Digits.head?_ne {c : Char} (h : Digits units n) (hc : c.isDigit = false)
    (rest : List Char) : (units ++ rest).head? ≠ some c := by
  cases units with
  | nil => exact absurd rfl h.nonempty
  | cons d ds =>
    intro hd
    have hdigit : d.isDigit = true := h.digits d List.mem_cons_self
    rw [Option.some.inj hd, hc] at hdigit
    cases hdigit

theorem readMoney?_of_head? (h : cs.head? ≠ some '$') {rest : List Char}
    (hread : readHundredths? cs = some (n, ' ' :: rest)) :
    readMoney? cs = some (n, some (String.ofList rest)) := by
  unfold readMoney?
  split
  next => exact absurd rfl h
  next => simp only [hread]

/-! ## Writing -/

theorem digits_toDigits (n : Nat) : Digits (Nat.toDigits 10 n) n where
  nonempty := Nat.toDigits_ne_nil
  digits _ hc := Nat.isDigit_of_mem_toDigits (by decide) (by decide) hc
  value := Nat.ofDigitChars_ten_toDigits

/-- The text of an amount without its sign and its currency. -/
def amountDigits (cents : Nat) : String :=
  toString (cents / 100) ++ "." ++ (if cents % 100 < 10 then "0" else "") ++ toString (cents % 100)

/-- A zero in front changes no number. -/
theorem Digits.zero_cons (h : Digits cs n) : Digits ('0' :: cs) n where
  nonempty := List.cons_ne_nil _ _
  digits := List.forall_mem_cons.2 ⟨by decide, h.digits⟩
  value := by
    rw [Nat.ofDigitChars_cons]
    exact h.value

theorem toList_toString (n : Nat) : (toString n).toList = Nat.toDigits 10 n := by
  rw [Nat.toString_eq_repr, Nat.toList_repr]

/-- Less than a hundred hundredths have two digits. -/
theorem digits_decimals (h : n < 100) :
    ∃ a b, ((if n < 10 then "0" else "") ++ toString n).toList = [a, b] ∧ Digits [a, b] n := by
  have hdigits := digits_toDigits n
  rw [String.toList_append, toList_toString]
  by_cases hsmall : n < 10
  · rw [Nat.toDigits_of_lt_base hsmall] at hdigits ⊢
    rw [if_pos hsmall]
    exact ⟨'0', n.digitChar, rfl, hdigits.zero_cons⟩
  · have htwo : Nat.toDigits 10 n = [(n / 10).digitChar, (n % 10).digitChar] := by
      have happend := Nat.toDigits_append_toDigits (b := 10) (n := n / 10) (d := n % 10)
        (by decide) (by omega) (Nat.mod_lt n (by decide))
      rw [Nat.div_add_mod, Nat.toDigits_of_lt_base (by omega),
        Nat.toDigits_of_lt_base (Nat.mod_lt n (by decide))] at happend
      exact happend.symm
    rw [htwo] at hdigits ⊢
    rw [if_neg hsmall]
    exact ⟨_, _, rfl, hdigits⟩

theorem toList_amountDigits (cents : Nat) :
    ∃ units a b, (amountDigits cents).toList = units ++ '.' :: a :: b :: [] ∧
      Digits units (cents / 100) ∧ Digits [a, b] (cents % 100) := by
  obtain ⟨a, b, htext, hdigits⟩ := digits_decimals (Nat.mod_lt cents (Nat.zero_lt_succ 99))
  refine ⟨_, a, b, ?_, digits_toDigits _, hdigits⟩
  rw [amountDigits, String.append_assoc, String.toList_append, htext, String.toList_append,
    toList_toString, List.append_assoc]
  rfl

/-- The text of an amount without its sign. -/
def moneyText (cents : Nat) (currency : String) : String :=
  if lowerAscii currency == "usd" then "$" ++ amountDigits cents
  else amountDigits cents ++ " " ++ upper currency

/-- The currency of an amount as it is read: dollars go without saying. -/
def currencyRead (currency : String) : Option String :=
  if lowerAscii currency == "usd" then none else some (upper currency)

theorem formatAmount_eq (cents : Int) (currency : String) :
    formatAmount cents currency =
      (if cents < 0 then "-" else "") ++ moneyText cents.natAbs currency := by
  rw [formatAmount, moneyText, amountDigits]
  split_ifs <;> simp only [String.append_assoc]

/-- What is written is read back, and it begins with a digit or with the sign of the dollar. -/
theorem readMoney?_moneyText (cents : Nat) (currency : String) :
    readMoney? (moneyText cents currency).toList = some (cents, currencyRead currency) ∧
      (moneyText cents currency).toList.head? ≠ some '-' := by
  obtain ⟨units, a, b, htext, hunits, hdecimals⟩ := toList_amountDigits cents
  have hcents : 100 * (cents / 100) + cents % 100 = cents := Nat.div_add_mod cents 100
  have hread (rest : List Char) := readHundredths?_append hunits hdecimals rest
  rw [hcents] at hread
  unfold moneyText currencyRead
  split_ifs with husd
  · have hmoney : ("$" ++ amountDigits cents).toList = '$' :: (units ++ '.' :: a :: b :: []) := by
      rw [String.toList_append, htext]
      rfl
    rw [hmoney, readMoney?, hread]
    exact ⟨rfl, by simp⟩
  · have hmoney : (amountDigits cents ++ " " ++ upper currency).toList =
        units ++ '.' :: a :: b :: ' ' :: (upper currency).toList := by
      rw [String.append_assoc, String.toList_append, htext, String.toList_append,
        List.append_assoc]
      rfl
    rw [hmoney, readMoney?_of_head? (hunits.head?_ne (by decide) _) (hread _),
      String.ofList_toList]
    exact ⟨rfl, hunits.head?_ne (by decide) _⟩

/-- The text of an amount is read back to the amount. -/
theorem readAmount?_formatAmount (cents : Int) (currency : String) :
    readAmount? (formatAmount cents currency) = some (cents, currencyRead currency) := by
  obtain ⟨hread, hhead⟩ := readMoney?_moneyText cents.natAbs currency
  rw [formatAmount_eq, readAmount?, String.toList_append]
  split_ifs with hneg
  · show (readMoney? (moneyText cents.natAbs currency).toList).map _ = _
    rw [hread, Option.map_some, Int.ofNat_natAbs_of_nonpos (Int.le_of_lt hneg), Int.neg_neg]
  · rw [String.toList_empty, List.nil_append]
    split
    next cs hcs => exact absurd (congrArg List.head? hcs) hhead
    next => rw [hread, Option.map_some, Int.natAbs_of_nonneg (Int.not_lt.1 hneg)]

/-! ## Words -/

/-- The absolute value of a signed word, in a word without a sign. -/
def unsignedAbs (a : Int64) : UInt64 :=
  if a < 0 then 0 - a.toUInt64 else a.toUInt64

/-- There is room for the absolute value of every word. -/
theorem toNat_unsignedAbs (a : Int64) : (unsignedAbs a).toNat = a.toInt.natAbs := by
  have hint : a.toInt = if 2 * a.toUInt64.toNat < 2 ^ 64 then (a.toUInt64.toNat : Int)
      else a.toUInt64.toNat - (2 ^ 64 : Nat) := BitVec.toInt_eq_toNat_cond a.toBitVec
  have hlt : a.toUInt64.toNat < 2 ^ 64 := a.toUInt64.toNat_lt
  have hneg : a < 0 ↔ a.toInt < 0 := Int64.lt_iff_toInt_lt
  have hsub := UInt64.toNat_sub 0 a.toUInt64
  rw [UInt64.toNat_zero] at hsub
  rw [unsignedAbs]
  -- The least word is its own negative, and without a sign it is its absolute value.
  split_ifs at hint with hsmall <;> split_ifs with h <;> rw [hneg] at h <;> omega

/-- The text of an amount as it is worked out in words of 64 bits. -/
def formatInWords (amount : Int64) (currency : String) : String :=
  let sign := if amount < 0 then "-" else ""
  let cents := unsignedAbs amount
  let rest := cents % 100
  let major := toString (cents / 100) ++ "." ++ (if rest < 10 then "0" else "") ++ toString rest
  if lowerAscii currency == "usd" then sign ++ "$" ++ major
  else sign ++ major ++ " " ++ upper currency

theorem formatInWords_eq (amount : Int64) (currency : String) :
    formatInWords amount currency = formatAmount amount.toInt currency := by
  have hneg : amount < 0 ↔ amount.toInt < 0 := Int64.lt_iff_toInt_lt
  have hsmall : unsignedAbs amount % 100 < 10 ↔ amount.toInt.natAbs % 100 < 10 := by
    rw [UInt64.lt_iff_toNat_lt, UInt64.toNat_mod, toNat_unsignedAbs]
    rfl
  have hunits : toString (unsignedAbs amount / 100) = toString (amount.toInt.natAbs / 100) := by
    show toString (unsignedAbs amount / 100).toNat = _
    rw [UInt64.toNat_div, toNat_unsignedAbs]
    rfl
  have hrest : toString (unsignedAbs amount % 100) = toString (amount.toInt.natAbs % 100) := by
    show toString (unsignedAbs amount % 100).toNat = _
    rw [UInt64.toNat_mod, toNat_unsignedAbs]
    rfl
  simp only [formatInWords, formatAmount, hneg, hsmall, hunits, hrest]

/-- The least amount, and one that is negative and less than a unit. -/
example : formatInWords Int64.minValue "usd" = "-$92233720368547758.08" ∧
    formatAmount (-5) "USD" = "-$0.05" := by
  decide +kernel

/-! ## The theorem -/

/-- **Amounts in mail.** The absolute value of every amount in a signed word of 64 bits is in a word
without a sign, and the text that is worked out with it in words is the text of the amount. The text
of an amount is read back to its sign, its whole units and two decimals, which make up the amount,
and to the currency. So two amounts in one currency have different texts. -/
theorem amounts_exact (currency : String) :
    (∀ amount : Int64, (unsignedAbs amount).toNat = amount.toInt.natAbs ∧
      formatInWords amount currency = formatAmount amount.toInt currency ∧
      readAmount? (formatInWords amount currency) =
        some (amount.toInt, currencyRead currency)) ∧
      (∀ cents : Int, readAmount? (formatAmount cents currency) =
        some (cents, currencyRead currency)) ∧
      Function.Injective fun cents => formatAmount cents currency := by
  refine ⟨fun amount => ⟨toNat_unsignedAbs amount, formatInWords_eq amount currency, ?_⟩,
    fun cents => readAmount?_formatAmount cents currency, ?_⟩
  · rw [formatInWords_eq, readAmount?_formatAmount]
  · intro c c' h
    have hread : readAmount? (formatAmount c currency) = readAmount? (formatAmount c' currency) :=
      congrArg readAmount? h
    rw [readAmount?_formatAmount, readAmount?_formatAmount] at hread
    exact (Prod.mk.inj (Option.some.inj hread)).1

end RiskReport

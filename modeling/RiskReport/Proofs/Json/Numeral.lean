import Mathlib.Tactic.SplitIfs
import RiskReport.Json.Number

/-!
# Numerals in front of something else

A numeral ends where no character of a numeral follows, so it is read as the same number whatever
stands after it (`Numeral.read`). Reading only ever looks at the next character or takes all digits
that follow; the lemmas on `Ahead` say that neither sees the difference between two cursors one of
which has more to come.
-/

namespace RiskReport.Json

variable {cs rest : List Char}

/-- The characters of numerals. -/
def InNumeral (c : Char) : Prop :=
  c.isDigit ∨ c ∈ ['.', 'e', 'E', '+', '-']

/-- The first character, if there is one, cannot go on a numeral. -/
def Delimited (cs : List Char) : Prop :=
  ∀ c ∈ cs.head?, ¬ InNumeral c

theorem delimited_nil : Delimited [] := by
  simp [Delimited]

theorem delimited_cons {x : Char} (h : ¬ InNumeral x) : Delimited (x :: cs) := by
  rintro _ ⟨⟩
  exact h

/-- The characters are a numeral, which is read as this number. -/
def Numeral (n : Number) (cs : List Char) : Prop :=
  ∃ place, readNumber ⟨cs, 0⟩ = .ok (n, ⟨[], place⟩)

/-- One cursor has more characters to come than the other. -/
def Ahead (rest : List Char) (c d : Cursor) : Prop :=
  d.rest = c.rest ++ rest

section

variable {c d : Cursor}

theorem rest_ne_nil_of_peek {p : Char → Bool} (h : p c.peek) (hp : p '\x00' = false) :
    c.rest ≠ [] := by
  intro hc
  rw [Cursor.peek, hc, List.headD_nil, hp] at h
  exact Bool.false_ne_true h

theorem Ahead.eat (h : Ahead rest c d) (hc : c.rest ≠ []) : Ahead rest c.eat d.eat := by
  obtain ⟨x, xs, hx⟩ := List.exists_cons_of_ne_nil hc
  rw [Ahead, hx] at h
  simp [Ahead, Cursor.eat, h, hx]

/-- Where a numeral may go on, what comes after it makes no difference. -/
theorem Ahead.peek (h : Ahead rest c d) (hd : Delimited rest) {p : Char → Bool}
    (hp : ∀ x, p x → InNumeral x) : p d.peek = p c.peek := by
  have stops (x : Char) (hx : ¬ InNumeral x) : p x = false :=
    Bool.eq_false_iff.2 fun h => hx (hp x h)
  cases hc : c.rest with
  | cons x xs =>
    rw [Ahead, hc] at h
    rw [Cursor.peek, Cursor.peek, h, hc, List.cons_append, List.headD_cons, List.headD_cons]
  | nil =>
    rw [Ahead, hc, List.nil_append] at h
    rw [Cursor.peek, Cursor.peek, h, hc, List.headD_nil, stops '\x00' (by simp [InNumeral])]
    cases rest with
    | nil => exact stops _ (by simp [InNumeral])
    | cons x xs => exact stops x (hd x rfl)

theorem Ahead.peek_eq (h : Ahead rest c d) (hd : Delimited rest) {x : Char} (hx : InNumeral x) :
    (d.peek == x) = (c.peek == x) :=
  h.peek hd (p := (· == x)) fun y hy => by rwa [eq_of_beq hy]

theorem Ahead.isDigit (h : Ahead rest c d) (hd : Delimited rest) :
    d.peek.isDigit = c.peek.isDigit :=
  h.peek hd fun _ hx => .inl hx

theorem Ahead.digits (h : Ahead rest c d) (hd : Delimited rest) :
    d.digits.1 = c.digits.1 ∧ Ahead rest c.digits.2 d.digits.2 := by
  have hr : rest.takeWhile Char.isDigit = [] ∧ rest.dropWhile Char.isDigit = rest := by
    cases rest with
    | nil => exact ⟨rfl, rfl⟩
    | cons x xs =>
      have hx : ¬ x.isDigit := fun hx => hd x rfl (.inl hx)
      exact ⟨List.takeWhile_cons_of_neg hx, List.dropWhile_cons_of_neg hx⟩
  rw [Ahead] at h
  simp only [Ahead, Cursor.digits, h]
  induction c.rest with
  | nil => exact hr
  | cons x xs ih =>
    by_cases hx : x.isDigit
    · simpa [hx] using ih
    · simp [hx]

theorem Ahead.floatAt (h : Ahead rest c d) {negative : Bool} {s : Nat} {e : Int} {n : Number}
    {c' : Cursor} (hc : floatAt c negative s e = .ok (n, c')) :
    ∃ d', Json.floatAt d negative s e = .ok (n, d') ∧ Ahead rest c' d' := by
  unfold Json.floatAt at hc ⊢
  cases hx : Decimal.Binary64.ofDecimal negative s e with
  | none => simp [hx] at hc
  | some x =>
    obtain ⟨rfl, rfl⟩ : Number.float x = n ∧ c = c' := by simpa [hx] using hc
    exact ⟨d, rfl, h⟩

theorem Ahead.ne_nil (h : Ahead rest c d) (hc : c.rest ≠ []) : d.rest ≠ [] := by
  rw [h]
  exact List.append_ne_nil_of_left_ne_nil hc rest

theorem Ahead.eatIf (h : Ahead rest c d) {b : Bool} (hb : b → c.rest ≠ []) :
    Ahead rest (if b then c.eat else c) (if b then d.eat else d) := by
  cases b with
  | false => exact h
  | true => exact h.eat (hb rfl)

theorem Ahead.readExponent (h : Ahead rest c d) (hd : Delimited rest) (hne : c.rest ≠ [])
    {negative : Bool} {s : Nat} {e : Int} {n : Number} {c' : Cursor}
    (hc : readExponent c negative s e = .ok (n, c')) :
    ∃ d', Json.readExponent d negative s e = .ok (n, d') ∧ Ahead rest c' d' := by
  have heat := h.eat hne
  have hsign := heat.eatIf fun hb =>
    rest_ne_nil_of_peek (p := fun x => x == '+' || x == '-') hb rfl
  unfold Json.readExponent at hc ⊢
  simp only [heat.peek_eq hd (x := '+') (.inr (by decide)),
    heat.peek_eq hd (x := '-') (.inr (by decide))] at hc ⊢
  generalize (if (c.eat.peek == '+' || c.eat.peek == '-') = true then c.eat.eat else c.eat) = c₁
    at hc hsign
  generalize (if (c.eat.peek == '+' || c.eat.peek == '-') = true then d.eat.eat else d.eat) = d₁
    at hsign ⊢
  have hdigits := hsign.digits hd
  have hc₁ : c₁.rest ≠ [] := by
    intro he
    simp [he] at hc
  simp only [List.isEmpty_iff, hc₁, hsign.ne_nil hc₁, if_false, hsign.isDigit hd, hdigits.1] at hc ⊢
  split_ifs at hc ⊢
  · obtain ⟨rfl, rfl⟩ : Number.float _ = n ∧ _ = c' := by simpa using hc
    exact ⟨_, rfl, hdigits.2⟩
  · exact hdigits.2.floatAt hc
  · exact hdigits.2.floatAt hc

theorem Ahead.readFraction (h : Ahead rest c d) (hd : Delimited rest) (hne : c.rest ≠ [])
    {negative : Bool} {s : Nat} {e : Int} {n : Number} {c' : Cursor}
    (hc : readFraction c negative s e = .ok (n, c')) :
    ∃ d', Json.readFraction d negative s e = .ok (n, d') ∧ Ahead rest c' d' := by
  have hdigits := (h.eat hne).digits hd
  unfold Json.readFraction at hc ⊢
  simp only [hdigits.1, hdigits.2.peek_eq hd (x := 'e') (.inr (by decide)),
    hdigits.2.peek_eq hd (x := 'E') (.inr (by decide))] at hc ⊢
  split_ifs at hc ⊢ with _ he
  · have hne := rest_ne_nil_of_peek (p := fun x => x == 'e' || x == 'E') he rfl
    exact hdigits.2.readExponent hd hne hc
  · exact hdigits.2.floatAt hc

theorem Ahead.readNumber (h : Ahead rest c d) (hd : Delimited rest) {n : Number} {c' : Cursor}
    (hc : readNumber c = .ok (n, c')) :
    ∃ d', Json.readNumber d = .ok (n, d') ∧ Ahead rest c' d' := by
  have hsign := h.eatIf fun hb => rest_ne_nil_of_peek (p := (· == '-')) hb rfl
  unfold Json.readNumber at hc ⊢
  simp only [h.peek_eq hd (x := '-') (.inr (by decide))] at hc ⊢
  generalize (if (c.peek == '-') = true then c.eat else c) = c₁ at hc hsign
  generalize (if (c.peek == '-') = true then d.eat else d) = d₁ at hsign ⊢
  have hdigits := hsign.digits hd
  have hc₁ : c₁.rest ≠ [] := by
    intro he
    simp [he] at hc
  simp only [List.isEmpty_iff, hc₁, hsign.ne_nil hc₁, if_false, hsign.isDigit hd, hdigits.1,
    hsign.peek_eq hd (x := '0') (.inl (by decide)), (hsign.eat hc₁).isDigit hd,
    hdigits.2.peek_eq hd (x := '.') (.inr (by decide)),
    hdigits.2.peek_eq hd (x := 'e') (.inr (by decide)),
    hdigits.2.peek_eq hd (x := 'E') (.inr (by decide))] at hc ⊢
  split_ifs at hc ⊢ with _ _ hpoint hletter
  · have hne := rest_ne_nil_of_peek (p := (· == '.')) hpoint rfl
    exact hdigits.2.readFraction hd hne hc
  · have hne := rest_ne_nil_of_peek (p := fun x => x == 'e' || x == 'E') hletter rfl
    exact hdigits.2.readExponent hd hne hc
  · exact hdigits.2.floatAt hc
  all_goals
    obtain ⟨rfl, rfl⟩ := Prod.mk.inj (Except.ok.inj hc)
    exact ⟨_, rfl, hdigits.2⟩

end

/-- A numeral is read whatever follows it that is no part of it. -/
theorem Numeral.read {n : Number} (h : Numeral n cs) (hd : Delimited rest) (place : Nat) :
    ∃ place', readNumber ⟨cs ++ rest, place⟩ = .ok (n, ⟨rest, place'⟩) := by
  obtain ⟨_, h⟩ := h
  have ahead : Ahead rest ⟨cs, 0⟩ ⟨cs ++ rest, place⟩ := rfl
  obtain ⟨⟨_, place'⟩, hread, hrest⟩ := ahead.readNumber hd h
  obtain rfl : _ = rest := hrest
  exact ⟨place', hread⟩

/-- A numeral begins with its sign or a digit. -/
theorem Numeral.begins {n : Number} (h : Numeral n cs) :
    ∃ x xs, cs = x :: xs ∧ (x = '-' ∨ x.isDigit) := by
  obtain ⟨_, h⟩ := h
  cases cs with
  | nil => simp [readNumber, Cursor.peek] at h
  | cons x xs =>
    by_cases hx : x = '-'
    · exact ⟨x, xs, rfl, .inl hx⟩
    cases hdigit : x.isDigit with
    | true => exact ⟨x, xs, rfl, .inr hdigit⟩
    | false => simp [readNumber, Cursor.peek, hx, hdigit] at h

end RiskReport.Json

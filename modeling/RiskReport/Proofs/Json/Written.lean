import Mathlib.Data.List.Nodup
import RiskReport.Json.Text
import RiskReport.Proofs.Json.Numeral

/-!
# The texts of a JSON value

`Json.Written` is the grammar of JSON: which texts a value may be written as. Blanks may stand
before and after every part, a character of a string may be written plainly or by any of its
escapes, and the fields of an object may stand in any order, each key once. A numeral stands for
the number that it is read as (`Numeral`); all that matters here is that it is read so whatever
follows it (`Numeral.read`).

The lists of an array and of an object are parts of their own (`Piece`). Their texts reach up to the
closing bracket, and a separator stands before each member, which is how the reader goes over them.
-/

namespace RiskReport.Json

variable {cs ds rest : List Char}

/-! ## Blanks -/

/-- The blanks of JSON: space, line feed, tab and carriage return. -/
def Blank (c : Char) : Prop :=
  c = ' ' ∨ c = '\n' ∨ c = '\t' ∨ c = '\r'

/-- Some blanks, or none. -/
def Blanks (cs : List Char) : Prop :=
  ∀ c ∈ cs, Blank c

theorem blanks_nil : Blanks [] :=
  List.forall_mem_nil _

/-- The first character, if there is one, is no blank. -/
def Unblank (cs : List Char) : Prop :=
  ∀ c ∈ cs.head?, ¬ Blank c

theorem unblank_cons {x : Char} (h : ¬ Blank x) : Unblank (x :: cs) := by
  rintro _ ⟨⟩
  exact h

theorem skipBlanks_of_unblank (h : Unblank cs) (place : Nat) :
    Cursor.skipBlanks ⟨cs, place⟩ = ⟨cs, place⟩ := by
  cases cs with
  | nil => rfl
  | cons x xs =>
    have hx : ¬ Blank x := h x rfl
    rw [Blank, ← or_assoc, ← or_assoc] at hx
    simp [Cursor.skipBlanks, Cursor.skipBlanks.go, hx]

/-- The blanks in front of something else are passed over, a byte each. -/
theorem skipBlanks_append {b : List Char} (hb : Blanks b) (h : Unblank cs) (place : Nat) :
    Cursor.skipBlanks ⟨b ++ cs, place⟩ = ⟨cs, place + b.length⟩ := by
  induction b generalizing place with
  | nil => exact skipBlanks_of_unblank h place
  | cons x xs ih =>
    have hx : Blank x := hb x List.mem_cons_self
    have ih := ih (fun c hc => hb c (List.mem_cons_of_mem x hc)) (place + 1)
    rw [Blank, ← or_assoc, ← or_assoc] at hx
    simp only [Cursor.skipBlanks] at ih
    simp [Cursor.skipBlanks, Cursor.skipBlanks.go, hx, ih, Nat.add_assoc, Nat.add_comm 1]

/-! ## Strings -/

/-- The ways to write a character of a string. -/
inductive Spelling : Char → List Char → Prop
  | plain {c : Char} (quote : c ≠ '"') (backslash : c ≠ '\\') (control : 0x20 ≤ c.toNat) :
      Spelling c [c]
  | short {c e : Char} (h : shortEscape? e = some c) : Spelling c ['\\', e]
  | unit {u v w x : Char} {n : Nat} (h : hex4? u v w x = some n)
      (surrogate : ¬ (0xD800 ≤ n ∧ n ≤ 0xDFFF)) : Spelling (Char.ofNat n) ['\\', 'u', u, v, w, x]
  | pair {u v w x u' v' w' x' : Char} {high low : Nat} (h : hex4? u v w x = some high)
      (first : 0xD800 ≤ high ∧ high ≤ 0xDBFF) (h' : hex4? u' v' w' x' = some low)
      (second : 0xDC00 ≤ low ∧ low ≤ 0xDFFF) :
      Spelling (joinSurrogates high low) ['\\', 'u', u, v, w, x, '\\', 'u', u', v', w', x']

/-- The ways to write the characters of a string between its quotes. -/
inductive Spelled : List Char → List Char → Prop
  | nil : Spelled [] []
  | cons {c : Char} {text cs ts : List Char} (h : Spelling c text) (hs : Spelled cs ts) :
      Spelled (c :: cs) (text ++ ts)

theorem readHex4_eq {u v w x : Char} {n : Nat} (h : hex4? u v w x = some n) (place : Nat) :
    readHex4 (u :: v :: w :: x :: rest) place = .ok n := by
  simp [readHex4, h]

/-- A character is read however it is spelled. -/
theorem Spelling.read {c : Char} {text : List Char} (h : Spelling c text)
    (done rest : List Char) (place : Nat) :
    ∃ place', readText done (text ++ rest) place = readText (c :: done) rest place' := by
  cases h with
  | plain quote backslash control =>
    have hc : ¬ c.toNat < 0x20 := Nat.not_lt.mpr control
    refine ⟨place + c.utf8Size, ?_⟩
    rw [List.singleton_append, readText, if_neg hc]
    · exact quote
    · exact fun h _ => backslash h
    · exact fun _ h _ => backslash h
    · exact fun _ _ h _ => backslash h
  | short h =>
    rename_i e
    -- The pattern of a short escape is told apart from that of the longer ones.
    have he : e ≠ 'u' := by
      rintro rfl
      simp [shortEscape?] at h
    refine ⟨place + 2, ?_⟩
    simp only [List.cons_append, List.nil_append]
    rw [readText.eq_def]
    simp only [h]
  | unit h surrogate =>
    refine ⟨place + 6, ?_⟩
    simp only [List.cons_append, List.nil_append]
    rw [readText.eq_def]
    simp only [readHex4_eq h]
    rw [if_neg (by simp; omega), if_neg (by simp; omega)]
    rfl
  | pair h first h' second =>
    refine ⟨place + 12, ?_⟩
    simp only [List.cons_append, List.nil_append]
    rw [readText.eq_def]
    simp only [readHex4_eq h]
    rw [if_neg (by simp; omega), if_pos (by simpa using first)]
    simp [readLowSurrogate, readHex4_eq h', second]

/-- A string is read up to its closing quote. -/
theorem Spelled.read {s ts : List Char} (h : Spelled s ts) (done rest : List Char) (place : Nat) :
    ∃ place', readText done (ts ++ '"' :: rest) place =
      .ok (String.ofList (done.reverse ++ s), ⟨rest, place'⟩) := by
  induction h generalizing done place with
  | nil => exact ⟨place + 1, by rw [List.nil_append, readText, List.append_nil]⟩
  | @cons c text s ts h _ ih =>
    obtain ⟨place₁, h₁⟩ := h.read done (ts ++ '"' :: rest) place
    obtain ⟨place₂, h₂⟩ := ih (c :: done) place₁
    refine ⟨place₂, ?_⟩
    rw [List.append_assoc, h₁, h₂, List.reverse_cons, List.append_assoc, List.singleton_append]

theorem Spelled.read_string {s : String} {ts : List Char} (h : Spelled s.toList ts)
    (rest : List Char) (place : Nat) :
    ∃ place', readText [] (ts ++ '"' :: rest) place = .ok (s, ⟨rest, place'⟩) := by
  obtain ⟨place', hread⟩ := h.read [] rest place
  rw [List.reverse_nil, List.nil_append, String.ofList_toList] at hread
  exact ⟨place', hread⟩

/-! ## Values -/

/-- What the grammar of JSON tells the texts of: a value, or the members of an array or an object
up to the closing bracket, of which the first one of all may still be to come. -/
inductive Piece where
  | value (v : Json)
  | items (first : Bool) (vs : List Json)
  | fields (first : Bool) (fs : List (String × Json))

/-- What stands in front of a member: blanks, with a comma among them unless it is the first. -/
inductive Separator : Bool → List Char → Prop
  | first {b : List Char} (h : Blanks b) : Separator true b
  | next {b b' : List Char} (h : Blanks b) (h' : Blanks b') : Separator false (b ++ ',' :: b')

/-- The texts that a piece may be written as. -/
inductive Written : Piece → List Char → Prop
  | null : Written (.value .null) ['n', 'u', 'l', 'l']
  | bool (b : Bool) : Written (.value (.bool b)) (toString b).toList
  | number {n : Number} {cs : List Char} (h : Numeral n cs) : Written (.value (.number n)) cs
  | string {s : String} {cs : List Char} (h : Spelled s.toList cs) :
      Written (.value (.string s)) ('"' :: (cs ++ ['"']))
  | array {vs : List Json} {cs : List Char} (h : Written (.items true vs) cs) :
      Written (.value (.array vs)) ('[' :: cs)
  | object {fs gs : List (String × Json)} {cs : List Char} (distinct : (fs.map (·.1)).Nodup)
      (order : gs.Perm fs) (h : Written (.fields true gs) cs) :
      Written (.value (.object fs)) ('{' :: cs)
  | noItems {first : Bool} {b : List Char} (h : Blanks b) :
      Written (.items first []) (b ++ [']'])
  | item {first : Bool} {v : Json} {vs : List Json} {sep cs ds : List Char}
      (hsep : Separator first sep) (hv : Written (.value v) cs)
      (hvs : Written (.items false vs) ds) :
      Written (.items first (v :: vs)) (sep ++ (cs ++ ds))
  | noFields {first : Bool} {b : List Char} (h : Blanks b) :
      Written (.fields first []) (b ++ ['}'])
  | field {first : Bool} {k : String} {v : Json} {fs : List (String × Json)}
      {sep ks b b' cs ds : List Char} (hsep : Separator first sep) (hk : Spelled k.toList ks)
      (hb : Blanks b) (hb' : Blanks b') (hv : Written (.value v) cs)
      (hfs : Written (.fields false fs) ds) :
      Written (.fields first ((k, v) :: fs))
        (sep ++ '"' :: (ks ++ '"' :: (b ++ ':' :: (b' ++ (cs ++ ds)))))

/-- A text holds one value and nothing else but blanks. -/
def WrittenAs (v : Json) (s : String) : Prop :=
  ∃ b cs b', Blanks b ∧ Written (.value v) cs ∧ Blanks b' ∧ s.toList = b ++ (cs ++ b')

/-- The characters that values begin with. -/
def Begins (cs : List Char) : Prop :=
  ∃ x xs, cs = x :: xs ∧ (x ∈ ['n', 't', 'f', '"', '[', '{', '-'] ∨ x.isDigit)

/-- The text of a value begins with none of the characters that end or separate members. -/
theorem Written.begins {v : Json} (h : Written (.value v) cs) : Begins cs := by
  cases h with
  | number h =>
    obtain ⟨x, xs, rfl, hx⟩ := h.begins
    exact ⟨x, xs, rfl, hx.imp (by rintro rfl; decide) id⟩
  | bool b => cases b <;> exact ⟨_, _, rfl, .inl (by decide)⟩
  | null | string | array | object => exact ⟨_, _, rfl, .inl (by decide)⟩

/-- No piece is written as nothing, so reading uses up its fuel no faster than the text. -/
theorem Written.length_pos {p : Piece} (h : Written p cs) : 0 < cs.length := by
  induction h with
  | number h =>
    obtain ⟨x, xs, rfl, -⟩ := h.begins
    simp
  | bool b => cases b <;> decide
  | item _ _ _ ih =>
    simp only [List.length_append]
    omega
  | field _ _ _ _ _ _ ih =>
    simp only [List.length_append, List.length_cons]
    omega
  | _ => simp

theorem Begins.append (h : Begins cs) (rest : List Char) : Begins (cs ++ rest) := by
  obtain ⟨x, xs, rfl, hx⟩ := h
  exact ⟨x, xs ++ rest, rfl, hx⟩

theorem Begins.unblank (h : Begins cs) : Unblank cs := by
  obtain ⟨x, xs, rfl, hx⟩ := h
  rintro _ ⟨⟩ hb
  revert hx
  rcases hb with rfl | rfl | rfl | rfl <;> decide

theorem Blanks.delimited {b : List Char} (h : Blanks b) (hcs : Delimited cs) :
    Delimited (b ++ cs) := by
  cases b with
  | nil => exact hcs
  | cons x xs =>
    refine delimited_cons ?_
    rcases h x List.mem_cons_self with rfl | rfl | rfl | rfl <;> simp [InNumeral]

theorem Separator.delimited {sep : List Char} (h : Separator false sep) :
    Delimited (sep ++ cs) := by
  cases h with
  | next hb hb' =>
    rw [List.append_assoc]
    exact hb.delimited (delimited_cons (by simp [InNumeral]))

/-- No numeral goes on into the members that follow. -/
theorem Written.delimited_items {vs : List Json} (h : Written (.items false vs) cs) :
    Delimited (cs ++ rest) := by
  cases h with
  | noItems hb =>
    rw [List.append_assoc]
    exact hb.delimited (delimited_cons (by simp [InNumeral]))
  | item hsep =>
    rw [List.append_assoc]
    exact hsep.delimited

theorem Written.delimited_fields {fs : List (String × Json)} (h : Written (.fields false fs) cs) :
    Delimited (cs ++ rest) := by
  cases h with
  | noFields hb =>
    rw [List.append_assoc]
    exact hb.delimited (delimited_cons (by simp [InNumeral]))
  | field hsep =>
    rw [List.append_assoc]
    exact hsep.delimited

/-- The fields of an object end with its brace. -/
theorem Written.getLast?_fields {first : Bool} {fs : List (String × Json)}
    (h : Written (.fields first fs) cs) : cs.getLast? = some '}' := by
  generalize hp : Piece.fields first fs = p at h
  induction h generalizing first fs with
  | noFields => simp
  | field _ _ _ _ _ _ _ ih => simp [List.getLast?_append, List.getLast?_cons, ih rfl]
  | _ => cases hp

end RiskReport.Json

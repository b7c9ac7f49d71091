import RiskReport.Json.Fault
import RiskReport.Proofs.Json.Written

/-!
# Reading what is written

A text that is written by the grammar is read without a flaw, to a document that shows the value it
was written for (`Written.read`, `WrittenAs.read`). A document shows an object by the object's
fields in the order in which they were written.
-/

namespace RiskReport.Json

variable {cs rest : List Char} {depth : Nat}

/-! ## Documents of a value -/

/-- The container has its closing bracket, or never was written. -/
def Ending.Whole : Ending → Prop
  | .unwritten | .closed _ => True
  | .cut .. | .lost => False

mutual

/-- A node at some depth is without a flaw, and its value is this one. -/
def Shows (depth : Nat) : Node → Json → Prop
  | .null _, .null => True
  | .bool b _, .bool b' => b = b'
  | .number n _, .number n' => n = n'
  | .text s _, .string s' => s = s'
  | .array ns ending _ deep, .array vs =>
    ending.Whole ∧ (deep → depthLimit ≤ depth + 1) ∧ ShowsItems (depth + 1) ns vs
  | .object ns ending _ deep, .object fs =>
    ending.Whole ∧ (deep → depthLimit ≤ depth + 1) ∧ (fs.map (·.1)).Nodup ∧
      ∃ gs, gs.Perm fs ∧ ShowsFields (depth + 1) ns gs
  | _, _ => False

/-- Nodes show values, one each. -/
def ShowsItems (depth : Nat) : List Node → List Json → Prop
  | [], [] => True
  | n :: ns, v :: vs => Shows depth n v ∧ ShowsItems depth ns vs
  | _, _ => False

/-- Labelled nodes show fields, one each. -/
def ShowsFields (depth : Nat) : List (Label × Node) → List (String × Json) → Prop
  | [], [] => True
  | (label, n) :: ns, (k, v) :: fs =>
    label.key = .text k ∧ Shows depth n v ∧ ShowsFields depth ns fs
  | _, _ => False

end

theorem shows_number {n : Node} {m : Number} :
    Shows depth n (.number m) ↔ ∃ span, n = .number m span := by
  cases n <;> simp [Shows]

theorem shows_string {n : Node} {s : String} :
    Shows depth n (.string s) ↔ ∃ span, n = .text s span := by
  cases n <;> simp [Shows]

theorem shows_array {n : Node} {vs : List Json} :
    Shows depth n (.array vs) ↔
      ∃ ns ending start deep, n = .array ns ending start deep ∧ ending.Whole ∧
        (deep → depthLimit ≤ depth + 1) ∧ ShowsItems (depth + 1) ns vs := by
  constructor
  · intro h
    cases n with
    | array ns ending start deep => exact ⟨ns, ending, start, deep, rfl, h⟩
    | _ => exact h.elim
  · rintro ⟨ns, ending, start, deep, rfl, h⟩
    exact h

theorem shows_object {n : Node} {fs : List (String × Json)} :
    Shows depth n (.object fs) ↔
      ∃ ns ending start deep, n = .object ns ending start deep ∧ ending.Whole ∧
        (deep → depthLimit ≤ depth + 1) ∧ (fs.map (·.1)).Nodup ∧
        ∃ gs, gs.Perm fs ∧ ShowsFields (depth + 1) ns gs := by
  constructor
  · intro h
    cases n with
    | object ns ending start deep => exact ⟨ns, ending, start, deep, rfl, h⟩
    | _ => exact h.elim
  · rintro ⟨ns, ending, start, deep, rfl, h⟩
    exact h

theorem showsItems_nil {ns : List Node} : ShowsItems depth ns [] ↔ ns = [] := by
  cases ns <;> simp [ShowsItems]

theorem showsItems_cons {ns : List Node} {v : Json} {vs : List Json} :
    ShowsItems depth ns (v :: vs) ↔
      ∃ n ns', ns = n :: ns' ∧ Shows depth n v ∧ ShowsItems depth ns' vs := by
  cases ns <;> simp [ShowsItems]

theorem showsFields_nil {ns : List (Label × Node)} : ShowsFields depth ns [] ↔ ns = [] := by
  cases ns <;> simp [ShowsFields]

theorem showsFields_cons {ns : List (Label × Node)} {f : String × Json}
    {fs : List (String × Json)} :
    ShowsFields depth ns (f :: fs) ↔
      ∃ label n ns', ns = (label, n) :: ns' ∧ label.key = .text f.1 ∧ Shows depth n f.2 ∧
        ShowsFields depth ns' fs := by
  cases ns with
  | nil => simp [ShowsFields]
  | cons n ns =>
    cases n
    simp [ShowsFields]

theorem Ending.Whole.check {ending : Ending} (h : ending.Whole) (wording : Cut → SyntaxError) :
    ∃ place, ending.check wording = .ok place := by
  cases ending with
  | unwritten => exact ⟨none, rfl⟩
  | closed stop => exact ⟨some stop, rfl⟩
  | cut | lost => exact h.elim

mutual

/-- A node that shows a value may be passed over. -/
theorem Shows.skip {depth : Nat} : ∀ {n : Node} {v : Json}, Shows depth n v → n.skip = .ok ()
  | .null _, _, _ | .bool _ _, _, _ | .number _ _, _, _ | .text _ _, _, _ => by
    simp [Node.skip]
  | .array ns ending start deep, .array vs, h => by
    obtain ⟨whole, -, hns⟩ := h
    obtain ⟨place, hplace⟩ := whole.check Cut.skippingList
    rw [Node.skip, hns.skip, hplace]
    rfl
  | .object ns ending start deep, .object fs, h => by
    obtain ⟨whole, -, -, gs, -, hns⟩ := h
    obtain ⟨place, hplace⟩ := whole.check Cut.skippingObject
    rw [Node.skip, hns.skip, hplace]
    rfl

theorem ShowsItems.skip {depth : Nat} :
    ∀ {ns : List Node} {vs : List Json}, ShowsItems depth ns vs → skipItems ns = .ok ()
  | [], [], _ => rfl
  | n :: ns, v :: vs, ⟨h, hs⟩ => by
    rw [skipItems, h.skip, hs.skip]
    rfl

theorem ShowsFields.skip {depth : Nat} :
    ∀ {ns : List (Label × Node)} {fs : List (String × Json)},
      ShowsFields depth ns fs → skipFields ns = .ok ()
  | [], [], _ => rfl
  | (label, n) :: ns, (k, v) :: fs, ⟨hk, h, hs⟩ => by
    rw [skipFields, hk, h.skip, hs.skip]
    rfl

end

/-! ### Documents of values that were never written -/

theorem showsItems_ofItems {vs : List Json} (h : ∀ v ∈ vs, Shows depth (Node.ofJson v) v) :
    ShowsItems depth (Node.ofItems vs) vs := by
  induction vs with
  | nil => trivial
  | cons v vs ih =>
    exact ⟨h v List.mem_cons_self, ih fun w hw => h w (List.mem_cons_of_mem v hw)⟩

theorem showsFields_ofFields {fs : List (String × Json)}
    (h : ∀ f ∈ fs, Shows depth (Node.ofJson f.2) f.2) :
    ShowsFields depth (Node.ofFields fs) fs := by
  induction fs with
  | nil => trivial
  | cons f fs ih =>
    exact ⟨rfl, h f List.mem_cons_self, ih fun g hg => h g (List.mem_cons_of_mem f hg)⟩

/-- The document of an array shows it if those of the items do. -/
theorem shows_ofJson_array {vs : List Json} (h : ∀ v ∈ vs, Shows (depth + 1) (Node.ofJson v) v) :
    Shows depth (Node.ofJson (.array vs)) (.array vs) :=
  ⟨trivial, Bool.false_ne_true.elim, showsItems_ofItems h⟩

/-- The document of an object shows it if the keys are distinct and those of the fields do. -/
theorem shows_ofJson_object {fs : List (String × Json)} (distinct : (fs.map (·.1)).Nodup)
    (h : ∀ f ∈ fs, Shows (depth + 1) (Node.ofJson f.2) f.2) :
    Shows depth (Node.ofJson (.object fs)) (.object fs) :=
  ⟨trivial, Bool.false_ne_true.elim, distinct, fs, .refl fs, showsFields_ofFields h⟩

/-! ## Reading -/

/-- Past a separator the reader goes on with the item. -/
theorem readItems_separator {first : Bool} {sep : List Char} {fuel place : Nat} {n : Node}
    {after : Cursor} {r : List Node × Ending × Option Cursor} (hsep : Separator first sep)
    (hcs : Begins cs)
    (hv : readValue fuel depth ⟨cs, place + sep.length⟩ = (n, some after))
    (hvs : readItems fuel depth false after = r) :
    readItems (fuel + 1) depth first ⟨sep ++ cs, place⟩ = (n :: r.1, r.2.1, r.2.2) := by
  have hblank := hcs.unblank
  obtain ⟨x, xs, rfl, hx⟩ := hcs
  have hclose : x ≠ ']' := by
    rintro rfl
    revert hx
    decide
  rw [readItems]
  cases hsep with
  | first hb =>
    simp [skipBlanks_append hb hblank, hclose, hv, hvs]
  | @next b b' hb hb' =>
    have hcomma : Unblank (',' :: (b' ++ x :: xs)) := unblank_cons (by simp [Blank])
    simp only [List.append_assoc, List.cons_append]
    rw [List.length_append, List.length_cons, Nat.add_comm b'.length] at hv
    simp [skipBlanks_append hb hcomma, Cursor.eat, skipBlanks_append hb' hblank, hclose, hv, hvs,
      Nat.add_assoc]

/-- A key is read up to its closing quote. -/
theorem readKey_spelled {k : String} {ks : List Char} (h : Spelled k.toList ks)
    (rest : List Char) (place : Nat) :
    ∃ place', readKey ⟨'"' :: (ks ++ '"' :: rest), place⟩ = (.text k, some ⟨rest, place'⟩) := by
  obtain ⟨place', hread⟩ := h.read_string rest (place + 1)
  exact ⟨place', by simp [readKey, hread]⟩

/-- Past a separator, a key and its colon the reader goes on with the value. -/
theorem readFields_separator {first : Bool} {k : String} {sep ks b b' : List Char}
    (hsep : Separator first sep) (hk : Spelled k.toList ks) (hb : Blanks b) (hb' : Blanks b')
    (hcs : Begins cs) (fuel depth place : Nat) :
    ∃ place', ∀ {n : Node} {after : Cursor} {r : List (Label × Node) × Ending × Option Cursor},
      readValue fuel depth ⟨cs, place'⟩ = (n, some after) →
      readFields fuel depth false after = r →
      ∃ label : Label, label.key = .text k ∧
        readFields (fuel + 1) depth first
          ⟨sep ++ '"' :: (ks ++ '"' :: (b ++ ':' :: (b' ++ cs))), place⟩ =
        ((label, n) :: r.1, r.2.1, r.2.2) := by
  have hcolon : Unblank (':' :: (b' ++ cs)) := unblank_cons (by simp [Blank])
  have hquote : Unblank ('"' :: (ks ++ '"' :: (b ++ ':' :: (b' ++ cs)))) :=
    unblank_cons (by simp [Blank])
  obtain ⟨place₁, hkey⟩ :=
    readKey_spelled hk (b ++ ':' :: (b' ++ cs)) (place + sep.length)
  refine ⟨place₁ + b.length + 1 + b'.length, fun hv hfs => ?_⟩
  rw [readFields]
  cases hsep with
  | first hsep =>
    simp [skipBlanks_append hsep hquote, hkey, skipBlanks_append hb hcolon, Cursor.eat,
      skipBlanks_append hb' hcs.unblank, hv, hfs]
  | @next c c' hc hc' =>
    have hcomma : Unblank (',' :: (c' ++ '"' :: (ks ++ '"' :: (b ++ ':' :: (b' ++ cs))))) :=
      unblank_cons (by simp [Blank])
    rw [List.length_append, List.length_cons, Nat.add_comm c'.length] at hkey
    simp [skipBlanks_append hc hcomma, skipBlanks_append hc' hquote, Nat.add_assoc, hkey,
      skipBlanks_append hb hcolon, Cursor.eat, skipBlanks_append hb' hcs.unblank, ← hfs]
    simp [← Nat.add_assoc, hv]

/-- What reading makes of a piece that is written so. Each character takes at most two units of the
fuel, one for the value that it begins and one for the list that the value is a member of. -/
def Piece.ReadFrom (cs : List Char) : Piece → Prop
  | .value v => ∀ fuel depth place rest, 2 * cs.length ≤ fuel → Delimited rest →
      ∃ n place', readValue (fuel + 1) depth ⟨cs ++ rest, place⟩ = (n, some ⟨rest, place'⟩) ∧
        Shows depth n v
  | .items first vs => ∀ fuel depth place rest, 2 * cs.length ≤ fuel →
      ∃ ns stop place', readItems (fuel + 1) depth first ⟨cs ++ rest, place⟩ =
        (ns, .closed stop, some ⟨rest, place'⟩) ∧ ShowsItems depth ns vs
  | .fields first fs => ∀ fuel depth place rest, 2 * cs.length ≤ fuel →
      ∃ ns stop place', readFields (fuel + 1) depth first ⟨cs ++ rest, place⟩ =
        (ns, .closed stop, some ⟨rest, place'⟩) ∧ ShowsFields depth ns fs

/-- A numeral is read as a value. -/
theorem readValue_number {n : Number} (h : Numeral n cs) (hrest : Delimited rest)
    (fuel depth place : Nat) :
    ∃ place', readValue (fuel + 1) depth ⟨cs ++ rest, place⟩ =
      (.number n (some ⟨place, place'⟩), some ⟨rest, place'⟩) := by
  obtain ⟨place', hread⟩ := h.read hrest place
  obtain ⟨x, xs, rfl, hx⟩ := h.begins
  have hnode : numberNode ⟨x :: xs ++ rest, place⟩ =
      (.number n (some ⟨place, place'⟩), some ⟨rest, place'⟩) := by
    rw [numberNode, hread]
  -- A sign or a digit is none of the characters that other values begin with.
  obtain ⟨hn, ht, hf, hquote, harray, hobject⟩ :
      x ≠ 'n' ∧ x ≠ 't' ∧ x ≠ 'f' ∧ x ≠ '"' ∧ x ≠ '[' ∧ x ≠ '{' := by
    refine ⟨?_, ?_, ?_, ?_, ?_, ?_⟩ <;>
      · rintro rfl
        revert hx
        decide
  have hnumeral : (x == '-' || x.isDigit) = true := by simpa using hx
  refine ⟨place', ?_⟩
  rw [← hnode, readValue.eq_def]
  simp [hnumeral]

/-- Every piece is read as it is written. -/
theorem Written.read {p : Piece} (h : Written p cs) : p.ReadFrom cs := by
  induction h with
  | null =>
    intro fuel depth place rest _ _
    exact ⟨.null _, _, rfl, trivial⟩
  | bool b =>
    intro fuel depth place rest _ _
    cases b
    · exact ⟨.bool false _, _, rfl, rfl⟩
    · exact ⟨.bool true _, _, rfl, rfl⟩
  | number h =>
    intro fuel depth place rest _ hrest
    obtain ⟨place', hread⟩ := readValue_number h hrest fuel depth place
    exact ⟨_, _, hread, rfl⟩
  | @string s cs h =>
    intro fuel depth place rest _ _
    obtain ⟨place', hread⟩ := h.read_string rest (place + 1)
    refine ⟨.text s (some ⟨place, place'⟩), place', ?_, rfl⟩
    simp [readValue, textNode, hread]
  | array h ih =>
    intro fuel depth place rest hfuel _
    rw [List.length_cons] at hfuel
    obtain ⟨fuel, rfl⟩ := Nat.exists_eq_succ_of_ne_zero (by omega : fuel ≠ 0)
    obtain ⟨ns, stop, place', hread, hshows⟩ :=
      ih fuel (depth + 1) (place + 1) rest (by omega)
    refine ⟨.array ns (.closed stop) place (depthLimit ≤ depth + 1), place', ?_, ?_⟩
    · simp [readValue, Cursor.eat, hread]
    · exact ⟨trivial, of_decide_eq_true, hshows⟩
  | object distinct order h ih =>
    intro fuel depth place rest hfuel _
    rw [List.length_cons] at hfuel
    obtain ⟨fuel, rfl⟩ := Nat.exists_eq_succ_of_ne_zero (by omega : fuel ≠ 0)
    obtain ⟨ns, stop, place', hread, hshows⟩ :=
      ih fuel (depth + 1) (place + 1) rest (by omega)
    refine ⟨.object ns (.closed stop) place (depthLimit ≤ depth + 1), place', ?_, ?_⟩
    · simp [readValue, Cursor.eat, hread]
    · exact ⟨trivial, of_decide_eq_true, distinct, _, order, hshows⟩
  | @noItems first b hb =>
    intro fuel depth place rest _
    have hclose : Unblank (']' :: rest) := unblank_cons (by simp [Blank])
    refine ⟨[], place + b.length + 1, place + b.length + 1, ?_, trivial⟩
    simp [readItems, skipBlanks_append hb hclose, Cursor.eat]
  | @item first v vs sep cs ds hsep hv hvs ihv ihvs =>
    intro fuel depth place rest hfuel
    have hcs := hv.length_pos
    have hds := hvs.length_pos
    simp only [List.length_append] at hfuel
    obtain ⟨fuel, rfl⟩ := Nat.exists_eq_succ_of_ne_zero (by omega : fuel ≠ 0)
    obtain ⟨n, place₁, hread, hshow⟩ := ihv fuel depth (place + sep.length) (ds ++ rest)
      (by omega) hvs.delimited_items
    obtain ⟨ns, stop, place₂, hreads, hshows⟩ := ihvs fuel depth place₁ rest (by omega)
    refine ⟨n :: ns, stop, place₂, ?_, hshow, hshows⟩
    rw [List.append_assoc, List.append_assoc]
    exact readItems_separator hsep (hv.begins.append _) hread hreads
  | @noFields first b hb =>
    intro fuel depth place rest _
    have hclose : Unblank ('}' :: rest) := unblank_cons (by simp [Blank])
    refine ⟨[], place + b.length + 1, place + b.length + 1, ?_, trivial⟩
    simp [readFields, skipBlanks_append hb hclose, Cursor.eat]
  | @field first k v fs sep ks b b' cs ds hsep hk hb hb' hv hfs ihv ihfs =>
    intro fuel depth place rest hfuel
    have hcs := hv.length_pos
    have hds := hfs.length_pos
    simp only [List.length_append, List.length_cons] at hfuel
    obtain ⟨fuel, rfl⟩ := Nat.exists_eq_succ_of_ne_zero (by omega : fuel ≠ 0)
    obtain ⟨place₁, hmember⟩ := readFields_separator hsep hk hb hb' (hv.begins.append (ds ++ rest))
      (fuel + 1) depth place
    obtain ⟨n, place₂, hread, hshow⟩ := ihv fuel depth place₁ (ds ++ rest) (by omega)
      hfs.delimited_fields
    obtain ⟨ns, stop, place₃, hreads, hshows⟩ := ihfs fuel depth place₂ rest (by omega)
    obtain ⟨label, hkey, hreads⟩ := hmember hread hreads
    refine ⟨(label, n) :: ns, stop, place₃, ?_, hkey, hshow, hshows⟩
    simpa only [List.append_assoc, List.cons_append] using hreads

/-- A text that holds a value is read as a document of that value with nothing after it. -/
theorem WrittenAs.read {v : Json} {s : String} (h : v.WrittenAs s) :
    Shows 0 (Document.ofText s).root v ∧ (Document.ofText s).trailing = none := by
  obtain ⟨b, cs, b', hb, hcs, hb', hs⟩ := h
  have hstart : Cursor.skipBlanks ⟨s.toList, 0⟩ = ⟨cs ++ b', b.length⟩ := by
    rw [hs, skipBlanks_append hb (hcs.begins.append b').unblank, Nat.zero_add]
  have hdelimited : Delimited b' := by
    simpa using hb'.delimited delimited_nil
  obtain ⟨n, place, hread, hshows⟩ := hcs.read (2 * s.toList.length + 1) 0 b.length b'
    (by simp only [hs, List.length_append]; omega) hdelimited
  have hend : Cursor.skipBlanks ⟨b', place⟩ = ⟨[], place + b'.length⟩ := by
    simpa using skipBlanks_append hb' (show Unblank [] by simp [Unblank]) place
  simp only [Document.ofText, hstart, hread, hend]
  exact ⟨hshows, rfl⟩

end RiskReport.Json

import Mathlib.Data.List.Perm.Basic
import RiskReport.Proofs.Json.Reading
import RiskReport.Proofs.Json.Record

/-!
# What decoders make of written values

`Decoder.Reads` says that a decoder takes every document of a value to a result with a property;
there is one lemma for each combinator. A record is read field by field in whatever order its keys
stand, so what is known in between is an invariant of the slots and the keys that have been read
(`Fields.Gathers`), and it is put together as the fields are (`Fields.Gathers.and`).
-/

namespace RiskReport.Json

variable {α β : Type} {depth : Nat}

/-! ## Decoders -/

/-- The keys of an object that a node shows are distinct. -/
theorem Shows.distinct {n : Node} {fs : List (String × Json)} (h : Shows depth n (.object fs)) :
    (fs.map (·.1)).Nodup := by
  obtain ⟨_, _, _, _, -, -, -, distinct, -⟩ := shows_object.1 h
  exact distinct

namespace Decoder

variable {d : Decoder α} {v : Json} {P : α → Prop}

/-- Every document of a value at some depth is taken to a result with a property. -/
def Reads (d : Decoder α) (depth : Nat) (v : Json) (P : α → Prop) : Prop :=
  ∀ n, Shows depth n v → ∃ a, d n = .ok a ∧ P a

theorem Reads.imp {Q : α → Prop} (h : d.Reads depth v P) (hpq : ∀ a, P a → Q a) :
    d.Reads depth v Q := by
  intro n hn
  obtain ⟨a, ha, hp⟩ := h n hn
  exact ⟨a, ha, hpq a hp⟩

theorem reads_string {s : String} : string.Reads depth (.string s) (· = s) := by
  intro n hn
  obtain ⟨span, rfl⟩ := shows_string.1 hn
  exact ⟨s, rfl, rfl⟩

theorem reads_int {low high i : Int} {name : String} (hlow : low ≤ i) (hhigh : i ≤ high) :
    (int low high name).Reads depth (.ofInt i) (· = i) := by
  intro n hn
  obtain ⟨span, rfl⟩ := shows_number.1 hn
  exact ⟨i, by simp [int, hlow, hhigh], rfl⟩

theorem reads_unsigned {bits i : Nat} (h : i < Nat.pow 2 bits) :
    (unsigned bits).Reads depth (.ofNat i) (· = i) := by
  have hint : (int 0 (Nat.pow 2 bits - 1 : Nat) ("u" ++ toString bits)).Reads depth (.ofInt i)
      (· = (i : Int)) := reads_int (Int.natCast_nonneg i) (by omega)
  intro n hn
  obtain ⟨_, hread, rfl⟩ := hint n hn
  refine ⟨i, ?_, rfl⟩
  rw [unsigned, hread]
  rfl

/-- An enumeration is read from the name of a variant. -/
theorem reads_enumeration {variants : List (String × α)} {name : String} {a : α}
    (h : variants.lookup name = some a) :
    (enumeration variants).Reads depth (.string name) (· = a) := by
  intro n hn
  obtain ⟨span, rfl⟩ := shows_string.1 hn
  refine ⟨a, ?_, rfl⟩
  simp only [enumeration, variant, h]

/-- A container is read if it is nested less deeply than the limit. -/
theorem not_deep {deep : Bool} (h : deep → depthLimit ≤ depth + 1)
    (hdepth : depth + 1 < depthLimit) : deep = false :=
  Bool.eq_false_iff.2 fun hdeep => absurd (h hdeep) (Nat.not_le.2 hdepth)

theorem items_of_shows {Q : Json → α → Prop} {vs : List Json}
    (h : ∀ v ∈ vs, d.Reads depth v (Q v)) : ∀ {ns : List Node}, ShowsItems depth ns vs →
      ∃ as, items d ns = .ok as ∧ List.Forall₂ Q vs as := by
  induction vs with
  | nil =>
    intro ns hns
    obtain rfl := showsItems_nil.1 hns
    exact ⟨[], rfl, .nil⟩
  | cons v vs ih =>
    intro ns hns
    obtain ⟨n, ns, rfl, hn, hns⟩ := showsItems_cons.1 hns
    obtain ⟨a, ha, hq⟩ := h v List.mem_cons_self n hn
    obtain ⟨as, has, hqs⟩ := ih (fun w hw => h w (List.mem_cons_of_mem v hw)) hns
    refine ⟨a :: as, ?_, .cons hq hqs⟩
    rw [items, ha, has]
    rfl

/-- An array is read item by item. -/
theorem Reads.list {Q : Json → α → Prop} {vs : List Json} (hdepth : depth + 1 < depthLimit)
    (h : ∀ v ∈ vs, d.Reads (depth + 1) v (Q v)) :
    (list d).Reads depth (.array vs) (List.Forall₂ Q vs) := by
  intro n hn
  obtain ⟨ns, ending, start, deep, rfl, whole, hdeep, hns⟩ := shows_array.1 hn
  obtain ⟨as, has, hq⟩ := items_of_shows h hns
  obtain ⟨place, hplace⟩ := whole.check Cut.readingList
  obtain rfl := not_deep hdeep hdepth
  refine ⟨as, ?_, hq⟩
  simp only [Decoder.list, has, hplace]
  rfl

/-- An array of encoded values is read to the values. -/
theorem Reads.list_map {encode : α → Json} {as : List α} (hdepth : depth + 1 < depthLimit)
    (h : ∀ a ∈ as, d.Reads (depth + 1) (encode a) (· = a)) :
    (Decoder.list d).Reads depth (.array (as.map encode)) (· = as) := by
  refine (Reads.list (Q := fun v b => ∀ a ∈ as, encode a = v → b = a) hdepth ?_).imp ?_
  · intro v hv n hn
    obtain ⟨a, ha, rfl⟩ := List.mem_map.1 hv
    obtain ⟨_, hread, rfl⟩ := h a ha n hn
    refine ⟨_, hread, fun b hb hsame => ?_⟩
    obtain ⟨_, hread', rfl⟩ := h b hb n (hsame ▸ hn)
    exact Except.ok.inj (hread.symm.trans hread')
  · intro bs hbs
    have hmem := (List.forall₂_and_left as bs).2
      ⟨fun _ ha => ha, List.forall₂_map_left_iff.1 hbs⟩
    have hsame : List.Forall₂ (· = ·) bs as := (hmem.imp fun a b h => h.2 a h.1 rfl).flip
    rwa [List.forall₂_eq_eq_eq] at hsame

theorem entries_of_shows {encode : α → Json} (h : ∀ a, d.Reads depth (encode a) (· = a))
    {es : List (String × α)} : ∀ {ns : List (Label × Node)} (acc : List (String × α)),
      ShowsFields depth ns (es.map fun e => (e.1, encode e.2)) →
      ((es ++ acc).map (·.1)).Nodup →
      ∃ es', entries d acc ns = .ok es' ∧ es'.Perm (es ++ acc) := by
  induction es with
  | nil =>
    intro ns acc hns _
    obtain rfl := showsFields_nil.1 hns
    exact ⟨acc, rfl, .refl acc⟩
  | cons e es ih =>
    intro ns acc hns hd
    obtain ⟨label, n, ns, rfl, hkey, hn, hns⟩ := showsFields_cons.1 hns
    obtain ⟨a, ha, rfl⟩ := h e.2 n hn
    have hnext := append_insertEntry_perm hd
    obtain ⟨es', hes', hp⟩ := ih _ hns ((hnext.map Prod.fst).nodup_iff.2 hd)
    refine ⟨es', ?_, hp.trans hnext⟩
    rw [entries, hkey]
    simp only [ha]
    exact hes'

/-- An object with any keys is read to the entries it was made of, in another order maybe. -/
theorem Reads.map {encode : α → Json} (hdepth : depth + 1 < depthLimit)
    (h : ∀ a, d.Reads (depth + 1) (encode a) (· = a)) {es : List (String × α)}
    {fs : List (String × Json)} (hfs : fs.Perm (es.map fun e => (e.1, encode e.2))) :
    (map d).Reads depth (.object fs) (·.Perm es) := by
  intro n hn
  obtain ⟨ns, ending, start, deep, rfl, whole, hdeep, distinct, gs, hgs, hns⟩ :=
    shows_object.1 hn
  let encoded (e : String × α) : String × Json := (e.1, encode e.2)
  obtain ⟨written, rfl, hwritten⟩ :
      Relation.Comp (· = List.map encoded ·) (·.Perm ·) gs es := by
    rw [List.eq_map_comp_perm]
    exact hgs.trans hfs
  have hkeys : (written.map (·.1)).Nodup := by
    have := (hgs.map Prod.fst).nodup_iff.2 distinct
    rwa [List.map_map] at this
  obtain ⟨read, hread, hperm⟩ := entries_of_shows h [] hns (by simpa using hkeys)
  obtain ⟨place, hplace⟩ := whole.check Cut.readingObject
  obtain rfl := not_deep hdeep hdepth
  rw [List.append_nil] at hperm
  refine ⟨read, ?_, hperm.trans hwritten⟩
  simp only [Decoder.map, hread, hplace]
  rfl

end Decoder

/-! ## Records -/

namespace Fields

variable {obj : List (String × Json)} {P : α → Prop}

theorem mem_of_findIdx? {names : List String} {k : String} {i : Nat}
    (h : names.findIdx? (· == k) = some i) : k ∈ names := by
  obtain ⟨hlt, hbeq, -⟩ := List.findIdx?_eq_some_iff_getElem.1 h
  exact eq_of_beq hbeq ▸ List.getElem_mem hlt

theorem not_mem_of_findIdx? {names : List String} {k : String}
    (h : names.findIdx? (· == k) = none) : k ∉ names := by
  intro hk
  simpa using List.findIdx?_eq_none_iff.1 h k hk

/-- While the fields of an object are read, something holds of the keys that have been read and of
the slots; in the end they make up a record with a property. -/
structure Gathers (fs : Fields α) (depth : Nat) (obj : List (String × Json)) (P : α → Prop)
    (Holds : List String → fs.Slots → Prop) : Prop where
  empty : Holds [] fs.empty
  /-- A key of no field makes no difference. -/
  other {done : List String} {s : fs.Slots} {k : String} (h : Holds done s) (hk : k ∉ fs.names) :
    Holds (k :: done) s
  /-- A field whose key has not been read goes into its slot. -/
  read {done : List String} {s : fs.Slots} {k : String} {v : Json} {n : Node} {i : Nat}
    (h : Holds done s) (hk : k ∉ done) (hv : (k, v) ∈ obj) (hn : Shows depth n v)
    (hi : fs.names.findIdx? (· == k) = some i) :
    fs.full i s = false ∧ ∃ s', fs.read i n s = .ok s' ∧ Holds (k :: done) s'
  finish {done : List String} {s : fs.Slots} (h : Holds done s) (hdone : ∀ f ∈ obj, f.1 ∈ done) :
    ∃ a, fs.finish s = .ok a ∧ P a

/-- Whatever order the fields of an object stand in, they make up a record with a property. -/
def Reads (fs : Fields α) (depth : Nat) (obj : List (String × Json)) (P : α → Prop) : Prop :=
  ∃ Holds, fs.Gathers depth obj P Holds

/-- One field: its value is read if the object has it, and the default is taken if it has not. -/
theorem reads_field {name : String} {d : Decoder α} {missing short : Option α}
    (distinct : (obj.map (·.1)).Nodup)
    (h : ∀ v, (Json.object obj).field? name = some v → d.Reads depth v P)
    (hmissing : (Json.object obj).field? name = none → ∃ a, missing = some a ∧ P a) :
    (field name d missing short).Reads depth obj P := by
  refine ⟨fun done s => if name ∈ done then ∃ a, s = some a ∧ P a else s = none, ?_, ?_, ?_, ?_⟩
  · rfl
  · intro done s k hs hk
    have hne : name ≠ k := fun he => hk (he ▸ List.mem_singleton_self name)
    simpa [hne] using hs
  · intro done s k v n i hs hk hv hn hi
    obtain rfl : name = k := (List.mem_singleton.1 (mem_of_findIdx? hi)).symm
    rw [if_neg hk] at hs
    obtain ⟨a, ha, hp⟩ := h v ((field?_eq_some distinct).2 hv) n hn
    refine ⟨by rw [hs]; rfl, some a, ?_, ?_⟩
    · simp [field, ha, Except.map]
    · rw [if_pos List.mem_cons_self]
      exact ⟨a, rfl, hp⟩
  · intro done s hs hdone
    by_cases hname : name ∈ done
    · rw [if_pos hname] at hs
      obtain ⟨a, rfl, hp⟩ := hs
      exact ⟨a, rfl, hp⟩
    · rw [if_neg hname] at hs
      have habsent : (Json.object obj).field? name = none := by
        rw [Option.eq_none_iff_forall_ne_some]
        intro v hv
        exact hname (hdone _ ((field?_eq_some distinct).1 hv))
      obtain ⟨a, rfl, hp⟩ := hmissing habsent
      exact ⟨a, by rw [hs]; rfl, hp⟩

/-- A field that the object has. -/
theorem reads_present {name : String} {d : Decoder α} {missing short : Option α} {v : Json}
    (distinct : (obj.map (·.1)).Nodup) (hv : (Json.object obj).field? name = some v)
    (h : d.Reads depth v P) : (field name d missing short).Reads depth obj P := by
  refine reads_field distinct (fun w hw => ?_) fun hnone => ?_
  · obtain rfl := Option.some.inj (hv.symm.trans hw)
    exact h
  · cases hv.symm.trans hnone

theorem reads_of_mem {name : String} {d : Decoder α} {missing short : Option α} {v : Json}
    (distinct : (obj.map (·.1)).Nodup) (hv : (name, v) ∈ obj) (h : d.Reads depth v P) :
    (field name d missing short).Reads depth obj P :=
  reads_present distinct ((field?_eq_some distinct).2 hv) h

/-- Two lists of fields with different names are read side by side. -/
theorem Gathers.and {fs : Fields (α → β)} {gs : Fields α} {P : (α → β) → Prop} {Q : α → Prop}
    {R : β → Prop} {Holds : List String → fs.Slots → Prop} {Holds' : List String → gs.Slots → Prop}
    (hf : fs.Gathers depth obj P Holds) (hg : gs.Gathers depth obj Q Holds')
    (apart : ∀ k ∈ fs.names, k ∉ gs.names) (hr : ∀ f a, P f → Q a → R (f a)) :
    (fs.and gs).Gathers depth obj R fun done s => Holds done s.1 ∧ Holds' done s.2 where
  empty := ⟨hf.empty, hg.empty⟩
  other := by
    rintro done s k ⟨hs, ht⟩ hk
    obtain ⟨hk, hk'⟩ : k ∉ fs.names ∧ k ∉ gs.names := by
      simpa only [Fields.and, List.mem_append, not_or] using hk
    exact ⟨hf.other hs hk, hg.other ht hk'⟩
  read := by
    rintro done s k v n i ⟨hs, ht⟩ hk hv hn hi
    simp only [Fields.and, List.findIdx?_append] at hi ⊢
    cases hleft : fs.names.findIdx? (· == k) with
    | some j =>
      obtain rfl : j = i := by simpa [hleft] using hi
      have hlt : j < fs.names.length := (List.findIdx?_eq_some_iff_getElem.1 hleft).1
      have hname : k ∈ fs.names := mem_of_findIdx? hleft
      obtain ⟨hfull, s', hread, hs'⟩ := hf.read hs hk hv hn hleft
      refine ⟨by rw [if_pos hlt, hfull], (s', s.2), ?_, hs', hg.other ht (apart k hname)⟩
      rw [if_pos hlt, hread]
      rfl
    | none =>
      have hname : k ∉ fs.names := not_mem_of_findIdx? hleft
      obtain ⟨j, hj, rfl⟩ : ∃ j, gs.names.findIdx? (· == k) = some j ∧ j + fs.names.length = i := by
        simpa [hleft] using hi
      obtain ⟨hfull, t', hread, ht'⟩ := hg.read ht hk hv hn hj
      have hlt : ¬ j + fs.names.length < fs.names.length := by omega
      rw [if_neg hlt, if_neg hlt, Nat.add_sub_cancel]
      refine ⟨hfull, (s.1, t'), ?_, hf.other hs hname, ht'⟩
      rw [hread]
      rfl
  finish := by
    rintro done s ⟨hs, ht⟩ hdone
    obtain ⟨f, hfinish, hp⟩ := hf.finish hs hdone
    obtain ⟨a, hfinish', hq⟩ := hg.finish ht hdone
    refine ⟨f a, ?_, hr f a hp hq⟩
    simp only [Fields.and, hfinish, hfinish']
    rfl

theorem Reads.and {fs : Fields (α → β)} {gs : Fields α} {P : (α → β) → Prop} {Q : α → Prop}
    {R : β → Prop} (hf : fs.Reads depth obj P) (hg : gs.Reads depth obj Q)
    (apart : ∀ k ∈ fs.names, k ∉ gs.names) (hr : ∀ f a, P f → Q a → R (f a)) :
    (fs <*> gs).Reads depth obj R := by
  obtain ⟨_, hf⟩ := hf
  obtain ⟨_, hg⟩ := hg
  exact ⟨_, hf.and hg apart hr⟩

theorem Reads.map {fs : Fields α} {f : α → β} {Q : β → Prop} (h : fs.Reads depth obj P)
    (hq : ∀ a, P a → Q (f a)) : (f <$> fs).Reads depth obj Q := by
  obtain ⟨Holds, h⟩ := h
  refine ⟨Holds, h.empty, h.other, h.read, ?_⟩
  intro done s hs hdone
  obtain ⟨a, ha, hp⟩ := h.finish hs hdone
  refine ⟨f a, ?_, hq a hp⟩
  show (fs.finish s >>= fun a => .ok (f a)) = .ok (f a)
  rw [ha]
  rfl

/-- Fields that are read to given values are put together. -/
theorem Reads.map_eq {fs : Fields α} {a : α} (h : fs.Reads depth obj (· = a)) (f : α → β) :
    (f <$> fs).Reads depth obj (· = f a) :=
  h.map fun _ hb => congrArg f hb

theorem Reads.and_eq {fs : Fields (α → β)} {gs : Fields α} {f : α → β} {a : α}
    (hf : fs.Reads depth obj (· = f)) (hg : gs.Reads depth obj (· = a))
    (apart : ∀ k ∈ fs.names, k ∉ gs.names) : (fs <*> gs).Reads depth obj (· = f a) :=
  hf.and hg apart fun _ _ hf ha => congr hf ha

/-- The fields of an object are read into their slots, and the others are passed over. -/
theorem Gathers.readFields {fs : Fields α} {Holds : List String → fs.Slots → Prop}
    (h : fs.Gathers depth obj P Holds) (form : RecordForm) (hform : form.strict = false)
    (ending : Ending) {gs : List (String × Json)} (hobj : ∀ f ∈ gs, f ∈ obj) :
    ∀ {ns : List (Label × Node)} {done : List String} {s : fs.Slots}, ShowsFields depth ns gs →
      (gs.map (·.1) ++ done).Nodup → Holds done s →
      ∃ s', Decoder.readFields form fs ending ns s = .ok s' ∧
        Holds ((gs.map (·.1)).reverse ++ done) s' := by
  induction gs with
  | nil =>
    intro ns done s hns _ hs
    obtain rfl := showsFields_nil.1 hns
    exact ⟨s, rfl, hs⟩
  | cons f gs ih =>
    intro ns done s hns hd hs
    obtain ⟨k, v⟩ := f
    obtain ⟨label, n, ns, rfl, hkey, hn, hns⟩ := showsFields_cons.1 hns
    have hgs : ∀ f ∈ gs, f ∈ obj := fun f hf => hobj f (List.mem_cons_of_mem _ hf)
    have hk : k ∉ done := by simp_all
    have hd' : (gs.map (·.1) ++ k :: done).Nodup := List.nodup_middle.2 hd
    rw [List.map_cons, List.reverse_cons, List.append_assoc, List.singleton_append]
    rw [Decoder.readFields, hkey]
    cases hi : fs.names.findIdx? (· == k) with
    | none =>
      have hname : k ∉ fs.names := not_mem_of_findIdx? hi
      obtain ⟨s', hread, hs'⟩ := ih hgs hns hd' (h.other hs hname)
      refine ⟨s', ?_, hs'⟩
      simp only [hi, hform, hn.skip]
      exact hread
    | some i =>
      obtain ⟨hfull, t, ht, hholds⟩ := h.read hs hk (hobj _ List.mem_cons_self) hn hi
      obtain ⟨s', hread, hs'⟩ := ih hgs hns hd' hholds
      refine ⟨s', ?_, hs'⟩
      simp only [hi, hfull, ht]
      exact hread

end Fields

/-- A record is read from an object by its fields. -/
theorem Decoder.reads_record {obj : List (String × Json)} {P : α → Prop} {fs : Fields α}
    {form : RecordForm} (hform : form.strict = false) (hdepth : depth + 1 < depthLimit)
    (h : (obj.map (·.1)).Nodup → fs.Reads (depth + 1) obj P) :
    (record form fs).Reads depth (.object obj) P := by
  intro n hn
  obtain ⟨ns, ending, start, deep, rfl, whole, hdeep, distinct, gs, hgs, hns⟩ :=
    shows_object.1 hn
  obtain ⟨Holds, h⟩ := h distinct
  have hkeys : (gs.map Prod.fst ++ []).Nodup := by
    rw [List.append_nil]
    exact (hgs.map Prod.fst).nodup_iff.2 distinct
  have hobj : ∀ f ∈ gs, f ∈ obj := fun f hf => hgs.mem_iff.1 hf
  obtain ⟨s, hread, hs⟩ :=
    h.readFields form hform ending hobj hns hkeys h.empty
  obtain ⟨place, hplace⟩ := whole.check Cut.readingObject
  have hdone : ∀ f ∈ obj, f.1 ∈ (gs.map Prod.fst).reverse ++ [] := by
    intro f hf
    simpa using ⟨f.2, hgs.mem_iff.2 hf⟩
  obtain ⟨a, ha, hp⟩ := h.finish hs hdone
  obtain rfl := not_deep hdeep hdepth
  refine ⟨a, ?_, hp⟩
  simp only [Decoder.record, hread, hplace]
  show (fs.finish s).mapError _ = .ok a
  rw [ha]
  rfl

theorem Decoder.reads_struct {obj : List (String × Json)} {P : α → Prop} {fs : Fields α}
    {name : String} (hdepth : depth + 1 < depthLimit)
    (h : (obj.map (·.1)).Nodup → fs.Reads (depth + 1) obj P) :
    (struct name fs).Reads depth (.object obj) P :=
  reads_record rfl hdepth h

/-- The document of a record that was never written shows it if those of the fields do. -/
theorem shows_ofJson_record {fs : List (String × Json)} (distinct : (fs.map (·.1)).Nodup)
    (h : ∀ f ∈ fs, Shows (depth + 1) (Node.ofJson f.2) f.2) :
    Shows depth (Node.ofJson (.record fs)) (.record fs) := by
  obtain ⟨gs, hrecord, hperm⟩ := record_eq_object distinct
  rw [hrecord]
  exact shows_ofJson_object ((hperm.map Prod.fst).nodup_iff.2 distinct) fun f hf =>
    h f (hperm.mem_iff.1 hf)

/-- A decoder that reads a value reads every text of it. -/
theorem Decoder.Reads.ofText {d : Decoder α} {v : Json} {P : α → Prop} (h : d.Reads 0 v P)
    {s : String} (hs : v.WrittenAs s) : ∃ a, d.ofText s = .ok a ∧ P a := by
  obtain ⟨hshows, htrailing⟩ := hs.read
  obtain ⟨a, ha, hp⟩ := h _ hshows
  refine ⟨a, ?_, hp⟩
  simp only [Decoder.ofText, ha, htrailing]
  rfl

end RiskReport.Json

import RiskReport.Proofs.Json.Decoding

/-!
# Records with a tag

How a tagged record is to be read is known once its tag has been found, and the tag may stand
anywhere among the fields. Until then the other fields are set aside. A node that is set aside
forgets its places and keeps its value (`Detaches`), and so the fields, wherever the tag stood, are
left with a node of the record without its tag (`splitTag_of_shows`). That one is read by the
decoder of the variant (`reads_tagged`).
-/

namespace RiskReport.Json.Decoder

variable {α : Type} {depth : Nat} {v : Json}

/-! ## Nodes that are set aside -/

/-- Every document of a value at some depth can be set aside. What is kept shows the value at any
depth, for it counts no depth. -/
def Detaches (depth : Nat) (v : Json) : Prop :=
  Reads Node.detach depth v fun n => ∀ k, Shows k n v

theorem detaches_string {s : String} : Detaches depth (.string s) := by
  intro n hn
  obtain ⟨span, rfl⟩ := shows_string.1 hn
  exact ⟨.text s none, rfl, fun _ => rfl⟩

theorem detaches_int {i : Int} : Detaches depth (.ofInt i) := by
  intro n hn
  obtain ⟨span, rfl⟩ := shows_number.1 hn
  exact ⟨.number (.int i) none, rfl, fun _ => rfl⟩

theorem detachItems_of_shows {vs : List Json} (h : ∀ v ∈ vs, Detaches depth v) :
    ∀ {ns : List Node}, ShowsItems depth ns vs →
      ∃ ns', detachItems ns = .ok ns' ∧ ∀ k, ShowsItems k ns' vs := by
  induction vs with
  | nil =>
    intro ns hns
    obtain rfl := showsItems_nil.1 hns
    exact ⟨[], rfl, fun _ => trivial⟩
  | cons v vs ih =>
    intro ns hns
    obtain ⟨n, ns, rfl, hn, hns⟩ := showsItems_cons.1 hns
    obtain ⟨n', hdetach, hn'⟩ := h v List.mem_cons_self n hn
    obtain ⟨ns', hitems, hns'⟩ := ih (fun w hw => h w (List.mem_cons_of_mem v hw)) hns
    refine ⟨n' :: ns', ?_, fun k => ⟨hn' k, hns' k⟩⟩
    rw [detachItems, hdetach, hitems]
    rfl

/-- An array is set aside item by item, if it is nested less deeply than the limit. -/
theorem Detaches.array {vs : List Json} (hdepth : depth + 1 < depthLimit)
    (h : ∀ v ∈ vs, Detaches (depth + 1) v) : Detaches depth (.array vs) := by
  intro n hn
  obtain ⟨ns, ending, start, deep, rfl, whole, hdeep, hns⟩ := shows_array.1 hn
  obtain ⟨ns', hitems, hns'⟩ := detachItems_of_shows h hns
  obtain ⟨place, hplace⟩ := whole.check Cut.readingList
  obtain rfl := not_deep hdeep hdepth
  refine ⟨.array ns' .unwritten 0 false, ?_, fun k =>
    ⟨trivial, Bool.false_ne_true.elim, hns' (k + 1)⟩⟩
  simp only [Node.detach, hitems, hplace]
  rfl

/-! ## The tag among the fields -/

section Tag

variable {title key name : String} {variants : List (String × Decoder α)} {d : Decoder α}
  {ending : Ending}

/-- A field that does not have the key of the tag is set aside, and the rest come after it. -/
theorem splitTag_cons {found : Option (Decoder α)} {r : Option (Decoder α) × List (Label × Node)}
    {ns : List (Label × Node)} {label : Label} {n : Node} {f : String × Json}
    {gs : List (String × Json)} (hkey : key ≠ f.1) (hf : Detaches depth f.2)
    (hlabel : label.key = .text f.1) (hn : Shows depth n f.2)
    (hrest : splitTag key variants ending found ns = .ok r) (hr : ∀ k, ShowsFields k r.2 gs) :
    ∃ others, splitTag key variants ending found ((label, n) :: ns) = .ok (r.1, others) ∧
      ∀ k, ShowsFields k others (f :: gs) := by
  have hother : (f.1 == key) = false := by simpa using Ne.symm hkey
  obtain ⟨n', hdetach, hn'⟩ := hf n hn
  refine ⟨(⟨.text f.1, 0, 0, false, 0⟩, n') :: r.2, ?_, fun k => ⟨rfl, hn' k, hr k⟩⟩
  rw [splitTag, hlabel]
  simp only [hother, hdetach, hrest]
  rfl

/-- Fields that do not have the key of the tag are set aside. -/
theorem splitTag_others {found : Option (Decoder α)} {gs : List (String × Json)}
    (hkey : key ∉ gs.map (·.1)) (hgs : ∀ f ∈ gs, Detaches depth f.2) :
    ∀ {ns : List (Label × Node)}, ShowsFields depth ns gs →
      ∃ others, splitTag key variants ending found ns = .ok (found, others) ∧
        ∀ k, ShowsFields k others gs := by
  induction gs with
  | nil =>
    intro ns hns
    obtain rfl := showsFields_nil.1 hns
    exact ⟨[], rfl, fun _ => trivial⟩
  | cons f gs ih =>
    intro ns hns
    obtain ⟨label, n, ns, rfl, hlabel, hn, hns⟩ := showsFields_cons.1 hns
    obtain ⟨hne, hkey⟩ := not_or.1 (List.mem_cons.not.1 hkey)
    obtain ⟨hf, hgs⟩ := List.forall_mem_cons.1 hgs
    obtain ⟨others, hsplit, hothers⟩ := ih hkey hgs hns
    exact splitTag_cons hne hf hlabel hn hsplit hothers

/-- Wherever the tag stands, it is found and the other fields are set aside. -/
theorem splitTag_of_shows {pre post : List (String × Json)} (hd : variants.lookup name = some d)
    (hkey : key ∉ (pre ++ post).map (·.1)) (hgs : ∀ f ∈ pre ++ post, Detaches depth f.2) :
    ∀ {ns : List (Label × Node)}, ShowsFields depth ns (pre ++ (key, .string name) :: post) →
      ∃ others, splitTag key variants ending none ns = .ok (some d, others) ∧
        ∀ k, ShowsFields k others (pre ++ post) := by
  -- The tag comes after the fields in front of it, and those behind it are left once it is found.
  induction pre with
  | nil =>
    intro ns hns
    obtain ⟨label, n, ns, rfl, hlabel, hn, hns⟩ := showsFields_cons.1 hns
    have htag : tag variants n = .ok d := by
      obtain ⟨span, rfl⟩ := shows_string.1 hn
      simp only [tag, variant, hd]
    obtain ⟨others, hsplit, hothers⟩ : ∃ others,
        splitTag key variants ending (some d) ns = .ok (some d, others) ∧
          ∀ k, ShowsFields k others post := splitTag_others hkey hgs hns
    refine ⟨others, ?_, hothers⟩
    rw [splitTag, hlabel]
    simp only [BEq.rfl, htag]
    exact hsplit
  | cons f pre ih =>
    intro ns hns
    obtain ⟨label, n, ns, rfl, hlabel, hn, hns⟩ := showsFields_cons.1 hns
    obtain ⟨hne, hkey⟩ := not_or.1 (List.mem_cons.not.1 hkey)
    obtain ⟨hf, hgs⟩ := List.forall_mem_cons.1 hgs
    obtain ⟨others, hsplit, hothers⟩ := ih hkey hgs hns
    exact splitTag_cons hne hf hlabel hn hsplit hothers

/-- A tagged record is read, whatever order its fields stand in, as the variant that its tag names
reads the other fields. -/
theorem reads_tagged {obj rest : List (String × Json)} {P : α → Prop} {k : Nat}
    (hdepth : depth + 1 < depthLimit) (hd : variants.lookup name = some d)
    (hobj : obj.Perm ((key, .string name) :: rest))
    (hrest : ∀ f ∈ rest, Detaches (depth + 1) f.2) (h : d.Reads k (.object rest) P) :
    (tagged title key variants).Reads depth (.object obj) P := by
  intro n hn
  obtain ⟨ns, ending, start, deep, rfl, whole, hdeep, distinct, gs, hgs, hns⟩ :=
    shows_object.1 hn
  have hwritten := hgs.trans hobj
  obtain ⟨pre, post, rfl⟩ := List.append_of_mem (hwritten.mem_iff.2 List.mem_cons_self)
  have hothers : (pre ++ post).Perm rest := (List.perm_middle.symm.trans hwritten).cons_inv
  have hkeys := (hobj.map Prod.fst).nodup_iff.1 distinct
  obtain ⟨hkey, hnodup⟩ := List.nodup_cons.1 hkeys
  obtain ⟨others, hsplit, hshows⟩ : ∃ others,
      splitTag key variants ending none ns = .ok (some d, others) ∧
        ∀ k, ShowsFields k others (pre ++ post) :=
    splitTag_of_shows hd (fun hmem => hkey ((hothers.map Prod.fst).mem_iff.1 hmem))
      (fun f hf => hrest f (hothers.mem_iff.1 hf)) hns
  obtain ⟨place, hplace⟩ := whole.check Cut.readingObject
  obtain rfl := not_deep hdeep hdepth
  obtain ⟨a, hread, hp⟩ := h (.object others .unwritten 0 false)
    ⟨trivial, Bool.false_ne_true.elim, hnodup, _, hothers, hshows (k + 1)⟩
  refine ⟨a, ?_, hp⟩
  simp only [tagged, hsplit, hplace]
  exact hread

theorem reads_tagged_record {fs : List (String × Json)} {P : α → Prop} {k : Nat}
    (hdepth : depth + 1 < depthLimit) (hd : variants.lookup name = some d)
    (distinct : (((key, .string name) :: fs).map (·.1)).Nodup)
    (hfs : ∀ f ∈ fs, Detaches (depth + 1) f.2) (h : d.Reads k (.object fs) P) :
    (tagged title key variants).Reads depth (.record ((key, .string name) :: fs)) P := by
  obtain ⟨gs, hrecord, hperm⟩ := record_eq_object distinct
  rw [hrecord]
  exact reads_tagged hdepth hd hperm hfs h

end Tag

end RiskReport.Json.Decoder

import Mathlib.Data.List.Nodup
import RiskReport.Table

/-!
# Tables in which no key occurs twice

A table is a list of entries, and a lookup finds the first entry of a key. Insertion never adds a
key that is there, so the keys of every table that is built by insertions are distinct
(`Distinct.insert`), and in such a table the rows that are listed are the rows that are found
(`Distinct.mem_rows`).

`Every p` says that `p` holds of every key and its row; it is how invariants of tables are stated.
Rows that are `Apart` differ in something, such as the session of a report. In a `Keyed` table each
row carries its own key, as sessions and reports do. None of this depends on the order of the
entries.
-/

namespace RiskReport.Table

variable {κ ν : Type} [DecidableEq κ] {t : Table κ ν} {k : κ} {v : ν}

/-! ## Lookups and entries -/

theorem mem_of_lookupEntry {es : List (κ × ν)} (h : lookupEntry k es = some v) : (k, v) ∈ es := by
  induction es with
  | nil => simp [lookupEntry] at h
  | cons e es ih =>
    obtain ⟨k', v'⟩ := e
    by_cases hk : k = k'
    · subst hk
      simp only [lookupEntry, if_true, Option.some.injEq] at h
      simp [h]
    · simp only [lookupEntry, hk, if_false] at h
      exact List.mem_cons_of_mem _ (ih h)

theorem lookupEntry_of_mem {es : List (κ × ν)} (hd : (es.map (·.1)).Nodup) (h : (k, v) ∈ es) :
    lookupEntry k es = some v := by
  induction es with
  | nil => simp at h
  | cons e es ih =>
    obtain ⟨k', v'⟩ := e
    simp only [List.map_cons, List.nodup_cons] at hd
    rcases List.mem_cons.1 h with h | h
    · obtain ⟨rfl, rfl⟩ := Prod.mk.inj h
      simp [lookupEntry]
    · have hk : k ≠ k' := fun hk => hd.1 (hk ▸ List.mem_map_of_mem (f := Prod.fst) h)
      simp only [lookupEntry, hk, if_false]
      exact ih hd.2 h

theorem contains_iff : t.contains k = true ↔ ∃ v, t.get? k = some v := by
  simp [contains, Option.isSome_iff_exists]

theorem get?_insert_self : (t.insert k v).get? k = some v := by
  simp

theorem get?_insert_of_ne {l : κ} (h : l ≠ k) : (t.insert k v).get? l = t.get? l := by
  simp [h]

/-- A key that has a row keeps one when another row is put in. -/
theorem exists_get?_insert {l : κ} (h : ∃ w, t.get? l = some w) :
    ∃ w, (t.insert k v).get? l = some w := by
  obtain ⟨w, hw⟩ := h
  by_cases hl : l = k
  · exact ⟨v, hl ▸ get?_insert_self⟩
  · exact ⟨w, (get?_insert_of_ne hl).trans hw⟩

theorem insertEntry_insertEntry (v w : ν) (es : List (κ × ν)) :
    insertEntry k w (insertEntry k v es) = insertEntry k w es := by
  induction es with
  | nil => simp [insertEntry]
  | cons e es ih =>
    obtain ⟨k', v'⟩ := e
    by_cases hk : k = k'
    · simp [insertEntry, hk]
    · simp [insertEntry, hk, ih]

/-- Of two rows of a key that are put in the second one counts. -/
theorem insert_insert (v w : ν) : (t.insert k v).insert k w = t.insert k w :=
  congrArg Table.mk (insertEntry_insertEntry v w t.entries)

/-! ## Distinct keys -/

/-- No key occurs twice. -/
def Distinct (t : Table κ ν) : Prop :=
  (t.entries.map (·.1)).Nodup

omit [DecidableEq κ] in
theorem distinct_empty : (empty : Table κ ν).Distinct :=
  List.nodup_nil

/-- An insertion adds the key at the end, unless it is there. -/
theorem keys_insertEntry (es : List (κ × ν)) :
    (insertEntry k v es).map (·.1) =
      if k ∈ es.map (·.1) then es.map (·.1) else es.map (·.1) ++ [k] := by
  induction es with
  | nil => simp [insertEntry]
  | cons e es ih =>
    obtain ⟨k', v'⟩ := e
    by_cases hk : k = k'
    · simp [insertEntry, hk]
    · by_cases hm : k ∈ es.map (·.1)
      · rw [if_pos hm] at ih
        simp only [insertEntry, hk, if_false, List.map_cons, ih, List.mem_cons, false_or, hm,
          if_true]
      · rw [if_neg hm] at ih
        simp only [insertEntry, hk, if_false, List.map_cons, ih, List.mem_cons, false_or, hm,
          List.cons_append]

theorem Distinct.insert (h : t.Distinct) : (t.insert k v).Distinct := by
  unfold Distinct Table.insert
  rw [keys_insertEntry]
  split_ifs with hk
  · exact h
  · exact List.Nodup.append h (List.nodup_singleton k) (by simpa using hk)

theorem Distinct.mem_entries (h : t.Distinct) : (k, v) ∈ t.entries ↔ t.get? k = some v :=
  ⟨lookupEntry_of_mem h, mem_of_lookupEntry⟩

omit [DecidableEq κ] in
theorem Distinct.perm {u : Table κ ν} (h : t.Distinct) (hp : u.entries.Perm t.entries) :
    u.Distinct :=
  (hp.map Prod.fst).nodup_iff.2 h

/-- The order of the entries does not matter to a lookup. -/
theorem Distinct.get?_perm {u : Table κ ν} (h : t.Distinct) (hp : u.entries.Perm t.entries) :
    u.get? k = t.get? k := by
  have hu : u.Distinct := h.perm hp
  refine Option.ext fun v => ?_
  rw [← hu.mem_entries, ← h.mem_entries]
  exact hp.mem_iff

theorem mem_pairs : (k, v) ∈ t.pairs ↔ t.get? k = some v := by
  simp only [pairs, List.mem_filterMap, Option.map_eq_some_iff, Prod.exists, Prod.mk.injEq]
  constructor
  · rintro ⟨_, _, -, _, hv, rfl, rfl⟩
    exact hv
  · intro hv
    exact ⟨k, v, mem_of_lookupEntry hv, v, hv, rfl, rfl⟩

/-- The rows that are listed are the rows that are found. -/
theorem Distinct.mem_rows (h : t.Distinct) : v ∈ t.rows ↔ ∃ k, t.get? k = some v := by
  simp only [rows, List.mem_map, Prod.exists, exists_eq_right, h.mem_entries]

theorem mem_rows_of_get? (h : t.get? k = some v) : v ∈ t.rows :=
  List.mem_map_of_mem (f := Prod.snd) (mem_of_lookupEntry h)

theorem mem_of_mem_insertEntry {es : List (κ × ν)} {e : κ × ν} (h : e ∈ insertEntry k v es) :
    e = (k, v) ∨ e ∈ es := by
  induction es with
  | nil => exact .inl (List.mem_singleton.1 h)
  | cons d es ih =>
    rw [insertEntry] at h
    split_ifs at h
    · exact (List.mem_cons.1 h).imp_right (List.mem_cons_of_mem d)
    · rcases List.mem_cons.1 h with rfl | h
      · exact .inr List.mem_cons_self
      · exact (ih h).imp_right (List.mem_cons_of_mem d)

/-- A row of the table after an insertion is the new one, or it was there before. -/
theorem eq_or_mem_rows_of_mem_insert {w : ν} (h : w ∈ (t.insert k v).rows) :
    w = v ∨ w ∈ t.rows := by
  obtain ⟨e, he, rfl⟩ := List.mem_map.1 h
  rcases mem_of_mem_insertEntry he with rfl | he
  · exact .inl rfl
  · exact .inr (List.mem_map_of_mem he)

/-! ## Every row -/

/-- Something holds of every key and its row. -/
def Every (t : Table κ ν) (p : κ → ν → Prop) : Prop :=
  ∀ k v, t.get? k = some v → p k v

theorem every_empty {p : κ → ν → Prop} : (empty : Table κ ν).Every p := by
  intro k v h
  simp at h

theorem Every.insert {p : κ → ν → Prop} (h : t.Every p) (hv : p k v) : (t.insert k v).Every p := by
  intro l w hw
  rw [get?_insert] at hw
  split_ifs at hw with hl
  · subst hl
    exact Option.some.inj hw ▸ hv
  · exact h l w hw

/-- The order of the entries does not matter to what holds of every row. -/
theorem Every.perm {u : Table κ ν} {p : κ → ν → Prop} (h : t.Every p) (hd : t.Distinct)
    (hp : u.entries.Perm t.entries) : u.Every p := by
  intro k v hv
  rw [hd.get?_perm hp] at hv
  exact h k v hv

theorem Every.imp {p q : κ → ν → Prop} (h : t.Every p)
    (hpq : ∀ k v, t.get? k = some v → p k v → q k v) : t.Every q :=
  fun k v hv => hpq k v hv (h k v hv)

/-! ## Rows that differ in something -/

/-- No two rows have the same value of something. -/
def Apart {β : Type} (t : Table κ ν) (f : ν → β) : Prop :=
  t.Every fun i v => t.Every fun j w => f v = f w → i = j

theorem apart_empty {β : Type} {f : ν → β} : (empty : Table κ ν).Apart f :=
  every_empty

/-- A row whose value no other row has may be put in. -/
theorem Apart.insert {β : Type} {f : ν → β} (h : t.Apart f)
    (new : t.Every fun j w => f w = f v → j = k) : (t.insert k v).Apart f := by
  intro i u hu j w hw huw
  rw [get?_insert] at hu hw
  split_ifs at hu hw with hi hj hj
  · exact hi.trans hj.symm
  · obtain rfl := Option.some.inj hu
    exact hi.trans (new j w hw huw.symm).symm
  · obtain rfl := Option.some.inj hw
    exact (new i u hu huw).trans hj.symm
  · exact h i u hu j w hw huw

theorem Apart.perm {β : Type} {u : Table κ ν} {f : ν → β} (h : t.Apart f) (hd : t.Distinct)
    (hp : u.entries.Perm t.entries) : u.Apart f :=
  (h.imp fun _ _ _ he => Every.perm he hd hp).perm hd hp

omit [DecidableEq κ] in
/-- The order of the entries does not matter to a search that one row at most passes. -/
theorem find?_rows_perm {u : Table κ ν} {p : ν → Bool} (hp : u.entries.Perm t.entries)
    (single : ∀ v ∈ t.rows, ∀ w ∈ t.rows, p v → p w → v = w) :
    u.rows.find? p = t.rows.find? p := by
  have hrows : u.rows.Perm t.rows := hp.map Prod.snd
  cases ht : t.rows.find? p with
  | none =>
    exact List.find?_eq_none.2 fun v hv => List.find?_eq_none.1 ht v (hrows.mem_iff.1 hv)
  | some v =>
    have hv : v ∈ t.rows := List.mem_of_find?_eq_some ht
    cases hu : u.rows.find? p with
    | none => exact absurd (List.find?_some ht) (List.find?_eq_none.1 hu v (hrows.mem_iff.2 hv))
    | some w =>
      have hw : w ∈ t.rows := hrows.mem_iff.1 (List.mem_of_find?_eq_some hu)
      rw [single w hw v hv (List.find?_some hu) (List.find?_some ht)]

/-! ## Tables of rows that carry their keys -/

/-- The keys are distinct, and each row carries its key. -/
structure Keyed (t : Table κ ν) (key : ν → κ) : Prop where
  distinct : t.Distinct
  key : t.Every fun k v => key v = k

variable {key : ν → κ}

theorem keyed_empty : (empty : Table κ ν).Keyed key :=
  ⟨distinct_empty, every_empty⟩

theorem Keyed.insert (h : t.Keyed key) : (t.insert (key v) v).Keyed key :=
  ⟨h.distinct.insert, h.key.insert rfl⟩

theorem Keyed.perm {u : Table κ ν} (h : t.Keyed key) (hp : u.entries.Perm t.entries) :
    u.Keyed key := by
  refine ⟨h.distinct.perm hp, fun k v hv => ?_⟩
  rw [h.distinct.get?_perm hp] at hv
  exact h.key k v hv

theorem Keyed.mem_rows (h : t.Keyed key) : v ∈ t.rows ↔ t.get? (key v) = some v := by
  refine h.distinct.mem_rows.trans ⟨?_, fun hv => ⟨_, hv⟩⟩
  rintro ⟨k, hv⟩
  rwa [h.key k v hv]

end RiskReport.Table

import RiskReport.Json.Decode
import RiskReport.Proofs.Table

/-!
# The fields of an object

An object keeps its fields in ascending order of the keys. That order is known only as far as it
matters: the fields are those that the object was made of, in some order (`record_eq_object`), and
with distinct keys a field is found by its key whatever the order (`field?_record`).
-/

namespace RiskReport.Json

/-- A new entry comes among the others. -/
theorem Decoder.insertEntry_perm {α : Type} {k : String} {a : α} {es : List (String × α)}
    (h : k ∉ es.map (·.1)) : (insertEntry k a es).Perm ((k, a) :: es) := by
  induction es with
  | nil => exact .refl _
  | cons e es ih =>
    obtain ⟨l, b⟩ := e
    simp only [List.map_cons, List.mem_cons, not_or] at h
    simp only [insertEntry, h.1, if_false]
    split_ifs
    · exact .refl _
    · exact ((ih h.2).cons _).trans (.swap ..)

/-- Of entries that are put in one after the other the next one may be put in first. -/
theorem Decoder.append_insertEntry_perm {α : Type} {e : String × α} {es acc : List (String × α)}
    (h : ((e :: es ++ acc).map (·.1)).Nodup) :
    (es ++ insertEntry e.1 e.2 acc).Perm (e :: es ++ acc) := by
  have hnew : e.1 ∉ acc.map (·.1) := by simp_all
  exact ((insertEntry_perm hnew).append_left es).trans List.perm_middle

theorem insertKey_eq (k : String) (v : Json) (fs : List (String × Json)) :
    insertKey k v fs = Decoder.insertEntry k v fs := by
  induction fs with
  | nil => rfl
  | cons f fs ih => rw [insertKey, Decoder.insertEntry, ih]

/-- An object of distinct keys has the fields that it is made of. -/
theorem record_eq_object {fs : List (String × Json)} (distinct : (fs.map (·.1)).Nodup) :
    ∃ gs, record fs = .object gs ∧ gs.Perm fs := by
  suffices ∀ acc, ((fs ++ acc).map (·.1)).Nodup →
      (fs.foldl (fun acc f => insertKey f.1 f.2 acc) acc).Perm (fs ++ acc) from
    ⟨_, rfl, by simpa using this [] (by simpa using distinct)⟩
  clear distinct
  induction fs with
  | nil => exact fun acc _ => .refl acc
  | cons f fs ih =>
    intro acc hd
    have hnext := Decoder.append_insertEntry_perm hd
    rw [List.foldl_cons, insertKey_eq]
    exact (ih _ ((hnext.map Prod.fst).nodup_iff.2 hd)).trans hnext

theorem field?_object (k : String) (fs : List (String × Json)) :
    (object fs).field? k = Table.lookupEntry k fs := by
  induction fs with
  | nil => rfl
  | cons f fs ih =>
    simp only [field?] at ih
    by_cases hk : f.1 = k
    · simp [field?, Table.lookupEntry, hk]
    · simp [field?, Table.lookupEntry, hk, Ne.symm hk, ih]

theorem field?_eq_some {fs : List (String × Json)} {k : String} {v : Json}
    (distinct : (fs.map (·.1)).Nodup) : (object fs).field? k = some v ↔ (k, v) ∈ fs := by
  rw [field?_object]
  exact ⟨Table.mem_of_lookupEntry, Table.lookupEntry_of_mem distinct⟩

/-- A record has the fields that it is made of. -/
theorem field?_record {fs : List (String × Json)} (distinct : (fs.map (·.1)).Nodup) (k : String) :
    (record fs).field? k = (object fs).field? k := by
  obtain ⟨gs, hrecord, hperm⟩ := record_eq_object distinct
  rw [hrecord, field?_object, field?_object]
  exact Table.Distinct.get?_perm (t := ⟨fs⟩) distinct hperm

/-- What has a field is an object. -/
theorem eq_object_of_field? {v w : Json} {k : String} (h : v.field? k = some w) :
    ∃ fs, v = .object fs := by
  cases v with
  | object fs => exact ⟨fs, rfl⟩
  | _ => simp [field?] at h

end RiskReport.Json

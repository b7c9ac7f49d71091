import RiskReport.Json.Print
import RiskReport.Proofs.Json.Record
import RiskReport.Proofs.Json.Written

/-!
# Printed values are written values

The compact text of a value is one of the texts that the value may be written as
(`Printable.writtenAs`), provided that the keys of its objects are distinct and its numbers are
printed as numerals of them.
-/

namespace RiskReport.Json

/-- A control character is escaped by the digits of its number. -/
theorem hex4_control : ∀ n < 0x20,
    hex4 n = ['0', '0', Nat.digitChar (n / 16), Nat.digitChar (n % 16)] ∧
      hex4? '0' '0' (Nat.digitChar (n / 16)) (Nat.digitChar (n % 16)) = some n := by
  decide

theorem spelling_escapeChar (c : Char) : Spelling c (escapeChar c) := by
  unfold escapeChar
  split_ifs with h h h h h h h h
  iterate 7
    · obtain rfl := eq_of_beq h
      exact .short rfl
  · obtain ⟨hprint, hread⟩ := hex4_control c.toNat h
    have hspelling := Spelling.unit hread (by omega)
    rwa [Char.ofNat_toNat, ← hprint] at hspelling
  · exact .plain (by simp_all) (by simp_all) (by omega)

theorem spelled_flatMap_escapeChar (cs : List Char) : Spelled cs (cs.flatMap escapeChar) := by
  induction cs with
  | nil => exact .nil
  | cons c cs ih => exact .cons (spelling_escapeChar c) ih

mutual

/-- The keys of every object are distinct, and every number is printed as a numeral of it. -/
def Printable : Json → Prop
  | .null | .bool _ | .string _ => True
  | .number n => Numeral n (printNumber n)
  | .array vs => PrintableItems vs
  | .object fs => (fs.map (·.1)).Nodup ∧ PrintableFields fs

/-- Every item is printable. -/
def PrintableItems : List Json → Prop
  | [] => True
  | v :: vs => v.Printable ∧ PrintableItems vs

/-- The value of every field is printable. -/
def PrintableFields : List (String × Json) → Prop
  | [] => True
  | (_, v) :: fs => v.Printable ∧ PrintableFields fs

end

/-- What is printed between the members of an array or an object. -/
def comma (first : Bool) : List Char :=
  if first then [] else [',']

theorem separator_comma (first : Bool) : Separator first (comma first) := by
  cases first with
  | true => exact .first blanks_nil
  | false => exact .next blanks_nil blanks_nil

mutual

/-- The compact text of a value is one that the value may be written as. -/
theorem Printable.written : ∀ {v : Json}, v.Printable →
    ∃ cs, Written (.value v) cs ∧ ∀ tail, printOnto tail v = cs ++ tail
  | .null, _ => ⟨_, .null, fun _ => rfl⟩
  | .bool true, _ => ⟨_, .bool true, fun _ => rfl⟩
  | .bool false, _ => ⟨_, .bool false, fun _ => rfl⟩
  | .number n, h => ⟨_, .number h, fun _ => rfl⟩
  | .string s, _ => ⟨_, .string (spelled_flatMap_escapeChar s.toList), fun tail => rfl⟩
  | .array vs, h => by
    obtain ⟨cs, hcs, hprint⟩ := PrintableItems.written true h
    refine ⟨_, .array hcs, fun tail => ?_⟩
    rw [printOnto, hprint, List.cons_append]
  | .object fs, ⟨distinct, h⟩ => by
    obtain ⟨cs, hcs, hprint⟩ := PrintableFields.written true h
    refine ⟨_, .object distinct (.refl fs) hcs, fun tail => ?_⟩
    rw [printOnto, hprint, List.cons_append]

theorem PrintableItems.written (first : Bool) : ∀ {vs : List Json}, PrintableItems vs →
    ∃ cs, Written (.items first vs) cs ∧ ∀ tail, printItems first (']' :: tail) vs = cs ++ tail
  | [], _ => ⟨_, .noItems blanks_nil, fun _ => rfl⟩
  | v :: vs, ⟨h, hs⟩ => by
    obtain ⟨cs, hcs, hprint⟩ := h.written
    obtain ⟨ds, hds, hprints⟩ := PrintableItems.written false hs
    refine ⟨_, .item (separator_comma first) hcs hds, fun tail => ?_⟩
    rw [printItems, hprints, hprint]
    cases first <;> simp [comma]

theorem PrintableFields.written (first : Bool) : ∀ {fs : List (String × Json)},
    PrintableFields fs → ∃ cs, Written (.fields first fs) cs ∧
      ∀ tail, printFields first ('}' :: tail) fs = cs ++ tail
  | [], _ => ⟨_, .noFields blanks_nil, fun _ => rfl⟩
  | (k, v) :: fs, ⟨h, hs⟩ => by
    obtain ⟨cs, hcs, hprint⟩ := h.written
    obtain ⟨ds, hds, hprints⟩ := PrintableFields.written false hs
    refine ⟨_, .field (separator_comma first) (spelled_flatMap_escapeChar k.toList) blanks_nil
      blanks_nil hcs hds, fun tail => ?_⟩
    rw [printFields, hprints, hprint]
    cases first <;> simp [comma, printString]

end

theorem Printable.written_print {v : Json} (h : v.Printable) :
    Written (.value v) v.print.toList := by
  obtain ⟨cs, hcs, hprint⟩ := h.written
  simpa [print, hprint] using hcs

theorem Printable.writtenAs {v : Json} (h : v.Printable) : v.WrittenAs v.print :=
  ⟨[], _, [], blanks_nil, h.written_print, blanks_nil, by simp⟩

theorem printableFields_iff {fs : List (String × Json)} :
    PrintableFields fs ↔ ∀ f ∈ fs, f.2.Printable := by
  induction fs with
  | nil => simp [PrintableFields]
  | cons f fs ih => simp [PrintableFields, ih]

/-- A record of printable values is printable. -/
theorem printable_record {fs : List (String × Json)} (distinct : (fs.map (·.1)).Nodup)
    (h : ∀ f ∈ fs, f.2.Printable) : (record fs).Printable := by
  obtain ⟨gs, hrecord, hperm⟩ := record_eq_object distinct
  rw [hrecord]
  exact ⟨(hperm.map Prod.fst).nodup_iff.2 distinct,
    printableFields_iff.2 fun f hf => h f (hperm.mem_iff.1 hf)⟩

end RiskReport.Json

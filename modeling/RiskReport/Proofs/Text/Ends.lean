import Mathlib.Data.List.DropRight
import Mathlib.Tactic.SplitIfs
import RiskReport.Text.Blank

/-!
# The ends of texts

Trimming takes the blanks from both ends of a text and nothing else, so it does not see blanks that
are put there (`trimChars_blanks_append`, `trimChars_append_blanks`), and a text that was trimmed is
not trimmed any further (`trim_trim`). To take a beginning off a text is to have it begin with that
(`dropPrefixChars?_eq_some_iff`).
-/

namespace RiskReport.Text

variable {b cs : List Char}

/-! ## Blanks at the ends -/

theorem trimStartChars_eq (h : ∀ c ∈ cs, isBlank c = false) : trimStartChars cs = cs := by
  cases cs with
  | nil => rfl
  | cons c cs => exact List.dropWhile_cons_of_neg (by simp [h c List.mem_cons_self])

/-- A text without blanks is not trimmed. -/
theorem trim_eq {s : String} (h : ∀ c ∈ s.toList, isBlank c = false) : trim s = s := by
  have hr : ∀ c ∈ s.toList.reverse, isBlank c = false := fun c hc => h c (List.mem_reverse.1 hc)
  rw [trim, trimChars, trimEndChars, trimStartChars_eq h, trimStartChars_eq hr,
    List.reverse_reverse, String.ofList_toList]

/-- Blanks that are put in front are trimmed. -/
theorem trimStartChars_blanks (hb : b.all isBlank) (cs : List Char) :
    trimStartChars (b ++ cs) = trimStartChars cs :=
  List.dropWhile_append_of_pos (List.all_eq_true.1 hb)

theorem trimEndChars_blanks (hb : b.all isBlank) (cs : List Char) :
    trimEndChars (cs ++ b) = trimEndChars cs := by
  have hb' : b.reverse.all isBlank := by simpa using hb
  rw [trimEndChars, List.reverse_append, trimStartChars_blanks hb', ← trimEndChars]

/-- A text that begins with something else than a blank is not trimmed at the front. -/
theorem trimStartChars_of_head? {x : Char} (h : cs.head? = some x) (hx : isBlank x = false) :
    trimStartChars cs = cs := by
  obtain ⟨xs, rfl⟩ := List.head?_eq_some_iff.1 h
  exact List.dropWhile_cons_of_neg (by simp [hx])

theorem trimEndChars_of_getLast? {x : Char} (h : cs.getLast? = some x) (hx : isBlank x = false) :
    trimEndChars cs = cs := by
  rw [trimEndChars, trimStartChars_of_head? (by simpa using h) hx, List.reverse_reverse]

/-- A text that has no blanks at its ends is not trimmed. -/
theorem trimChars_of_ends {x y : Char} (hhead : cs.head? = some x) (hx : isBlank x = false)
    (hlast : cs.getLast? = some y) (hy : isBlank y = false) : trimChars cs = cs := by
  rw [trimChars, trimStartChars_of_head? hhead hx, trimEndChars_of_getLast? hlast hy]

/-- What ends with something else than a blank keeps its end when its front is trimmed. -/
theorem trimStartChars_append_left {x : Char} {tail : List Char} (h : tail.head? = some x)
    (hx : isBlank x = false) (cs : List Char) :
    trimStartChars (cs ++ tail) = trimStartChars cs ++ tail := by
  rw [trimStartChars, List.dropWhile_append, ← trimStartChars]
  split_ifs with hblank
  · rw [List.isEmpty_iff.1 hblank, List.nil_append]
    exact trimStartChars_of_head? h hx
  · rfl

theorem trimEndChars_append_right {x : Char} {front : List Char} (h : front.getLast? = some x)
    (hx : isBlank x = false) (cs : List Char) :
    trimEndChars (front ++ cs) = front ++ trimEndChars cs := by
  rw [trimEndChars, List.reverse_append, trimStartChars_append_left (by simpa using h) hx,
    List.reverse_append, List.reverse_reverse, ← trimEndChars]

/-- Trimming does not see blanks that are put in front. -/
theorem trimChars_blanks_append (hb : b.all isBlank) (cs : List Char) :
    trimChars (b ++ cs) = trimChars cs := by
  rw [trimChars, trimStartChars_blanks hb, ← trimChars]

/-- Trimming does not see blanks that are put at the end. -/
theorem trimChars_append_blanks (hb : b.all isBlank) (cs : List Char) :
    trimChars (cs ++ b) = trimChars cs := by
  rw [trimChars, trimChars, trimStartChars, List.dropWhile_append, ← trimStartChars]
  split_ifs with hblank
  · -- Nothing but blanks: what is put at the end is trimmed from the front.
    rw [List.isEmpty_iff.1 hblank, ← trimStartChars, ← List.append_nil b, trimStartChars_blanks hb]
    rfl
  · exact trimEndChars_blanks hb _

/-! ## Trimming twice -/

theorem trimStartChars_trimStartChars (cs : List Char) :
    trimStartChars (trimStartChars cs) = trimStartChars cs :=
  List.dropWhile_idempotent isBlank cs

theorem trimEndChars_trimEndChars (cs : List Char) :
    trimEndChars (trimEndChars cs) = trimEndChars cs := by
  simp only [trimEndChars, List.reverse_reverse, trimStartChars_trimStartChars]

/-- The two ends may be trimmed in any order. -/
theorem trimStartChars_trimEndChars (cs : List Char) :
    trimStartChars (trimEndChars cs) = trimChars cs := by
  have hfront : (cs.takeWhile isBlank).all isBlank := List.all_takeWhile
  have hsplit : cs = cs.takeWhile isBlank ++ trimStartChars cs :=
    List.takeWhile_append_dropWhile.symm
  cases hrest : trimStartChars cs with
  | nil =>
    rw [hrest, List.append_nil] at hsplit
    have hend : trimEndChars cs = [] := by
      rw [hsplit, ← List.nil_append (List.takeWhile _ _), trimEndChars_blanks hfront]
      rfl
    rw [trimChars, hrest, hend]
    rfl
  | cons x xs =>
    have hx : isBlank x = false := by
      have hhead := List.head?_dropWhile_not isBlank cs
      rw [← trimStartChars, hrest] at hhead
      simpa using hhead
    -- The first character that is not blank keeps the two ends apart.
    have hend : trimEndChars (x :: xs) = x :: trimEndChars xs :=
      trimEndChars_append_right (show [x].getLast? = some x from rfl) hx xs
    have hend' : trimEndChars cs = cs.takeWhile isBlank ++ (x :: trimEndChars xs) := by
      conv_lhs => rw [hsplit, hrest, ← List.singleton_append, ← List.append_assoc]
      rw [trimEndChars_append_right (x := x) (by simp) hx, List.append_assoc, List.singleton_append]
    rw [trimChars, hrest, hend, hend']
    rw [trimStartChars_blanks hfront]
    exact trimStartChars_of_head? rfl hx

theorem trimChars_trimStartChars (cs : List Char) :
    trimChars (trimStartChars cs) = trimChars cs := by
  rw [trimChars, trimStartChars_trimStartChars, ← trimChars]

theorem trimChars_trimEndChars (cs : List Char) : trimChars (trimEndChars cs) = trimChars cs := by
  rw [trimChars, trimStartChars_trimEndChars, trimChars, trimEndChars_trimEndChars]

theorem trimChars_trimChars (cs : List Char) : trimChars (trimChars cs) = trimChars cs := by
  show trimChars (trimEndChars (trimStartChars cs)) = trimChars cs
  rw [trimChars_trimEndChars, trimChars_trimStartChars]

@[simp] theorem trim_trim (s : String) : trim (trim s) = trim s := by
  rw [trim, trim, String.toList_ofList, trimChars_trimChars]

/-! ## Beginnings -/

theorem dropPrefixChars?_eq_some_iff {opening rest : List Char} :
    dropPrefixChars? opening cs = some rest ↔ cs = opening ++ rest := by
  induction opening generalizing cs with
  | nil => simp [dropPrefixChars?]
  | cons o os ih =>
    cases cs with
    | nil => simp [dropPrefixChars?]
    | cons c cs =>
      by_cases h : o = c
      · simp [dropPrefixChars?, h, ih]
      · simp [dropPrefixChars?, h, Ne.symm h]

theorem dropPrefixChars?_eq_none_iff {opening : List Char} :
    dropPrefixChars? opening cs = none ↔ ¬ opening <+: cs := by
  rw [Option.eq_none_iff_forall_ne_some, List.IsPrefix, not_exists]
  refine forall_congr' fun rest => not_congr ?_
  rw [dropPrefixChars?_eq_some_iff, eq_comm]

end RiskReport.Text

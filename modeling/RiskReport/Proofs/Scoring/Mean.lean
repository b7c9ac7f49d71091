import Mathlib.Algebra.Order.BigOperators.Group.List
import Mathlib.Algebra.Order.Ring.Nat
import RiskReport.Proofs.Scoring.Order
import RiskReport.Proofs.Words

/-!
# The mean score

A report shows one number for all its risks, the mean of their scores. Whole numbers have to stand
for fractions here, and a half is rounded up: the mean `m` of `n` numbers with the sum `s` is given
by `2 * n * m ≤ 2 * s + n < 2 * n * (m + 1)` (`HalfUpMean`), in which nothing is divided. There is
exactly one such number (`halfUpMean_iff`), and it lies between the smallest and the largest score
(`HalfUpMean.between`).

`overallInWords?` works the mean out as a machine does, in words of 64 bits, and then puts it into
32 bits, at first without a sign and then with one. Scores have 16 bits; so many of them that a step
overflows would not fit into the memory of any machine.

**Theorem (`overall_settled`).** The overall score of a report is this mean, whichever order the
risks are in, and working it out in words gives the same number.
-/

namespace RiskReport

/-! ## Rounding half up -/

/-- A whole number is the mean of `n` numbers with some sum, where a half is rounded up. -/
def HalfUpMean (n sum : Nat) (m : Int) : Prop :=
  2 * n * m ≤ 2 * sum + n ∧ 2 * sum + n < 2 * n * (m + 1)

variable {n sum : Nat}

/-- There is one mean. -/
theorem HalfUpMean.unique {m m' : Int} (h : HalfUpMean n sum m) (h' : HalfUpMean n sum m') :
    m = m' := by
  have hn : (0 : Int) ≤ 2 * n := by omega
  have hlt : m < m' + 1 := Int.lt_of_mul_lt_mul_left (Int.lt_of_le_of_lt h.1 h'.2) hn
  have hlt' : m' < m + 1 := Int.lt_of_mul_lt_mul_left (Int.lt_of_le_of_lt h'.1 h.2) hn
  omega

/-- Numbers between two bounds have their mean between them. -/
theorem HalfUpMean.between {m : Int} {low high : Nat} (h : HalfUpMean n sum m)
    (hlow : n * low ≤ sum) (hhigh : sum ≤ n * high) : low ≤ m ∧ m ≤ high := by
  obtain ⟨hle, hlt⟩ := h
  have hn : (0 : Int) ≤ 2 * n := by omega
  have hlow' : (n : Int) * low ≤ sum := by exact_mod_cast hlow
  have hhigh' : (sum : Int) ≤ n * high := by exact_mod_cast hhigh
  have hpos : n ≠ 0 := by
    intro hzero
    subst hzero
    omega
  constructor
  · have : (2 * n : Int) * low < 2 * n * (m + 1) := by
      rw [Int.mul_assoc]
      omega
    have := Int.lt_of_mul_lt_mul_left this hn
    omega
  · have : (2 * n : Int) * m < 2 * n * (high + 1) := by
      rw [Int.mul_add, Int.mul_assoc 2 (n : Int) high]
      omega
    have := Int.lt_of_mul_lt_mul_left this hn
    omega

variable {risks : List ScoredRisk}

/-- The overall score is the mean of the scores, and the only one. -/
theorem halfUpMean_iff (h : risks ≠ []) {m : Int} :
    HalfUpMean risks.length (totalScore risks) m ↔ m = overallScore risks := by
  have hmean : HalfUpMean risks.length (totalScore risks) (overallScore risks) := by
    obtain ⟨hle, hlt⟩ := overallScore_half_up h
    constructor
    · exact_mod_cast hle
    · exact_mod_cast hlt
  constructor
  · intro hm
    exact hm.unique hmean
  · intro hm
    rw [hm]
    exact hmean

/-! ## Sums -/

theorem totalScore_le {high : Nat} (h : ∀ r ∈ risks, r.score ≤ high) :
    totalScore risks ≤ risks.length * high := by
  rw [totalScore_eq_sum]
  have hsum := List.sum_le_card_nsmul (risks.map (·.score)) high (by simpa using h)
  simpa using hsum

theorem le_totalScore {low : Nat} (h : ∀ r ∈ risks, low ≤ r.score) :
    risks.length * low ≤ totalScore risks := by
  rw [totalScore_eq_sum]
  have hsum := List.card_nsmul_le_sum (risks.map (·.score)) low (by simpa using h)
  simpa using hsum

/-- The overall score is between the smallest score and the largest one. -/
theorem overallScore_between {low high : Nat} (h : risks ≠ [])
    (hlow : (risks.map (·.score)).min? = some low)
    (hhigh : (risks.map (·.score)).max? = some high) :
    low ≤ overallScore risks ∧ overallScore risks ≤ high := by
  have hlow' : ∀ r ∈ risks, low ≤ r.score := by
    intro r hr
    exact (List.min?_eq_some_iff.1 hlow).2 _ (List.mem_map_of_mem hr)
  have hhigh' : ∀ r ∈ risks, r.score ≤ high := by
    intro r hr
    exact (List.max?_eq_some_iff.1 hhigh).2 _ (List.mem_map_of_mem hr)
  have hmean := (halfUpMean_iff h).2 rfl
  have := hmean.between (le_totalScore hlow') (totalScore_le hhigh')
  omega

/-! ## The mean in words -/

/-- The scores are added one after the other, as long as their sum fits into a word. -/
def sumInWords? (risks : List ScoredRisk) : Option Nat :=
  risks.foldlM (fun sum r => inWord? 64 (sum + r.score)) 0

/-- The overall score as a machine works it out: in words of 64 bits, of which 32 bits are kept,
which are then taken for a number with a sign. -/
def overallInWords? (risks : List ScoredRisk) : Option Int := do
  let sum ← sumInWords? risks
  let twice ← inWord? 64 (2 * sum)
  let dividend ← inWord? 64 (twice + risks.length)
  let divisor ← inWord? 64 (2 * risks.length)
  return narrow 32 (dividend / divisor % Nat.pow 2 32)

theorem foldlM_inWord? (risks : List ScoredRisk) (start : Nat)
    (h : start + totalScore risks < Nat.pow 2 64) :
    risks.foldlM (fun sum r => inWord? 64 (sum + r.score)) start =
      some (start + totalScore risks) := by
  induction risks generalizing start with
  | nil => rfl
  | cons r risks ih =>
    have htotal : totalScore (r :: risks) = r.score + totalScore risks := rfl
    rw [htotal, ← Nat.add_assoc] at h ⊢
    have hstart : start + r.score < Nat.pow 2 64 := by omega
    rw [List.foldlM_cons, inWord?_eq_some hstart]
    exact ih _ h

/-- With scores of 16 bits no step of the way overflows, and the mean fits into the bits that are
kept. -/
theorem overallInWords?_eq (h : risks ≠ []) (few : risks.length < Nat.pow 2 46)
    (words : ∀ r ∈ risks, r.score < Nat.pow 2 16) :
    overallInWords? risks = some (overallScore risks : Int) := by
  have hwords := words_eq
  have hfew : Nat.pow 2 46 = 70368744177664 := rfl
  have htotal : totalScore risks ≤ risks.length * 65535 := by
    apply totalScore_le
    intro r hr
    have := words r hr
    omega
  have hscore : overallScore risks ≤ 65535 := by
    have hmean := (halfUpMean_iff h).2 rfl
    have hlow : risks.length * 0 ≤ totalScore risks := Nat.zero_le _
    have := hmean.between hlow htotal
    omega
  have hsum : sumInWords? risks = some (totalScore risks) := by
    unfold sumInWords?
    rw [foldlM_inWord? risks 0 (by omega), Nat.zero_add]
  have hdiv : (2 * totalScore risks + risks.length) / (2 * risks.length) = overallScore risks := by
    have hempty : risks.isEmpty = false := by simpa using h
    rw [overallScore, hempty, if_neg Bool.false_ne_true]
  unfold overallInWords?
  rw [hsum]
  show (inWord? 64 (2 * totalScore risks) >>= fun twice => _) = _
  rw [inWord?_eq_some (by omega)]
  show (inWord? 64 (2 * totalScore risks + risks.length) >>= fun dividend => _) = _
  rw [inWord?_eq_some (by omega)]
  show (inWord? 64 (2 * risks.length) >>= fun divisor => _) = _
  rw [inWord?_eq_some (by omega)]
  show some (narrow 32 ((2 * totalScore risks + risks.length) / (2 * risks.length) %
    Nat.pow 2 32)) = _
  rw [hdiv, Nat.mod_eq_of_lt (by omega), narrow_of_lt]
  show 2 * overallScore risks < Nat.pow 2 32
  omega

/-! ## The theorem -/

/-- **The overall score.** A report has some risks, fewer than `2 ^ 46`, with scores of 16 bits. Its
overall score is the one whole number that is the mean of the scores with halves rounded up. Working
it out in words of 64 bits overflows nowhere, and the 32 bits that are kept are the whole of it. It
lies between the smallest and the largest score, and the order of the risks makes no difference. -/
theorem ScoredReport.overall_settled (p : ScoredReport) (nonempty : p.risks ≠ [])
    (few : p.risks.length < Nat.pow 2 46) (words : ∀ r ∈ p.risks, r.score < Nat.pow 2 16) :
    (∀ m : Int, HalfUpMean p.risks.length (p.risks.map (·.score)).sum m ↔ m = p.overall) ∧
      overallInWords? p.risks = some p.overall ∧
      (∃ low high, (p.risks.map (·.score)).min? = some low ∧
        (p.risks.map (·.score)).max? = some high ∧ low ≤ p.overall ∧ p.overall ≤ high) ∧
      ∀ q : ScoredReport, q.risks.Perm p.risks → q.overall = p.overall := by
  refine ⟨?_, overallInWords?_eq nonempty few words, ?_, ?_⟩
  · intro m
    rw [← totalScore_eq_sum]
    exact halfUpMean_iff nonempty
  · have hscores : p.risks.map (·.score) ≠ [] := by simpa using nonempty
    cases hlow : (p.risks.map (·.score)).min? with
    | none => exact absurd (List.min?_eq_none_iff.1 hlow) hscores
    | some low =>
      cases hhigh : (p.risks.map (·.score)).max? with
      | none => exact absurd (List.max?_eq_none_iff.1 hhigh) hscores
      | some high =>
        have hbetween := overallScore_between nonempty hlow hhigh
        exact ⟨low, high, rfl, rfl, Int.ofNat_le.2 hbetween.1, Int.ofNat_le.2 hbetween.2⟩
  · intro q perm
    exact congrArg Int.ofNat (ScoredRisk.Alike.overallScore_eq (perm.map ScoredRisk.unplaced))

/-- Results with two risks, whose scores have a half in their mean. -/
def Sample.halved : ScoredReport where
  report := ⟨⟨4⟩⟩
  risks := [⟨"backups", 1, "", "", "", "", 11, 1, 11, .ignore⟩,
    ⟨"churn", 2, "", "", "", "", 10, 1, 10, .ignore⟩]
  hedges := .empty
  executiveSummary := ""
  topPriorityHtml := ""

/-- Between 10 and 11 the half is rounded up to 11, in either order. -/
theorem overall_settled_sample :
    Sample.halved.risks ≠ [] ∧ Sample.halved.risks.length < Nat.pow 2 46 ∧
      (∀ r ∈ Sample.halved.risks, r.score < Nat.pow 2 16) ∧
      (HalfUpMean 2 21 11 ∧ Sample.halved.overall = 11) ∧
      overallInWords? Sample.halved.risks = some 11 ∧
      ({ Sample.halved with risks := Sample.halved.risks.reverse } : ScoredReport).overall = 11 := by
  have nonempty : Sample.halved.risks ≠ [] := nofun
  have few : Sample.halved.risks.length < Nat.pow 2 46 := by decide
  have words : ∀ r ∈ Sample.halved.risks, r.score < Nat.pow 2 16 := by decide
  obtain ⟨hmean, hwords, -, horder⟩ := Sample.halved.overall_settled nonempty few words
  have overall : Sample.halved.overall = 11 := by decide
  have reverse := horder { Sample.halved with risks := Sample.halved.risks.reverse }
    (List.reverse_perm _)
  refine ⟨nonempty, few, words, ⟨(hmean 11).2 overall.symm, overall⟩, ?_, ?_⟩
  · rw [hwords, overall]
  · rw [reverse, overall]

end RiskReport

import Mathlib.Data.List.Basic
import RiskReport.Job.Report
import RiskReport.Proofs.Scoring.Standing

/-!
# Moving the cutoffs

The cutoffs between tiers have no part in how answers are scored and risks are ordered. Ranking the
same answers with other cutoffs therefore gives the same risks at the same positions, each with the
tier that the new cutoffs put it in (`rank_retier`), and it is refused for the same reason.

Whether a risk is in the highest tier depends on both cutoffs, and so does the number of critical
risks. Whether hedges are asked for it depends on its impact alone (`asked_ofTiers`), because the
two tiers with hedges are those of high impact.

**Theorem (`cutoffs_move_tiers`).** Two rankings of the same answers differ in the tiers only, and
higher cutoffs never put more risks into the highest tier, or into those with hedges.
-/

namespace RiskReport

/-! ## Rankings with other cutoffs -/

/-- A run over a list with other results is a run with the results changed in the same way. -/
theorem mapM_map_except {α β γ ε : Type} {f : α → Except ε β} {f' : α → Except ε γ} {g : β → γ}
    (h : ∀ a, f' a = (f a).map g) (l : List α) : l.mapM f' = (l.mapM f).map (List.map g) := by
  induction l with
  | nil => rfl
  | cons a l ih =>
    have ha := h a
    cases hf : f a with
    | error e =>
      rw [hf] at ha
      rw [mapM_cons_error hf, mapM_cons_error ha]
      rfl
    | ok b =>
      rw [hf] at ha
      rw [mapM_cons_ok hf, mapM_cons_ok ha, ih]
      cases l.mapM f <;> rfl

namespace TierThresholds

variable {t t' : TierThresholds} {rows : List AnswerRow} {risks : List ScoredRisk}

/-- The risk in the tier of these cutoffs. -/
def retier (t : TierThresholds) (r : ScoredRisk) : ScoredRisk :=
  { r with tier := t.classify r.probability r.impact }

theorem scoreRow_retier (t t' : TierThresholds) (row : AnswerRow) :
    t'.scoreRow row = (t.scoreRow row).map t'.retier := by
  unfold scoreRow
  cases CheckedConfig.parse row.scoringConfig <;> rfl

theorem number_retier (t : TierThresholds) (risks : List ScoredRisk) :
    number (risks.map t.retier) = (number risks).map t.retier := by
  unfold number
  rw [List.zipIdx_map, List.map_map, List.map_map]
  rfl

/-- Tiers have no part in the order of risks. -/
theorem mergeSort_retier (t : TierThresholds) (risks : List ScoredRisk) :
    (risks.map t.retier).mergeSort ScoredRisk.before =
      (risks.mergeSort ScoredRisk.before).map t.retier := by
  refine (List.map_mergeSort fun a _ b _ => ?_).symm
  rfl

/-- With other cutoffs the same answers have the same ranking, apart from the tiers. -/
theorem rank_retier (t t' : TierThresholds) (rows : List AnswerRow) :
    t'.rank rows = (t.rank rows).map (List.map t'.retier) := by
  rw [rank_eq, rank_eq, mapM_map_except (scoreRow_retier t t')]
  cases (rows.filter (·.isScoring)).mapM t.scoreRow with
  | error e => rfl
  | ok scored =>
    show Except.ok (number ((scored.map t'.retier).mergeSort ScoredRisk.before)) = _
    rw [mergeSort_retier, number_retier]
    rfl

/-- Every risk of a ranking is in the tier of its cutoffs. -/
theorem map_retier_of_rank (h : t.rank rows = .ok risks) : risks.map t.retier = risks := by
  have hself := rank_retier t t rows
  rw [h] at hself
  exact (Except.ok.inj hself).symm

theorem tier_of_rank (h : t.rank rows = .ok risks) {r : ScoredRisk} (hr : r ∈ risks) :
    r.tier = t.classify r.probability r.impact := by
  have hself := List.map_inj_left.1 ((map_retier_of_rank h).trans (List.map_id risks).symm) r hr
  exact congrArg ScoredRisk.tier hself.symm

/-! ## Tiers -/

/-- No cutoff is higher. -/
def AtMost (t t' : TierThresholds) : Prop :=
  t.highImpact ≤ t'.highImpact ∧ t.highProbability ≤ t'.highProbability

theorem classify_eq_watch_iff {probability impact : Nat} :
    t.classify probability impact = .watch ↔
      t.highProbability ≤ probability ∧ t.highImpact ≤ impact := by
  unfold classify
  by_cases hp : t.highProbability ≤ probability <;> by_cases hi : t.highImpact ≤ impact <;>
    simp [hp, hi]

/-- A risk that higher cutoffs put in the highest tier is there with lower ones. -/
theorem AtMost.watch {probability impact : Nat} (h : t.AtMost t')
    (hw : t'.classify probability impact = .watch) : t.classify probability impact = .watch := by
  rw [classify_eq_watch_iff] at hw ⊢
  exact ⟨Nat.le_trans h.2 hw.1, Nat.le_trans h.1 hw.2⟩

theorem AtMost.criticalCount_le (h : t.AtMost t') (risks : List ScoredRisk) :
    criticalCount (risks.map t'.retier) ≤ criticalCount (risks.map t.retier) := by
  unfold criticalCount
  rw [List.countP_map, List.countP_map]
  refine List.countP_mono_left fun r _ hr => ?_
  exact beq_iff_eq.2 (h.watch (beq_iff_eq.1 hr))

/-- Hedges are asked for risks of high impact. -/
theorem hedgedTiers_contains_classify (probability impact : Nat) :
    hedgedTiers.contains (t.classify probability impact) = decide (t.highImpact ≤ impact) := by
  unfold classify hedgedTiers
  by_cases hp : t.highProbability ≤ probability <;> by_cases hi : t.highImpact ≤ impact <;>
    simp [hp, hi]

/-- The questions that hedges are asked for are those of the risks of high impact. -/
theorem asked_ofTiers (t : TierThresholds) (risks : List ScoredRisk) :
    (ofTiers (risks.map t.retier) hedgedTiers).map (·.questionId) =
      (risks.filter fun r => decide (t.highImpact ≤ r.impact)).map (·.questionId) := by
  unfold ofTiers
  rw [List.filter_map, List.map_map]
  have hasked : ((fun r : ScoredRisk => hedgedTiers.contains r.tier) ∘ t.retier) =
      fun r => decide (t.highImpact ≤ r.impact) :=
    funext fun r => hedgedTiers_contains_classify r.probability r.impact
  rw [hasked]
  rfl

/-- **Moving the cutoffs.** The same answers are ranked with two pairs of cutoffs. Then both
rankings are refused for the same reason, or they agree risk by risk in everything but the tier. If
no cutoff of the first is higher, a risk that the second puts in the highest tier is there in the
first as well, and the first has at least as many critical risks. The questions that hedges are
asked for, in their order, depend on the cutoff for the impact alone, and with a higher one they are
some of those before. -/
theorem cutoffs_move_tiers (t t' : TierThresholds) (rows : List AnswerRow) :
    (∃ e, t.rank rows = .error e ∧ t'.rank rows = .error e) ∨
      ∃ risks risks', t.rank rows = .ok risks ∧ t'.rank rows = .ok risks' ∧
        List.Forall₂ (fun r r' => r' = { r with tier := r'.tier }) risks risks' ∧
        (t.AtMost t' →
          List.Forall₂ (fun r r' => r'.tier = .watch → r.tier = .watch) risks risks' ∧
            criticalCount risks' ≤ criticalCount risks) ∧
        (t.highImpact ≤ t'.highImpact →
          ((ofTiers risks' hedgedTiers).map (·.questionId)).Sublist
            ((ofTiers risks hedgedTiers).map (·.questionId))) ∧
        (t.highImpact = t'.highImpact →
          (ofTiers risks' hedgedTiers).map (·.questionId) =
            (ofTiers risks hedgedTiers).map (·.questionId)) := by
  have hrank := rank_retier t t' rows
  cases h : t.rank rows with
  | error e =>
    rw [h] at hrank
    exact .inl ⟨e, rfl, hrank⟩
  | ok risks =>
    rw [h] at hrank
    have hself := map_retier_of_rank h
    have hasked := asked_ofTiers t risks
    rw [hself] at hasked
    refine .inr ⟨risks, risks.map t'.retier, rfl, hrank, ?_, fun hle => ⟨?_, ?_⟩, fun hle => ?_,
      fun heq => ?_⟩
    · exact List.forall₂_map_right_iff.2 (List.forall₂_same.2 fun r _ => rfl)
    · refine List.forall₂_map_right_iff.2 (List.forall₂_same.2 fun r hr hwatch => ?_)
      rw [tier_of_rank h hr]
      exact hle.watch hwatch
    · have hcount := hle.criticalCount_le risks
      rwa [hself] at hcount
    · rw [asked_ofTiers, hasked]
      refine (List.monotone_filter_right risks fun r hr => ?_).map _
      rw [decide_eq_true_eq] at hr ⊢
      omega
    · rw [asked_ofTiers, hasked, heq]

end TierThresholds

end RiskReport

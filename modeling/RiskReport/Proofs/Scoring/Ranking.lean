import Mathlib.Algebra.Ring.Int.Defs
import Mathlib.Algebra.Ring.Nat
import Mathlib.Tactic.Choose
import Mathlib.Tactic.Conv
import RiskReport.Scoring.Ranking
import RiskReport.Store.Call

/-!
# What a ranking is

`TierThresholds.rank` scores the answers that count, sorts them, and numbers them. `Ranked` says
what comes out without following these steps: one risk for each answer that counts, with the score
of the answer and its tier; the highest score first, and equal scores in the order of their
questions; numbers from 1.

**Theorem (`rank_ranked`).** If every configuration that counts can be read, there is a ranking.
-/

namespace RiskReport

/-! ## Scores -/

/-- Both values of a score are from 1 to 10. -/
structure RiskScore.Bounded (s : RiskScore) : Prop where
  probability : 1 ≤ s.probability ∧ s.probability ≤ 10
  impact : 1 ≤ s.impact ∧ s.impact ≤ 10

theorem RiskScore.clamp_bounds (v : Int) : 1 ≤ clamp v ∧ clamp v ≤ 10 := by
  unfold clamp lowest highest
  omega

theorem RiskScore.bounded_clamped (p i : Int) : (clamped p i).Bounded :=
  ⟨clamp_bounds p, clamp_bounds i⟩

theorem RiskScore.Bounded.composite_le {s : RiskScore} (h : s.Bounded) : s.composite ≤ 100 :=
  Nat.mul_le_mul h.probability.2 h.impact.2

theorem ScoringConfig.score?_bounded {c : ScoringConfig} {answer : String} {s : RiskScore}
    (h : c.score? answer = some s) : s.Bounded := by
  cases c with
  | radio c =>
    simp only [score?, RadioConfig.score?] at h
    split at h
    · obtain rfl := Option.some.inj h
      exact ⟨by decide, by decide⟩
    · simp only [Option.bind_eq_bind, Option.bind_eq_some_iff] at h
      obtain ⟨p, -, i, -, h⟩ := h
      obtain rfl := Option.some.inj h
      exact RiskScore.bounded_clamped p i
  | text c =>
    obtain rfl := Option.some.inj h
    unfold TextConfig.score
    split
    · exact RiskScore.bounded_clamped _ _
    · exact RiskScore.bounded_clamped _ _

/-- Every answer has a score within bounds. -/
theorem CheckedConfig.score_bounded (c : CheckedConfig) (answer : String) :
    (c.score answer).Bounded :=
  ScoringConfig.score?_bounded (Option.some_get _).symm

/-- A number that fits is kept as it is. -/
theorem narrow_of_lt {bits n : Nat} (h : 2 * n < Nat.pow 2 bits) : narrow bits n = n := by
  unfold narrow
  exact Int.bmod_eq_of_le (by omega) (by omega)

/-! ## One answer -/

theorem mapM_eq_ok {α β ε : Type} {f : α → Except ε β} {g : α → β} {l : List α}
    (h : ∀ a ∈ l, f a = .ok (g a)) : l.mapM f = .ok (l.map g) := by
  induction l with
  | nil => rfl
  | cons a l ih =>
    rw [List.mapM_cons, h a List.mem_cons_self, ih fun b hb => h b (List.mem_cons_of_mem a hb)]
    rfl

/-- The risk that an answer stands for, with its score and without a position. -/
def AnswerRow.risk (row : AnswerRow) (t : TierThresholds) (s : RiskScore) : ScoredRisk where
  questionId := row.questionId
  rank := 0
  riskName := row.riskName
  riskDesc := row.riskDesc
  hedge := row.hedge
  sectionTitle := row.sectionTitle
  probability := s.probability
  impact := s.impact
  score := s.composite
  tier := t.classify s.probability s.impact

namespace TierThresholds

variable {t : TierThresholds} {rows : List AnswerRow}

theorem scoreRow_eq_ok {row : AnswerRow} {s : ScoredRisk} :
    t.scoreRow row = .ok s ↔ ∃ config, CheckedConfig.parse row.scoringConfig = .ok config ∧
      s = row.risk t (config.score row.answerText) := by
  unfold scoreRow
  split
  · next cause h => simp [h]
  · next config h => simp [h, AnswerRow.risk, eq_comm]

/-! ## The order of risks -/

theorem before_trans (a b c : ScoredRisk) (hab : a.before b = true) (hbc : b.before c = true) :
    a.before c = true := by
  simp only [ScoredRisk.before, Bool.or_eq_true, Bool.and_eq_true, decide_eq_true_eq,
    beq_iff_eq] at *
  rcases hab with hab | ⟨hab, hab'⟩ <;> rcases hbc with hbc | ⟨hbc, hbc'⟩
  · exact .inl (by omega)
  · exact .inl (by omega)
  · exact .inl (by omega)
  · exact .inr ⟨by omega, String.le_trans hab' hbc'⟩

theorem before_total (a b : ScoredRisk) : (a.before b || b.before a) = true := by
  simp only [ScoredRisk.before, Bool.or_eq_true, Bool.and_eq_true, decide_eq_true_eq, beq_iff_eq]
  rcases Nat.lt_trichotomy a.score b.score with h | h | h
  · exact .inr (.inl h)
  · rcases String.le_total a.questionId b.questionId with hq | hq
    · exact .inl (.inr ⟨h, hq⟩)
    · exact .inr (.inr ⟨h.symm, hq⟩)
  · exact .inl (.inl h)

/-! ## Positions -/

/-- Numbering changes positions only. -/
theorem map_number {β : Type} {f : ScoredRisk → β} (risks : List ScoredRisk)
    (h : ∀ r i, f { r with rank := i } = f r) : (number risks).map f = risks.map f := by
  unfold number
  rw [List.map_map]
  conv_rhs => rw [← List.zipIdx_map_fst 0 risks, List.map_map]
  exact List.map_congr_left fun x _ => h x.1 (x.2 + 1)

theorem ranks_number (risks : List ScoredRisk) :
    (number risks).map (·.rank) = List.range' 1 risks.length := by
  unfold number
  rw [List.map_map]
  have h : (fun x : ScoredRisk × Nat => x.2 + 1) = (1 + ·) ∘ Prod.snd :=
    funext fun x => Nat.add_comm _ _
  change risks.zipIdx.map (fun x => x.2 + 1) = _
  rw [h, ← List.map_map, List.zipIdx_map_snd, List.map_add_range']

theorem exists_of_mem_number {risks : List ScoredRisk} {s : ScoredRisk} (h : s ∈ number risks) :
    ∃ r ∈ risks, ∃ i, s = { r with rank := i + 1 } := by
  simp only [number, List.mem_map, Prod.exists] at h
  obtain ⟨r, i, hr, rfl⟩ := h
  exact ⟨r, List.fst_mem_of_mem_zipIdx hr, i, rfl⟩

theorem pairwise_number {risks : List ScoredRisk}
    (h : risks.Pairwise fun a b => a.before b = true) :
    (number risks).Pairwise fun a b => a.before b = true := by
  unfold number
  rw [List.pairwise_map]
  rw [← List.zipIdx_map_fst 0 risks, List.pairwise_map] at h
  exact h

/-! ## Rankings -/

/-- Some risks are the ranking of some answers. -/
structure Ranked (t : TierThresholds) (rows : List AnswerRow) (risks : List ScoredRisk) : Prop where
  questions : (risks.map (·.questionId)).Perm ((rows.filter (·.isScoring)).map (·.questionId))
  scored : ∀ s ∈ risks, ∃ row ∈ rows, row.isScoring = true ∧
    ∃ config, CheckedConfig.parse row.scoringConfig = .ok config ∧
      ∃ i, s = { row.risk t (config.score row.answerText) with rank := i }
  sorted : risks.Pairwise fun a b => a.before b = true
  ranks : risks.map (·.rank) = List.range' 1 risks.length

/-- If every configuration that counts can be read, there is a ranking. -/
theorem rank_ranked (h : ∀ row ∈ rows, row.isScoring = true →
      ∃ config, CheckedConfig.parse row.scoringConfig = .ok config) :
    ∃ risks, t.rank rows = .ok risks ∧ t.Ranked rows risks := by
  have hs : ∀ row ∈ rows.filter (·.isScoring), ∃ s, t.scoreRow row = .ok s := by
    intro row hrow
    obtain ⟨hmem, hcounts⟩ := List.mem_filter.1 hrow
    obtain ⟨config, hconfig⟩ := h row hmem hcounts
    exact ⟨_, scoreRow_eq_ok.2 ⟨config, hconfig, rfl⟩⟩
  choose! g hg using hs
  refine ⟨number (((rows.filter (·.isScoring)).map g).mergeSort ScoredRisk.before), ?_, ?_⟩
  · simp only [rank, scoreRows, mapM_eq_ok hg]
    rfl
  · exact {
      questions := by
        rw [map_number _ fun _ _ => rfl]
        refine ((List.mergeSort_perm _ _).map _).trans (List.Perm.of_eq ?_)
        rw [List.map_map]
        refine List.map_congr_left fun row hrow => ?_
        obtain ⟨config, -, hrisk⟩ := scoreRow_eq_ok.1 (hg row hrow)
        simp [hrisk, AnswerRow.risk]
      scored := by
        intro s hs
        obtain ⟨r, hr, i, rfl⟩ := exists_of_mem_number hs
        obtain ⟨row, hrow, rfl⟩ := List.mem_map.1 (List.mem_mergeSort.1 hr)
        obtain ⟨config, hconfig, hrisk⟩ := scoreRow_eq_ok.1 (hg row hrow)
        obtain ⟨hmem, hcounts⟩ := List.mem_filter.1 hrow
        exact ⟨row, hmem, hcounts, config, hconfig, i + 1, by rw [hrisk]⟩
      sorted := pairwise_number (List.pairwise_mergeSort before_trans before_total _)
      ranks := by
        rw [ranks_number]
        simp [number] }

theorem Ranked.score_le {risks : List ScoredRisk} (h : t.Ranked rows risks) {s : ScoredRisk}
    (hs : s ∈ risks) : s.score ≤ 100 := by
  obtain ⟨row, -, -, config, -, i, rfl⟩ := h.scored s hs
  exact (config.score_bounded row.answerText).composite_le

theorem Ranked.rank_le {risks : List ScoredRisk} (h : t.Ranked rows risks) {s : ScoredRisk}
    (hs : s ∈ risks) : s.rank ≤ risks.length := by
  have hm : s.rank ∈ risks.map (·.rank) := List.mem_map_of_mem hs
  rw [h.ranks, List.mem_range'_1] at hm
  omega

end TierThresholds

/-! ## Totals -/

theorem totalScore_eq_sum (risks : List ScoredRisk) :
    totalScore risks = (risks.map (·.score)).sum := by
  rw [totalScore, List.sum, List.foldr_map]

theorem cast_totalScore (risks : List ScoredRisk) :
    (totalScore risks : Int) = (risks.map fun s => (s.score : Int)).sum := by
  induction risks with
  | nil => rfl
  | cons r risks ih =>
    rw [List.map_cons, List.sum_cons, ← ih]
    exact Int.natCast_add r.score (totalScore risks)

/-- The overall score is the mean score, rounded half up. -/
theorem overallScore_half_up {risks : List ScoredRisk} (h : risks ≠ []) :
    2 * risks.length * overallScore risks ≤ 2 * totalScore risks + risks.length ∧
      2 * totalScore risks + risks.length < 2 * risks.length * (overallScore risks + 1) := by
  have hn : 0 < 2 * risks.length := by
    have := List.length_pos_iff.2 h
    omega
  have he : risks.isEmpty = false := by simpa using h
  simp only [overallScore, he, Bool.false_eq_true, if_false]
  exact ⟨Nat.mul_div_le _ _, Nat.lt_mul_div_succ _ hn⟩

end RiskReport

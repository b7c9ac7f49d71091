import Mathlib.Data.List.Nodup
import Mathlib.Data.List.Perm.Basic
import RiskReport.Proofs.Scoring.Standing

/-!
# The order of the answers

The answers of a session come from a table, in whatever order it keeps them. A ranking of them in
another order has the same risks, since every answer is scored for itself; what may differ is their
positions, and only among risks with the same score and the same question, which the sorting leaves
as they come. So whatever is said of all risks together is the same (`ScoredRisk.Alike`), and if no
question has two answers, the ranking is the same altogether (`mergeSort_eq_of_perm`).

**Theorem (`order_immaterial`).** Both orders are refused, or both have rankings that agree in this
way.
-/

namespace RiskReport

/-! ## Risks apart from their positions -/

namespace ScoredRisk

/-- The risk without its position. -/
def unplaced (r : ScoredRisk) : ScoredRisk :=
  { r with rank := 0 }

/-- Two rankings have the same risks at positions that may differ. -/
def Alike (risks risks' : List ScoredRisk) : Prop :=
  (risks.map unplaced).Perm (risks'.map unplaced)

variable {risks risks' : List ScoredRisk}

/-- What is known of a risk without its position is the same for the risks of both rankings. -/
theorem Alike.map {β : Type} {f : ScoredRisk → β} (h : Alike risks risks')
    (hf : ∀ r, f r.unplaced = f r) : (risks.map f).Perm (risks'.map f) := by
  have hp : ((risks.map unplaced).map f).Perm ((risks'.map unplaced).map f) := List.Perm.map f h
  have hmap : f ∘ unplaced = f := funext hf
  rwa [List.map_map, List.map_map, hmap] at hp

theorem Alike.filter {p : ScoredRisk → Bool} (h : Alike risks risks')
    (hp : ∀ r, p r.unplaced = p r) : Alike (risks.filter p) (risks'.filter p) := by
  have hfilter : p ∘ unplaced = p := funext hp
  have hperm := List.Perm.filter p h
  rwa [List.filter_map, List.filter_map, hfilter] at hperm

theorem Alike.overallScore_eq (h : Alike risks risks') :
    overallScore risks = overallScore risks' := by
  have hscores : (risks.map (·.score)).Perm (risks'.map (·.score)) := h.map fun _ => rfl
  have hlength : risks.length = risks'.length := by simpa using hscores.length_eq
  have hempty : risks.isEmpty = risks'.isEmpty := by
    rw [Bool.eq_iff_iff, List.isEmpty_iff_length_eq_zero, List.isEmpty_iff_length_eq_zero, hlength]
  simp only [overallScore, totalScore_eq_sum, hscores.sum_nat, hlength, hempty]

theorem Alike.criticalCount_eq (h : Alike risks risks') :
    criticalCount risks = criticalCount risks' := by
  have htiers : (risks.map (·.tier)).Perm (risks'.map (·.tier)) := h.map fun _ => rfl
  have hcount (l : List ScoredRisk) : criticalCount l = (l.map (·.tier)).countP (· == .watch) := by
    rw [List.countP_map]
    rfl
  rw [hcount, hcount, htiers.countP_eq]

theorem Alike.ofTiers (h : Alike risks risks') (tiers : List RiskTier) :
    Alike (ofTiers risks tiers) (RiskReport.ofTiers risks' tiers) :=
  h.filter fun _ => rfl

end ScoredRisk

namespace TierThresholds

variable {t : TierThresholds} {rows rows' : List AnswerRow} {risks : List ScoredRisk}
  {scored scored' : List ScoredRisk}

/-! ## Sorting -/

/-- Of risks that stand before each other the scores and the questions are the same. -/
theorem before_antisymm {a b : ScoredRisk} (hab : a.before b = true) (hba : b.before a = true) :
    a.score = b.score ∧ a.questionId = b.questionId := by
  simp only [ScoredRisk.before, Bool.or_eq_true, Bool.and_eq_true, decide_eq_true_eq,
    beq_iff_eq] at hab hba
  rcases hab with hab | ⟨hscore, hab⟩
  · omega
  · rcases hba with hba | ⟨-, hba⟩
    · omega
    · exact ⟨hscore, String.le_antisymm hab hba⟩

/-- Risks of distinct questions are sorted to the same list in whatever order they come. -/
theorem mergeSort_eq_of_perm (perm : scored.Perm scored')
    (distinct : (scored.map (·.questionId)).Nodup) :
    scored.mergeSort ScoredRisk.before = scored'.mergeSort ScoredRisk.before := by
  have hsorted (l : List ScoredRisk) :
      (l.mergeSort ScoredRisk.before).Pairwise fun a b => a.before b = true :=
    List.pairwise_mergeSort before_trans before_total l
  have hperm : (scored.mergeSort ScoredRisk.before).Perm (scored'.mergeSort ScoredRisk.before) :=
    (List.mergeSort_perm _ _).trans (perm.trans (List.mergeSort_perm _ _).symm)
  refine hperm.eq_of_pairwise (fun a b ha hb hab hba => ?_) (hsorted scored) (hsorted scored')
  have ha' : a ∈ scored := List.mem_mergeSort.1 ha
  have hb' : b ∈ scored := perm.mem_iff.2 (List.mem_mergeSort.1 hb)
  exact List.inj_on_of_nodup_map distinct ha' hb' (before_antisymm hab hba).2

/-! ## Answers in two orders -/

/-- What sorting and numbering risks leaves as it is. -/
theorem map_placed {β : Type} {f : ScoredRisk → β} (scored : List ScoredRisk)
    (hf : ∀ r i, f { r with rank := i } = f r) :
    ((number (scored.mergeSort ScoredRisk.before)).map f).Perm (scored.map f) := by
  rw [map_number _ hf]
  exact (List.mergeSort_perm scored ScoredRisk.before).map f

/-- Answers that can be ranked can be ranked in every order. The risks are the same then, and with
distinct questions so is the ranking. -/
theorem exists_rank_of_perm (perm : rows.Perm rows') (h : t.rank rows = .ok risks) :
    ∃ risks', t.rank rows' = .ok risks' ∧ ScoredRisk.Alike risks risks' ∧
      (((rows.filter (·.isScoring)).map (·.questionId)).Nodup → risks = risks') := by
  have hquestions := (ranked_of_rank h).questions
  obtain ⟨scored, hscored, rfl⟩ := rank_eq_ok_iff.1 h
  obtain ⟨scored', hscored', hperm⟩ :=
    List.perm_comp_forall₂ (perm.symm.filter (·.isScoring)) hscored
  refine ⟨_, rank_eq_ok_iff.2 ⟨scored', hscored', rfl⟩, ?_, fun distinct => ?_⟩
  · have hsame := hperm.symm.map ScoredRisk.unplaced
    exact (map_placed scored fun _ _ => rfl).trans
      (hsame.trans (map_placed scored' fun _ _ => rfl).symm)
  · have hplaced : ((number (scored.mergeSort ScoredRisk.before)).map (·.questionId)).Perm
        (scored.map (·.questionId)) := map_placed scored fun _ _ => rfl
    have hnodup : (scored.map (·.questionId)).Nodup :=
      (hplaced.symm.trans hquestions).nodup_iff.2 distinct
    rw [mergeSort_eq_of_perm hperm.symm hnodup]

/-- **The order of answers.** Some answers are given in two orders. Then both are refused, or both
have rankings. The rankings have the same overall score, the same number of critical risks and the
same risks in all tiers, apart from their positions; and if the questions of the answers that count
are distinct, they are the same ranking. -/
theorem order_immaterial (t : TierThresholds) {rows rows' : List AnswerRow}
    (perm : rows.Perm rows') :
    (∃ e e', t.rank rows = .error e ∧ t.rank rows' = .error e') ∨
      ∃ risks risks', t.rank rows = .ok risks ∧ t.rank rows' = .ok risks' ∧
        overallScore risks = overallScore risks' ∧ criticalCount risks = criticalCount risks' ∧
        (∀ tiers, ScoredRisk.Alike (ofTiers risks tiers) (ofTiers risks' tiers)) ∧
        (((rows.filter (·.isScoring)).map (·.questionId)).Nodup → risks = risks') := by
  cases h : t.rank rows with
  | ok risks =>
    obtain ⟨risks', h', halike, hsame⟩ := exists_rank_of_perm perm h
    exact .inr ⟨risks, risks', rfl, h', halike.overallScore_eq, halike.criticalCount_eq,
      halike.ofTiers, hsame⟩
  | error e =>
    refine .inl ⟨e, ?_⟩
    cases h' : t.rank rows' with
    | error e' => exact ⟨e', rfl, rfl⟩
    | ok risks' =>
      obtain ⟨risks, hrisks, -⟩ := exists_rank_of_perm perm.symm h'
      cases h.symm.trans hrisks

/-- Answers of one score to two questions, the later question first. -/
def tied : List AnswerRow :=
  ["runway", "churn"].map fun question =>
    ⟨question, "We do.", "", "", "", "", (ScoringConfig.text ⟨40, 7, 3, 6, 4⟩).toJson, true⟩

theorem order_immaterial_sample :
    tied.Perm tied.reverse ∧ ((tied.filter (·.isScoring)).map (·.questionId)).Nodup ∧
      ∃ risks, published.rank tied = .ok risks ∧ published.rank tied.reverse = .ok risks := by
  have perm : tied.Perm tied.reverse := (List.reverse_perm tied).symm
  have distinct : ((tied.filter (·.isScoring)).map (·.questionId)).Nodup := by
    show ["runway", "churn"].Nodup
    decide
  have readable : ∀ row ∈ tied, row.isScoring = true →
      ∃ config, CheckedConfig.parse row.scoringConfig = .ok config := by
    intro row hrow _
    obtain ⟨question, -, rfl⟩ := List.mem_map.1 hrow
    exact ⟨_, rfl⟩
  obtain ⟨risks, hrank, -⟩ := rank_ranked (t := published) readable
  refine ⟨perm, distinct, risks, hrank, ?_⟩
  rcases order_immaterial published perm with ⟨e, -, he, -⟩ | ⟨r, r', hr, hr', -, -, -, hsame⟩
  · cases hrank.symm.trans he
  · obtain rfl := Except.ok.inj (hrank.symm.trans hr)
    rw [hsame distinct, hr']

end TierThresholds

end RiskReport

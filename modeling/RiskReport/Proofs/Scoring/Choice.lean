import RiskReport.Proofs.Config
import RiskReport.Proofs.Scoring.Ranking
import RiskReport.Proofs.Text.Ends

/-!
# The option that an answer chooses

An answer chooses the first option that it equals after trimming, and has the scores that are set
for this option, as they are: a checked configuration sets them within the range
(`RadioConfig.check_eq_ok_iff`), so moving them into it changes nothing
(`RiskScore.clamp_of_inRange`). The options themselves are not trimmed. An option with a blank at
one of its ends is therefore chosen by no answer, not even by its own text.

**Theorem (`options_scored`).** Every option without blanks at its ends is scored as it is set. An
option with such blanks is scored as the option that it trims to, if there is one, and otherwise it
has the minimum, as an answer has that trims to no option.
-/

namespace RiskReport

open Text

/-! ## Scores that are set -/

/-- A score within the range stays as it is when it is moved into the range. -/
theorem RiskScore.clamp_of_inRange {v : Int} (h : inRange v = true) : (clamp v : Int) = v := by
  rw [inRange_iff] at h
  unfold clamp lowest highest
  omega

/-- A pair within the range is not moved. -/
theorem RiskScore.pair_clamped {p i : Int} (hp : 1 ≤ p ∧ p ≤ 10) (hi : 1 ≤ i ∧ i ≤ 10) :
    (p, i) = (((clamped p i).probability : Int), ((clamped p i).impact : Int)) :=
  Prod.ext (clamp_of_inRange (inRange_iff.2 hp)).symm
    (clamp_of_inRange (inRange_iff.2 hi)).symm

namespace RadioConfig

variable {c : RadioConfig} {i : Nat} {o answer : String} {s : RiskScore}

/-- An option stands at a place, and no equal one before it. -/
def Offers (c : RadioConfig) (i : Nat) (o : String) : Prop :=
  c.opts[i]? = some o ∧ ∀ j < i, c.opts[j]? ≠ some o

/-- A score is set for the option at a place. -/
def Sets (c : RadioConfig) (i : Nat) (s : RiskScore) : Prop :=
  c.pScores[i]? = some (s.probability : Int) ∧ c.iScores[i]? = some (s.impact : Int)

/-- There are options, and each of them has a probability and an impact within the range. -/
structure Accepted (c : RadioConfig) : Prop where
  options : c.opts ≠ []
  probabilities : c.pScores.length = c.opts.length
  impacts : c.iScores.length = c.opts.length
  probability : ∀ v ∈ c.pScores, 1 ≤ v ∧ v ≤ 10
  impact : ∀ v ∈ c.iScores, 1 ≤ v ∧ v ≤ 10

theorem checkScores_eq_ok_iff {field : String} {scores : List Int} :
    checkScores field scores = .ok () ↔ ∀ v ∈ scores, 1 ≤ v ∧ v ≤ 10 := by
  simp only [← RiskScore.inRange_iff]
  unfold checkScores
  split
  · next v i hfind =>
    have hout : RiskScore.inRange v = false := by simpa using List.find?_some hfind
    have hmem : v ∈ scores := List.fst_mem_of_mem_zipIdx (List.mem_of_find?_eq_some hfind)
    constructor
    · rintro ⟨⟩
    · intro hall
      cases hout.symm.trans (hall v hmem)
  · next hfind =>
    refine ⟨fun _ v hv => ?_, fun _ => rfl⟩
    obtain ⟨k, hk⟩ := List.mem_iff_getElem?.1 hv
    have hmem : (v, k) ∈ scores.zipIdx := List.mem_zipIdx_iff_getElem?.2 hk
    simpa using List.find?_eq_none.1 hfind (v, k) hmem

/-- With as many scores as options, it is the scores alone that are checked. -/
theorem check_of_lengths (options : c.opts ≠ []) (hp : c.pScores.length = c.opts.length)
    (hi : c.iScores.length = c.opts.length) :
    c.check = (do checkScores "p_scores" c.pScores; checkScores "i_scores" c.iScores) := by
  simp [check, options, hp, hi]

/-- The check says what is accepted. -/
theorem check_eq_ok_iff : c.check = .ok () ↔ c.Accepted := by
  constructor
  · intro h
    have options : c.opts ≠ [] := by
      intro hnil
      simp [check, hnil, bind, Except.bind, throw, throwThe, MonadExceptOf.throw] at h
    obtain ⟨hp, hi⟩ := lengths_of_check h
    rw [check_of_lengths options hp hi] at h
    obtain ⟨_, hps, his⟩ := Except.bind_eq_ok h
    exact ⟨options, hp, hi, checkScores_eq_ok_iff.1 hps, checkScores_eq_ok_iff.1 his⟩
  · intro h
    rw [check_of_lengths h.options h.probabilities h.impacts,
      checkScores_eq_ok_iff.2 h.probability, checkScores_eq_ok_iff.2 h.impact]
    rfl

/-- Every option of a checked configuration has a score within bounds. -/
theorem exists_sets (h : c.check = .ok ()) (hi : i < c.opts.length) :
    ∃ s : RiskScore, c.Sets i s ∧ s.Bounded ∧
      ∀ answer, c.opts.findIdx? (· == trim answer) = some i → c.score? answer = some s := by
  have hc := check_eq_ok_iff.1 h
  have hp' : i < c.pScores.length := hc.probabilities.symm ▸ hi
  have hi' : i < c.iScores.length := hc.impacts.symm ▸ hi
  have hprange := RiskScore.inRange_iff.2 (hc.probability _ (List.getElem_mem hp'))
  have hirange := RiskScore.inRange_iff.2 (hc.impact _ (List.getElem_mem hi'))
  refine ⟨.clamped c.pScores[i] c.iScores[i], ⟨?_, ?_⟩, RiskScore.bounded_clamped _ _, ?_⟩
  · exact (List.getElem?_eq_getElem hp').trans
      (congrArg some (RiskScore.clamp_of_inRange hprange).symm)
  · exact (List.getElem?_eq_getElem hi').trans
      (congrArg some (RiskScore.clamp_of_inRange hirange).symm)
  · intro answer hchosen
    simp [score?, hchosen, List.getElem?_eq_getElem hp', List.getElem?_eq_getElem hi']

/-! ## Options and answers -/

/-- An answer that trims to an option chooses it. -/
theorem findIdx?_of_offers (h : c.Offers i o) (ha : trim answer = o) :
    c.opts.findIdx? (· == trim answer) = some i := by
  obtain ⟨hi, rfl⟩ := List.getElem?_eq_some_iff.1 h.1
  refine List.findIdx?_eq_some_iff_getElem.2 ⟨hi, by simp [ha], fun j hj heq => h.2 j hj ?_⟩
  rw [List.getElem?_eq_getElem (Nat.lt_trans hj hi), eq_of_beq heq, ha]

/-- The option that is found is the first of its kind. -/
theorem offers_of_findIdx? (h : c.opts.findIdx? (· == o) = some i) : c.Offers i o := by
  obtain ⟨hi, heq, hfirst⟩ := List.findIdx?_eq_some_iff_getElem.1 h
  refine ⟨(List.getElem?_eq_getElem hi).trans (congrArg some (eq_of_beq heq)), fun j hj hoff => ?_⟩
  obtain ⟨_, rfl⟩ := List.getElem?_eq_some_iff.1 hoff
  exact hfirst j hj BEq.rfl

/-- An answer that trims to no option has the minimum. -/
theorem score?_eq_minimum (h : trim answer ∉ c.opts) : c.score? answer = some .minimum := by
  have hnone : c.opts.findIdx? (· == trim answer) = none := by
    refine List.findIdx?_eq_none_iff.2 fun o ho => ?_
    simp only [beq_eq_false_iff_ne, ne_eq]
    rintro rfl
    exact h ho
  simp [score?, hnone]

/-- **The scores of options.** With a checked configuration: an option without blanks at its ends
that stands at no earlier place has exactly the score that is set for it, and so has every answer
that trims to it; an option that differs from what it trims to is chosen by no answer, and if that
is no option, its own text has the minimum; every answer that trims to what no option trims to has
the minimum. -/
theorem options_scored (h : c.check = .ok ()) :
    (∀ i o, c.Offers i o → trim o = o →
        ∃ s : RiskScore, c.Sets i s ∧ s.Bounded ∧ c.score? o = some s ∧
          ∀ answer, trim answer = o → c.score? answer = some s) ∧
      (∀ o ∈ c.opts, trim o ≠ o →
        (∀ answer, trim answer ≠ o) ∧ (trim o ∉ c.opts → c.score? o = some .minimum)) ∧
      ∀ answer, (∀ o ∈ c.opts, trim o ≠ trim answer) → c.score? answer = some .minimum := by
  refine ⟨fun i o ho htrim => ?_, fun o _ htrim => ⟨?_, score?_eq_minimum⟩, fun answer ha => ?_⟩
  · obtain ⟨s, hsets, hbounded, hscore⟩ :=
      exists_sets h (List.getElem?_eq_some_iff.1 ho.1).1
    have hchosen (answer : String) (ha : trim answer = o) : c.score? answer = some s :=
      hscore answer (findIdx?_of_offers ho ha)
    exact ⟨s, hsets, hbounded, hchosen o htrim, hchosen⟩
  · rintro answer rfl
    exact htrim (trim_trim answer)
  · exact score?_eq_minimum fun hmem => ha _ hmem (trim_trim answer)

/-- A question whose first option begins with a blank and sets high scores. -/
def blankOption : RadioConfig where
  opts := [" Yes", "No"]
  pScores := [9, 1]
  iScores := [9, 1]

theorem options_scored_sample :
    blankOption.check = .ok () ∧ blankOption.Offers 1 "No" ∧ trim "No" = "No" ∧
      blankOption.score? "No" = some ⟨1, 1⟩ := by
  have hcheck : blankOption.check = .ok () := by rfl
  have hoffers : blankOption.Offers 1 "No" := ⟨rfl, by decide⟩
  have htrim : trim "No" = "No" := by decide
  obtain ⟨⟨p, i⟩, ⟨hp, hi⟩, -, hscore, -⟩ := (options_scored hcheck).1 1 "No" hoffers htrim
  have hp' : (1 : Int) = p := Option.some.inj hp
  have hi' : (1 : Int) = i := Option.some.inj hi
  refine ⟨hcheck, hoffers, htrim, ?_⟩
  rw [hscore, show p = 1 by omega, show i = 1 by omega]

/-- The text of an option whose score is set high can have the minimum. -/
theorem option_out_of_reach :
    blankOption.check = .ok () ∧ blankOption.Offers 0 " Yes" ∧ blankOption.Sets 0 ⟨9, 9⟩ ∧
      blankOption.score? " Yes" = some ⟨1, 1⟩ :=
  ⟨rfl, ⟨rfl, by decide⟩, ⟨rfl, rfl⟩, by decide⟩

end RadioConfig

end RiskReport

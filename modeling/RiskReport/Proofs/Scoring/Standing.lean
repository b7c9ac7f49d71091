import Mathlib.Data.List.Forall2
import RiskReport.Proofs.Scoring.Ranking

/-!
# The place of every risk

Ranking fails or succeeds, and both are settled by the answers that count. It fails with the first
of them, in the order in which they are given, whose configuration is refused
(`rank_eq_error_iff`). Otherwise the risks can be written beside the places at which their answers
were given (`Standing`): every place of an answer that counts occurs once, and of two risks with the
same score and the same question the one whose answer was given first comes first. That the sorting
keeps such risks in their order is seen by sorting them together with their places.

**Theorem (`ranking_settled`).** These are all outcomes of a ranking, and answers that do not count
have no part in it.
-/

namespace RiskReport

/-! ## Runs over a list -/

section

variable {α β ε : Type} {f : α → Except ε β} {l : List α}

theorem mapM_cons_ok {a : α} {b : β} (h : f a = .ok b) :
    (a :: l).mapM f = (l.mapM f).map (b :: ·) := by
  rw [List.mapM_cons, h]
  cases l.mapM f <;> rfl

theorem mapM_cons_error {a : α} {e : ε} (h : f a = .error e) : (a :: l).mapM f = .error e := by
  rw [List.mapM_cons, h]
  rfl

/-- A run over a list succeeds if it succeeds on every member. -/
theorem mapM_eq_ok_iff {bs : List β} :
    l.mapM f = .ok bs ↔ List.Forall₂ (fun a b => f a = .ok b) l bs := by
  induction l generalizing bs with
  | nil =>
    rw [List.forall₂_nil_left_iff]
    exact ⟨fun h => (Except.ok.inj h).symm, fun h => congrArg Except.ok h.symm⟩
  | cons a l ih =>
    rw [List.forall₂_cons_left_iff]
    cases ha : f a with
    | error e => simp [mapM_cons_error ha]
    | ok b =>
      rw [mapM_cons_ok ha]
      constructor
      · intro h
        cases hl : l.mapM f with
        | error e =>
          rw [hl] at h
          cases h
        | ok cs =>
          rw [hl] at h
          cases h
          exact ⟨b, cs, rfl, ih.1 hl, rfl⟩
      · rintro ⟨c, cs, hc, hcs, rfl⟩
        rw [ih.2 hcs, Except.ok.inj hc]
        rfl

/-- A run over a list fails where it fails first. -/
theorem mapM_eq_error_iff {e : ε} :
    l.mapM f = .error e ↔
      ∃ before a after, l = before ++ a :: after ∧ f a = .error e ∧
        ∀ x ∈ before, ∃ b, f x = .ok b := by
  induction l with
  | nil =>
    constructor
    · intro h
      cases h
    · rintro ⟨before, a, after, h, -⟩
      simp at h
  | cons a l ih =>
    constructor
    · intro h
      cases ha : f a with
      | error e' =>
        rw [mapM_cons_error ha] at h
        cases h
        exact ⟨[], a, l, rfl, ha, by simp⟩
      | ok b =>
        rw [mapM_cons_ok ha] at h
        cases hl : l.mapM f with
        | ok bs =>
          rw [hl] at h
          cases h
        | error e' =>
          rw [hl] at h
          cases h
          obtain ⟨before, x, after, rfl, hx, hbefore⟩ := ih.1 hl
          refine ⟨a :: before, x, after, rfl, hx, ?_⟩
          rintro y (_ | ⟨_, hy⟩)
          · exact ⟨b, ha⟩
          · exact hbefore y hy
    · rintro ⟨before, x, after, hl, hx, hbefore⟩
      cases before with
      | nil =>
        obtain ⟨rfl, rfl⟩ := List.cons.inj hl
        exact mapM_cons_error hx
      | cons y before =>
        obtain ⟨rfl, rfl⟩ := List.cons.inj hl
        obtain ⟨b, hb⟩ := hbefore a List.mem_cons_self
        have hrest := ih.2 ⟨before, x, after, rfl, hx, fun y hy =>
          hbefore y (List.mem_cons_of_mem a hy)⟩
        rw [mapM_cons_ok hb, hrest]
        rfl

end

/-! ## Risks and their answers -/

/-- A risk is a scored answer: its texts are those of the answer's question, its probability and
impact are those of the answer, and the rest follows from these two. -/
structure ScoredRisk.Scores (s : ScoredRisk) (t : TierThresholds) (row : AnswerRow) : Prop where
  question : s.questionId = row.questionId
  name : s.riskName = row.riskName
  desc : s.riskDesc = row.riskDesc
  hedge : s.hedge = row.hedge
  sectionTitle : s.sectionTitle = row.sectionTitle
  values : ∃ config, CheckedConfig.parse row.scoringConfig = .ok config ∧
    config.score row.answerText = ⟨s.probability, s.impact⟩
  bounded : RiskScore.Bounded ⟨s.probability, s.impact⟩
  product : s.score = s.probability * s.impact
  tier : s.tier = t.classify s.probability s.impact

/-- One risk stands before another, each beside the place of its answer: by a higher score, by an
earlier question, or by an earlier answer. -/
def ScoredRisk.Precedes (a b : ScoredRisk × Nat) : Prop :=
  b.1.score < a.1.score ∨ a.1.score = b.1.score ∧
    (a.1.questionId < b.1.questionId ∨ a.1.questionId = b.1.questionId ∧ a.2 < b.2)

namespace TierThresholds

variable {t : TierThresholds} {rows : List AnswerRow} {risks : List ScoredRisk}

theorem scores_of_scoreRow {row : AnswerRow} {s : ScoredRisk} (h : t.scoreRow row = .ok s)
    (i : Nat) : ScoredRisk.Scores { s with rank := i } t row := by
  obtain ⟨config, hconfig, rfl⟩ := scoreRow_eq_ok.1 h
  exact {
    question := rfl
    name := rfl
    desc := rfl
    hedge := rfl
    sectionTitle := rfl
    values := ⟨config, hconfig, rfl⟩
    bounded := config.score_bounded row.answerText
    product := rfl
    tier := rfl }

theorem scoreRow_eq_error_iff {row : AnswerRow} {e : QuestionError} :
    t.scoreRow row = .error e ↔
      CheckedConfig.parse row.scoringConfig = .error e.cause ∧ row.questionId = e.questionId := by
  obtain ⟨question, cause⟩ := e
  unfold scoreRow
  cases CheckedConfig.parse row.scoringConfig with
  | error c => simp [and_comm]
  | ok config => simp

/-- An answer can be scored if its configuration can be read. -/
theorem exists_scoreRow_iff {row : AnswerRow} :
    (∃ s, t.scoreRow row = .ok s) ↔
      ∃ config, CheckedConfig.parse row.scoringConfig = .ok config := by
  simp only [scoreRow_eq_ok]
  exact ⟨fun ⟨_, config, h, _⟩ => ⟨config, h⟩, fun ⟨config, h⟩ => ⟨_, config, h, rfl⟩⟩

theorem rank_eq :
    t.rank rows = ((rows.filter (·.isScoring)).mapM t.scoreRow).map fun scored =>
      number (scored.mergeSort ScoredRisk.before) := by
  unfold rank scoreRows
  cases (rows.filter (·.isScoring)).mapM t.scoreRow <;> rfl

/-- A ranking that succeeds has the risks of all answers that count, sorted and numbered. -/
theorem rank_eq_ok_iff :
    t.rank rows = .ok risks ↔ ∃ scored,
      List.Forall₂ (fun row s => t.scoreRow row = .ok s) (rows.filter (·.isScoring)) scored ∧
        risks = number (scored.mergeSort ScoredRisk.before) := by
  rw [rank_eq]
  constructor
  · intro h
    cases hl : (rows.filter (·.isScoring)).mapM t.scoreRow with
    | error e =>
      rw [hl] at h
      cases h
    | ok scored =>
      rw [hl] at h
      exact ⟨scored, mapM_eq_ok_iff.1 hl, (Except.ok.inj h).symm⟩
  · rintro ⟨scored, hscored, rfl⟩
    rw [mapM_eq_ok_iff.2 hscored]
    rfl

/-! ## Refused rankings -/

theorem rank_eq_error_iff {e : QuestionError} :
    t.rank rows = .error e ↔
      ∃ before row after, rows = before ++ row :: after ∧ row.isScoring = true ∧
        CheckedConfig.parse row.scoringConfig = .error e.cause ∧ row.questionId = e.questionId ∧
        ∀ r ∈ before, r.isScoring = true →
          ∃ config, CheckedConfig.parse r.scoringConfig = .ok config := by
  have hrank : t.rank rows = .error e ↔ (rows.filter (·.isScoring)).mapM t.scoreRow = .error e := by
    rw [rank_eq]
    cases (rows.filter (·.isScoring)).mapM t.scoreRow with
    | error e' => simp [Except.map]
    | ok scored => simp [Except.map]
  rw [hrank, mapM_eq_error_iff]
  constructor
  · rintro ⟨before, row, after, hl, hrow, hbefore⟩
    obtain ⟨front, back, rfl, hfront, hback⟩ := List.filter_eq_append_iff.1 hl
    obtain ⟨skipped, rest, rfl, hskipped, hcounts, -⟩ := List.filter_eq_cons_iff.1 hback
    refine ⟨front ++ skipped, row, rest, by simp, hcounts, (scoreRow_eq_error_iff.1 hrow).1,
      (scoreRow_eq_error_iff.1 hrow).2, fun r hr hr' => ?_⟩
    rcases List.mem_append.1 hr with hr | hr
    · exact exists_scoreRow_iff.1 (hbefore r (hfront ▸ List.mem_filter.2 ⟨hr, hr'⟩))
    · exact absurd hr' (hskipped r hr)
  · rintro ⟨before, row, after, rfl, hcounts, hcause, hquestion, hbefore⟩
    refine ⟨before.filter (·.isScoring), row, after.filter (·.isScoring),
      by simp [hcounts], scoreRow_eq_error_iff.2 ⟨hcause, hquestion⟩, fun r hr => ?_⟩
    obtain ⟨hr, hr'⟩ := List.mem_filter.1 hr
    exact exists_scoreRow_iff.2 (hbefore r hr hr')

/-! ## Rankings -/

/-- A ranking that succeeds is a ranking of its answers. -/
theorem ranked_of_rank (h : t.rank rows = .ok risks) : t.Ranked rows risks := by
  have hconfig : ∀ row ∈ rows, row.isScoring = true →
      ∃ config, CheckedConfig.parse row.scoringConfig = .ok config := by
    intro row hrow hcounts
    obtain ⟨scored, hscored, -⟩ := rank_eq_ok_iff.1 h
    obtain ⟨i, hi, rfl⟩ := List.mem_iff_getElem.1 (List.mem_filter.2 ⟨hrow, hcounts⟩)
    exact exists_scoreRow_iff.1 ⟨_, hscored.get hi (hscored.length_eq ▸ hi)⟩
  obtain ⟨risks', hrank, hranked⟩ := rank_ranked hconfig
  obtain rfl := Except.ok.inj (hrank.symm.trans h)
  exact hranked

/-- Risks in the order of a report, each beside the place of its answer among those that count:
every place occurs once, and the risks are numbered from 1. -/
structure Standing (t : TierThresholds) (rows : List AnswerRow)
    (entries : List (ScoredRisk × Nat)) : Prop where
  places : (entries.map (·.2)).Perm (List.range (rows.filter (·.isScoring)).length)
  scored : ∀ x ∈ entries, ∃ row, (rows.filter (·.isScoring))[x.2]? = some row ∧ x.1.Scores t row
  ordered : entries.Pairwise ScoredRisk.Precedes
  ranks : entries.map (·.1.rank) = List.range' 1 entries.length

theorem precedes_of_zipIdxLE {a b : ScoredRisk × Nat}
    (h : List.zipIdxLE ScoredRisk.before a b = true) (hne : a.2 ≠ b.2) :
    ScoredRisk.Precedes a b := by
  have hab : a.1.before b.1 = true := by
    by_contra hab
    simp [List.zipIdxLE, hab] at h
  have hplace : b.1.before a.1 = true → a.2 < b.2 := by
    intro hba
    have hle : a.2 ≤ b.2 := by simpa [List.zipIdxLE, hab, hba] using h
    omega
  simp only [ScoredRisk.before, Bool.or_eq_true, Bool.and_eq_true, decide_eq_true_eq,
    beq_iff_eq] at hab hplace
  rcases hab with hscore | ⟨hscore, hquestion⟩
  · exact .inl hscore
  · refine .inr ⟨hscore, ?_⟩
    by_cases hq : b.1.questionId ≤ a.1.questionId
    · exact .inr ⟨String.le_antisymm hquestion hq, hplace (.inr ⟨hscore.symm, hq⟩)⟩
    · exact .inl (String.not_le.1 hq)

/-- Numbered risks beside their places. -/
def numbered (entries : List (ScoredRisk × Nat)) : List (ScoredRisk × Nat) :=
  entries.zipIdx.map fun (x, i) => ({ x.1 with rank := i + 1 }, x.2)

theorem map_fst_numbered (entries : List (ScoredRisk × Nat)) :
    (numbered entries).map (·.1) = number (entries.map (·.1)) := by
  unfold numbered number
  rw [List.zipIdx_map, List.map_map, List.map_map]
  rfl

/-- What risks have besides their numbers they keep. -/
theorem map_numbered {β : Type} {f : ScoredRisk × Nat → β} (entries : List (ScoredRisk × Nat))
    (h : ∀ x i, f ({ x.1 with rank := i }, x.2) = f x) :
    (numbered entries).map f = entries.map f := by
  unfold numbered
  rw [List.map_map]
  conv_rhs => rw [← List.zipIdx_map_fst 0 entries, List.map_map]
  exact List.map_congr_left fun x _ => h x.1 (x.2 + 1)

/-- Sorting risks keeps those in their order that neither score nor question tells apart. -/
theorem exists_sorted (scored : List ScoredRisk) :
    ∃ entries : List (ScoredRisk × Nat), entries.Perm scored.zipIdx ∧
      entries.map (·.1) = scored.mergeSort ScoredRisk.before ∧
      entries.Pairwise ScoredRisk.Precedes := by
  let entries := scored.zipIdx.mergeSort (List.zipIdxLE ScoredRisk.before)
  have hperm : entries.Perm scored.zipIdx := List.mergeSort_perm _ _
  refine ⟨entries, hperm, List.mergeSort_zipIdx, ?_⟩
  have hplaces : (entries.map (·.2)).Nodup := by
    rw [(hperm.map _).nodup_iff, List.zipIdx_map_snd]
    exact List.nodup_range'
  have hsorted : entries.Pairwise fun a b => List.zipIdxLE ScoredRisk.before a b = true :=
    List.pairwise_mergeSort (List.zipIdxLE_trans before_trans) (List.zipIdxLE_total before_total) _
  exact hsorted.imp₂ (fun a b hle hne => precedes_of_zipIdxLE hle hne) (List.pairwise_map.1 hplaces)

/-- A ranking that succeeds has every answer that counts in its place. -/
theorem exists_standing (h : t.rank rows = .ok risks) :
    ∃ entries, risks = entries.map (·.1) ∧ t.Standing rows entries := by
  obtain ⟨scored, hscored, rfl⟩ := rank_eq_ok_iff.1 h
  obtain ⟨entries, hperm, hfst, hordered⟩ := exists_sorted scored
  refine ⟨numbered entries, by rw [map_fst_numbered, hfst], ?_⟩
  exact {
    places := by
      rw [map_numbered entries fun _ _ => rfl, hscored.length_eq, List.range_eq_range',
        ← List.zipIdx_map_snd 0 scored]
      exact hperm.map _
    scored := by
      intro x hx
      obtain ⟨⟨⟨s, i⟩, k⟩, hy, rfl⟩ := List.mem_map.1 hx
      have hs : scored[i]? = some s :=
        List.mem_zipIdx_iff_getElem?.1 (hperm.mem_iff.1 (List.fst_mem_of_mem_zipIdx hy))
      obtain ⟨hi, rfl⟩ := List.getElem?_eq_some_iff.1 hs
      have hi' : i < (rows.filter (·.isScoring)).length := hscored.length_eq ▸ hi
      exact ⟨_, List.getElem?_eq_getElem hi', scores_of_scoreRow (hscored.get hi' hi) (k + 1)⟩
    ordered := by
      unfold numbered
      rw [List.pairwise_map]
      rw [← List.zipIdx_map_fst 0 entries, List.pairwise_map] at hordered
      exact hordered
    ranks := by
      have hlength : (numbered entries).length = entries.length := by simp [numbered]
      have hranks := ranks_number (entries.map (·.1))
      rw [← map_fst_numbered, List.map_map, List.length_map] at hranks
      rw [hlength]
      exact hranks }

/-- **The outcome of a ranking.** A ranking fails exactly if the configuration of some answer that
counts is refused, and then it names the question of the first such answer and why. Otherwise there
is one risk for every answer that counts, with its texts, its probability and impact from 1 to 10,
their product and their tier; the risks are in the order of score, question and answer, and numbered
from 1. Answers that do not count have no part in it. -/
theorem ranking_settled (t : TierThresholds) (rows : List AnswerRow) :
    ((∃ e, t.rank rows = .error e) ↔
        ∃ row ∈ rows, row.isScoring = true ∧
          ∃ cause, CheckedConfig.parse row.scoringConfig = .error cause) ∧
      (∀ e, t.rank rows = .error e ↔
        ∃ before row after, rows = before ++ row :: after ∧ row.isScoring = true ∧
          CheckedConfig.parse row.scoringConfig = .error e.cause ∧ row.questionId = e.questionId ∧
          ∀ r ∈ before, r.isScoring = true →
            ∃ config, CheckedConfig.parse r.scoringConfig = .ok config) ∧
      (∀ risks, t.rank rows = .ok risks →
        ∃ entries, risks = entries.map (·.1) ∧ t.Standing rows entries) ∧
      ∀ rows', rows'.filter (·.isScoring) = rows.filter (·.isScoring) →
        t.rank rows' = t.rank rows := by
  refine ⟨⟨?_, ?_⟩, fun e => rank_eq_error_iff, fun risks => exists_standing, fun rows' h => ?_⟩
  · rintro ⟨e, he⟩
    obtain ⟨before, row, after, rfl, hcounts, hcause, -⟩ := rank_eq_error_iff.1 he
    exact ⟨row, by simp, hcounts, e.cause, hcause⟩
  · rintro ⟨row, hrow, hcounts, cause, hcause⟩
    cases hrank : t.rank rows with
    | error e => exact ⟨e, rfl⟩
    | ok risks =>
      -- A ranking that succeeds has read the configuration of every answer that counts.
      obtain ⟨entries, -, hstanding⟩ := exists_standing hrank
      obtain ⟨i, hi⟩ := List.mem_iff_getElem?.1 (List.mem_filter.2 ⟨hrow, hcounts⟩)
      have hmem : i ∈ entries.map (·.2) :=
        hstanding.places.mem_iff.2 (List.mem_range.2 (List.getElem?_eq_some_iff.1 hi).1)
      obtain ⟨x, hx, rfl⟩ := List.mem_map.1 hmem
      obtain ⟨row', hrow', hscores⟩ := hstanding.scored x hx
      obtain rfl := Option.some.inj (hi.symm.trans hrow')
      obtain ⟨config, hconfig, -⟩ := hscores.values
      rw [hcause] at hconfig
      cases hconfig
  · simp only [rank, scoreRows, h]

end TierThresholds

end RiskReport

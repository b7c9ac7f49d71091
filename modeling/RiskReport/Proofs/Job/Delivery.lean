import Mathlib.Algebra.BigOperators.Group.List.Basic
import RiskReport.Proofs.Job.Making
import RiskReport.Proofs.Scoring.Ranking

/-!
# What a visitor gets to read

From the answers in the store to the view of the report: the answers are joined with their
questions, scored and ranked, hedges are written for some of them, the results are kept, and the
holder of the token reads them. `Delivered` says what the view is in terms of the answers alone.

**Theorem (`report_delivered`).** A draft whose answers can be scored is made, whatever happens to
the hedges and to the mail, and then its token shows exactly what its answers amount to.
-/

namespace RiskReport

open Program

/-! ## Rows and views -/

/-- How a reader sees a risk of some results. -/
def ScoredReport.shown (p : ScoredReport) (s : ScoredRisk) : RiskView where
  rank := narrow 32 s.rank
  questionId := s.questionId
  riskName := s.riskName
  riskDesc := s.riskDesc
  probability := s.probability
  impact := s.impact
  score := narrow 16 s.score
  tier := s.tier
  sectionTitle := s.sectionTitle
  hedge := ((p.hedge? s.questionId).bind Text.nonEmpty?).getD s.hedge

theorem ScoredReport.view_rowAt (p : ScoredReport) (supply : Supply) (i : Nat) (s : ScoredRisk) :
    (p.rowAt supply i s).view = p.shown s := by
  simp only [RiskResult.view, rowAt, shown, ScoredRisk.row, RiskResult.effectiveHedge]

theorem ScoredReport.map_view_rows (p : ScoredReport) (supply : Supply) :
    (p.rows supply).map RiskResult.view = p.risks.map p.shown :=
  map_rows (p.view_rowAt supply)

/-- A text that is not blank is not empty. -/
theorem Text.nonEmpty?_of_not_blank {s : String} (h : isBlankText s = false) :
    nonEmpty? s = some s := by
  have hne : s ≠ "" := by
    rintro rfl
    simp [isBlankText] at h
  simp [nonEmpty?, hne]

theorem ScoredReport.hedge?_bind_nonEmpty (p : ScoredReport) (question : String) :
    (p.hedge? question).bind Text.nonEmpty? = p.hedge? question := by
  cases h : p.hedge? question with
  | none => rfl
  | some text =>
    rw [hedge?, Option.filter_eq_some_iff] at h
    exact Text.nonEmpty?_of_not_blank (by simpa using h.2)

/-- How a reader sees the risk of a question that was answered with some score, if some texts were
written for the report. -/
def Question.shown (q : Question) (t : TierThresholds) (s : RiskScore) (written : HedgeResult)
    (rank : Int) : RiskView where
  rank := rank
  questionId := q.id
  riskName := q.riskName
  riskDesc := q.riskDesc
  probability := s.probability
  impact := s.impact
  score := s.probability * s.impact
  tier := t.classify s.probability s.impact
  sectionTitle := q.sectionTitle
  hedge := ((written.hedges.get? q.id).filter fun text => !Text.isBlankText text).getD q.hedge

/-- One risk comes before another: by a higher score, or by an earlier question. -/
def RiskView.Before (a b : RiskView) : Prop :=
  b.score < a.score ∨ a.score = b.score ∧ a.questionId < b.questionId

/-! ## The view of a report -/

namespace Memory

/-- A question that counts was answered in a session. -/
def Counts (m : Memory) (session : SessionId) (question : String) : Prop :=
  ∃ answer q, m.answers.get? (session, question) = some answer ∧
    m.questions.get? question = some q ∧ q.isScoring = true

end Memory

/-- A view shows what the answers of a session amount to. -/
structure Delivered (m : Memory) (t : TierThresholds) (r : Report) (written : HedgeResult)
    (view : ReportView) : Prop where
  reportId : view.reportId = r.id
  status : view.status = .ready
  businessName : view.businessName = (m.sessions.get? r.sessionId).bind Session.businessName?
  /-- There is one risk for each question that counts and was answered. -/
  nodup : (view.risks.map (·.questionId)).Nodup
  counted : ∀ question, question ∈ view.risks.map (·.questionId) ↔ m.Counts r.sessionId question
  /-- Each risk shows its question, with the score of the answer to it. -/
  risks : ∀ v ∈ view.risks, ∃ q answer config rank,
    m.questions.get? v.questionId = some q ∧
      m.answers.get? (r.sessionId, v.questionId) = some answer ∧
      CheckedConfig.parse q.scoringConfig = .ok config ∧
      v = q.shown t (config.score answer.text) written rank
  /-- Positions are kept in 32 bits. -/
  sorted : view.risks.length < 2 ^ 31 → view.risks.Pairwise RiskView.Before
  ranks : view.risks.length < 2 ^ 31 →
    view.risks.map (·.rank) = (List.range' 1 view.risks.length).map Int.ofNat
  /-- The overall score is the mean score, rounded half up; 0 if there is none. -/
  nothing : view.risks = [] → view.overallScore = 0
  overallScore : view.risks ≠ [] →
    2 * view.risks.length * view.overallScore ≤
        2 * (view.risks.map (·.score)).sum + view.risks.length ∧
      2 * (view.risks.map (·.score)).sum + view.risks.length <
        2 * view.risks.length * (view.overallScore + 1)
  criticalCount : view.criticalCount = view.risks.countP (·.tier == .watch)
  executiveSummary : view.executiveSummary = Text.nonEmpty? written.executiveSummary
  topPriorityHtml : view.topPriorityHtml = Text.nonEmpty? written.topPriorityHtml
  generatedAt : view.generatedAt.isSome

/-! ## From a ranking to a view -/

variable {m : Memory} {t : TierThresholds} {session : SessionId} {risks : List ScoredRisk}
  {p : ScoredReport} {written : HedgeResult}

/-- A question is ranked if it counts and was answered. -/
theorem mem_ranking (hs : m.Sound) (hr : t.Ranked (m.answersOf session) risks) (question : String) :
    question ∈ risks.map (·.questionId) ↔ m.Counts session question := by
  rw [hr.questions.mem_iff, List.mem_map]
  constructor
  · rintro ⟨row, hrow, rfl⟩
    obtain ⟨hmem, hcounts⟩ := List.mem_filter.1 hrow
    obtain ⟨question, answer, q, ha, hq, rfl⟩ := (Memory.mem_answersOf hs.distinct.1).1 hmem
    obtain rfl : q.id = question := hs.questions.key _ _ hq
    exact ⟨answer, q, ha, hq, hcounts⟩
  · rintro ⟨answer, q, ha, hq, hcounts⟩
    refine ⟨q.answered answer.text, List.mem_filter.2 ⟨?_, hcounts⟩, hs.questions.key _ _ hq⟩
    exact (Memory.mem_answersOf hs.distinct.1).2 ⟨question, answer, q, ha, hq, rfl⟩

theorem nodup_ranking (hs : m.Sound) (hr : t.Ranked (m.answersOf session) risks) :
    (risks.map (·.questionId)).Nodup := by
  refine hr.questions.nodup_iff.2 ?_
  exact (Memory.nodup_answersOf hs.distinct.1 hs.questions).sublist (List.filter_sublist.map _)

/-- A ranked risk shows its question, with the score of the answer to it. -/
theorem shown_of_ranked (hs : m.Sound) (hr : t.Ranked (m.answersOf session) risks)
    (hp : p.hedges = written.hedges) {s : ScoredRisk} (hmem : s ∈ risks) :
    ∃ q answer config rank, m.questions.get? s.questionId = some q ∧
      m.answers.get? (session, s.questionId) = some answer ∧
      CheckedConfig.parse q.scoringConfig = .ok config ∧
      p.shown s = q.shown t (config.score answer.text) written rank := by
  have hscore : narrow 16 s.score = s.score := narrow_of_lt (by
    have hle := hr.score_le hmem
    change 2 * s.score < 65536
    omega)
  obtain ⟨row, hrow, -, config, hconfig, i, rfl⟩ := hr.scored s hmem
  obtain ⟨question, answer, q, ha, hq, rfl⟩ := (Memory.mem_answersOf hs.distinct.1).1 hrow
  obtain rfl : q.id = question := hs.questions.key _ _ hq
  refine ⟨q, answer, config, narrow 32 i, hq, ha, hconfig, ?_⟩
  unfold ScoredReport.shown
  rw [hscore, ScoredReport.hedge?_bind_nonEmpty]
  unfold ScoredReport.hedge?
  rw [hp]
  rfl

theorem score_shown {rows : List AnswerRow} (hr : t.Ranked rows risks) {s : ScoredRisk}
    (hs : s ∈ risks) : (p.shown s).score = s.score := by
  have hle := hr.score_le hs
  simp only [ScoredReport.shown]
  refine narrow_of_lt ?_
  change 2 * s.score < 65536
  omega

theorem rank_shown {rows : List AnswerRow} (hr : t.Ranked rows risks)
    (few : risks.length < 2 ^ 31) {s : ScoredRisk} (hs : s ∈ risks) :
    (p.shown s).rank = Int.ofNat s.rank := by
  have hle := hr.rank_le hs
  simp only [ScoredReport.shown]
  refine narrow_of_lt ?_
  change 2 * s.rank < 4294967296
  omega

/-- A ranking is shown in the order of scores and questions. -/
theorem pairwise_shown (hs : m.Sound) (hr : t.Ranked (m.answersOf session) risks) :
    (risks.map p.shown).Pairwise RiskView.Before := by
  rw [List.pairwise_map]
  have hne := List.pairwise_map.1 (nodup_ranking hs hr)
  refine (hr.sorted.and hne).imp_of_mem fun {a b} ha hb hab => ?_
  obtain ⟨hbefore, hne⟩ := hab
  unfold RiskView.Before
  rw [score_shown hr ha, score_shown hr hb]
  simp only [ScoredRisk.before, Bool.or_eq_true, Bool.and_eq_true, decide_eq_true_eq,
    beq_iff_eq] at hbefore
  rcases hbefore with hlt | ⟨heq, hle⟩
  · exact .inl (Int.ofNat_lt.2 hlt)
  · refine .inr ⟨congrArg Int.ofNat heq, ?_⟩
    exact String.not_le.1 fun hge => hne (String.le_antisymm hle hge)

theorem ranks_shown {rows : List AnswerRow} (hr : t.Ranked rows risks)
    (few : risks.length < 2 ^ 31) :
    (risks.map p.shown).map (·.rank) = (List.range' 1 risks.length).map Int.ofNat := by
  rw [← hr.ranks, List.map_map, List.map_map, Function.comp_def, Function.comp_def]
  exact List.map_congr_left fun s hs => rank_shown hr few hs

/-- The rows of a ranking are kept in its order. -/
theorem riskResults_of_ranked {rows : List AnswerRow} {id : ReportId} {supply : Supply}
    (hr : t.Ranked rows p.risks) (few : p.risks.length < 2 ^ 31)
    (found : m.results.get? id = some (p.rows supply)) : m.riskResults id = p.rows supply := by
  have hranks : (p.rows supply).map (·.rank) = (List.range' 1 p.risks.length).map Int.ofNat := by
    rw [← ranks_shown hr few, ← p.map_view_rows supply, List.map_map]
    rfl
  have hsorted : ((p.rows supply).map (·.rank)).Pairwise (· ≤ ·) := by
    rw [hranks, List.pairwise_map]
    exact (List.pairwise_le_range' 1).imp Int.ofNat_le.2
  rw [List.pairwise_map] at hsorted
  unfold Memory.riskResults
  rw [found, Option.getD_some, List.mergeSort_of_pairwise (by simpa using hsorted)]

theorem view_riskResults {rows : List AnswerRow} {id : ReportId} {supply : Supply}
    (hr : t.Ranked rows p.risks) (few : p.risks.length < 2 ^ 31)
    (found : m.results.get? id = some (p.rows supply)) :
    (m.riskResults id).map RiskResult.view = p.risks.map p.shown := by
  rw [riskResults_of_ranked hr few found, p.map_view_rows]

theorem sum_shown {rows : List AnswerRow} (hr : t.Ranked rows risks) :
    ((risks.map p.shown).map (·.score)).sum = totalScore risks := by
  rw [cast_totalScore, List.map_map, Function.comp_def]
  exact congrArg List.sum (List.map_congr_left fun s hs => score_shown hr hs)

/-- The overall score is the mean of the shown scores. -/
theorem overallScore_shown {rows : List AnswerRow} (hr : t.Ranked rows risks) (h : risks ≠ []) :
    2 * (risks.length : Int) * overallScore risks ≤
        2 * ((risks.map p.shown).map (·.score)).sum + risks.length ∧
      2 * ((risks.map p.shown).map (·.score)).sum + risks.length <
        2 * (risks.length : Int) * (overallScore risks + 1) := by
  rw [sum_shown hr]
  have hmean := overallScore_half_up h
  exact_mod_cast hmean

/-- A report that is finished with the results of a ranking shows what the answers amount to. -/
theorem delivered_of_ranked {r : Report} {rows : List RiskResult} {now : Instant} (hs : m.Sound)
    (hr : t.Ranked (m.answersOf r.sessionId) p.risks) (hedges : p.hedges = written.hedges)
    (summary : p.executiveSummary = written.executiveSummary)
    (top : p.topPriorityHtml = written.topPriorityHtml)
    (perm : (rows.map RiskResult.view).Perm (p.risks.map p.shown))
    (same : p.risks.length < 2 ^ 31 → rows.map RiskResult.view = p.risks.map p.shown) :
    Delivered m t r written
      ((Memory.finished r p now).view rows (m.sessions.get? r.sessionId)) := by
  have hquestions : (p.risks.map p.shown).map (·.questionId) = p.risks.map (·.questionId) := by
    rw [List.map_map]
    rfl
  have hlength : (rows.map RiskResult.view).length = p.risks.length := by
    rw [perm.length_eq, List.length_map]
  have hnil : rows.map RiskResult.view = [] ↔ p.risks = [] := by
    rw [← List.length_eq_zero_iff, hlength, List.length_eq_zero_iff]
  exact {
    reportId := rfl
    status := rfl
    businessName := rfl
    nodup := by
      refine (perm.map _).nodup_iff.2 ?_
      rw [hquestions]
      exact nodup_ranking hs hr
    counted := by
      intro question
      refine (perm.map _).mem_iff.trans ?_
      rw [hquestions]
      exact mem_ranking hs hr question
    risks := by
      intro v hv
      obtain ⟨s, hmem, rfl⟩ := List.mem_map.1 (perm.mem_iff.1 hv)
      exact shown_of_ranked hs hr hedges hmem
    sorted := by
      intro few
      change (rows.map RiskResult.view).Pairwise RiskView.Before
      rw [same (hlength ▸ few)]
      exact pairwise_shown hs hr
    ranks := by
      intro few
      change (rows.map RiskResult.view).map (·.rank) =
        (List.range' 1 (rows.map RiskResult.view).length).map Int.ofNat
      have few' : p.risks.length < 2 ^ 31 := hlength ▸ few
      rw [hlength, same few']
      exact ranks_shown hr few'
    nothing := by
      intro hview
      change p.overall = 0
      simp [ScoredReport.overall, overallScore, hnil.1 hview]
    overallScore := by
      intro hview
      change 2 * ((rows.map RiskResult.view).length : Int) * p.overall ≤
          2 * ((rows.map RiskResult.view).map (·.score)).sum + (rows.map RiskResult.view).length ∧
        2 * ((rows.map RiskResult.view).map (·.score)).sum + (rows.map RiskResult.view).length <
          2 * ((rows.map RiskResult.view).length : Int) * (p.overall + 1)
      rw [hlength, (perm.map _).sum_eq]
      exact overallScore_shown hr fun hrisks => hview (hnil.2 hrisks)
    criticalCount := by
      change (p.critical : Int) = (rows.map RiskResult.view).countP (·.tier == .watch)
      rw [perm.countP_eq, List.countP_map]
      rfl
    executiveSummary := by rw [← summary]; rfl
    topPriorityHtml := by rw [← top]; rfl
    generatedAt := rfl }

/-- The risks that hedges are asked for are those that the view shows in the two highest tiers. -/
theorem asked_perm {shown : List RiskView} (perm : shown.Perm (risks.map p.shown)) :
    ((ofTiers risks hedgedTiers).map (·.questionId)).Perm
      ((shown.filter fun v => hedgedTiers.contains v.tier).map (·.questionId)) := by
  refine List.Perm.symm (((perm.filter _).map _).trans (List.Perm.of_eq ?_))
  rw [List.filter_map, List.map_map]
  rfl

/-- A question that counts and was answered is shown with the score of its answer. -/
theorem Delivered.shows {m : Memory} {t : TierThresholds} {r : Report} {written : HedgeResult}
    {view : ReportView} (h : Delivered m t r written view) {q : Question} {answer : StoredAnswer}
    {config : CheckedConfig} (given : m.answers.get? (r.sessionId, q.id) = some answer)
    (found : m.questions.get? q.id = some q) (counts : q.isScoring = true)
    (readable : CheckedConfig.parse q.scoringConfig = .ok config) :
    ∃ rank, q.shown t (config.score answer.text) written rank ∈ view.risks := by
  have hmem := (h.counted q.id).2 ⟨answer, q, given, found, counts⟩
  obtain ⟨v, hv, hid⟩ := List.mem_map.1 hmem
  obtain ⟨q', answer', config', rank, found', given', readable', rfl⟩ := h.risks v hv
  rw [hid] at found' given'
  obtain rfl := Option.some.inj (found.symm.trans found')
  obtain rfl := Option.some.inj (given.symm.trans given')
  obtain rfl := Except.ok.inj (readable.symm.trans readable')
  exact ⟨rank, hv⟩

/-! ## Delivery -/

/-- **Delivery.** A store has got into some state; a report is a draft, its session has answers, and
the questions that count among them have configurations that can be read. Then the report is made,
whatever becomes of the hedges and of the mail, and its token shows what the answers amount to, with
the texts that were written for the risks in the two highest tiers. -/
theorem report_delivered {id : ReportId} {r : Report} (h : m.Reachable Supply.FreshToken)
    (c : Surroundings) (settings : JobSettings) (found : m.reports.get? id = some r)
    (draft : r.status = .draft)
    (answered : ∃ question answer, m.answers.get? (r.sessionId, question) = some answer)
    (readable : ∀ question answer q, m.answers.get? (r.sessionId, question) = some answer →
      m.questions.get? question = some q → q.isScoring = true →
        ∃ config, CheckedConfig.parse q.scoringConfig = .ok config) :
    ∃ m' view asked, (makeReport settings id).outcome c.answer m = (.ok (), m') ∧
      (fetchReport r.accessToken.text).outcome c.answer m' = (.ok (.ready view), m') ∧
      Delivered m settings.thresholds r (c.written asked) view ∧
      (asked.map (·.questionId)).Perm
        ((view.risks.filter fun v => hedgedTiers.contains v.tier).map (·.questionId)) := by
  obtain ⟨hs, ht⟩ := h.tokens
  obtain rfl : r.id = id := hs.reports.key _ _ found
  obtain ⟨risks, hrank, hr⟩ : ∃ risks,
      settings.thresholds.rank (m.answersOf r.sessionId) = .ok risks ∧
        settings.thresholds.Ranked (m.answersOf r.sessionId) risks := by
    refine TierThresholds.rank_ranked fun row hrow hcounts => ?_
    obtain ⟨question, answer, q, ha, hq, rfl⟩ := (Memory.mem_answersOf hs.distinct.1).1 hrow
    exact readable question answer q ha hq hcounts
  have hunfinished : r.status.isTerminal = false := by rw [draft]; rfl
  obtain ⟨supply, hmade⟩ := @makeReport_outcome c m settings _ r risks found hunfinished
    (Memory.answersOf_ne_nil hs answered) hrank (nodup_ranking hs hr)
  let p := c.results r.id risks
  let m' := m.withResults supply r p
  -- The finished report is the only one with its token.
  have htokens : (m.insertReport (Memory.finished r p supply.now)).Tokens :=
    ht.replaceReport found rfl rfl
  have hread : m'.reportByToken r.accessToken.text = some (Memory.finished r p supply.now) :=
    @Memory.reportByToken_eq m' r.id _ hs.reports.insert htokens.single Table.get?_insert_self
  have hrows : m'.results.get? r.id = some (p.rows supply) := Table.get?_insert_self
  have hperm : ((m'.riskResults r.id).map RiskResult.view).Perm (risks.map p.shown) := by
    have hp := (@Memory.riskResults_perm m' r.id).map RiskResult.view
    rwa [hrows, Option.getD_some, p.map_view_rows] at hp
  refine ⟨m', _, ofTiers risks hedgedTiers, hmade,
    fetchReport_outcome (ht.urlSafe _ r found) hread rfl, ?_, asked_perm hperm⟩
  exact delivered_of_ranked hs hr rfl rfl rfl hperm fun few => view_riskResults hr few hrows

/-- Hedges are written, and nobody can be told. -/
def Sample.surroundings : Surroundings where
  supply _ := supply 5
  hedge _ := .ok ⟨⟨[("backups", "Copy it tonight.")]⟩, "One risk.", ""⟩
  mail _ := .error (.rejected 500 "")
  enqueue _ := .ok ()
  createPayment _ := .error (.gateway "")
  clientSecret _ := .error (.gateway "")

namespace Sample

open Memory

/-- A question whose first option is bad to some degree. -/
def rated (id : String) (probability impact : Nat) : Question :=
  { question with
    id
    hedge := "As advised."
    scoringConfig :=
      (ScoringConfig.radio ⟨["No", "Yes"], [probability, 2], [impact, 1]⟩).toJson }

/-- Three questions that count, of three tiers, and one that does not. -/
def questionnaire : Memory :=
  (((Memory.empty.insertQuestion (rated "backups" 9 8)).insertQuestion
    (rated "access" 3 9)).insertQuestion (rated "devices" 7 2)).insertQuestion
      { question with id := "notes", isScoring := false }

/-- A request at a time that is its number. -/
def asking (m : Memory) (n : Nat) (call : StoreCall) : Memory :=
  (m.answer (supply n) call).2

/-- The worst answer to a question. -/
def worst (question : String) : StoreCall :=
  .upsertAnswer ⟨⟨⟨1⟩⟩, question, "No", none⟩

/-- A visitor has given the worst answer to every question. -/
def surveyed : Memory :=
  [(2, "devices"), (3, "notes"), (4, "backups"), (5, "access")].foldl
    (fun m (n, question) => asking m n (worst question))
    (asking questionnaire 1 (.createSession "visitor"))

/-- The visitor has paid, and the report is a draft. -/
def drafted : Memory :=
  asking (asking surveyed 6 (.attachIntent ⟨⟨⟨1⟩⟩, none, "intent", none⟩)) 7
    (.initialiseReport "intent")

theorem reachable_asking {m : Memory} (h : Reachable Supply.FreshToken m) (n : Nat)
    (call : StoreCall) (session : m.sessions.get? ⟨⟨n⟩⟩ = none) (reports : m.reports = .empty) :
    Reachable Supply.FreshToken (asking m n call) := by
  refine h.request call ⟨⟨session, ?_⟩, ?_, AccessToken.ofBits_urlSafe n⟩
  · rw [reports]
    rfl
  · rw [reports]
    exact fun r hr => (List.not_mem_nil hr).elim

theorem reachable_drafted : Reachable Supply.FreshToken drafted := by
  have hquestions : Reachable Supply.FreshToken questionnaire :=
    (((reachable_empty.question _).question _).question _).question _
  have hsession := reachable_asking hquestions 1 (.createSession "visitor") rfl rfl
  have hdevices := reachable_asking hsession 2 (worst "devices") rfl rfl
  have hnotes := reachable_asking hdevices 3 (worst "notes") rfl rfl
  have hbackups := reachable_asking hnotes 4 (worst "backups") rfl rfl
  have haccess := reachable_asking hbackups 5 (worst "access") rfl rfl
  have hattached := reachable_asking haccess 6 (.attachIntent ⟨⟨⟨1⟩⟩, none, "intent", none⟩) rfl rfl
  exact reachable_asking hattached 7 (.initialiseReport "intent") rfl rfl

/-- Every question that counts has a configuration that can be read. -/
theorem readable_drafted {id : String} {q : Question}
    (found : drafted.questions.get? id = some q) (counts : q.isScoring = true) :
    ∃ config, CheckedConfig.parse q.scoringConfig = .ok config := by
  have hmem : q ∈ [rated "backups" 9 8, rated "access" 3 9, rated "devices" 7 2,
      { question with id := "notes", isScoring := false }] :=
    Table.mem_rows_of_get? found
  simp only [List.mem_cons, List.not_mem_nil, or_false] at hmem
  rcases hmem with rfl | rfl | rfl | rfl
  · exact ⟨_, rfl⟩
  · exact ⟨_, rfl⟩
  · exact ⟨_, rfl⟩
  · cases counts

/-- Of the hedges one is written, one is blank, and one is for a question that nobody has asked. -/
def texts : HedgeResult where
  hedges := ⟨[("access", "  "), ("unknown", "Ask."), ("backups", "Copy it tonight.")]⟩
  executiveSummary := "Three risks."
  topPriorityHtml := ""

/-- These texts are written, and nobody can be told. -/
def hedging : Surroundings :=
  { surroundings with
    supply := fun _ => supply 8
    hedge := fun _ => .ok texts }

end Sample

/-- In the sample the report is made, and its token shows three risks in three tiers: one with the
hedge that was written for it, and the others with the authored ones, since what was written is
blank or was not asked for. -/
theorem report_delivered_sample :
    ∃ m' view, (makeReport ⟨.published, "stub"⟩ ⟨⟨7⟩⟩).outcome Sample.hedging.answer
        Sample.drafted = (.ok (), m') ∧
      (fetchReport (AccessToken.ofBits 7).text).outcome Sample.hedging.answer m' =
        (.ok (.ready view), m') ∧
      (∃ v ∈ view.risks, v.questionId = "backups" ∧ v.tier = .watch ∧
        v.hedge = "Copy it tonight.") ∧
      (∃ v ∈ view.risks, v.questionId = "access" ∧ v.tier = .red ∧ v.hedge = "As advised.") ∧
      (∃ v ∈ view.risks, v.questionId = "devices" ∧ v.tier = .manage ∧ v.hedge = "As advised.") ∧
      "notes" ∉ view.risks.map (·.questionId) := by
  obtain ⟨m', view, asked, hmade, hread, hview, hasked⟩ :=
    report_delivered Sample.reachable_drafted Sample.hedging ⟨.published, "stub"⟩
      (show Sample.drafted.reports.get? ⟨⟨7⟩⟩ = some _ from rfl) rfl
      ⟨"backups", ⟨"No", none⟩, rfl⟩ fun _ _ _ _ hq => Sample.readable_drafted hq
  obtain ⟨_, hbackups⟩ := hview.shows (q := Sample.rated "backups" 9 8) rfl rfl rfl rfl
  obtain ⟨_, haccess⟩ := hview.shows (q := Sample.rated "access" 3 9) rfl rfl rfl rfl
  obtain ⟨_, hdevices⟩ := hview.shows (q := Sample.rated "devices" 7 2) rfl rfl rfl rfl
  -- Hedges are asked for, since one of the risks is of the highest tier.
  have hwritten : Sample.hedging.written asked = Sample.texts := by
    have hne : asked ≠ [] := by
      rintro rfl
      have hmem : "backups" ∈
          (view.risks.filter fun v => hedgedTiers.contains v.tier).map (·.questionId) :=
        List.mem_map.2 ⟨_, List.mem_filter.2 ⟨hbackups, rfl⟩, rfl⟩
      exact List.not_mem_nil (hasked.mem_iff.2 hmem)
    rw [Surroundings.written, if_neg hne]
    rfl
  rw [hwritten] at hbackups haccess hdevices
  refine ⟨m', view, hmade, hread, ⟨_, hbackups, rfl, rfl, rfl⟩, ⟨_, haccess, rfl, rfl, rfl⟩,
    ⟨_, hdevices, rfl, rfl, rfl⟩, fun hnotes => ?_⟩
  obtain ⟨answer, q, -, hq, hcounts⟩ := (hview.counted "notes").1 hnotes
  obtain rfl := Option.some.inj hq
  cases hcounts

end RiskReport

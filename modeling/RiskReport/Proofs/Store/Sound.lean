import RiskReport.Proofs.Store.Reachable

/-!
# The invariant of a store in memory

The six tables of a store depend on each other, and every request writes to one or two of them.
`Sound` says what always holds between them:

* every row is kept under its own identifier, and no key occurs twice;
* every report belongs to a session that is there and has been paid for, and to no other report's
  session;
* the status of a report says which of its fields are set and what its rows are
  (`Report.Coherent`): a draft and a report that was given up have none, a ready report has one row
  for each question of its snapshot, and no report is ever in process;
* rows belong to a report, answers to a session and a question, and an event that was seen was
  claimed and carries an error exactly if it failed.

**Theorem (`store_consistent`).** Every state that an empty store gets into is sound, provided that
the identifiers that it takes from outside are new.
-/

namespace RiskReport

/-! ## Reports and their rows -/

namespace Report

/-- Nothing has been written to a report: no totals, no texts, no snapshot. -/
structure Unscored (r : Report) : Prop where
  overallScore : r.overallScore = none
  criticalCount : r.criticalCount = none
  executiveSummary : r.executiveSummary = none
  topPriorityHtml : r.topPriorityHtml = none
  risksSnapshot : r.risksSnapshot = none
  generatedAt : r.generatedAt = none

/-- A report and the rows that were made with it. -/
structure Scored (r : Report) (rows : List RiskResult) : Prop where
  overallScore : r.overallScore.isSome
  criticalCount : r.criticalCount = some (rows.countP (·.tier == .watch) : Int)
  executiveSummary : r.executiveSummary ≠ some ""
  topPriorityHtml : r.topPriorityHtml ≠ some ""
  risksSnapshot : ∃ risks, r.risksSnapshot = some (.array risks) ∧ rows.length = risks.length
  generatedAt : r.generatedAt.isSome
  errorMessage : r.errorMessage = none
  questions : (rows.map (·.questionId)).Nodup
  owner : ∀ row ∈ rows, row.reportId = r.id
  hedges : ∀ row ∈ rows, ∀ text, row.aiHedge = some text → Text.isBlankText text = false

/-- What the status of a report says of its fields and of its rows; `none` stands for rows that
were never made. No report is ever in process. -/
inductive Coherent (r : Report) : Option (List RiskResult) → Prop
  | draft (status : r.status = .draft) (unscored : r.Unscored) (clean : r.errorMessage = none) :
      Coherent r none
  | error (status : r.status = .error) (unscored : r.Unscored) (failed : r.errorMessage.isSome) :
      Coherent r none
  | ready {rows : List RiskResult} (status : r.status = .ready) (scored : r.Scored rows) :
      Coherent r (some rows)

theorem coherent_draft (id : ReportId) (token : AccessToken) (session : SessionId) (now : Instant) :
    (draft id token session now).Coherent none :=
  .draft rfl ⟨rfl, rfl, rfl, rfl, rfl, rfl⟩ rfl

variable {r : Report} {rows : Option (List RiskResult)}

/-- A report that is not ready has no rows and no results. -/
theorem Coherent.unscored (h : r.Coherent rows) (hr : r.status ≠ .ready) :
    rows = none ∧ r.Unscored := by
  cases h with
  | draft _ unscored | error _ unscored => exact ⟨rfl, unscored⟩
  | ready status => exact absurd status hr

/-- A report that is not ready may be given up. -/
theorem Coherent.giveUp (h : r.Coherent rows) (hr : r.status ≠ .ready) (reason : String)
    (now : Instant) :
    { r with status := .error, errorMessage := some reason, updatedAt := now : Report }.Coherent
      rows := by
  obtain ⟨rfl, hu⟩ := h.unscored hr
  exact .error rfl ⟨hu.1, hu.2, hu.3, hu.4, hu.5, hu.6⟩ rfl

end Report

theorem nonEmpty?_ne_some_empty (s : String) : Text.nonEmpty? s ≠ some "" := by
  unfold Text.nonEmpty?
  split_ifs with h
  · simp
  · rintro ⟨rfl⟩
    exact h rfl

/-- The critical risks of a report are the rows in the highest tier. -/
theorem ScoredReport.critical_eq_countP (p : ScoredReport) (supply : Supply) :
    p.critical = ((p.rows supply).countP (·.tier == .watch) : Int) := by
  have ht : (p.rows supply).map (·.tier) = p.risks.map (·.tier) :=
    ScoredReport.map_rows fun i r => rfl
  have hw := congrArg (List.countP (· == RiskTier.watch)) ht
  simp only [List.countP_map, Function.comp_def] at hw
  simp [critical, criticalCount, hw]

/-- A report that is finished with some results has the rows that are made of them. -/
theorem Report.coherent_finished {r : Report} {p : ScoredReport} (hid : p.report = r.id)
    (hd : (p.risks.map (·.questionId)).Nodup) (supply : Supply) (now : Instant) :
    (Memory.finished r p now).Coherent (some (p.rows supply)) := by
  refine .ready rfl ?_
  exact {
    overallScore := rfl
    criticalCount := by rw [← p.critical_eq_countP supply]; rfl
    executiveSummary := nonEmpty?_ne_some_empty _
    topPriorityHtml := nonEmpty?_ne_some_empty _
    risksSnapshot := ⟨_, rfl, by simp [ScoredReport.length_rows]⟩
    generatedAt := rfl
    errorMessage := rfl
    questions := by
      rw [ScoredReport.map_rows (g := (·.questionId)) fun i r => rfl]
      exact hd
    owner := by
      intro row hrow
      obtain ⟨i, s, -, rfl⟩ := ScoredReport.exists_of_mem_rows hrow
      exact hid
    hedges := by
      intro row hrow text htext
      obtain ⟨i, s, -, rfl⟩ := ScoredReport.exists_of_mem_rows hrow
      rw [ScoredReport.rowAt_aiHedge, ScoredReport.hedge?, Option.filter_eq_some_iff] at htext
      simpa using htext.2 }

/-- The order of its rows does not matter to a report. -/
theorem Report.Scored.perm {r : Report} {rows rows' : List RiskResult}
    (h : r.Scored rows) (hp : rows'.Perm rows) : r.Scored rows' :=
  { h with
    criticalCount := by rw [hp.countP_eq]; exact h.criticalCount
    risksSnapshot := by rw [hp.length_eq]; exact h.risksSnapshot
    questions := (hp.map _).nodup_iff.2 h.questions
    owner := fun row hrow => h.owner row (hp.mem_iff.1 hrow)
    hedges := fun row hrow => h.hedges row (hp.mem_iff.1 hrow) }

/-! ## The invariant -/

/-- An event that was seen has been claimed, and carries an error exactly if it failed. -/
structure EventEntry.Coherent (e : EventEntry) : Prop where
  attempts : 0 < e.attempts
  error : e.error.isSome ↔ e.status = .failed

theorem EventEntry.Coherent.completed {e : EventEntry} (h : e.Coherent) (error : Option String) :
    (e.completed error).Coherent := by
  cases error with
  | none => exact ⟨h.attempts, by simp [EventEntry.completed]⟩
  | some message => exact ⟨h.attempts, by simp [EventEntry.completed]⟩

namespace Memory

/-- The session is there, and it has been paid for. -/
def PaidFor (m : Memory) (id : SessionId) : Prop :=
  ∃ s, m.sessions.get? id = some s ∧ s.paidAt.isSome

/-- What always holds between the tables of a store. -/
structure Sound (m : Memory) : Prop where
  sessions : m.sessions.Keyed (·.id)
  questions : m.questions.Keyed (·.id)
  reports : m.reports.Keyed (·.id)
  distinct : m.answers.Distinct ∧ m.results.Distinct ∧ m.events.Distinct
  paidFor : m.reports.Every fun _ r => m.PaidFor r.sessionId
  single : m.reports.Apart (·.sessionId)
  coherent : m.reports.Every fun id r => r.Coherent (m.results.get? id)
  results : m.results.Every fun id _ => ∃ r, m.reports.get? id = some r
  answers : m.answers.Every fun key _ =>
    (∃ s, m.sessions.get? key.1 = some s) ∧ ∃ q, m.questions.get? key.2 = some q
  events : m.events.Every fun _ e => e.Coherent

theorem sound_empty : Sound .empty where
  sessions := Table.keyed_empty
  questions := Table.keyed_empty
  reports := Table.keyed_empty
  distinct := ⟨Table.distinct_empty, Table.distinct_empty, Table.distinct_empty⟩
  paidFor := Table.every_empty
  single := Table.apart_empty
  coherent := Table.every_empty
  results := Table.every_empty
  answers := Table.every_empty
  events := Table.every_empty

variable {m : Memory}

/-! ## What each table's insertions keep -/

/-- A session stays paid for if no paid session is replaced by an unpaid one. -/
theorem PaidFor.insertSession {id : SessionId} {s : Session} (h : m.PaidFor id)
    (hs : ∀ old, m.sessions.get? s.id = some old → old.paidAt.isSome → s.paidAt.isSome) :
    (m.insertSession s).PaidFor id := by
  obtain ⟨old, hold, hpaid⟩ := h
  by_cases hid : id = s.id
  · subst hid
    exact ⟨s, Table.get?_insert_self, hs old hold hpaid⟩
  · exact ⟨old, (Table.get?_insert_of_ne hid).trans hold, hpaid⟩

theorem Sound.insertSession {s : Session} (h : m.Sound)
    (hs : ∀ old, m.sessions.get? s.id = some old → old.paidAt.isSome → s.paidAt.isSome) :
    (m.insertSession s).Sound :=
  { h with
    sessions := h.sessions.insert
    paidFor := h.paidFor.imp fun _ _ _ hp => hp.insertSession hs
    answers := h.answers.imp fun _ _ _ ha => ⟨Table.exists_get?_insert ha.1, ha.2⟩ }

theorem Sound.insertQuestion (h : m.Sound) (q : Question) : (m.insertQuestion q).Sound :=
  { h with
    questions := h.questions.insert
    answers := h.answers.imp fun _ _ _ ha => ⟨ha.1, Table.exists_get?_insert ha.2⟩ }

theorem Sound.insertEvent {e : EventEntry} (h : m.Sound) (id : String) (he : e.Coherent) :
    (m.insertEvent id e).Sound :=
  { h with
    distinct := ⟨h.distinct.1, h.distinct.2.1, h.distinct.2.2.insert⟩
    events := h.events.insert he }

theorem Sound.insertAnswer {a : NewAnswer} (h : m.Sound)
    (hs : ∃ s, m.sessions.get? a.session = some s)
    (hq : ∃ q, m.questions.get? a.question = some q) :
    Sound { m with answers := m.answers.insert (a.session, a.question) ⟨a.text, a.preview⟩ } :=
  { h with
    distinct := ⟨h.distinct.1.insert, h.distinct.2.1, h.distinct.2.2⟩
    answers := h.answers.insert ⟨hs, hq⟩ }

/-- A new report may be added to a session that is paid for and has none. -/
theorem Sound.insertDraft {r : Report} (h : m.Sound) (new : m.reports.get? r.id = none)
    (first : ∀ q ∈ m.reports.rows, q.sessionId ≠ r.sessionId) (paid : m.PaidFor r.sessionId)
    (draft : r.Coherent none) : (m.insertReport r).Sound :=
  { h with
    reports := h.reports.insert
    paidFor := h.paidFor.insert paid
    single := h.single.insert fun _ q hq hs => absurd hs (first q (Table.mem_rows_of_get? hq))
    coherent := by
      refine h.coherent.insert ?_
      -- A new report has no rows, since rows belong to reports.
      cases hr : m.results.get? r.id with
      | none => exact draft
      | some rows =>
        obtain ⟨q, hq⟩ := h.results _ _ hr
        simp [new] at hq
    results := h.results.imp fun _ _ _ hr => Table.exists_get?_insert hr }

/-- A report may be replaced, with its rows, by another report of its session. -/
theorem Sound.replaceReport {r r' : Report} {rows : Table ReportId (List RiskResult)} (h : m.Sound)
    (found : m.reports.get? r.id = some r) (id : r'.id = r.id)
    (session : r'.sessionId = r.sessionId)
    (coherent : r'.Coherent (rows.get? r.id)) (distinct : rows.Distinct)
    (others : ∀ j, j ≠ r.id → rows.get? j = m.results.get? j) :
    Sound { m.insertReport r' with results := rows } :=
  { h with
    reports := h.reports.insert
    distinct := ⟨h.distinct.1, distinct, h.distinct.2.2⟩
    paidFor := h.paidFor.insert (session ▸ h.paidFor _ _ found)
    single := h.single.insert fun j q hq hs =>
      (h.single j q hq _ r found (hs.trans session)).trans id.symm
    coherent := by
      intro j q hq
      simp only [insertReport, Table.get?_insert] at hq
      split_ifs at hq with hj
      · obtain rfl := Option.some.inj hq
        exact hj.trans id ▸ coherent
      · rw [others j fun hj' => hj (hj'.trans id.symm)]
        exact h.coherent j q hq
    results := by
      intro j rs hrs
      by_cases hj : j = r.id
      · exact Table.exists_get?_insert ⟨r, hj ▸ found⟩
      · rw [others j hj] at hrs
        exact Table.exists_get?_insert (h.results j rs hrs) }

/-- The order of the entries does not matter to what always holds. -/
theorem Sound.rearranged {m' : Memory} (h : m.Sound) (hr : m.Rearranged m') : m'.Sound := by
  obtain ⟨answers, results, events⟩ := h.distinct
  have hsessions (id : SessionId) : m'.sessions.get? id = m.sessions.get? id :=
    h.sessions.distinct.get?_perm hr.sessions
  have hquestions (id : String) : m'.questions.get? id = m.questions.get? id :=
    h.questions.distinct.get?_perm hr.questions
  have hreports (id : ReportId) : m'.reports.get? id = m.reports.get? id :=
    h.reports.distinct.get?_perm hr.reports
  have hresults (id : ReportId) : m'.results.get? id = m.results.get? id :=
    results.get?_perm hr.results
  exact {
    sessions := h.sessions.perm hr.sessions
    questions := h.questions.perm hr.questions
    reports := h.reports.perm hr.reports
    distinct := ⟨answers.perm hr.answers, results.perm hr.results, events.perm hr.events⟩
    paidFor := by
      simp only [PaidFor, hsessions]
      exact h.paidFor.perm h.reports.distinct hr.reports
    single := h.single.perm h.reports.distinct hr.reports
    coherent := by
      simp only [hresults]
      exact h.coherent.perm h.reports.distinct hr.reports
    results := by
      simp only [hreports]
      exact h.results.perm results hr.results
    answers := by
      simp only [hsessions, hquestions]
      exact h.answers.perm answers hr.answers
    events := h.events.perm events hr.events }

/-! ## Every effect keeps the invariant -/

/-- The session with an intent is kept under its own identifier. -/
theorem Sound.get?_sessionOfIntent {intent : String} {s : Session} (h : m.Sound)
    (hs : m.sessionOfIntent intent = .ok s) : m.sessions.get? s.id = some s :=
  h.sessions.mem_rows.1 (sessionOfIntent_eq_ok hs).1

theorem Sound.effect {m' : Memory} {supply : Supply} {call : StoreCall} (h : m.Sound)
    (fresh : supply.Fresh m) (he : Effect m supply call m') : m'.Sound := by
  cases he with
  | none => exact h
  | opened unused =>
    refine h.insertSession fun old hold => ?_
    simp [Session.opened, fresh.session] at hold
  | answered session question => exact h.insertAnswer session question
  | @attached p s found free =>
    refine h.insertSession fun old hold hpaid => ?_
    rw [h.sessions.key _ _ found] at hold
    obtain rfl := Option.some.inj (found.symm.trans hold)
    exact hpaid
  | paymentFailed found =>
    refine h.insertSession fun old hold hpaid => ?_
    obtain rfl := Option.some.inj ((h.get?_sessionOfIntent found).symm.trans hold)
    exact hpaid
  | refunded found =>
    refine h.insertSession fun old hold hpaid => ?_
    obtain rfl := Option.some.inj ((h.get?_sessionOfIntent found).symm.trans hold)
    exact hpaid
  | @begun intent s found first =>
    have hs : (m.insertSession { s with
        paymentStatus := .paid
        paidAt := s.paidAt.or (some supply.now)
        updatedAt := supply.now }).Sound := by
      refine h.insertSession fun old _ _ => ?_
      cases s.paidAt <;> rfl
    refine hs.insertDraft fresh.report first ⟨_, Table.get?_insert_self, ?_⟩
      (Report.coherent_draft _ _ _ _)
    cases s.paidAt <;> rfl
  | @finished p r found unfinished distinct =>
    have hid : r.id = p.report := h.reports.key _ _ found
    have found' : m.reports.get? r.id = some r := hid ▸ found
    refine h.replaceReport found' rfl rfl ?_ h.distinct.2.1.insert
      fun j hj => Table.get?_insert_of_ne hj
    rw [Table.get?_insert_self]
    exact Report.coherent_finished hid.symm distinct supply supply.now
  | @givenUp id reason r found unready =>
    obtain rfl := h.reports.key _ _ found
    exact h.replaceReport found rfl rfl ((h.coherent _ _ found).giveUp unready reason supply.now)
      h.distinct.2.1 fun _ _ => rfl
  | claimed => exact h.insertEvent _ ⟨Nat.one_pos, by simp [EventEntry.first]⟩
  | reclaimed => exact h.insertEvent _ ⟨Nat.succ_pos _, by simp [EventEntry.reclaimed]⟩
  | completed found => exact h.insertEvent _ ((h.events _ _ found).completed _)

theorem Reachable.sound (h : Reachable Supply.Fresh m) : m.Sound :=
  h.invariant sound_empty (fun hm fresh he => hm.effect fresh he)
    (fun q hm => hm.insertQuestion q) fun hm hr => hm.rearranged hr

/-! ## What the store shows -/

theorem riskResults_perm (id : ReportId) :
    (m.riskResults id).Perm ((m.results.get? id).getD []) :=
  List.mergeSort_perm _ _

/-- **Consistency.** Whatever requests and questions an empty store was given, with new identifiers
from outside, and in whatever order its tables list their entries: each report belongs to a session
of its own, which is there and has been paid for; drafts and reports that were given up show no rows
and carry no results, and only the latter carry an error; a ready report shows the rows that its
fields speak of; and nothing is ever in process. -/
theorem store_consistent (h : Reachable Supply.Fresh m) :
    m.Sound ∧ ∀ id r, m.reports.get? id = some r →
      m.PaidFor r.sessionId ∧
      (∀ id' r', m.reports.get? id' = some r' → r.sessionId = r'.sessionId → id = id') ∧
      match r.status with
      | .draft => r.Unscored ∧ r.errorMessage = none ∧ m.riskResults id = []
      | .processing => False
      | .ready => r.Scored (m.riskResults id)
      | .error => r.Unscored ∧ r.errorMessage.isSome ∧ m.riskResults id = [] := by
  refine ⟨h.sound, fun id r hr => ⟨h.sound.paidFor id r hr, h.sound.single id r hr, ?_⟩⟩
  have hc : r.Coherent (m.results.get? id) := h.sound.coherent id r hr
  have hp := riskResults_perm (m := m) id
  generalize m.results.get? id = rows at hc hp
  cases hc with
  | draft status unscored clean =>
    rw [status]
    exact ⟨unscored, clean, hp.eq_nil⟩
  | error status unscored failed =>
    rw [status]
    exact ⟨unscored, failed, hp.eq_nil⟩
  | ready status scored =>
    rw [status]
    exact scored.perm hp

/-- The sample store with its report made is such a state, and its report is ready. -/
theorem store_consistent_sample :
    (∃ r, (Sample.delivered).reports.get? ⟨⟨4⟩⟩ = some r ∧ r.status = .ready) ∧
      (Sample.delivered).Sound :=
  ⟨⟨_, rfl, rfl⟩, (store_consistent Sample.reachable_delivered).1⟩

end Memory

end RiskReport

import RiskReport.Proofs.Job.Delivery
import RiskReport.Proofs.Scoring.Standing
import RiskReport.Proofs.Service
import RiskReport.Proofs.Transcript

/-!
# An attempt is all or nothing

An attempt to make a report may fail in many ways, and it may be abandoned wherever it waits for an
answer: for the store, for the hedger or for the mailer. It writes to the store only once, when the
results are kept, and everything that can fail comes before that. So the store is untouched until
then, nobody is told anything, and afterwards the report is ready with everything that belongs to it
(`Memory.Made`); telling the visitor changes nothing any more.

`Whole` is that alternative. Each part of an attempt secures it (`secures_hedgesFor`,
`secures_announce`, `secures_publish`, `secures_assess`), whatever the hedger and the mailer answer.

**Theorem (`attempts_whole`).** Wherever an attempt is abandoned, the store is as it was, or this
report was made; after a failure the store is as it was, nobody was told, and the report cannot be
made (`Memory.Refuses`); after a success the report is finished; and for a report that was finished
nothing is asked for but the report itself.
-/

namespace RiskReport

open Program

/-! ## What making a report leaves -/

/-- A row keeps a risk of a report, whatever its own identifier and the hedge written for it. -/
def RiskResult.Keeps (row : RiskResult) (report : ReportId) (risk : ScoredRisk) : Prop :=
  ∃ id aiHedge, row = { risk.row id report with aiHedge }

/-- A report becomes ready with some risks, whatever the texts written for it and the time. -/
def ReadyWith (r r' : Report) (risks : List ScoredRisk) : Prop :=
  ∃ executiveSummary topPriorityHtml now, r' = { r with
    status := .ready
    overallScore := some (overallScore risks)
    criticalCount := some (criticalCount risks)
    executiveSummary
    topPriorityHtml
    risksSnapshot := some (.array (risks.map ScoredRisk.toJson))
    generatedAt := some now
    errorMessage := none
    updatedAt := now }

/-- An unfinished report of a store was made: it is ready with the risks of its session's answers,
there is a row for each of them, and nothing else has changed. -/
structure Memory.MadeOf (m : Memory) (settings : JobSettings) (id : ReportId) (r r' : Report)
    (risks : List ScoredRisk) (rows : List RiskResult) (m' : Memory) : Prop where
  found : m.reports.get? id = some r
  unfinished : r.status.isTerminal = false
  ranked : settings.thresholds.rank (m.answersOf r.sessionId) = .ok risks
  ready : ReadyWith r r' risks
  complete : List.Forall₂ (fun row risk => row.Keeps id risk) rows risks
  store : m' = { m with
    reports := m.reports.insert id r'
    results := m.results.insert id rows }

/-- An unfinished report of a store was made, and nothing else was done. -/
def Memory.Made (m : Memory) (settings : JobSettings) (id : ReportId) (m' : Memory) : Prop :=
  ∃ r r' risks rows, m.MadeOf settings id r r' risks rows m'

/-- A report of a store is finished. -/
def Memory.Finished (m : Memory) (id : ReportId) : Prop :=
  ∃ r, m.reports.get? id = some r ∧ r.status.isTerminal = true

/-- Why a report of a store cannot be made: it is missing, its session has no answers, or they
cannot be ranked. The store itself refuses nothing. -/
def Memory.Refuses (m : Memory) (settings : JobSettings) (id : ReportId) : JobError → Prop
  | .reportNotFound report => report = id ∧ m.reports.get? id = none
  | .noAnswers session => ∃ r, m.reports.get? id = some r ∧ r.status.isTerminal = false ∧
      r.sessionId = session ∧ m.answersOf session = []
  | .scoring e => ∃ r, m.reports.get? id = some r ∧ r.status.isTerminal = false ∧
      settings.thresholds.rank (m.answersOf r.sessionId) = .error e
  | .store _ => False

/-- The mailer was asked for something. -/
def Mailed (calls : List ServiceCall) : Prop :=
  ∃ message, .mail message ∈ calls

variable {m m' : Memory} {settings : JobSettings} {id : ReportId} {calls : List ServiceCall}

/-- A report that was made is finished. -/
theorem Memory.Made.finished (h : m.Made settings id m') : m'.Finished id := by
  obtain ⟨r, r', risks, rows, made⟩ := h
  obtain ⟨summary, priority, now, hr'⟩ := made.ready
  refine ⟨r', ?_, ?_⟩
  · rw [made.store]
    exact Table.get?_insert_self
  · rw [hr']
    rfl

/-- A report with kept results is ready with their risks. -/
theorem readyWith_finished (r : Report) (p : ScoredReport) (now : Instant) :
    ReadyWith r (Memory.finished r p now) p.risks :=
  ⟨_, _, _, rfl⟩

/-- The rows of some results keep their risks, one each. -/
theorem ScoredReport.keeps_rows (p : ScoredReport) (supply : Supply) :
    List.Forall₂ (fun row risk => row.Keeps p.report risk) (p.rows supply) p.risks := by
  conv_rhs => rw [← List.zipIdx_map_fst 0 p.risks]
  rw [rows, List.forall₂_map_left_iff, List.forall₂_map_right_iff, List.forall₂_same]
  exact fun x _ => ⟨_, _, rfl⟩

/-- Keeping the results of an unfinished report makes it. -/
theorem Memory.made_withResults {r : Report} {p : ScoredReport} (sound : m.Sound)
    (found : m.reports.get? p.report = some r) (unfinished : r.status.isTerminal = false)
    (ranked : settings.thresholds.rank (m.answersOf r.sessionId) = .ok p.risks) (supply : Supply) :
    m.Made settings p.report (m.withResults supply r p) := by
  have key : r.id = p.report := sound.reports.key _ r found
  refine ⟨r, finished r p supply.now, p.risks, p.rows supply, found, unfinished, ranked,
    readyWith_finished r p _, p.keeps_rows supply, ?_⟩
  rw [← key]
  rfl

/-! ## The parts of an attempt -/

/-- Where an attempt stands: nothing was written and nobody told, or the report was made. -/
def Whole (m : Memory) (settings : JobSettings) (id : ReportId) (calls : List ServiceCall)
    (m' : Memory) : Prop :=
  m' = m ∧ ¬ Mailed calls ∨ m.Made settings id m'

/-- How an attempt ends: the report cannot be made, nothing was written and nobody told, or the
report is finished. -/
def Ended (m : Memory) (settings : JobSettings) (id : ReportId) (calls : List ServiceCall) :
    Except JobError Unit → Memory → Prop
  | .error e, m' => m' = m ∧ ¬ Mailed calls ∧ m.Refuses settings id e
  | .ok (), m' => m'.Finished id

theorem not_mailed_append (call : ServiceCall) (hc : ∀ message, call ≠ .mail message)
    (quiet : ¬ Mailed calls) : ¬ Mailed (calls ++ [call]) := by
  rintro ⟨message, hm⟩
  rcases List.mem_append.1 hm with hm | hm
  · exact quiet ⟨message, hm⟩
  · exact hc message (List.mem_singleton.1 hm).symm

/-- Asking for hedges writes nothing and tells nobody. -/
theorem secures_hedgesFor (risks : List ScoredRisk) (quiet : ¬ Mailed calls) :
    (hedgesFor settings risks).Secures Memory.Serves (Whole m settings id)
      (fun calls _ m' => m' = m ∧ ¬ Mailed calls) calls m := by
  unfold hedgesFor
  split
  · exact ⟨.inl ⟨rfl, quiet⟩, rfl, quiet⟩
  · have quiet' := not_mailed_append (.hedge risks) (by rintro _ ⟨⟩) quiet
    refine Secures.after (.inl ⟨rfl, quiet'⟩) fun answer m' hm => ?_
    obtain rfl : m' = m := hm
    rcases answer with e | result
    · exact ⟨.inl ⟨rfl, quiet'⟩, rfl, quiet'⟩
    · exact ⟨.inl ⟨rfl, quiet'⟩, rfl, quiet'⟩

/-- Telling the visitor of a report that was made writes nothing. -/
theorem secures_announce (session : SessionId) (token : AccessToken)
    (made : m.Made settings id m') :
    (announce session token).Secures Memory.Serves (Whole m settings id)
      (fun _ _ m' => m.Made settings id m') calls m' := by
  have done (calls : List ServiceCall) :
      Whole m settings id calls m' ∧ m.Made settings id m' := ⟨.inr made, made⟩
  refine Secures.after (.inr made) fun answer m'' hm => ?_
  obtain ⟨supply, hanswer⟩ := hm
  rw [answer_getSession] at hanswer
  obtain ⟨rfl, rfl⟩ := Prod.mk.inj hanswer
  cases m'.sessions.get? session with
  | none => exact done _
  | some s =>
    dsimp only
    cases s.email.bind Text.trimmed? with
    | none => exact done _
    | some recipient =>
      refine Secures.after (.inr made) fun answer m'' hm => ?_
      obtain rfl : m'' = m' := hm
      rcases answer with e | ⟨⟩
      · exact done _
      · exact done _

variable {r : Report}

/-- The results of an unfinished report are kept, and the visitor is told. -/
theorem secures_publish {results : ScoredReport} (sound : m.Sound) (quiet : ¬ Mailed calls)
    (found : m.reports.get? results.report = some r) (unfinished : r.status.isTerminal = false)
    (ranked : settings.thresholds.rank (m.answersOf r.sessionId) = .ok results.risks)
    (session : SessionId) :
    (publish session results).Secures Memory.Serves (Whole m settings results.report)
      (Ended m settings results.report) calls m := by
  have quiet' := not_mailed_append (.store (.persistReport results)) (by rintro _ ⟨⟩) quiet
  -- No question is ranked twice, so that the store has no reason to refuse.
  have distinct := nodup_ranking sound (TierThresholds.ranked_of_rank ranked)
  refine Secures.after (.inl ⟨rfl, quiet'⟩) fun answer m' hm => ?_
  obtain ⟨supply, hanswer⟩ := hm
  rw [answer_persistReport found unfinished distinct] at hanswer
  obtain ⟨rfl, rfl⟩ := Prod.mk.inj hanswer
  have made := Memory.made_withResults sound found unfinished ranked supply
  refine (secures_announce session _ made).bind fun calls _ m' made => ?_
  exact ⟨.inr made, made.finished⟩

variable (settings) in
/-- Answers that cannot be ranked are left; those that can are published with their risks. -/
theorem secures_assess (sound : m.Sound) (quiet : ¬ Mailed calls)
    (found : m.reports.get? id = some r) (unfinished : r.status.isTerminal = false) :
    (assess settings id r.sessionId (m.answersOf r.sessionId)).Secures Memory.Serves
      (Whole m settings id) (Ended m settings id) calls m := by
  unfold assess
  split
  · next e refused =>
    exact ⟨.inl ⟨rfl, quiet⟩, rfl, quiet, r, found, unfinished, refused⟩
  · next risks ranked =>
    refine secures_report_bind.2 ((secures_hedgesFor _ quiet).bind fun calls hedges m' h => ?_)
    obtain ⟨rfl, quiet⟩ := h
    exact secures_publish sound quiet found unfinished ranked r.sessionId

/-- Wherever an attempt is abandoned, it is whole. -/
theorem secures_makeReport (settings : JobSettings) (id : ReportId) (sound : m.Sound) :
    (makeReport settings id).Secures Memory.Serves (Whole m settings id) (Ended m settings id)
      [] m := by
  have quiet : ¬ Mailed ([] ++ [.store (.getReport id)]) :=
    not_mailed_append (.store (.getReport id)) (by rintro _ ⟨⟩) (by rintro ⟨message, ⟨⟩⟩)
  refine secures_within.2 (Secures.after (.inl ⟨rfl, quiet⟩) fun answer m' hm => ?_)
  obtain ⟨supply, hanswer⟩ := hm
  rw [answer_getReport] at hanswer
  obtain ⟨rfl, rfl⟩ := Prod.mk.inj hanswer
  cases found : m.reports.get? id with
  | none => exact ⟨.inl ⟨rfl, quiet⟩, rfl, quiet, rfl, found⟩
  | some r =>
    dsimp only
    cases finished : r.status.isTerminal with
    | true => exact ⟨.inl ⟨rfl, quiet⟩, r, found, finished⟩
    | false =>
      have quiet' := not_mailed_append (.store (.answers r.sessionId)) (by rintro _ ⟨⟩) quiet
      refine Secures.after (.inl ⟨rfl, quiet'⟩) fun answer m' hm => ?_
      obtain ⟨supply, hanswer⟩ := hm
      rw [answer_answers] at hanswer
      obtain ⟨rfl, rfl⟩ := Prod.mk.inj hanswer
      have assessed := secures_assess settings sound quiet' found finished
      cases hrows : m.answersOf r.sessionId with
      | nil => exact ⟨.inl ⟨rfl, quiet'⟩, rfl, quiet', r, found, finished, rfl, hrows⟩
      | cons row rows =>
        rw [hrows] at assessed
        exact assessed

/-- Of a report that is finished, nothing but the report itself is asked for. -/
theorem secures_finished (settings : JobSettings) (finished : m.Finished id) :
    (makeReport settings id).Secures Memory.Serves
      (fun (calls : List ServiceCall) m' => m' = m ∧ calls = [.store (.getReport id)])
      (fun _ _ _ => True) [] m := by
  obtain ⟨r, found, finished⟩ := finished
  refine secures_within.2 (Secures.after ⟨rfl, rfl⟩ fun answer m' hm => ?_)
  obtain ⟨supply, hanswer⟩ := hm
  rw [answer_getReport, found] at hanswer
  obtain ⟨rfl, rfl⟩ := Prod.mk.inj hanswer
  simp only [finished, if_true]
  exact ⟨⟨rfl, rfl⟩, trivial⟩

/-! ## A whole attempt -/

/-- Surroundings answer as requests are served. -/
theorem Surroundings.serves (c : Surroundings) (call : ServiceCall) (m : Memory) :
    m.Serves call (c.answer call m).1 (c.answer call m).2 := by
  cases call with
  | store call => exact ⟨c.supply call, rfl⟩
  | hedge | mail | enqueue | createPayment | clientSecret => rfl

/-- An attempt at the report of the sample store succeeds. -/
theorem Sample.outcome_paid :
    ∃ m', (makeReport ⟨.published, "stub"⟩ ⟨⟨4⟩⟩).outcome surroundings.answer paid =
      (.ok (), m') := by
  have sound := reachable_paid.tokens.1
  obtain ⟨risks, ranked, hr⟩ : ∃ risks,
      TierThresholds.published.rank (paid.answersOf ⟨⟨1⟩⟩) = .ok risks ∧
        TierThresholds.published.Ranked (paid.answersOf ⟨⟨1⟩⟩) risks := by
    refine TierThresholds.rank_ranked fun row hrow _ => ?_
    obtain ⟨id, answer, q, -, hq, rfl⟩ := (Memory.mem_answersOf sound.distinct.1).1 hrow
    have hq' : (if id = "backups" then some question else none) = some q := hq
    split_ifs at hq'
    obtain rfl := Option.some.inj hq'
    exact ⟨_, rfl⟩
  have answered : paid.answersOf ⟨⟨1⟩⟩ ≠ [] :=
    Memory.answersOf_ne_nil sound ⟨"backups", ⟨"No", none⟩, rfl⟩
  obtain ⟨supply, made⟩ := @makeReport_outcome surroundings paid ⟨.published, "stub"⟩ ⟨⟨4⟩⟩ _ risks
    rfl rfl answered ranked (nodup_ranking sound hr)
  exact ⟨_, made⟩

/-! ## The theorem -/

/-- An attempt at a report, wherever it is abandoned, whatever the hedger and the mailer answer: the
store is as it was, or differs only in that this report was made. If the attempt fails, the store is
as it was, the mailer was not asked, and the report cannot be made for the reason that is given. If
it succeeds, the report is finished. If the report was finished before, the store is as it was, and
neither the hedger nor the mailer was asked: nothing was but the store for the report. -/
theorem attempts_whole {p : Service (Except JobError Unit)} {xs : List (Exchange services)}
    (hm : m.Reachable Supply.Fresh)
    (h : (makeReport settings id).Goes Memory.Serves m xs p m') :
    (m' = m ∨ m.Made settings id m') ∧
      (∀ e, p = .done (.error e) →
        m' = m ∧ ¬ Mailed (asked xs p) ∧ m.Refuses settings id e) ∧
      (p = .done (.ok ()) → m'.Finished id) ∧
      (m.Finished id → m' = m ∧ asked xs p = [.store (.getReport id)]) := by
  obtain ⟨whole, ended⟩ := (secures_makeReport settings id hm.sound).goes h
  refine ⟨whole.imp_left And.left, fun e he => ended _ he, fun hok => ended _ hok, ?_⟩
  exact fun finished => ((secures_finished settings finished).goes h).1

/-- In the sample store an attempt at the report succeeds, and one at a report that is missing
fails. -/
theorem attempts_whole_sample :
    (∃ xs m', (makeReport ⟨.published, "stub"⟩ ⟨⟨4⟩⟩).Goes Memory.Serves Sample.paid xs
        (.done (.ok ())) m' ∧ m'.Finished ⟨⟨4⟩⟩ ∧
      Sample.paid.Made ⟨.published, "stub"⟩ ⟨⟨4⟩⟩ m') ∧
    ∃ xs p m', (makeReport ⟨.published, "stub"⟩ ⟨⟨5⟩⟩).Goes Memory.Serves Sample.paid xs p m' ∧
      ∃ e, p = .done (.error e) ∧ m' = Sample.paid ∧ ¬ Mailed (asked xs p) ∧
        Sample.paid.Refuses ⟨.published, "stub"⟩ ⟨⟨5⟩⟩ e := by
  have reachable := Sample.reachable_paid.mono fun _ _ h => h.toFresh
  have goes id := goes_outcome Sample.surroundings.serves (makeReport ⟨.published, "stub"⟩ id)
    Sample.paid
  constructor
  · have goes := goes ⟨⟨4⟩⟩
    obtain ⟨m', houtcome⟩ := Sample.outcome_paid
    rw [houtcome] at goes
    obtain ⟨whole, -, success, -⟩ := attempts_whole reachable goes
    refine ⟨_, m', goes, success rfl, whole.resolve_left ?_⟩
    rintro rfl
    obtain ⟨r, found, finished⟩ := success rfl
    obtain rfl := Option.some.inj found
    exact absurd finished (by decide)
  · have goes := goes ⟨⟨5⟩⟩
    rw [makeReport_missing rfl] at goes
    exact ⟨_, _, _, goes, _, rfl, (attempts_whole reachable goes).2.1 _ rfl⟩

end RiskReport

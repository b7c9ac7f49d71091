import RiskReport.Proofs.Job.Attempt

/-!
# What hedges and mail cannot influence

Two attempts at the same report of the same store, with different hedgers, mailers, clocks and
minted identifiers. The hedger is asked after the risks have been ranked, and what it answers goes
into a column of its own and into two texts of the report; the mailer is asked when everything has
been written. So an attempt either ends in one way whatever its surroundings, leaving the store as
it is, or it keeps results with the same risks, whatever its surroundings (`outcome_alike`). Results
that name a question twice are refused, and the hedges play no part in that
(`Memory.resultRows_error_congr`).

**Theorem (`surroundings_without_influence`).** The two attempts have the same result, and leave the
same store, but for the rows' own identifiers and written hedges, and the report's written texts and
times (`Memory.AgreeBut`).
-/

namespace RiskReport

open Program

/-! ## Agreement -/

/-- Two rows agree but for their own identifiers and the hedges written for them. -/
structure RiskResult.Agree (a b : RiskResult) : Prop where
  reportId : a.reportId = b.reportId
  questionId : a.questionId = b.questionId
  rank : a.rank = b.rank
  riskName : a.riskName = b.riskName
  riskDesc : a.riskDesc = b.riskDesc
  probability : a.probability = b.probability
  impact : a.impact = b.impact
  score : a.score = b.score
  tier : a.tier = b.tier
  hedge : a.hedge = b.hedge
  sectionTitle : a.sectionTitle = b.sectionTitle

/-- Two reports agree but for the texts written for them and for the times of writing. -/
structure Report.Agree (a b : Report) : Prop where
  id : a.id = b.id
  sessionId : a.sessionId = b.sessionId
  status : a.status = b.status
  overallScore : a.overallScore = b.overallScore
  criticalCount : a.criticalCount = b.criticalCount
  risksSnapshot : a.risksSnapshot = b.risksSnapshot
  accessToken : a.accessToken = b.accessToken
  generated : a.generatedAt.isSome = b.generatedAt.isSome
  errorMessage : a.errorMessage = b.errorMessage
  createdAt : a.createdAt = b.createdAt

/-- Two stores are the same, but for one report and its rows, which agree. -/
structure Memory.AgreeBut (id : ReportId) (m₁ m₂ : Memory) : Prop where
  sessions : m₁.sessions = m₂.sessions
  questions : m₁.questions = m₂.questions
  answers : m₁.answers = m₂.answers
  events : m₁.events = m₂.events
  otherReports : ∀ k, k ≠ id → m₁.reports.get? k = m₂.reports.get? k
  otherRows : ∀ k, k ≠ id → m₁.results.get? k = m₂.results.get? k
  report : Option.Rel Report.Agree (m₁.reports.get? id) (m₂.reports.get? id)
  rows : Option.Rel (List.Forall₂ RiskResult.Agree) (m₁.results.get? id) (m₂.results.get? id)

variable {m : Memory} {settings : JobSettings} {id : ReportId} {r : Report}

/-- Reports that became ready with the same risks agree. -/
theorem ReadyWith.agree {r₁ r₂ : Report} {risks : List ScoredRisk} (h₁ : ReadyWith r r₁ risks)
    (h₂ : ReadyWith r r₂ risks) : r₁.Agree r₂ := by
  obtain ⟨_, _, _, rfl⟩ := h₁
  obtain ⟨_, _, _, rfl⟩ := h₂
  exact ⟨rfl, rfl, rfl, rfl, rfl, rfl, rfl, rfl, rfl, rfl⟩

/-- Rows that keep the same risk agree. -/
theorem RiskResult.Keeps.agree {a b : RiskResult} {risk : ScoredRisk} (ha : a.Keeps id risk)
    (hb : b.Keeps id risk) : a.Agree b := by
  obtain ⟨_, _, rfl⟩ := ha
  obtain ⟨_, _, rfl⟩ := hb
  exact ⟨rfl, rfl, rfl, rfl, rfl, rfl, rfl, rfl, rfl, rfl, rfl⟩

theorem agree_of_keeps {rows₁ rows₂ : List RiskResult} {risks : List ScoredRisk}
    (h₁ : List.Forall₂ (fun row risk => row.Keeps id risk) rows₁ risks)
    (h₂ : List.Forall₂ (fun row risk => row.Keeps id risk) rows₂ risks) :
    List.Forall₂ RiskResult.Agree rows₁ rows₂ := by
  induction h₁ generalizing rows₂ with
  | nil =>
    cases h₂
    exact .nil
  | cons hrow _ ih =>
    cases h₂ with
    | cons hrow' h₂ => exact .cons (hrow.agree hrow') (ih h₂)

/-- Stores in which results with the same risks were kept agree. -/
theorem agreeBut_withResults {p₁ p₂ : ScoredReport} (report : p₁.report = p₂.report)
    (risks : p₁.risks = p₂.risks) (supply₁ supply₂ : Supply) :
    Memory.AgreeBut r.id (m.withResults supply₁ r p₁) (m.withResults supply₂ r p₂) := by
  have found (supply p) : (m.withResults supply r p).reports.get? r.id =
      some (Memory.finished r p supply.now) := Table.get?_insert_self
  have kept (supply p) : (m.withResults supply r p).results.get? r.id = some (p.rows supply) :=
    Table.get?_insert_self
  exact {
    sessions := rfl
    questions := rfl
    answers := rfl
    events := rfl
    otherReports := fun _ hk => (Table.get?_insert_of_ne hk).trans (Table.get?_insert_of_ne hk).symm
    otherRows := fun _ hk => (Table.get?_insert_of_ne hk).trans (Table.get?_insert_of_ne hk).symm
    report := by
      rw [found, found]
      exact .some ((readyWith_finished r p₁ _).agree (risks ▸ readyWith_finished r p₂ _))
    rows := by
      rw [kept, kept]
      exact .some (agree_of_keeps (p₁.keeps_rows supply₁)
        (report ▸ risks ▸ p₂.keeps_rows supply₂)) }

/-! ## Results that are refused -/

theorem answer_of_error {supply : Supply} {p : ScoredReport} {e : StoreError}
    (found : m.reports.get? p.report = some r) (unfinished : r.status.isTerminal = false)
    (h : Memory.resultRows supply p = .error e) :
    m.answer supply (.persistReport p) = (.error e, m) := by
  rw [answer_persistReport_eq found unfinished, h]

/-- Results of one report with the same risks are both refused, with the same error, or both
kept. -/
theorem answers_alike {p₁ p₂ : ScoredReport} (report : p₁.report = p₂.report)
    (risks : p₁.risks = p₂.risks) (found : m.reports.get? p₁.report = some r)
    (unfinished : r.status.isTerminal = false) (supply₁ supply₂ : Supply) :
    (∃ e, m.answer supply₁ (.persistReport p₁) = (.error e, m) ∧
      m.answer supply₂ (.persistReport p₂) = (.error e, m)) ∨
    m.answer supply₁ (.persistReport p₁) =
        (.ok (Memory.finished r p₁ supply₁.now), m.withResults supply₁ r p₁) ∧
      m.answer supply₂ (.persistReport p₂) =
        (.ok (Memory.finished r p₂ supply₂.now), m.withResults supply₂ r p₂) := by
  have found' : m.reports.get? p₂.report = some r := report ▸ found
  cases hrows : Memory.resultRows supply₁ p₁ with
  | error e =>
    have hrows' : Memory.resultRows supply₂ p₂ = .error e :=
      Memory.resultRows_error_congr risks hrows
    exact .inl ⟨e, answer_of_error found unfinished hrows, answer_of_error found' unfinished hrows'⟩
  | ok rows =>
    obtain ⟨distinct, -⟩ := (Memory.resultRows_eq_ok rows).1 hrows
    exact .inr ⟨answer_persistReport found unfinished distinct,
      answer_persistReport found' unfinished (risks ▸ distinct)⟩

/-- Two attempts with different surroundings end in the same way and leave the store as it is, or
both keep results with the same risks. -/
theorem outcomes_alike (m : Memory) (settings : JobSettings) (id : ReportId)
    (c₁ c₂ : Surroundings) :
    (∃ result, (makeReport settings id).outcome c₁.answer m = (result, m) ∧
      (makeReport settings id).outcome c₂.answer m = (result, m)) ∨
    ∃ r risks supply₁ supply₂, m.reports.get? id = some r ∧
      (makeReport settings id).outcome c₁.answer m =
        (.ok (), m.withResults supply₁ r (c₁.results id risks)) ∧
      (makeReport settings id).outcome c₂.answer m =
        (.ok (), m.withResults supply₂ r (c₂.results id risks)) := by
  cases found : m.reports.get? id with
  | none => exact .inl ⟨_, makeReport_missing found, makeReport_missing found⟩
  | some r =>
    cases unfinished : r.status.isTerminal with
    | true =>
      exact .inl ⟨_, makeReport_finished found unfinished, makeReport_finished found unfinished⟩
    | false =>
      by_cases unanswered : m.answersOf r.sessionId = []
      · exact .inl ⟨_, makeReport_unanswered found unfinished unanswered,
          makeReport_unanswered found unfinished unanswered⟩
      · cases ranking : settings.thresholds.rank (m.answersOf r.sessionId) with
        | error e =>
          simp only [makeReport_unfinished found unfinished unanswered]
          exact .inl ⟨_, assess_unranked ranking _, assess_unranked ranking _⟩
        | ok risks =>
          simp only [makeReport_unfinished found unfinished unanswered, assess_ranked ranking]
          let p (c : Surroundings) := c.results id risks
          rcases @answers_alike m r (p c₁) (p c₂) rfl rfl found unfinished
            (c₁.supply (.persistReport (p c₁))) (c₂.supply (.persistReport (p c₂))) with
            ⟨e, h₁, h₂⟩ | ⟨h₁, h₂⟩
          · exact .inl ⟨_, publish_refused h₁, publish_refused h₂⟩
          · exact .inr ⟨r, risks, _, _, rfl, publish_outcome h₁, publish_outcome h₂⟩

/-! ## The theorem -/

/-- Two attempts at one report of one store, whose hedgers and mailers answer in any way: they have
the same result, and they leave the same store, but for what the hedger wrote for this report, its
rows' minted identifiers, and the times at which it was written. -/
theorem surroundings_without_influence (m : Memory) (settings : JobSettings) (id : ReportId)
    (c₁ c₂ : Surroundings) :
    let first := (makeReport settings id).outcome c₁.answer m
    let second := (makeReport settings id).outcome c₂.answer m
    first.1 = second.1 ∧
      (first.2 = second.2 ∨
        ∃ r, m.reports.get? id = some r ∧ Memory.AgreeBut r.id first.2 second.2) := by
  intro first second
  rcases outcomes_alike m settings id c₁ c₂ with
    ⟨result, h₁, h₂⟩ | ⟨r, risks, supply₁, supply₂, found, h₁, h₂⟩
  · have same : first = second := h₁.trans h₂.symm
    exact ⟨congrArg Prod.fst same, .inl (congrArg Prod.snd same)⟩
  · refine ⟨(congrArg Prod.fst h₁).trans (congrArg Prod.fst h₂).symm, .inr ⟨r, found, ?_⟩⟩
    have left : first.2 = m.withResults supply₁ r (c₁.results id risks) := congrArg Prod.snd h₁
    have right : second.2 = m.withResults supply₂ r (c₂.results id risks) := congrArg Prod.snd h₂
    rw [left, right]
    exact @agreeBut_withResults m r (c₁.results id risks) (c₂.results id risks) rfl rfl _ _

end RiskReport

import RiskReport.Proofs.Store.Reachable

/-!
# Requests that are carried out in full or not at all

`Memory.answer` gives back the old state whenever a request is refused. A store that is written to
in place has to earn that: what it has written before it refuses a request stays written.
`Memory.carryOut` is each request in this way, look by look and write by write, and
`perform_eq_answer` says that it comes to the same: every check of a request stands before its
first write. For this the rows of a report are all made before any of them is kept.

A `Place` is everything that is kept under one identifier, such as a report with its rows, and
`Memory.addressed` lists the places that a request is for.

**Theorem (`requests_atomic`).** A request that is refused, or that finds its work done, leaves
every table as it was; any other request changes nothing but the places that it addresses.
-/

namespace RiskReport.Memory

/-! ## Requests write by write -/

/-- Something that is done with a state in place. What was written stays written, also before a
refusal. -/
abbrev Deeds (α : Type) := ExceptT StoreError (StateM Memory) α

/-- Keep the rows of a report. -/
def insertRows (m : Memory) (id : ReportId) (rows : List RiskResult) : Memory :=
  { m with results := m.results.insert id rows }

/-- Keep an answer. -/
def insertAnswer (m : Memory) (a : NewAnswer) : Memory :=
  { m with answers := m.answers.insert (a.session, a.question) ⟨a.text, a.preview⟩ }

/-- Begin a session. -/
def openSession (supply : Supply) (anonToken : String) : Deeds Session := do
  if (← get).sessions.rows.any (·.anonToken == anonToken) then
    throw (.conflict "anon token already in use")
  let s := Session.opened supply.session anonToken supply.now
  modify (·.insertSession s)
  return s

/-- Keep an answer in place of the old answer to the question. -/
def keepAnswer (a : NewAnswer) : Deeds Unit := do
  if !(← get).sessions.contains a.session then
    throw (.notFound ("session " ++ a.session.write))
  if !(← get).questions.contains a.question then
    throw (.notFound ("question " ++ a.question))
  modify (·.insertAnswer a)

/-- Attach a payment intent, unless the session has one. -/
def attach (now : Instant) (p : NewIntent) : Deeds Attachment := do
  let some s := (← get).sessions.get? p.session
    | throw (.notFound ("session " ++ p.session.write))
  if s.attachedIntent?.isSome then
    return .alreadyAttached s
  let s := { s with
    customerRef := p.customerRef.bind Text.nonEmpty?
    intentRef := some p.intent
    email := (p.email.bind Text.nonEmpty?).or s.email
    updatedAt := now }
  modify (·.insertSession s)
  return .attached s

/-- Change the payment status of the session with an intent. -/
def changePayment (now : Instant) (status : PaymentStatus) (intent : String) : Deeds Unit := do
  let s ← (← get).sessionOfIntent intent
  modify (·.insertSession { s with paymentStatus := status, updatedAt := now })

/-- Mark the session of an intent as paid, and then begin its report. The session is looked up a
second time, for the write. -/
def beginReport (supply : Supply) (intent : String) : Deeds ReportInit := do
  let s ← (← get).sessionOfIntent intent
  if let some r := (← get).reports.rows.find? (·.sessionId = s.id) then
    return .alreadyExists r
  let s ← (← get).sessionOfIntent intent
  modify (·.insertSession { s with
    paymentStatus := .paid
    paidAt := s.paidAt.or (some supply.now)
    updatedAt := supply.now })
  let r := Report.draft supply.report supply.token s.id supply.now
  modify (·.insertReport r)
  return .created r

/-- Keep the rows of a report, and then the report. -/
def keepReport (supply : Supply) (p : ScoredReport) : Deeds Report := do
  let some r := (← get).reports.get? p.report
    | throw (.notFound ("report " ++ p.report.write))
  match r.status with
  | .ready => return r
  | .error => throw (.conflict ("report " ++ r.id.write ++ " is already in error status"))
  | .draft | .processing =>
    let rows ← resultRows supply p
    let ready := finished r p supply.now
    modify (·.insertRows ready.id rows)
    modify (·.insertReport ready)
    return ready

/-- Give a report up. -/
def giveUp (now : Instant) (id : ReportId) (reason : String) : Deeds Unit := do
  if let some r := (← get).reports.get? id then
    if r.status ≠ .ready then
      modify (·.insertReport { r with
        status := .error, errorMessage := some reason, updatedAt := now })

/-- Claim a payment event. -/
def claimEvent (now : Instant) (id : String) : Deeds EventRecord := do
  match (← get).events.get? id with
  | some e =>
    if e.claimable now then
      modify (·.insertEvent id (e.reclaimed now))
      return .recorded
    else return .duplicate
  | none =>
    modify (·.insertEvent id (.first now))
    return .recorded

/-- Close a payment event. -/
def closeEvent (id : String) (error : Option String) : Deeds Unit := do
  let e ← (← get).event id
  modify (·.insertEvent id (e.completed error))

/-- A request, look by look and write by write. -/
def carryOut (supply : Supply) : (call : StoreCall) → Deeds call.Value
  | .createSession token => openSession supply token
  | .getSession id => return (← get).sessions.get? id
  | .upsertAnswer a => keepAnswer a
  | .answers session => return (← get).answersOf session
  | .attachIntent p => attach supply.now p
  | .markPaymentFailed intent => changePayment supply.now .failed intent
  | .markRefunded intent => changePayment supply.now .refunded intent
  | .initialiseReport intent => beginReport supply intent
  | .getReport id => return (← get).reports.get? id
  | .reportByToken token => return (← get).reportByToken token
  | .riskResults report => return (← get).riskResults report
  | .persistReport p => keepReport supply p
  | .markReportFailed id reason => giveUp supply.now id reason
  | .pendingReports since => return (← get).pendingReports since
  | .recordEvent id _ _ => claimEvent supply.now id
  | .completeEvent id error => closeEvent id error

/-- What a request yields that is carried out in a state, and the state after it. -/
def perform (m : Memory) (supply : Supply) (call : StoreCall) :
    Except StoreError call.Value × Memory :=
  (carryOut supply call).run.run m

/-! ## Every check stands before the first write -/

variable {m : Memory} {supply : Supply}

theorem look_bind {α : Type} (f : Memory → Deeds α) :
    (get >>= f : Deeds α).run.run m = (f m).run.run m := rfl

theorem write_bind {α : Type} (f : PUnit → Deeds α) (w : Memory → Memory) :
    (modify w >>= f : Deeds α).run.run m = (f ⟨⟩).run.run (w m) := rfl

theorem refuse_bind {α β : Type} (e : StoreError) (f : β → Deeds α) :
    (throw e >>= f : Deeds α).run.run m = (.error e, m) := rfl

theorem openSession_run (token : String) :
    (openSession supply token).run.run m = m.answer supply (.createSession token) := by
  unfold openSession
  rw [look_bind]
  by_cases used : m.sessions.rows.any (·.anonToken == token) = true
  · rw [if_pos used, refuse_bind]
    simp only [answer, respond, createSession, used, if_true]
    rfl
  · rw [if_neg used]
    simp only [answer, respond, createSession, used]
    rfl

theorem keepAnswer_run (a : NewAnswer) :
    (keepAnswer a).run.run m = m.answer supply (.upsertAnswer a) := by
  unfold keepAnswer
  rw [look_bind]
  by_cases session : (!m.sessions.contains a.session) = true
  · rw [if_pos session, refuse_bind]
    simp only [answer, respond, upsertAnswer, session, if_true]
    rfl
  · rw [if_neg session, look_bind]
    by_cases question : (!m.questions.contains a.question) = true
    · rw [if_pos question, refuse_bind]
      simp only [answer, respond, upsertAnswer, session, question, if_true]
      rfl
    · rw [if_neg question]
      simp only [answer, respond, upsertAnswer, session, question]
      rfl

theorem attach_run (p : NewIntent) :
    (attach supply.now p).run.run m = m.answer supply (.attachIntent p) := by
  unfold attach
  rw [look_bind]
  cases found : m.sessions.get? p.session with
  | none =>
    simp only [answer, respond, attachIntent, found]
    rfl
  | some s =>
    dsimp only
    by_cases taken : s.attachedIntent?.isSome = true
    · rw [if_pos taken]
      simp only [answer, respond, attachIntent, found, taken, if_true]
      rfl
    · rw [if_neg taken]
      simp only [answer, respond, attachIntent, found, taken]
      rfl

theorem changePayment_run (status : PaymentStatus) (intent : String) :
    (changePayment supply.now status intent).run.run m =
      match m.setPayment supply.now status intent with
      | .ok (value, m') => (.ok value, m')
      | .error e => (.error e, m) := by
  unfold changePayment
  rw [look_bind]
  simp only [setPayment]
  cases m.sessionOfIntent intent with
  | error e => rfl
  | ok s => rfl

theorem sessionOfIntent_bind {α : Type} {intent : String} {s : Session} (f : Session → Deeds α)
    (h : m.sessionOfIntent intent = .ok s) :
    (get >>= fun m => (m.sessionOfIntent intent : Deeds Session) >>= f : Deeds α).run.run m =
      (f s).run.run m := by
  rw [look_bind, h]
  rfl

theorem beginReport_run (intent : String) :
    (beginReport supply intent).run.run m = m.answer supply (.initialiseReport intent) := by
  unfold beginReport
  simp only [answer, respond, initialiseReport]
  cases hs : m.sessionOfIntent intent with
  | error e =>
    rw [look_bind, hs]
    rfl
  | ok s =>
    rw [sessionOfIntent_bind _ hs, look_bind]
    cases hr : m.reports.rows.find? (·.sessionId = s.id) with
    | some r =>
      simp only [bind, Except.bind, hr]
      rfl
    | none =>
      dsimp only
      rw [sessionOfIntent_bind _ hs, write_bind, write_bind]
      simp only [bind, Except.bind, hr]
      rfl

theorem keepReport_run (p : ScoredReport) :
    (keepReport supply p).run.run m = m.answer supply (.persistReport p) := by
  unfold keepReport
  rw [look_bind]
  simp only [answer, respond, persistReport]
  cases m.reports.get? p.report with
  | none => rfl
  | some r =>
    dsimp only
    cases r.status with
    | ready => rfl
    | error => rfl
    | draft | processing =>
      dsimp only
      cases resultRows supply p with
      | error e => rfl
      | ok rows => rfl

theorem giveUp_run (id : ReportId) (reason : String) :
    (giveUp supply.now id reason).run.run m = m.answer supply (.markReportFailed id reason) := by
  unfold giveUp
  rw [look_bind]
  simp only [answer, respond, markReportFailed]
  cases m.reports.get? id with
  | none => rfl
  | some r =>
    dsimp only
    by_cases ready : r.status = .ready
    · rw [if_neg (not_not.2 ready), if_pos ready]
      rfl
    · rw [if_pos ready, if_neg ready]
      rfl

theorem claimEvent_run (id kind : String) (payload : Json) :
    (claimEvent supply.now id).run.run m = m.answer supply (.recordEvent id kind payload) := by
  unfold claimEvent
  rw [look_bind]
  simp only [answer, respond, recordEvent]
  cases m.events.get? id with
  | none => rfl
  | some e =>
    dsimp only
    by_cases claimable : e.claimable supply.now = true
    · rw [if_pos claimable, if_pos claimable]
      rfl
    · rw [if_neg claimable, if_neg claimable]
      rfl

theorem closeEvent_run (id : String) (error : Option String) :
    (closeEvent id error).run.run m = m.answer supply (.completeEvent id error) := by
  unfold closeEvent
  rw [look_bind]
  simp only [answer, respond, completeEvent]
  cases m.event id with
  | error e => rfl
  | ok e => rfl

/-- A request that is carried out write by write comes to its answer. -/
theorem perform_eq_answer (m : Memory) (supply : Supply) (call : StoreCall) :
    m.perform supply call = m.answer supply call := by
  cases call with
  | getSession id => rfl
  | answers session => rfl
  | getReport id => rfl
  | reportByToken token => rfl
  | riskResults report => rfl
  | pendingReports since => rfl
  | createSession token => exact openSession_run token
  | upsertAnswer a => exact keepAnswer_run a
  | attachIntent p => exact attach_run p
  | markPaymentFailed intent =>
    refine (changePayment_run .failed intent).trans ?_
    simp only [answer, respond]
    cases m.setPayment supply.now .failed intent <;> rfl
  | markRefunded intent =>
    refine (changePayment_run .refunded intent).trans ?_
    simp only [answer, respond]
    cases m.setPayment supply.now .refunded intent <;> rfl
  | initialiseReport intent => exact beginReport_run intent
  | persistReport p => exact keepReport_run p
  | markReportFailed id reason => exact giveUp_run id reason
  | recordEvent id kind payload => exact claimEvent_run id kind payload
  | completeEvent id error => exact closeEvent_run id error

/-! ## Answers that change nothing -/

/-- The answer refuses the request, or says that its work was done before, or the request only
looks something up. -/
inductive Idles (m : Memory) : (call : StoreCall) → storeInterface.Answer call → Prop
  | refused (call : StoreCall) (e : StoreError) : Idles m call (Except.error e)
  | alreadyAttached (p : NewIntent) (s : Session) :
      Idles m (.attachIntent p) (Except.ok (Attachment.alreadyAttached s))
  | alreadyExists (intent : String) (r : Report) :
      Idles m (.initialiseReport intent) (Except.ok (ReportInit.alreadyExists r))
  | duplicate (id kind : String) (payload : Json) :
      Idles m (.recordEvent id kind payload) (Except.ok EventRecord.duplicate)
  /-- The report was ready before. -/
  | persisted {p : ScoredReport} {r : Report} (found : m.reports.get? p.report = some r)
      (ready : r.status = .ready) (answer : storeInterface.Answer (.persistReport p)) :
      Idles m (.persistReport p) answer
  /-- The report was ready before, or there is none. -/
  | unfailed {id : ReportId} (ready : ∀ r, m.reports.get? id = some r → r.status = .ready)
      (reason : String) (answer : storeInterface.Answer (.markReportFailed id reason)) :
      Idles m (.markReportFailed id reason) answer
  | getSession (id : SessionId) (answer : storeInterface.Answer (.getSession id)) :
      Idles m (.getSession id) answer
  | answers (session : SessionId) (answer : storeInterface.Answer (.answers session)) :
      Idles m (.answers session) answer
  | getReport (id : ReportId) (answer : storeInterface.Answer (.getReport id)) :
      Idles m (.getReport id) answer
  | reportByToken (token : String) (answer : storeInterface.Answer (.reportByToken token)) :
      Idles m (.reportByToken token) answer
  | riskResults (report : ReportId) (answer : storeInterface.Answer (.riskResults report)) :
      Idles m (.riskResults report) answer
  | pendingReports (since : Instant) (answer : storeInterface.Answer (.pendingReports since)) :
      Idles m (.pendingReports since) answer

theorem attachIntent_idle {p : NewIntent} {s : Session} {m' : Memory}
    (h : m.attachIntent supply.now p = .ok (.alreadyAttached s, m')) : m' = m := by
  obtain ⟨t, -, ⟨-, -, hm⟩ | ⟨-, s', ⟨⟩, -⟩⟩ := attachIntent_eq_ok h
  exact hm

theorem initialiseReport_idle {intent : String} {r : Report} {m' : Memory}
    (h : m.initialiseReport supply intent = .ok (.alreadyExists r, m')) : m' = m := by
  unfold initialiseReport at h
  cases hs : m.sessionOfIntent intent with
  | error e =>
    rw [hs] at h
    cases h
  | ok s =>
    simp only [hs, bind, Except.bind] at h
    split at h
    · cases h
      rfl
    · cases h

theorem recordEvent_idle {id : String} {m' : Memory}
    (h : m.recordEvent supply.now id = (.duplicate, m')) : m' = m := by
  unfold recordEvent at h
  split at h
  · cases h
  · split_ifs at h
    · cases h
    · cases h
      rfl

theorem persistReport_idle {p : ScoredReport} {r : Report}
    (found : m.reports.get? p.report = some r) (ready : r.status = .ready) :
    m.persistReport supply p = .ok (r, m) := by
  simp only [persistReport, found, ready]

theorem markReportFailed_idle {id : ReportId} {reason : String}
    (ready : ∀ r, m.reports.get? id = some r → r.status = .ready) :
    m.markReportFailed supply.now id reason = m := by
  unfold markReportFailed
  split
  · rfl
  · next r hr => rw [if_pos (ready r hr)]

/-- A request with such an answer leaves every table as it was. -/
theorem answer_idle {call : StoreCall} (h : Idles m call (m.answer supply call).1) :
    (m.answer supply call).2 = m := by
  unfold answer at h ⊢
  cases hr : m.respond supply call with
  | error e => rfl
  | ok x =>
    obtain ⟨v, m'⟩ := x
    rw [hr] at h
    change m' = m
    cases h with
    | alreadyAttached p s => exact attachIntent_idle hr
    | alreadyExists intent r => exact initialiseReport_idle hr
    | duplicate id kind payload => exact recordEvent_idle (Except.ok.inj hr)
    | persisted found ready =>
      have hp := (persistReport_idle found ready).symm.trans hr
      exact (Prod.mk.inj (Except.ok.inj hp)).2.symm
    | unfailed ready reason =>
      have hf := (Prod.mk.inj (Except.ok.inj hr)).2
      exact hf.symm.trans (markReportFailed_idle ready)
    | getSession | answers | getReport | reportByToken | riskResults | pendingReports =>
      exact (Prod.mk.inj (Except.ok.inj hr)).2.symm

/-! ## What a request is for -/

/-- Everything that is kept under one identifier. -/
inductive Place where
  | session (id : SessionId)
  | question (id : String)
  | answer (session : SessionId) (question : String)
  /-- A report with its rows. -/
  | report (id : ReportId)
  | event (id : String)
  deriving DecidableEq

/-- The same is kept in a place. -/
def SameAt (m m' : Memory) : Place → Prop
  | .session id => m'.sessions.get? id = m.sessions.get? id
  | .question id => m'.questions.get? id = m.questions.get? id
  | .answer session question =>
    m'.answers.get? (session, question) = m.answers.get? (session, question)
  | .report id =>
    m'.reports.get? id = m.reports.get? id ∧ m'.results.get? id = m.results.get? id
  | .event id => m'.events.get? id = m.events.get? id

/-- The session that an intent belongs to. -/
def payer (m : Memory) (intent : String) : List Place :=
  match m.sessionOfIntent intent with
  | .ok s => [.session s.id]
  | .error _ => []

/-- The places that a request is for. -/
def addressed (m : Memory) (supply : Supply) : StoreCall → List Place
  | .createSession _ => [.session supply.session]
  | .upsertAnswer a => [.answer a.session a.question]
  | .attachIntent p => [.session p.session]
  | .markPaymentFailed intent | .markRefunded intent => m.payer intent
  | .initialiseReport intent => m.payer intent ++ [.report supply.report]
  | .persistReport p => [.report p.report]
  | .markReportFailed id _ => [.report id]
  | .recordEvent id _ _ | .completeEvent id _ => [.event id]
  | .getSession _ | .answers _ | .getReport _ | .reportByToken _ | .riskResults _
  | .pendingReports _ => []

variable {m₁ m₂ : Memory} {place : Place}

theorem SameAt.refl : SameAt m m place := by
  cases place with
  | report id => exact ⟨rfl, rfl⟩
  | session | question | answer | event => rfl

theorem SameAt.trans (h : SameAt m m₁ place) (h' : SameAt m₁ m₂ place) : SameAt m m₂ place := by
  cases place with
  | report id => exact ⟨h'.1.trans h.1, h'.2.trans h.2⟩
  | session | question | answer | event => exact Eq.trans h' h

theorem sameAt_insertSession {s : Session} (h : place ≠ .session s.id) :
    SameAt m (m.insertSession s) place := by
  cases place with
  | session id => exact Table.get?_insert_of_ne fun hid => h (hid ▸ rfl)
  | report id => exact ⟨rfl, rfl⟩
  | question | answer | event => rfl

theorem sameAt_insertAnswer {a : NewAnswer} (h : place ≠ .answer a.session a.question) :
    SameAt m (m.insertAnswer a) place := by
  cases place with
  | answer session question =>
    refine Table.get?_insert_of_ne fun hid => h ?_
    obtain ⟨rfl, rfl⟩ := Prod.mk.inj hid
    rfl
  | report id => exact ⟨rfl, rfl⟩
  | session | question | event => rfl

theorem sameAt_insertReport {r : Report} (h : place ≠ .report r.id) :
    SameAt m (m.insertReport r) place := by
  cases place with
  | report id => exact ⟨Table.get?_insert_of_ne fun hid => h (hid ▸ rfl), rfl⟩
  | session | question | answer | event => rfl

theorem sameAt_insertRows {id : ReportId} (rows : List RiskResult) (h : place ≠ .report id) :
    SameAt m (m.insertRows id rows) place := by
  cases place with
  | report id' => exact ⟨rfl, Table.get?_insert_of_ne fun hid => h (hid ▸ rfl)⟩
  | session | question | answer | event => rfl

theorem sameAt_insertEvent {id : String} {e : EventEntry} (h : place ≠ .event id) :
    SameAt m (m.insertEvent id e) place := by
  cases place with
  | event id' => exact Table.get?_insert_of_ne fun hid => h (hid ▸ rfl)
  | report id' => exact ⟨rfl, rfl⟩
  | session | question | answer => rfl

/-! ## Every row under its own identifier -/

/-- Every row is kept under its own identifier, and no key occurs twice. -/
structure Filed (m : Memory) : Prop where
  sessions : m.sessions.Keyed (·.id)
  questions : m.questions.Keyed (·.id)
  reports : m.reports.Keyed (·.id)
  answers : m.answers.Distinct
  results : m.results.Distinct
  events : m.events.Distinct

theorem filed_empty : Filed .empty :=
  ⟨Table.keyed_empty, Table.keyed_empty, Table.keyed_empty, Table.distinct_empty,
    Table.distinct_empty, Table.distinct_empty⟩

theorem Filed.insertQuestion (h : m.Filed) (q : Question) : (m.insertQuestion q).Filed :=
  { h with questions := h.questions.insert }

theorem Filed.insertSession (h : m.Filed) (s : Session) : (m.insertSession s).Filed :=
  { h with sessions := h.sessions.insert }

theorem Filed.insertReport (h : m.Filed) (r : Report) : (m.insertReport r).Filed :=
  { h with reports := h.reports.insert }

theorem Filed.insertEvent (h : m.Filed) (id : String) (e : EventEntry) :
    (m.insertEvent id e).Filed :=
  { h with events := h.events.insert }

theorem Filed.effect {m' : Memory} {call : StoreCall} (h : m.Filed)
    (he : Effect m supply call m') : m'.Filed := by
  cases he with
  | none => exact h
  | opened | attached | paymentFailed | refunded => exact h.insertSession _
  | answered => exact { h with answers := h.answers.insert }
  | begun => exact (h.insertSession _).insertReport _
  | finished => exact { h.insertReport _ with results := h.results.insert }
  | givenUp => exact h.insertReport _
  | claimed | reclaimed | completed => exact h.insertEvent _ _

theorem Filed.rearranged {m' : Memory} (h : m.Filed) (hr : m.Rearranged m') : m'.Filed :=
  ⟨h.sessions.perm hr.sessions, h.questions.perm hr.questions, h.reports.perm hr.reports,
    h.answers.perm hr.answers, h.results.perm hr.results, h.events.perm hr.events⟩

/-- Every state that an empty store gets into is filed, whatever comes from outside. -/
theorem Reachable.filed {admits : Supply → Memory → Prop} (h : Reachable admits m) : m.Filed :=
  h.invariant filed_empty (fun hm _ he => hm.effect he) (fun q hm => hm.insertQuestion q)
    fun hm hr => hm.rearranged hr

/-- What is kept under other identifiers stays the same. -/
theorem Filed.sameAt {m' : Memory} {call : StoreCall} (h : m.Filed)
    (he : Effect m supply call m') (hp : place ∉ m.addressed supply call) :
    SameAt m m' place := by
  cases he with
  | none => exact .refl
  | opened => exact sameAt_insertSession (by simpa [addressed, Session.opened] using hp)
  | answered => exact sameAt_insertAnswer (by simpa [addressed] using hp)
  | attached found =>
    have hid := h.sessions.key _ _ found
    exact sameAt_insertSession (by simpa [addressed, hid] using hp)
  | paymentFailed found | refunded found =>
    exact sameAt_insertSession (by simpa [addressed, payer, found] using hp)
  | begun found =>
    simp only [addressed, payer, found, List.singleton_append, List.mem_cons, List.not_mem_nil,
      or_false, not_or] at hp
    refine SameAt.trans ?_ (sameAt_insertReport hp.2)
    exact sameAt_insertSession hp.1
  | @finished p r found =>
    have hid := h.reports.key _ _ found
    have hp : place ≠ .report p.report := by simpa [addressed] using hp
    exact (sameAt_insertReport (hid ▸ hp)).trans (sameAt_insertRows _ (hid ▸ hp))
  | givenUp found =>
    have hid := h.reports.key _ _ found
    exact sameAt_insertReport (by simpa [addressed, hid] using hp)
  | claimed | reclaimed | completed =>
    exact sameAt_insertEvent (by simpa [addressed] using hp)

/-! ## Atomic requests -/

/-- **Atomicity.** Whatever the state and the request, and write by write: a request that is
refused, or that finds its work done, leaves every table as it was; and any other request changes
nothing but what it is for, which is one session, one answer, one report with its rows, one event,
or a session with its new report. -/
theorem requests_atomic (h : m.Filed) (supply : Supply) (call : StoreCall) :
    m.perform supply call = m.answer supply call ∧
      (Idles m call (m.perform supply call).1 → (m.perform supply call).2 = m) ∧
      (∀ place ∉ m.addressed supply call, SameAt m (m.perform supply call).2 place) ∧
      (m.perform supply call).2.Filed := by
  rw [perform_eq_answer]
  have he := answer_effect m supply call
  exact ⟨rfl, answer_idle, fun place hp => h.sameAt he hp, h.effect he⟩

/-- The sample store refuses a second row for a question, and then nothing of the report is kept;
when the report becomes ready, the session stays as it was. -/
theorem requests_atomic_sample :
    let twice := { Sample.results with risks := Sample.results.risks ++ Sample.results.risks }
    (Sample.paid.perform (Sample.supply 5) (.persistReport twice)).2 = Sample.paid ∧
      SameAt Sample.paid (Sample.paid.perform (Sample.supply 5) (.persistReport Sample.results)).2
        (.session ⟨⟨1⟩⟩) := by
  have filed : Sample.paid.Filed := Sample.reachable_paid.filed
  refine ⟨?_, ?_⟩
  · exact (requests_atomic filed (Sample.supply 5) _).2.1 (.refused _ _)
  · refine (requests_atomic filed (Sample.supply 5) _).2.2.1 _ ?_
    simp [addressed]

end RiskReport.Memory

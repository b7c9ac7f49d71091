import RiskReport.Store.Call

/-!
# A store in memory

The store as a value. Each request is a function of the state, of its arguments, and of what it
needs from outside (`Supply`): the time and fresh identifiers. A refused request leaves the state
as it was (`Memory.answer` returns the new state only with a success).
-/

namespace RiskReport

/-- What a request takes from outside: the time, and identifiers that nobody has used. -/
structure Supply where
  now : Instant
  session : SessionId
  report : ReportId
  token : AccessToken
  /-- The identifiers of result rows, by position. -/
  row : Nat → RiskResultId

/-- An answer as it is kept. -/
structure StoredAnswer where
  text : String
  preview : Option RiskScore
  deriving DecidableEq, Repr, Inhabited

/-- Where the handling of a payment event stands. -/
inductive EventStatus where
  | received
  | processed
  | failed
  deriving DecidableEq, Repr, Inhabited

/-- A payment event that has been seen. -/
structure EventEntry where
  status : EventStatus
  error : Option String
  /-- How often the event has been claimed, a count without bound. -/
  attempts : Nat
  /-- When it was claimed last. -/
  receivedAt : Instant
  deriving DecidableEq, Repr, Inhabited

namespace EventEntry

/-- The entry of an event that is claimed for the first time. -/
def first (now : Instant) : EventEntry where
  status := .received
  error := none
  attempts := 1
  receivedAt := now

/-- Whether the lease of whoever claimed the event has run out. -/
def leaseExpired (e : EventEntry) (now : Instant) : Bool :=
  ((e.receivedAt.shift? eventLease.total).map (·.lt now)).getD false

/-- Whether the event may be claimed: its handling failed, or it was abandoned. -/
def claimable (e : EventEntry) (now : Instant) : Bool :=
  match e.status with
  | .failed => true
  | .received => e.leaseExpired now
  | .processed => false

/-- The entry of an event that is claimed again. -/
def reclaimed (e : EventEntry) (now : Instant) : EventEntry :=
  { status := .received, error := none, attempts := e.attempts + 1, receivedAt := now }

/-- The entry of an event that was handled, or could not be. -/
def completed (e : EventEntry) : Option String → EventEntry
  | none => { e with status := .processed, error := none }
  | some message => { e with status := .failed, error := some message }

end EventEntry

/-- The state of a store in memory. -/
structure Memory where
  sessions : Table SessionId Session := .empty
  questions : Table String Question := .empty
  answers : Table (SessionId × String) StoredAnswer := .empty
  reports : Table ReportId Report := .empty
  results : Table ReportId (List RiskResult) := .empty
  events : Table String EventEntry := .empty
  deriving DecidableEq, Repr, Inhabited

namespace Memory

/-- The store in which nothing is kept. -/
def empty : Memory := {}

/-- Keep a question. -/
def insertQuestion (m : Memory) (q : Question) : Memory :=
  { m with questions := m.questions.insert q.id q }

/-- Keep a session as it is given. -/
def insertSession (m : Memory) (s : Session) : Memory :=
  { m with sessions := m.sessions.insert s.id s }

/-- Keep a report as it is given. -/
def insertReport (m : Memory) (r : Report) : Memory :=
  { m with reports := m.reports.insert r.id r }

/-- Keep the entry of an event. -/
def insertEvent (m : Memory) (id : String) (e : EventEntry) : Memory :=
  { m with events := m.events.insert id e }

/-- Begin a session. -/
def createSession (m : Memory) (supply : Supply) (anonToken : String) :
    Except StoreError (Session × Memory) :=
  if m.sessions.rows.any (·.anonToken == anonToken) then
    .error (.conflict "anon token already in use")
  else
    let s := Session.opened supply.session anonToken supply.now
    .ok (s, m.insertSession s)

/-- Keep an answer in place of the old answer to the question. -/
def upsertAnswer (m : Memory) (a : NewAnswer) : Except StoreError (Unit × Memory) :=
  if !m.sessions.contains a.session then .error (.notFound ("session " ++ a.session.write))
  else if !m.questions.contains a.question then .error (.notFound ("question " ++ a.question))
  else
    .ok ((), { m with answers := m.answers.insert (a.session, a.question) ⟨a.text, a.preview⟩ })

/-- The place of a row in the questionnaire. -/
def earlier (a b : Int × AnswerRow) : Bool :=
  a.1 < b.1 || (a.1 == b.1 && decide (a.2.questionId ≤ b.2.questionId))

/-- The answers of a session in the order of the questionnaire. -/
def answersOf (m : Memory) (session : SessionId) : List AnswerRow :=
  let rows := m.answers.entries.filterMap fun ((s, question), answer) =>
    if s = session then
      (m.questions.get? question).map fun q => (q.sortOrder, q.answered answer.text)
    else none
  (rows.mergeSort earlier).map (·.2)

/-- Attach a payment intent, unless the session has one. -/
def attachIntent (m : Memory) (now : Instant) (p : NewIntent) :
    Except StoreError (Attachment × Memory) :=
  match m.sessions.get? p.session with
  | none => .error (.notFound ("session " ++ p.session.write))
  | some s =>
    if s.attachedIntent?.isSome then .ok (.alreadyAttached s, m)
    else
      let s := { s with
        customerRef := p.customerRef.bind Text.nonEmpty?
        intentRef := some p.intent
        email := (p.email.bind Text.nonEmpty?).or s.email
        updatedAt := now }
      .ok (.attached s, m.insertSession s)

/-- The session with a payment intent. -/
def sessionOfIntent (m : Memory) (intent : String) : Except StoreError Session :=
  match m.sessions.rows.find? (·.attachedIntent? == some intent) with
  | some s => .ok s
  | none => .error (.notFound ("session for payment intent " ++ intent))

/-- Change the payment status of the session with an intent. -/
def setPayment (m : Memory) (now : Instant) (status : PaymentStatus) (intent : String) :
    Except StoreError (Unit × Memory) := do
  let s ← m.sessionOfIntent intent
  return ((), m.insertSession { s with paymentStatus := status, updatedAt := now })

/-- Mark the session of an intent as paid and begin its report, unless it has one. -/
def initialiseReport (m : Memory) (supply : Supply) (intent : String) :
    Except StoreError (ReportInit × Memory) := do
  let s ← m.sessionOfIntent intent
  match m.reports.rows.find? (·.sessionId = s.id) with
  | some r => return (.alreadyExists r, m)
  | none =>
    let paid := { s with
      paymentStatus := .paid
      paidAt := s.paidAt.or (some supply.now)
      updatedAt := supply.now }
    let r := Report.draft supply.report supply.token s.id supply.now
    return (.created r, (m.insertSession paid).insertReport r)

/-- The report that a token gives access to. -/
def reportByToken (m : Memory) (token : String) : Option Report :=
  m.reports.rows.find? (·.accessToken.text == token)

/-- The result rows of a report by their rank. -/
def riskResults (m : Memory) (report : ReportId) : List RiskResult :=
  ((m.results.get? report).getD []).mergeSort fun a b => a.rank ≤ b.rank

/-- The rows in which risks are kept, after the rows that are there, without hedges of their own; or
the first question that has two. -/
def plainRows (supply : Supply) (report : ReportId) :
    (rows : List RiskResult) → List ScoredRisk → Except StoreError (List RiskResult)
  | rows, [] => .ok rows
  | rows, r :: rest =>
    if rows.any (·.questionId == r.questionId) then
      .error (.conflict ("duplicate risk result for question " ++ r.questionId))
    else plainRows supply report (rows ++ [r.row (supply.row rows.length) report]) rest

/-- Put the hedge for a question into the first row of the question, if it has one. -/
def setHedge : List RiskResult → String × String → List RiskResult
  | [], _ => []
  | row :: rest, (question, text) =>
    if row.questionId = question then { row with aiHedge := some text } :: rest
    else row :: setHedge rest (question, text)

/-- The rows of a scored report, or the first question that has two. The hedges that apply are put
into the rows one after the other. -/
def resultRows (supply : Supply) (p : ScoredReport) : Except StoreError (List RiskResult) := do
  let rows ← plainRows supply p.report [] p.risks
  let hedges := p.applicableHedges fun question => rows.any (·.questionId == question)
  return hedges.foldl setHedge rows

/-- The report once its results are kept. -/
def finished (r : Report) (p : ScoredReport) (now : Instant) : Report :=
  { r with
    status := .ready
    overallScore := some p.overall
    criticalCount := some p.critical
    executiveSummary := Text.nonEmpty? p.executiveSummary
    topPriorityHtml := Text.nonEmpty? p.topPriorityHtml
    risksSnapshot := some p.snapshot
    generatedAt := some now
    errorMessage := none
    updatedAt := now }

/-- Keep the results of a report and make it ready. -/
def persistReport (m : Memory) (supply : Supply) (p : ScoredReport) :
    Except StoreError (Report × Memory) :=
  match m.reports.get? p.report with
  | none => .error (.notFound ("report " ++ p.report.write))
  | some r =>
    match r.status with
    | .ready => .ok (r, m)
    | .error => .error (.conflict ("report " ++ r.id.write ++ " is already in error status"))
    | .draft | .processing => do
      let rows ← resultRows supply p
      let r := finished r p supply.now
      return (r, { m.insertReport r with results := m.results.insert r.id rows })

/-- Give a report up, unless it is ready or unknown. -/
def markReportFailed (m : Memory) (now : Instant) (id : ReportId) (reason : String) : Memory :=
  match m.reports.get? id with
  | none => m
  | some r =>
    if r.status = .ready then m
    else m.insertReport { r with status := .error, errorMessage := some reason, updatedAt := now }

/-- Whether one report was begun before another, or at the same time with a lower identifier. -/
def older (a b : Report) : Bool :=
  a.createdAt.lt b.createdAt ||
    (a.createdAt == b.createdAt && a.id.uuid.value ≤ b.id.uuid.value)

/-- The unfinished reports begun at a time or later, the oldest first. -/
def pendingReports (m : Memory) (since : Instant) : List ReportId :=
  let pending := m.reports.rows.filter fun r => !r.status.isTerminal && since.le r.createdAt
  (pending.mergeSort older).map (·.id)

/-- Claim a payment event. -/
def recordEvent (m : Memory) (now : Instant) (id : String) : EventRecord × Memory :=
  match m.events.get? id with
  | none => (.recorded, m.insertEvent id (.first now))
  | some e =>
    if e.claimable now then (.recorded, m.insertEvent id (e.reclaimed now))
    else (.duplicate, m)

/-- The entry of an event that is expected to be there. -/
def event (m : Memory) (id : String) : Except StoreError EventEntry :=
  match m.events.get? id with
  | some e => .ok e
  | none => .error (.notFound ("payment event " ++ id))

/-- Close a payment event. -/
def completeEvent (m : Memory) (id : String) (error : Option String) :
    Except StoreError (Unit × Memory) := do
  let e ← m.event id
  return ((), m.insertEvent id (e.completed error))

/-- Answer a request; only a success changes the state. -/
def respond (m : Memory) (supply : Supply) :
    (call : StoreCall) → Except StoreError (call.Value × Memory)
  | .createSession token => m.createSession supply token
  | .getSession id => .ok (m.sessions.get? id, m)
  | .upsertAnswer a => m.upsertAnswer a
  | .answers session => .ok (m.answersOf session, m)
  | .attachIntent p => m.attachIntent supply.now p
  | .markPaymentFailed intent => m.setPayment supply.now .failed intent
  | .markRefunded intent => m.setPayment supply.now .refunded intent
  | .initialiseReport intent => m.initialiseReport supply intent
  | .getReport id => .ok (m.reports.get? id, m)
  | .reportByToken token => .ok (m.reportByToken token, m)
  | .riskResults report => .ok (m.riskResults report, m)
  | .persistReport p => m.persistReport supply p
  | .markReportFailed id reason => .ok ((), m.markReportFailed supply.now id reason)
  | .pendingReports since => .ok (m.pendingReports since, m)
  | .recordEvent id _ _ => .ok (m.recordEvent supply.now id)
  | .completeEvent id error => m.completeEvent id error

/-- Answer a request and go on with the state after it. -/
def answer (m : Memory) (supply : Supply) (call : StoreCall) :
    storeInterface.Answer call × Memory :=
  match m.respond supply call with
  | .ok (value, m) => (.ok value, m)
  | .error e => (.error e, m)

end Memory

end RiskReport

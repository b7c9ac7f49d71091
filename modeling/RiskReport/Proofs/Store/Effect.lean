import RiskReport.Proofs.Store.Rows

/-!
# What a request does to a store in memory

`Effect m supply call m'` lists, once and for all, how the state `m'` after a request can differ
from the state `m` before it: nothing has changed, or the request has done the one thing that it is
for, and what it looked at before is recorded with it. `answer_effect` says that every answer of the
store has such an effect. The proofs about states go by cases on the effect and never open the
requests themselves.
-/

namespace RiskReport.Memory

/-- What a request may have done to a state, with what it found there. -/
inductive Effect (m : Memory) (supply : Supply) : StoreCall → Memory → Prop
  /-- Nothing was written. -/
  | none (call : StoreCall) : Effect m supply call m
  /-- A session was begun. -/
  | opened {token : String} (unused : ∀ s ∈ m.sessions.rows, s.anonToken ≠ token) :
      Effect m supply (.createSession token)
        (m.insertSession (.opened supply.session token supply.now))
  /-- An answer was kept. -/
  | answered {a : NewAnswer} (session : ∃ s, m.sessions.get? a.session = some s)
      (question : ∃ q, m.questions.get? a.question = some q) :
      Effect m supply (.upsertAnswer a)
        { m with answers := m.answers.insert (a.session, a.question) ⟨a.text, a.preview⟩ }
  /-- A payment intent was attached to a session that had none. -/
  | attached {p : NewIntent} {s : Session} (found : m.sessions.get? p.session = some s)
      (free : s.attachedIntent? = Option.none) :
      Effect m supply (.attachIntent p)
        (m.insertSession { s with
          customerRef := p.customerRef.bind Text.nonEmpty?
          intentRef := some p.intent
          email := (p.email.bind Text.nonEmpty?).or s.email
          updatedAt := supply.now })
  /-- A payment failed. -/
  | paymentFailed {intent : String} {s : Session} (found : m.sessionOfIntent intent = .ok s) :
      Effect m supply (.markPaymentFailed intent)
        (m.insertSession { s with paymentStatus := .failed, updatedAt := supply.now })
  /-- A payment was refunded. -/
  | refunded {intent : String} {s : Session} (found : m.sessionOfIntent intent = .ok s) :
      Effect m supply (.markRefunded intent)
        (m.insertSession { s with paymentStatus := .refunded, updatedAt := supply.now })
  /-- A session was paid for, and its report was begun. -/
  | begun {intent : String} {s : Session} (found : m.sessionOfIntent intent = .ok s)
      (first : ∀ r ∈ m.reports.rows, r.sessionId ≠ s.id) :
      Effect m supply (.initialiseReport intent)
        ((m.insertSession { s with
            paymentStatus := .paid
            paidAt := s.paidAt.or (some supply.now)
            updatedAt := supply.now }).insertReport
          (.draft supply.report supply.token s.id supply.now))
  /-- An unfinished report became ready. -/
  | finished {p : ScoredReport} {r : Report} (found : m.reports.get? p.report = some r)
      (unfinished : r.status.isTerminal = false) (distinct : (p.risks.map (·.questionId)).Nodup) :
      Effect m supply (.persistReport p)
        { m.insertReport (finished r p supply.now) with
          results := m.results.insert r.id (p.rows supply) }
  /-- A report that was not ready was given up. -/
  | givenUp {id : ReportId} {reason : String} {r : Report} (found : m.reports.get? id = some r)
      (unready : r.status ≠ .ready) :
      Effect m supply (.markReportFailed id reason)
        (m.insertReport { r with
          status := .error, errorMessage := some reason, updatedAt := supply.now })
  /-- An event was claimed for the first time. -/
  | claimed {id kind : String} {payload : Json} (unseen : m.events.get? id = Option.none) :
      Effect m supply (.recordEvent id kind payload) (m.insertEvent id (.first supply.now))
  /-- An event was claimed again. -/
  | reclaimed {id kind : String} {payload : Json} {e : EventEntry}
      (found : m.events.get? id = some e) (claimable : e.claimable supply.now = true) :
      Effect m supply (.recordEvent id kind payload) (m.insertEvent id (e.reclaimed supply.now))
  /-- An event was closed. -/
  | completed {id : String} {error : Option String} {e : EventEntry}
      (found : m.events.get? id = some e) :
      Effect m supply (.completeEvent id error) (m.insertEvent id (e.completed error))

variable {m : Memory} {supply : Supply}

theorem answer_of_ok {call : StoreCall} {v : call.Value} {m' : Memory}
    (h : m.respond supply call = .ok (v, m')) : m.answer supply call = (.ok v, m') := by
  simp [answer, h]

theorem respond_of_answer {call : StoreCall} {v : call.Value} {m' : Memory}
    (h : m.answer supply call = (.ok v, m')) : m.respond supply call = .ok (v, m') := by
  unfold answer at h
  cases hr : m.respond supply call with
  | error e =>
    rw [hr] at h
    cases h
  | ok x =>
    rw [hr] at h
    cases h
    rfl

/-- A request that is refused changes nothing. -/
theorem eq_of_refused {call : StoreCall} {e : StoreError} {m' : Memory}
    (h : m.answer supply call = (.error e, m')) : m' = m := by
  unfold answer at h
  cases hr : m.respond supply call with
  | error e' =>
    rw [hr] at h
    exact (Prod.mk.inj h).2.symm
  | ok x =>
    rw [hr] at h
    cases h

/-- A session that has an intent is handed back as it is, and one that has none gets its own. -/
theorem attachIntent_eq_ok {p : NewIntent} {a : Attachment} {m' : Memory}
    (h : m.attachIntent supply.now p = .ok (a, m')) :
    ∃ s, m.sessions.get? p.session = some s ∧
      (s.attachedIntent?.isSome ∧ a = .alreadyAttached s ∧ m' = m ∨
        s.attachedIntent? = none ∧ ∃ t : Session, a = .attached t ∧ m' = m.insertSession t ∧
          t = { s with
            customerRef := p.customerRef.bind Text.nonEmpty?
            intentRef := some p.intent
            email := (p.email.bind Text.nonEmpty?).or s.email
            updatedAt := supply.now }) := by
  unfold attachIntent at h
  cases found : m.sessions.get? p.session with
  | none =>
    rw [found] at h
    cases h
  | some s =>
    rw [found] at h
    refine ⟨s, rfl, ?_⟩
    by_cases taken : s.attachedIntent?.isSome = true
    · simp only [taken, if_true] at h
      cases h
      exact .inl ⟨taken, rfl, rfl⟩
    · simp only [taken] at h
      cases h
      exact .inr ⟨by simpa using taken, _, rfl, rfl, rfl⟩

/-- The session with an intent is a session of the store, and it has the intent. -/
theorem sessionOfIntent_eq_ok {intent : String} {s : Session}
    (h : m.sessionOfIntent intent = .ok s) :
    s ∈ m.sessions.rows ∧ s.attachedIntent? = some intent := by
  unfold sessionOfIntent at h
  split at h
  · next t ht =>
    cases h
    exact ⟨List.mem_of_find?_eq_some ht, by simpa using List.find?_some ht⟩
  · cases h

/-- The report of a session is handed back if it has one, and begun otherwise. -/
theorem initialiseReport_eq_ok {intent : String} {init : ReportInit} {m' : Memory}
    (h : m.initialiseReport supply intent = .ok (init, m')) :
    ∃ s, m.sessionOfIntent intent = .ok s ∧
      ((∃ r ∈ m.reports.rows, r.sessionId = s.id ∧ init = .alreadyExists r ∧ m' = m) ∨
        (∀ r ∈ m.reports.rows, r.sessionId ≠ s.id) ∧ ∃ r paid, init = .created r ∧
          r = .draft supply.report supply.token s.id supply.now ∧
          paid = { s with
            paymentStatus := .paid
            paidAt := s.paidAt.or (some supply.now)
            updatedAt := supply.now } ∧
          m' = (m.insertSession paid).insertReport r) := by
  simp only [initialiseReport, bind, Except.bind] at h
  cases hs : m.sessionOfIntent intent with
  | error e =>
    rw [hs] at h
    cases h
  | ok s =>
    refine ⟨s, rfl, ?_⟩
    cases hf : m.reports.rows.find? (·.sessionId = s.id) with
    | some r =>
      simp only [hs, hf] at h
      cases h
      have hr : r.sessionId = s.id := by simpa using List.find?_some hf
      exact .inl ⟨r, List.mem_of_find?_eq_some hf, hr, rfl, rfl⟩
    | none =>
      simp only [hs, hf] at h
      cases h
      exact .inr ⟨by simpa using hf, _, _, rfl, rfl, rfl, rfl⟩

/-- Keeping the results of an unfinished report goes as far as its rows do. -/
theorem persistReport_of_unfinished {p : ScoredReport} {r : Report}
    (found : m.reports.get? p.report = some r) (unfinished : r.status.isTerminal = false) :
    m.persistReport supply p =
      (resultRows supply p).map fun rows =>
        (finished r p supply.now,
          { m.insertReport (finished r p supply.now) with
            results := m.results.insert r.id rows }) := by
  unfold persistReport
  rw [found]
  cases h : r.status <;> simp [h, ReportStatus.isTerminal] at unfinished ⊢ <;>
    cases resultRows supply p <;> rfl

/-- Every answer of the store has one of the effects. -/
theorem answer_effect (m : Memory) (supply : Supply) (call : StoreCall) :
    Effect m supply call (m.answer supply call).2 := by
  -- A refusal and a mere reading leave the state as it is, whatever the request.
  have same {call : StoreCall} {m' : Memory} (h : m' = m) : Effect m supply call m' :=
    h ▸ Effect.none call
  cases call with
  | getSession id => exact .none _
  | answers session => exact .none _
  | getReport id => exact .none _
  | reportByToken token => exact .none _
  | riskResults report => exact .none _
  | pendingReports since => exact .none _
  | createSession token =>
    simp only [answer, respond, createSession]
    by_cases h : m.sessions.rows.any (·.anonToken == token) = true
    · simp only [h, if_true]
      exact same rfl
    · simp only [h]
      exact .opened (by simpa using h)
  | upsertAnswer a =>
    simp only [answer, respond, upsertAnswer]
    by_cases hs : m.sessions.contains a.session = true
    · by_cases hq : m.questions.contains a.question = true
      · simp only [hs, hq]
        exact .answered (Table.contains_iff.1 hs) (Table.contains_iff.1 hq)
      · simp only [hs, hq]
        exact same rfl
    · simp only [hs]
      exact same rfl
  | attachIntent p =>
    simp only [answer, respond, attachIntent]
    cases hs : m.sessions.get? p.session with
    | none => exact same rfl
    | some s =>
      by_cases hf : s.attachedIntent?.isSome = true
      · simp only [hf, if_true]
        exact same rfl
      · simp only [hf]
        exact .attached hs (by simpa using hf)
  | markPaymentFailed intent =>
    simp only [answer, respond, setPayment]
    cases hs : m.sessionOfIntent intent with
    | error e => exact same rfl
    | ok s => exact .paymentFailed hs
  | markRefunded intent =>
    simp only [answer, respond, setPayment]
    cases hs : m.sessionOfIntent intent with
    | error e => exact same rfl
    | ok s => exact .refunded hs
  | initialiseReport intent =>
    simp only [answer, respond, initialiseReport]
    cases hs : m.sessionOfIntent intent with
    | error e => exact same rfl
    | ok s =>
      cases hr : m.reports.rows.find? (·.sessionId = s.id) with
      | some r =>
        simp only [bind, Except.bind, hr]
        exact same rfl
      | none =>
        simp only [bind, Except.bind, hr]
        exact .begun hs (by simpa using hr)
  | persistReport p =>
    simp only [answer, respond]
    cases hr : m.reports.get? p.report with
    | none => exact same (by simp [persistReport, hr])
    | some r =>
      by_cases hst : r.status.isTerminal = true
      · exact same (by cases h : r.status <;> simp_all [persistReport, ReportStatus.isTerminal])
      · rw [persistReport_of_unfinished hr (by simpa using hst)]
        cases hrows : resultRows supply p with
        | error e => exact same rfl
        | ok rows =>
          obtain ⟨hd, rfl⟩ := (resultRows_eq_ok rows).1 hrows
          exact .finished hr (by simpa using hst) hd
  | markReportFailed id reason =>
    simp only [answer, respond, markReportFailed]
    cases hr : m.reports.get? id with
    | none => exact same rfl
    | some r =>
      by_cases hst : r.status = .ready
      · exact same (by simp [hst])
      · simp only [hst, if_false]
        exact .givenUp hr hst
  | recordEvent id kind payload =>
    simp only [answer, respond, recordEvent]
    cases he : m.events.get? id with
    | none => exact .claimed he
    | some e =>
      by_cases hc : e.claimable supply.now = true
      · simp only [hc, if_true]
        exact .reclaimed he hc
      · simp only [hc]
        exact same rfl
  | completeEvent id error =>
    simp only [answer, respond, completeEvent, event]
    cases he : m.events.get? id with
    | none => exact same rfl
    | some e => exact .completed he

end RiskReport.Memory

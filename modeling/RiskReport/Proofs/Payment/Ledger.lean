import Mathlib.Logic.Function.Basic
import RiskReport.Proofs.Payment.Agreement
import RiskReport.Proofs.Payment.Handler

/-!
# What a session shows of its payment

Three requests mark the payment of a session: one confirms it and begins the report, one says that
it failed, and one that it was refunded. Events of the payment service lead to them, but others may
make them as well. Events come late and more than once, and a store takes every mark as it comes, so
the status of a payment is what it was marked as last.

A request names an intent, and the mark is on the one session that the store finds for it. If two
sessions have the intent, this may be either of them, at one time the one and at another time the
other. So the marks are kept session by session, and nothing is said of intents as such.

`Ledger` is a store in memory with the handlers of some events and with the marks on the payment of
each session, and with whoever has made them. A session shows its marks (`Session.Shows`): it has
been paid for if its payment was confirmed, which happens once, and its status is the latest mark. A
handler that marks a payment deals with an event that says so (`PaymentEvent.Says`).

**Theorem (`paid_status`).** The status of a session that has been paid for is the latest mark on it
since the confirmation. So it is paid or refunded unless the session was marked as failed after the
confirmation; and if a handler has done so, it deals with an event that says that the payment of the
session's intent has failed.

**Counterexample (`paid_then_failed`).** Such an event is enough for a paid session to have failed.
-/

namespace RiskReport

/-! ## Marks -/

/-- The request changes the payment of a session. -/
def StoreCall.Settles : StoreCall → Prop
  | .markPaymentFailed _ | .markRefunded _ | .initialiseReport _ => True
  | _ => False

namespace Memory

/-- Whether a session is the one that is found for an intent. -/
def finds (m : Memory) (intent : String) (id : SessionId) : Bool :=
  match m.sessionOfIntent intent with
  | .ok s => s.id = id
  | .error _ => false

/-- What a request marks the payment of a session as. A payment is confirmed only if its session has
no report. -/
def mark? (m : Memory) (id : SessionId) : StoreCall → Option PaymentStatus
  | .initialiseReport intent =>
    if m.finds intent id && m.reports.rows.all (·.sessionId ≠ id) then some .paid else none
  | .markPaymentFailed intent => if m.finds intent id then some .failed else none
  | .markRefunded intent => if m.finds intent id then some .refunded else none
  | _ => none

end Memory

/-- What a mark makes of a session. -/
inductive Session.Marked (s : Session) : Option PaymentStatus → Session → Prop
  | unmarked {s' : Session} (status : s'.paymentStatus = s.paymentStatus)
      (paidAt : s'.paidAt = s.paidAt) : Marked s none s'
  | confirmed {s' : Session} (status : s'.paymentStatus = .paid) (paidAt : s'.paidAt.isSome) :
      Marked s (some .paid) s'
  | failed {s' : Session} (status : s'.paymentStatus = .failed) (paidAt : s'.paidAt = s.paidAt) :
      Marked s (some .failed) s'
  | refunded {s' : Session} (status : s'.paymentStatus = .refunded)
      (paidAt : s'.paidAt = s.paidAt) : Marked s (some .refunded) s'

/-- What a session shows of the marks on its payment, the latest first. -/
structure Session.Shows (s : Session) (marks : List PaymentStatus) : Prop where
  status : s.paymentStatus = marks.headD .pending
  paidAt : s.paidAt.isSome ↔ .paid ∈ marks
  once : marks.count .paid ≤ 1
  settled : .pending ∉ marks

namespace Session

variable {s s' : Session} {marks : List PaymentStatus} {mark : Option PaymentStatus}

theorem shows_opened (id : SessionId) (token : String) (now : Instant) :
    (opened id token now).Shows [] :=
  ⟨rfl, by simp [opened], Nat.zero_le _, List.not_mem_nil⟩

/-- A session shows a further mark, provided that its payment is not confirmed twice. -/
theorem Shows.marked (h : s.Shows marks) (hm : s.Marked mark s')
    (new : mark = some .paid → .paid ∉ marks) : s'.Shows (mark.toList ++ marks) := by
  cases hm with
  | unmarked status paidAt =>
    exact ⟨status.trans h.status, by rw [paidAt]; exact h.paidAt, h.once, h.settled⟩
  | confirmed status paidAt =>
    have hcount : marks.count .paid = 0 := List.count_eq_zero.2 (new rfl)
    exact ⟨status, by simp [paidAt], by simp [hcount], by simp [h.settled]⟩
  | failed status paidAt | refunded status paidAt =>
    exact ⟨status, by simp [paidAt, h.paidAt], by simp [h.once], by simp [h.settled]⟩

/-- A session that was paid for shows the marks since the confirmation, which is the only one. -/
theorem Shows.since {α : Type} {entries : List (α × PaymentStatus)}
    (h : s.Shows (entries.map (·.2))) (paid : s.paidAt.isSome) :
    ∃ since who before, entries = since ++ (who, .paid) :: before ∧
      (∀ entry ∈ before, entry.2 ≠ .paid) ∧
      (∀ entry ∈ since, entry.2 = .failed ∨ entry.2 = .refunded) ∧
      s.paymentStatus = (since.map (·.2)).headD .paid := by
  obtain ⟨⟨who, status⟩, hmem, hstatus⟩ := List.mem_map.1 (h.paidAt.1 paid)
  obtain rfl : status = .paid := hstatus
  obtain ⟨since, before, rfl⟩ := List.append_of_mem hmem
  have honce := h.once
  simp only [List.map_append, List.map_cons, List.count_append, List.count_cons_self] at honce
  have hsince : .paid ∉ since.map (·.2) := List.count_eq_zero.1 (by omega)
  have hbefore : .paid ∉ before.map (·.2) := List.count_eq_zero.1 (by omega)
  refine ⟨since, who, before, rfl, fun entry hentry hpaid => ?_, ?_, ?_⟩
  · exact hbefore (List.mem_map.2 ⟨entry, hentry, hpaid⟩)
  · rintro ⟨other, status⟩ hentry
    have hmem' : status ∈ since.map (·.2) := List.mem_map_of_mem hentry
    cases status with
    | pending => exact absurd (by simp [hmem']) h.settled
    | paid => exact absurd hmem' hsince
    | failed => exact .inl rfl
    | refunded => exact .inr rfl
  · rw [h.status]
    cases since <;> rfl

end Session

namespace Memory

variable {m m' : Memory} {supply : Supply} {call : StoreCall} {id : SessionId} {s : Session}
  {intent : String} {status : PaymentStatus}

theorem finds_iff :
    m.finds intent id = true ↔ ∃ s, m.sessionOfIntent intent = .ok s ∧ s.id = id := by
  unfold finds
  cases m.sessionOfIntent intent <;> simp

/-- A session that is found for an intent has the intent. -/
theorem Sound.attached_of_finds (h : m.Sound) (found : m.finds intent id = true) :
    m.Attached id intent := by
  obtain ⟨s, hs, rfl⟩ := finds_iff.1 found
  exact ⟨s, h.get?_sessionOfIntent hs, (sessionOfIntent_eq_ok hs).2⟩

/-- A request marks a payment only if it is one of the three that do so, and if the session is the
one that is found for the intent. -/
theorem mark?_eq_some (h : m.mark? id call = some status) :
    ∃ intent, m.finds intent id = true ∧
      (call = .initialiseReport intent ∧ status = .paid ∧
          (∀ r ∈ m.reports.rows, r.sessionId ≠ id) ∨
        call = .markPaymentFailed intent ∧ status = .failed ∨
        call = .markRefunded intent ∧ status = .refunded) := by
  cases call with
  | initialiseReport intent =>
    simp only [mark?] at h
    split at h
    · next hfound =>
      simp only [Bool.and_eq_true, List.all_eq_true, decide_eq_true_eq] at hfound
      exact ⟨intent, hfound.1, .inl ⟨rfl, (Option.some.inj h).symm, hfound.2⟩⟩
    · cases h
  | markPaymentFailed intent =>
    simp only [mark?] at h
    split at h
    · next hfound => exact ⟨intent, hfound, .inr (.inl ⟨rfl, (Option.some.inj h).symm⟩)⟩
    · cases h
  | markRefunded intent =>
    simp only [mark?] at h
    split at h
    · next hfound => exact ⟨intent, hfound, .inr (.inr ⟨rfl, (Option.some.inj h).symm⟩)⟩
    · cases h
  | _ => cases h

theorem mark?_of_unsettled (h : ¬ call.Settles) : m.mark? id call = none := by
  cases call with
  | initialiseReport | markPaymentFailed | markRefunded => exact absurd trivial h
  | _ => rfl

/-- Only the payment of a session that is there is marked. -/
theorem Sound.mark?_of_absent (h : m.Sound) (absent : m.sessions.get? id = none) :
    m.mark? id call = none := by
  refine Option.eq_none_iff_forall_ne_some.2 fun status hstatus => ?_
  obtain ⟨intent, hfound, -⟩ := mark?_eq_some hstatus
  obtain ⟨s, found, -⟩ := h.attached_of_finds hfound
  cases absent.symm.trans found

/-- A session that is put in for the one that is found for an intent is marked, and no other one. -/
theorem Sound.marked_insertSession {t t' : Session} (h : m.Sound)
    (found : m.sessions.get? id = some s) (hs : m.sessionOfIntent intent = .ok t)
    (key : t'.id = t.id) (hm : t.Marked (some status) t') :
    ∃ s', (m.insertSession t').sessions.get? id = some s' ∧
      s.Marked (if m.finds intent id then some status else none) s' := by
  have ht := h.get?_sessionOfIntent hs
  have hfinds : m.finds intent id = true ↔ t.id = id := by simp [finds, hs]
  by_cases hid : t.id = id
  · subst hid
    obtain rfl := Option.some.inj (ht.symm.trans found)
    rw [if_pos (hfinds.2 rfl), ← key]
    exact ⟨t', Table.get?_insert_self, hm⟩
  · rw [if_neg (mt hfinds.1 hid)]
    exact ⟨s, (Table.get?_insert_of_ne (key ▸ Ne.symm hid)).trans found, .unmarked rfl rfl⟩

/-- A request that marks no payment leaves the payment of a session as it is. -/
theorem Sound.unmarked (h : m.Sound) (fresh : supply.Fresh m) (he : Effect m supply call m')
    (unsettled : ¬ call.Settles) (found : m.sessions.get? id = some s) :
    ∃ s', m'.sessions.get? id = some s' ∧ s'.paymentStatus = s.paymentStatus ∧
      s'.paidAt = s.paidAt := by
  cases he with
  | none | answered | finished | givenUp | claimed | reclaimed | completed =>
    exact ⟨s, found, rfl, rfl⟩
  | paymentFailed | refunded | begun => exact absurd trivial unsettled
  | opened =>
    have hne : id ≠ supply.session := by
      rintro rfl
      simp [fresh.session] at found
    exact ⟨s, (Table.get?_insert_of_ne hne).trans found, rfl, rfl⟩
  | @attached p t here free =>
    have key : t.id = p.session := h.sessions.key _ _ here
    by_cases hid : id = t.id
    · subst hid
      obtain rfl := Option.some.inj ((key ▸ here).symm.trans found)
      exact ⟨_, Table.get?_insert_self, rfl, rfl⟩
    · exact ⟨s, (Table.get?_insert_of_ne hid).trans found, rfl, rfl⟩

/-- Setting the status of a payment marks the session that is found for the intent. -/
theorem Sound.marked_setPayment {now : Instant} (h : m.Sound)
    (found : m.sessions.get? id = some s)
    (hm : ∀ t : Session,
      t.Marked (some status) { t with paymentStatus := status, updatedAt := now }) :
    ∃ s', ((m.setPayment now status intent).toOption.elim m (·.2)).sessions.get? id = some s' ∧
      s.Marked (if m.finds intent id then some status else none) s' := by
  cases hs : m.sessionOfIntent intent with
  | error e =>
    have hfinds : m.finds intent id = false := by simp [finds, hs]
    simp only [setPayment, hs, hfinds]
    exact ⟨s, found, .unmarked rfl rfl⟩
  | ok t =>
    simp only [setPayment, hs]
    exact h.marked_insertSession found hs rfl (hm t)

theorem state_answer (m : Memory) (supply : Supply) (call : StoreCall) :
    (m.answer supply call).2 = (m.respond supply call).toOption.elim m (·.2) := by
  unfold answer
  cases m.respond supply call <;> rfl

/-- Beginning a report confirms the payment of the session that is found for the intent, unless the
session has a report. -/
theorem Sound.marked_initialiseReport (h : m.Sound) (found : m.sessions.get? id = some s) :
    ∃ s', ((m.initialiseReport supply intent).toOption.elim m (·.2)).sessions.get? id = some s' ∧
      s.Marked (m.mark? id (.initialiseReport intent)) s' := by
  cases hs : m.sessionOfIntent intent with
  | error e =>
    have hfinds : m.finds intent id = false := by simp [finds, hs]
    simp only [initialiseReport, hs, mark?, hfinds]
    exact ⟨s, found, .unmarked rfl rfl⟩
  | ok t =>
    have hfinds : m.finds intent id = true ↔ t.id = id := by simp [finds, hs]
    cases hf : m.reports.rows.find? (·.sessionId = t.id) with
    | some r =>
      have hmark : m.mark? id (.initialiseReport intent) = none := by
        refine Option.eq_none_iff_forall_ne_some.2 fun status hstatus => ?_
        obtain ⟨_, hfound, ⟨⟨⟩, -, first⟩ | ⟨⟨⟩, -⟩ | ⟨⟨⟩, -⟩⟩ := mark?_eq_some hstatus
        have hr : r.sessionId = t.id := by simpa using List.find?_some hf
        exact first r (List.mem_of_find?_eq_some hf) (hr.trans (hfinds.1 hfound))
      simp only [initialiseReport, hs, bind, Except.bind, hf, hmark]
      exact ⟨s, found, .unmarked rfl rfl⟩
    | none =>
      have hmark : m.mark? id (.initialiseReport intent) =
          if m.finds intent id then some .paid else none := by
        have first := List.find?_eq_none.1 hf
        by_cases hid : t.id = id
        · subst hid
          have hall : m.reports.rows.all (·.sessionId ≠ t.id) = true := by simpa using first
          simp only [mark?, hall, Bool.and_true]
        · have hfinds' : m.finds intent id = false := by simpa [hid] using hfinds
          simp only [mark?, hfinds', Bool.false_and]
      rw [hmark]
      simp only [initialiseReport, hs, bind, Except.bind, hf]
      have hm : t.Marked (some .paid) { t with
          paymentStatus := .paid
          paidAt := t.paidAt.or (some supply.now)
          updatedAt := supply.now } := .confirmed rfl (by cases t.paidAt <;> rfl)
      exact h.marked_insertSession found hs rfl hm

/-- A request makes of the payment of a session what it marks it as. -/
theorem Sound.marked (h : m.Sound) (fresh : supply.Fresh m)
    (found : m.sessions.get? id = some s) :
    ∃ s', (m.answer supply call).2.sessions.get? id = some s' ∧
      s.Marked (m.mark? id call) s' := by
  by_cases settles : call.Settles
  · rw [state_answer]
    cases call with
    | markPaymentFailed intent => exact h.marked_setPayment found fun t => .failed rfl rfl
    | markRefunded intent => exact h.marked_setPayment found fun t => .refunded rfl rfl
    | initialiseReport intent => exact h.marked_initialiseReport found
    | _ => exact settles.elim
  · have he := answer_effect m supply call
    obtain ⟨s', found', status, paidAt⟩ := h.unmarked fresh he settles found
    exact ⟨s', found', mark?_of_unsettled settles ▸ .unmarked status paidAt⟩

/-- A session that was not there before has just begun. -/
theorem Sound.opened_of_absent (h : m.Sound) (he : Effect m supply call m')
    (absent : m.sessions.get? id = none) (found : m'.sessions.get? id = some s) :
    ∃ token now, s = .opened id token now := by
  -- A session that is put in for an old one is not new.
  have replaced {t old : Session} (here : m.sessions.get? old.id = some old)
      (key : t.id = old.id) :
      (m.insertSession t).sessions.get? id = none := by
    have hne : id ≠ t.id := by
      rintro rfl
      cases (key ▸ absent).symm.trans here
    exact (Table.get?_insert_of_ne hne).trans absent
  cases he with
  | none | answered | finished | givenUp | claimed | reclaimed | completed =>
    cases absent.symm.trans found
  | @opened token =>
    by_cases hid : id = supply.session
    · subst hid
      have hs := found.symm.trans Table.get?_insert_self
      exact ⟨token, supply.now, Option.some.inj hs⟩
    · cases found.symm.trans ((Table.get?_insert_of_ne hid).trans absent)
  | @attached p t here =>
    have here' : m.sessions.get? t.id = some t := (h.sessions.key _ _ here).symm ▸ here
    cases found.symm.trans (replaced here' rfl)
  | paymentFailed here | refunded here | begun here =>
    cases found.symm.trans (replaced (h.get?_sessionOfIntent here) rfl)

/-- A session whose payment is confirmed has a report afterwards, and had none before. -/
theorem begun_of_mark? (hm : m.mark? id call = some .paid) :
    ¬ m.Begun id ∧ (m.answer supply call).2.Begun id := by
  obtain ⟨intent, hfound, ⟨rfl, -, first⟩ | ⟨-, ⟨⟩⟩ | ⟨-, ⟨⟩⟩⟩ := mark?_eq_some hm
  obtain ⟨s, hs, rfl⟩ := finds_iff.1 hfound
  have hf : m.reports.rows.find? (·.sessionId = s.id) = none :=
    List.find?_eq_none.2 fun r hr => by simpa using first r hr
  have hstate : (m.answer supply (.initialiseReport intent)).1 =
      .ok (.created (.draft supply.report supply.token s.id supply.now)) := by
    simp only [answer, respond, initialiseReport, hs, Bind.bind, Except.bind, hf]
    rfl
  exact begun_of_created (Prod.ext hstate rfl)

end Memory

/-! ## Events -/

/-- What an event says of the payment of an intent. -/
inductive PaymentEvent.Says (event : PaymentEvent) (intent : String) : PaymentStatus → Prop
  | paid (kind : event.kind = succeeded) (named : event.intent = .ok intent) :
      Says event intent .paid
  | failed (kind : event.kind = failed) (named : event.intent = .ok intent) :
      Says event intent .failed
  | refunded (kind : event.kind = refunded) (named : event.chargeIntent = .ok intent) :
      Says event intent .refunded

/-- Whoever deals with an event marks the payment of its intent as what the event says. -/
theorem PaymentEvent.Takes.says {event : PaymentEvent} {call : StoreCall} {m : Memory}
    {id : SessionId} {status : PaymentStatus} (h : event.Takes (.store call)) (sound : m.Sound)
    (hm : m.mark? id call = some status) :
    ∃ intent, m.Attached id intent ∧ event.Says intent status := by
  obtain ⟨intent, hfound, hcall⟩ := Memory.mark?_eq_some hm
  refine ⟨intent, sound.attached_of_finds hfound, ?_⟩
  -- None of the three requests concerns the record of the event, so the event needs it.
  rcases hcall with ⟨rfl, rfl, -⟩ | ⟨rfl, rfl⟩ | ⟨rfl, rfl⟩
  · cases h.resolve_right not_false with
    | confirm kind named => exact .paid kind named
  · cases h.resolve_right not_false with
    | fail kind named => exact .failed kind named
  · cases h.resolve_right not_false with
    | refund kind named => exact .refunded kind named

/-! ## Handlers of many events -/

open Program

/-- A store in memory with the handlers of some events. -/
structure Ledger (ι : Type) where
  memory : Memory
  /-- What each handler has still to do. -/
  handlers : ι → Service (Except PaymentError Disposition)
  /-- Which handler has marked the payment of a session as what, the latest first; `none` stands for
  anybody else. -/
  marks : SessionId → List (Option ι × PaymentStatus)

namespace Ledger

variable {ι : Type} [DecidableEq ι] {price : Price} {events : ι → PaymentEvent} {l l' : Ledger ι}

/-- Some events are delivered to an empty store, the same event perhaps more than once. -/
def opening (price : Price) (events : ι → PaymentEvent) : Ledger ι where
  memory := .empty
  handlers i := processEvent price (events i)
  marks _ := []

/-- The marks after a request of a handler, or of somebody else. -/
def marked (l : Ledger ι) (who : Option ι) (call : StoreCall) (id : SessionId) :
    List (Option ι × PaymentStatus) :=
  ((l.memory.mark? id call).map (who, ·)).toList ++ l.marks id

/-- The marks after an exchange of a handler. -/
def noted (l : Ledger ι) (i : ι) :
    Option (Exchange services) → SessionId → List (Option ι × PaymentStatus)
  | some ⟨.store call, _⟩ => l.marked (some i) call
  | _ => l.marks

/-- A handler goes on, or something else happens to the store. -/
inductive Step : Ledger ι → Ledger ι → Prop
  | handler {l : Ledger ι} {i : ι} {p : Service (Except PaymentError Disposition)} {m : Memory}
      {x : Option (Exchange services)}
      (hs : Program.Step Memory.ServesFresh (l.handlers i) l.memory x p m) :
      Step l
        { memory := m, handlers := Function.update l.handlers i p, marks := l.noted i x }
  | request {l : Ledger ι} {supply : Supply} (call : StoreCall) (fresh : supply.Fresh l.memory) :
      Step l { l with memory := (l.memory.answer supply call).2, marks := l.marked none call }
  | question {l : Ledger ι} (q : Question) :
      Step l { l with memory := l.memory.insertQuestion q }
  | rearranged {l : Ledger ι} {m : Memory} (h : l.memory.Rearranged m) :
      Step l { l with memory := m }

/-- A state that an empty store and the handlers of some events get into. -/
def Reachable (price : Price) (events : ι → PaymentEvent) (l : Ledger ι) : Prop :=
  Relation.ReflTransGen Step (opening price events) l

/-- The sessions show the marks on their payments, and those that handlers have made say what the
events say. -/
structure Kept (events : ι → PaymentEvent) (l : Ledger ι) : Prop where
  memory : l.memory.Sound
  handlers : ∀ i, (l.handlers i).Asks (events i).Takes
  unseen : ∀ id, l.memory.sessions.get? id = none → l.marks id = []
  shows : ∀ id s, l.memory.sessions.get? id = some s → s.Shows ((l.marks id).map (·.2))
  begun : ∀ id, .paid ∈ (l.marks id).map (·.2) → l.memory.Begun id
  said : ∀ id i status, (some i, status) ∈ l.marks id →
    ∃ intent, l.memory.Attached id intent ∧ (events i).Says intent status

omit [DecidableEq ι] in
theorem kept_opening : (opening price events).Kept events where
  memory := Memory.sound_empty
  handlers i := asks_processEvent price (events i)
  unseen _ _ := rfl
  shows _ _ found := nomatch found
  begun _ h := nomatch h
  said _ _ _ h := nomatch h

section

omit [DecidableEq ι]

variable {who : Option ι} {supply : Supply} {call : StoreCall} {id : SessionId}

theorem statuses_marked : (l.marked who call id).map (·.2) =
    (l.memory.mark? id call).toList ++ (l.marks id).map (·.2) := by
  rw [marked, List.map_append]
  cases l.memory.mark? id call <;> rfl

/-- A session that is not there has no marks, and no request makes one on it. -/
theorem Kept.marked_of_absent (h : l.Kept events) (absent : l.memory.sessions.get? id = none) :
    l.marked who call id = [] := by
  rw [marked, h.memory.mark?_of_absent absent, h.unseen id absent]
  rfl

/-- The sessions show what a request marks them as. -/
theorem Kept.shows_marked {s : Session} (h : l.Kept events) (fresh : supply.Fresh l.memory)
    (found : (l.memory.answer supply call).2.sessions.get? id = some s) :
    s.Shows ((l.marked who call id).map (·.2)) := by
  cases before : l.memory.sessions.get? id with
  | none =>
    obtain ⟨token, now, rfl⟩ :=
      h.memory.opened_of_absent (Memory.answer_effect _ supply call) before found
    rw [h.marked_of_absent before]
    exact Session.shows_opened id token now
  | some t =>
    obtain ⟨s', found', hm⟩ := h.memory.marked fresh before
    obtain rfl := Option.some.inj (found'.symm.trans found)
    have first (hpaid : l.memory.mark? id call = some .paid) : ¬ l.memory.Begun id :=
      (@Memory.begun_of_mark? _ supply _ _ hpaid).1
    rw [statuses_marked]
    exact (h.shows id t before).marked hm fun hpaid hold => first hpaid (h.begun id hold)

/-- What a handler marks just now is said by its event, and so is what it marked before. -/
theorem Kept.said_marked {i : ι} {status : PaymentStatus} (h : l.Kept events)
    (takes : ∀ i, who = some i → (events i).Takes (.store call))
    (hentry : (some i, status) ∈ l.marked who call id) :
    ∃ intent, l.memory.Attached id intent ∧ (events i).Says intent status := by
  rcases List.mem_append.1 hentry with hnew | hold
  · obtain ⟨_, hm, ⟨⟩⟩ := Option.map_eq_some_iff.1 (Option.mem_toList.1 hnew)
    have htakes := takes i rfl
    exact htakes.says h.memory hm
  · exact h.said id i status hold

/-- The store serves a request, and what this marks is noted. -/
theorem Kept.request {handlers : ι → Service (Except PaymentError Disposition)}
    (h : l.Kept events) (fresh : supply.Fresh l.memory)
    (asks : ∀ i, (handlers i).Asks (events i).Takes)
    (takes : ∀ i, who = some i → (events i).Takes (.store call)) :
    Kept events ⟨(l.memory.answer supply call).2, handlers, l.marked who call⟩ := by
  have he : l.memory.Evolves (l.memory.answer supply call).2 := Memory.evolves_answer fresh call
  refine ⟨he.sound h.memory, asks, fun id absent => ?_,
    fun id s found => h.shows_marked fresh found, fun id paid => ?_, fun id i status hentry => ?_⟩
  · cases before : l.memory.sessions.get? id with
    | none => exact h.marked_of_absent before
    | some s =>
      obtain ⟨s', found, -⟩ := he.session_turns h.memory before
      cases absent.symm.trans found
  · dsimp only at paid
    rw [statuses_marked, List.mem_append] at paid
    rcases paid with paid | paid
    · exact (Memory.begun_of_mark? (Option.mem_toList.1 paid)).2
    · exact he.begun h.memory (h.begun id paid)
  · obtain ⟨intent, hattached, hsays⟩ := h.said_marked takes hentry
    exact ⟨intent, he.attached h.memory hattached, hsays⟩

end

omit [DecidableEq ι] in
/-- Whatever leaves the sessions as they are leaves the marks as they are. -/
theorem Kept.unmarked {m : Memory} (h : l.Kept events) (he : l.memory.Evolves m)
    (same : ∀ id, m.sessions.get? id = l.memory.sessions.get? id) :
    Kept events { l with memory := m } where
  memory := he.sound h.memory
  handlers := h.handlers
  unseen id absent := h.unseen id ((same id).symm.trans absent)
  shows id s found := h.shows id s ((same id).symm.trans found)
  begun id paid := he.begun h.memory (h.begun id paid)
  said id i status hentry := by
    obtain ⟨intent, hattached, hsays⟩ := h.said id i status hentry
    exact ⟨intent, he.attached h.memory hattached, hsays⟩

theorem Kept.step (h : l.Kept events) (hs : Step l l') : l'.Kept events := by
  cases hs with
  | @handler i p m x hs =>
    obtain ⟨hp, hx⟩ := (h.handlers i).step hs
    have asks : ∀ j, (Function.update l.handlers i p j).Asks (events j).Takes :=
      (Function.forall_update_iff l.handlers fun j p => p.Asks (events j).Takes).2
        ⟨hp, fun j _ => h.handlers j⟩
    rcases hx with ⟨rfl, rfl⟩ | ⟨call, answer, takes, rfl, served⟩
    · exact ⟨h.memory, asks, h.unseen, h.shows, h.begun, h.said⟩
    · cases call with
      | store call =>
        obtain ⟨supply, fresh, hanswer⟩ := served
        obtain ⟨-, rfl⟩ := Prod.mk.inj hanswer
        refine h.request fresh asks fun j hj => ?_
        obtain rfl : i = j := Option.some.inj hj
        exact takes
      | hedge | mail | enqueue | createPayment | clientSecret =>
        obtain rfl := served
        exact ⟨h.memory, asks, h.unseen, h.shows, h.begun, h.said⟩
  | request call fresh => exact h.request fresh h.handlers nofun
  | question q => exact h.unmarked (.question q) fun _ => rfl
  | rearranged hr =>
    exact h.unmarked (.rearranged hr) fun _ => h.memory.sessions.distinct.get?_perm hr.sessions

theorem Reachable.kept (h : l.Reachable price events) : l.Kept events := by
  induction h with
  | refl => exact kept_opening
  | tail _ hs ih => exact ih.step hs

/-! ## Running some handlers -/

/-- The state after an exchange of a handler, which has to do `p` next. -/
def exchanged (l : Ledger ι) (i : ι) (call : ServiceCall) (answer : call.Answer)
    (p : Service (Except PaymentError Disposition)) (m : Memory) : Ledger ι where
  memory := m
  handlers := Function.update l.handlers i p
  marks := l.noted i (some ⟨call, answer⟩)

/-- Let a handler go on, if what the store takes from outside is new. Messages are sent and reports
queued. -/
def advance (l : Ledger ι) (i : ι) (supply : Supply) : Ledger ι :=
  if supply.Fresh l.memory then
    match l.handlers i with
    | .ask _ (.store call) next =>
      let (answer, m) := l.memory.answer supply call
      l.exchanged i (.store call) answer (next answer) m
    | .ask _ (.mail message) next =>
      l.exchanged i (.mail message) (.ok ()) (next (.ok ())) l.memory
    | .ask _ (.enqueue report) next =>
      l.exchanged i (.enqueue report) (.ok ()) (next (.ok ())) l.memory
    | .log _ _ next => { l with handlers := Function.update l.handlers i next }
    | _ => l
  else l

/-- Let handlers go on, one after the other. -/
def run (l : Ledger ι) (schedule : List (ι × Supply)) : Ledger ι :=
  schedule.foldl (fun l x => l.advance x.1 x.2) l

/-- Somebody else asks the store for something. -/
def asked (l : Ledger ι) (supply : Supply) (call : StoreCall) : Ledger ι :=
  { l with memory := (l.memory.answer supply call).2, marks := l.marked none call }

theorem Reachable.asked (h : l.Reachable price events) {supply : Supply} (call : StoreCall)
    (fresh : supply.Fresh l.memory) : (l.asked supply call).Reachable price events :=
  h.tail (.request call fresh)

theorem Reachable.advance (h : l.Reachable price events) (i : ι) (supply : Supply) :
    (l.advance i supply).Reachable price events := by
  unfold Ledger.advance
  split_ifs with fresh
  · split
    · next spans call next hi => exact h.tail (.handler (hi ▸ .asked ⟨supply, fresh, rfl⟩))
    · next spans message next hi => exact h.tail (.handler (hi ▸ .asked rfl))
    · next spans report next hi => exact h.tail (.handler (hi ▸ .asked rfl))
    · next spans event next hi => exact h.tail (.handler (x := none) (hi ▸ .logged))
    · exact h
  · exact h

theorem Reachable.run (h : l.Reachable price events) (schedule : List (ι × Supply)) :
    (l.run schedule).Reachable price events := by
  induction schedule generalizing l with
  | nil => exact h
  | cons x schedule ih => exact ih (h.advance x.1 x.2)

end Ledger

namespace Sample

/-- A payment is confirmed, and an earlier attempt at it has failed. -/
def tidings (failed : Bool) : PaymentEvent where
  id := toString failed
  kind := if failed then PaymentEvent.failed else PaymentEvent.succeeded
  payload := .record [("id", .string "intent")]

/-- A visitor has come, and the intent is attached to the session. -/
def untold : Ledger Bool :=
  ((Ledger.opening .standard tidings).asked (supply 1) (.createSession "first")).asked (supply 2)
    (.attachIntent ⟨⟨⟨1⟩⟩, none, "intent", none⟩)

/-- The confirmation is dealt with at six times, the first of them given. -/
def confirming (time : Nat) : List (Bool × Supply) :=
  (List.range' time 6).map fun time => (false, supply time)

/-- The failure is dealt with at four times, the first of them given. -/
def failing (time : Nat) : List (Bool × Supply) :=
  (List.range' time 4).map fun time => (true, supply time)

/-- The confirmation is dealt with, and then the failure. -/
def told : Ledger Bool :=
  untold.run (confirming 3 ++ failing 9)

/-- A second visitor has come, and the intent is attached to the second session as well; then the
confirmation is dealt with. -/
def doubled : Ledger Bool :=
  ((untold.asked (supply 3) (.createSession "second")).asked (supply 4)
    (.attachIntent ⟨⟨⟨3⟩⟩, none, "intent", none⟩)).run (confirming 5)

/-- The store lists the sessions the other way round when the failure is dealt with. -/
def crossed : Ledger Bool :=
  { doubled with
    memory := { doubled.memory with
      sessions := ⟨doubled.memory.sessions.entries.reverse⟩ } }.run (failing 11)

theorem reachable_untold : untold.Reachable .standard tidings := by
  have hopening : (Ledger.opening .standard tidings).Reachable .standard tidings := .refl
  refine (hopening.asked _ ?_).asked _ ?_
  · exact ⟨rfl, rfl⟩
  · exact ⟨rfl, rfl⟩

theorem reachable_told : told.Reachable .standard tidings :=
  reachable_untold.run _

theorem reachable_crossed : crossed.Reachable .standard tidings := by
  have hdoubled : doubled.Reachable .standard tidings := by
    refine Ledger.Reachable.run ((reachable_untold.asked _ ?_).asked _ ?_) _
    · exact ⟨rfl, rfl⟩
    · exact ⟨rfl, rfl⟩
  refine Ledger.Reachable.run (hdoubled.tail (.rearranged ?_)) _
  exact ⟨List.reverse_perm _, .refl _, .refl _, .refl _, .refl _, .refl _⟩

end Sample

namespace Ledger

variable {ι : Type} [DecidableEq ι] {price : Price} {events : ι → PaymentEvent} {l : Ledger ι}

/-- **Payments.** Some events are delivered over a store in memory, in any order, the same one
perhaps more than once, each as far as it gets; meanwhile others may ask the store for anything, and
what it keeps may change places. The payment of a session that has been paid for was confirmed once,
and its status is the latest mark on the session since then: it is not pending, and it is paid or
refunded unless the session was marked as failed after the confirmation. All marks that handlers
have made say what an event for the intent of the session says. -/
theorem paid_status (h : l.Reachable price events) {id : SessionId} {s : Session}
    (found : l.memory.sessions.get? id = some s) (paid : s.paidAt.isSome) :
    (∃ since who before, l.marks id = since ++ (who, .paid) :: before ∧
      (∀ entry ∈ before, entry.2 ≠ .paid) ∧
      (∀ entry ∈ since, entry.2 = .failed ∨ entry.2 = .refunded) ∧
      s.paymentStatus = (since.map (·.2)).headD .paid ∧
      ((∀ entry ∈ since, entry.2 ≠ .failed) →
        s.paymentStatus = .paid ∨ s.paymentStatus = .refunded)) ∧
      s.paymentStatus ≠ .pending ∧
      ∀ i status, (some i, status) ∈ l.marks id →
        ∃ intent, s.attachedIntent? = some intent ∧ (events i).Says intent status := by
  have hk := h.kept
  obtain ⟨since, who, before, hmarks, once, marked, status⟩ := (hk.shows id s found).since paid
  have latest : s.paymentStatus = .paid ∨ ∃ entry ∈ since, s.paymentStatus = entry.2 := by
    cases since with
    | nil => exact .inl status
    | cons entry since => exact .inr ⟨entry, List.mem_cons_self, status⟩
  refine ⟨⟨since, who, before, hmarks, once, marked, status, fun unfailed => ?_⟩,
    fun pending => ?_, ?_⟩
  · rcases latest with hs | ⟨entry, hentry, hs⟩
    · exact .inl hs
    · exact .inr (hs.trans ((marked entry hentry).resolve_left (unfailed entry hentry)))
  · rcases latest with hs | ⟨entry, hentry, hs⟩
    · cases pending.symm.trans hs
    · rcases marked entry hentry with hm | hm <;> cases pending.symm.trans (hs.trans hm)
  · intro i status hentry
    obtain ⟨intent, ⟨s', found', hattached⟩, hsays⟩ := hk.said id i status hentry
    obtain rfl := Option.some.inj (found'.symm.trans found)
    exact ⟨intent, hattached, hsays⟩

/-- In the sample two sessions have the intent. The confirmation marks the first one, and the
failure, told later, the second one, so that the session that has been paid for is not touched by
it. -/
theorem paid_status_sample : ∃ s, Sample.crossed.memory.sessions.get? ⟨⟨1⟩⟩ = some s ∧
    s.paidAt.isSome ∧ Sample.crossed.marks ⟨⟨1⟩⟩ = [(some false, .paid)] ∧
    Sample.crossed.marks ⟨⟨3⟩⟩ = [(some true, .failed)] ∧ s.paymentStatus ≠ .pending ∧
    ∃ intent, s.attachedIntent? = some intent ∧ (Sample.tidings false).Says intent .paid := by
  obtain ⟨s, found, paid⟩ : ∃ s, Sample.crossed.memory.sessions.get? ⟨⟨1⟩⟩ = some s ∧
      s.paidAt.isSome := ⟨_, rfl, rfl⟩
  obtain ⟨-, settled, said⟩ := paid_status Sample.reachable_crossed found paid
  exact ⟨s, found, paid, rfl, rfl, settled, said false .paid List.mem_cons_self⟩

/-- A session that has been paid for has failed after a failure that was told late. -/
theorem paid_then_failed :
    ¬ ∀ (price : Price) (events : Bool → PaymentEvent) (l : Ledger Bool) (id : SessionId)
        (s : Session), l.Reachable price events → l.memory.sessions.get? id = some s →
      s.paidAt.isSome → s.paymentStatus = .paid ∨ s.paymentStatus = .refunded := by
  intro hall
  obtain ⟨s, found, paid, failed⟩ : ∃ s, Sample.told.memory.sessions.get? ⟨⟨1⟩⟩ = some s ∧
      s.paidAt.isSome ∧ s.paymentStatus = .failed := ⟨_, rfl, rfl, rfl⟩
  rcases hall _ _ _ _ s Sample.reachable_told found paid with hs | hs <;>
    cases failed.symm.trans hs

end Ledger

end RiskReport

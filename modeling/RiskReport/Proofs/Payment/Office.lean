import RiskReport.Proofs.Payment.Replay
import RiskReport.Proofs.Service
import RiskReport.Proofs.Transcript

/-!
# Deliveries one after the other

Payment events are delivered one after the other: each is dealt with to the end before anything else
happens. `Office` is a store in memory with the messages that were sent and the reports that were
given to the queue; whether the mailer and the queue accept them is up to them.

`Office.Delivers` is one delivery. What it comes to is said by `Office.Delivered`: the event is
passed over, or it is claimed and dealt with (`Office.Dealt`), and its record is closed accordingly.
The work in between leaves the records of events alone, so an event stays as it was closed until it
is delivered again.

A record that was never closed is another matter. An event is passed over while somebody else holds
it (`Claimed`), and if that somebody has gone away, it is free again after some time: it is better
to deal with a payment late than not at all. Where every delivery is dealt with to the end, no event
is ever held between two of them (`Reachable.unclaimed`).

**Theorem (`deliveries_in_turn`).** A delivery that fails has changed nothing but the record of its
event, and the next one is not passed over. After a delivery that succeeds all others of the event
are passed over and change nothing, unless it was passed over itself because somebody held the
event. A payment that is confirmed leaves one report for its session, which is given to the queue
once, unless it was finished before.

**Counterexample (`passed_over_then_processed`).** A delivery that is passed over because somebody
holds the event is not the last word: a later one is dealt with.
-/

namespace RiskReport

open Program

/-- A store in memory, with the messages that were sent and the reports that were given to the
queue, the latest first. -/
structure Office where
  memory : Memory
  mails : List Mail
  queued : List ReportId

namespace Office

/-- How a request of a service is served. The store takes new identifiers from outside, and whatever
is not for the store may turn out in any way. -/
def Serves (o : Office) : (call : ServiceCall) → call.Answer → Office → Prop
  | .store call, answer, o' =>
    ∃ supply m, supply.Fresh o.memory ∧ o.memory.answer supply call = (answer, m) ∧
      o' = { o with memory := m }
  | .mail message, _, o' => o' = { o with mails := message :: o.mails }
  | .enqueue report, _, o' => o' = { o with queued := report :: o.queued }
  | .hedge _, _, o' | .createPayment _, _, o' | .clientSecret _, _, o' => o' = o

/-- An event is delivered and dealt with to the end. -/
def Delivers (o : Office) (price : Price) (event : PaymentEvent)
    (result : Except PaymentError Disposition) (o' : Office) : Prop :=
  (processEvent price event).Yields Serves o result o'

/-- The record of an event is put in. -/
def noting (o : Office) (id : String) (e : EventEntry) : Office :=
  { o with memory := o.memory.insertEvent id e }

variable {o o' : Office} {call : ServiceCall} {answer : call.Answer} {id intent : String}
  {price : Price} {result : Except PaymentError Disposition}

theorem Serves.servesFresh (h : o.Serves call answer o') :
    o.memory.ServesFresh call answer o'.memory := by
  cases call with
  | store call =>
    obtain ⟨supply, m, fresh, hanswer, rfl⟩ := h
    exact ⟨supply, fresh, hanswer⟩
  | hedge | mail | enqueue | createPayment | clientSecret =>
    obtain rfl := h
    rfl

/-- A request that leaves an event alone does not change its record. -/
theorem Serves.event (h : o.Serves call answer o') (leaves : call.Leaves id) :
    o'.memory.events.get? id = o.memory.events.get? id := by
  cases call with
  | store call =>
    obtain ⟨supply, m, -, hanswer, rfl⟩ := h
    have hm : (o.memory.answer supply call).2 = m := congrArg Prod.snd hanswer
    exact hm ▸ Memory.event_answer leaves
  | hedge | mail | enqueue | createPayment | clientSecret =>
    obtain rfl := h
    rfl

/-- Whatever a program asks for, the store stays sound. -/
theorem sound_of_asks {α : Type} {P : ServiceCall → Prop} {p : Service α} {a : α} (asks : p.Asks P)
    (h : p.Yields Serves o a o') (sound : o.memory.Sound) : o'.memory.Sound := by
  refine asks.yields (Q := fun t : Office => t.memory.Sound) h sound ?_
  intro s call answer s' _ hserves sound
  exact hserves.servesFresh.evolves.sound sound

/-- A program that leaves an event alone does not change its record. -/
theorem event_of_asks {α : Type} {p : Service α} {a : α} (asks : p.Asks (ServiceCall.Leaves id))
    (h : p.Yields Serves o a o') : o'.memory.events.get? id = o.memory.events.get? id := by
  refine asks.yields (Q := fun t : Office =>
    t.memory.events.get? id = o.memory.events.get? id) h rfl ?_
  intro s call answer s' leaves hserves same
  exact (hserves.event leaves).trans same

/-! ## The work on an event -/

/-- A payment is confirmed: the session of the intent has one report, and this is given to the queue
once, unless it was finished before. -/
structure Confirmed (o o' : Office) (intent : String) (s : Session) (r : Report) : Prop where
  resolved : o.memory.sessionOfIntent intent = .ok s
  found : o'.memory.reports.get? r.id = some r
  owner : r.sessionId = s.id
  single : ∀ id q, o'.memory.reports.get? id = some q → q.sessionId = s.id → id = r.id
  queued : o'.queued = if r.status.isTerminal then o.queued else r.id :: o.queued

/-- What becomes of an event that is dealt with. -/
inductive Dealt (event : PaymentEvent) (o : Office) :
    Except PaymentError Disposition → Office → Prop
  | refused (e : PaymentError) : Dealt event o (.error e) o
  | confirmed {o' : Office} {intent : String} {s : Session} {r : Report}
      (named : event.intent = .ok intent) (h : o.Confirmed o' intent s r) :
      Dealt event o (.ok .processed) o'
  | other {o' : Office} {d : Disposition} (kind : event.kind ≠ PaymentEvent.succeeded)
      (handled : d ≠ .duplicate) : Dealt event o (.ok d) o'

theorem queueReport_yields {report : ReportId} (h : (queueReport report).Yields Serves o () o') :
    o' = { o with queued := report :: o.queued } := by
  obtain ⟨answer, t, hask, hnext⟩ := yields_bind.1 h
  obtain rfl : t = { o with queued := report :: o.queued } := yields_request.1 hask
  rcases answer with e | ⟨⟩
  · exact yields_report.1 hnext
  · exact (yields_done.1 hnext).2

/-- Sending a receipt changes neither the store nor the queue. -/
theorem sendReceipt_yields {session : SessionId}
    (h : (sendReceipt price session).Yields Serves o () o') :
    o'.memory = o.memory ∧ o'.queued = o.queued := by
  obtain ⟨answer, t, hask, hnext⟩ := yields_bind.1 h
  obtain ⟨supply, m, -, hanswer, rfl⟩ := yields_request.1 hask
  obtain ⟨-, rfl⟩ := Prod.mk.inj hanswer
  rcases answer with e | _ | session
  · obtain rfl := yields_report.1 hnext
    exact ⟨rfl, rfl⟩
  · obtain ⟨-, rfl⟩ := yields_done.1 hnext
    exact ⟨rfl, rfl⟩
  · dsimp only at hnext
    split at hnext
    · obtain ⟨-, rfl⟩ := yields_done.1 hnext
      exact ⟨rfl, rfl⟩
    · obtain ⟨answer, t, hask, hnext⟩ := yields_bind.1 hnext
      obtain rfl := yields_request.1 hask
      rcases answer with e | ⟨⟩
      · obtain rfl := yields_report.1 hnext
        exact ⟨rfl, rfl⟩
      · obtain ⟨-, rfl⟩ := yields_done.1 hnext
        exact ⟨rfl, rfl⟩

/-- The session of an intent has one report after a payment is confirmed. -/
theorem confirmPayment_yields (h : (confirmPayment price intent).Yields Serves o result o')
    (sound : o.memory.Sound) :
    (∃ e, result = .error e ∧ o' = o) ∨
      result = .ok .processed ∧ ∃ s r, o.Confirmed o' intent s r := by
  obtain ⟨answer, t, hask, hnext⟩ := yields_bind.1 h
  obtain ⟨supply, m, fresh, hanswer, rfl⟩ := yields_request.1 hask
  rcases answer with e | init
  · obtain ⟨rfl, rfl⟩ := yields_done.1 hnext
    obtain rfl := Memory.eq_of_refused hanswer
    exact .inl ⟨_, rfl, rfl⟩
  · right
    obtain ⟨s, hs, found, owner, single, hdraft⟩ := sound.initialised fresh hanswer
    rcases init with r | r
    · obtain ⟨⟨⟩, t, hreceipt, hnext⟩ := yields_bind.1 (yields_report_bind.1 hnext)
      obtain ⟨hmemory, hqueued⟩ := sendReceipt_yields hreceipt
      obtain ⟨⟨⟩, u, hqueue, hnext⟩ := yields_bind.1 hnext
      obtain rfl := queueReport_yields hqueue
      obtain ⟨rfl, rfl⟩ := yields_done.1 hnext
      have unfinished : ¬ r.status.isTerminal = true := by
        rw [hdraft r rfl]
        decide
      refine ⟨rfl, s, r, hs, hmemory ▸ found, owner, hmemory ▸ single, ?_⟩
      rw [if_neg unfinished]
      exact congrArg (r.id :: ·) hqueued
    · dsimp only at hnext
      split at hnext
      · next finished =>
        have hend := yields_report_bind.1 hnext
        obtain ⟨rfl, rfl⟩ := yields_done.1 hend
        exact ⟨rfl, s, r, hs, found, owner, single, by rw [if_pos finished]⟩
      · next unfinished =>
        obtain ⟨⟨⟩, t, hqueue, hnext⟩ := yields_bind.1 (yields_report_bind.1 hnext)
        obtain rfl := queueReport_yields hqueue
        obtain ⟨rfl, rfl⟩ := yields_done.1 hnext
        exact ⟨rfl, s, r, hs, found, owner, single, by rw [if_neg unfinished]⟩

/-- An event that is refused has changed nothing. -/
theorem refundPayment_yields (h : (refundPayment intent).Yields Serves o result o') :
    (∃ e, result = .error e ∧ o' = o) ∨ result = .ok .processed := by
  obtain ⟨answer, t, hask, hnext⟩ := yields_bind.1 h
  obtain ⟨supply, m, -, hanswer, rfl⟩ := yields_request.1 hask
  rcases answer with (_ | _ | _ | _ | _) | ⟨⟩
  case error.notFound | ok =>
    have hend := yields_report_bind.1 hnext
    exact .inr (yields_done.1 hend).1
  all_goals
    obtain ⟨rfl, rfl⟩ := yields_done.1 hnext
    obtain rfl := Memory.eq_of_refused hanswer
    exact .inl ⟨_, rfl, rfl⟩

theorem failPayment_yields (h : (failPayment intent).Yields Serves o result o') :
    (∃ e, result = .error e ∧ o' = o) ∨ result = .ok .processed := by
  obtain ⟨answer, t, hask, hnext⟩ := yields_bind.1 h
  obtain ⟨supply, m, -, hanswer, rfl⟩ := yields_request.1 hask
  rcases answer with e | ⟨⟩
  · obtain ⟨rfl, rfl⟩ := yields_done.1 hnext
    obtain rfl := Memory.eq_of_refused hanswer
    exact .inl ⟨_, rfl, rfl⟩
  · have hend := yields_report_bind.1 hnext
    exact .inr (yields_done.1 hend).1

/-- Whatever is dealt with by its kind is dealt with. -/
theorem dispatchEvent_yields {event : PaymentEvent}
    (h : (dispatchEvent price event).Yields Serves o result o') (sound : o.memory.Sound) :
    Dealt event o result o' := by
  -- What is refused has changed nothing, whatever its kind.
  have refused (hr : ∃ e, result = .error e ∧ o' = o) : Dealt event o result o' := by
    obtain ⟨e, rfl, rfl⟩ := hr
    exact .refused e
  unfold dispatchEvent at h
  split at h
  · split at h
    · obtain ⟨rfl, rfl⟩ := yields_done.1 h
      exact .refused _
    · next named =>
      rcases confirmPayment_yields h sound with hr | ⟨rfl, s, r, hc⟩
      · exact refused hr
      · exact .confirmed named hc
  · next kind =>
    split at h
    · split at h
      · obtain ⟨rfl, rfl⟩ := yields_done.1 h
        exact .refused _
      · rcases failPayment_yields h with hr | rfl
        · exact refused hr
        · exact .other kind nofun
    · split at h
      · split at h
        · have hend := yields_report_bind.1 h
          obtain ⟨rfl, -⟩ := yields_done.1 hend
          exact .other kind nofun
        · rcases refundPayment_yields h with hr | rfl
          · exact refused hr
          · exact .other kind nofun
      · have hend := yields_report_bind.1 h
        obtain ⟨rfl, -⟩ := yields_done.1 hend
        exact .other kind nofun

/-! ## Deliveries -/

/-- What a delivery comes to. -/
inductive Delivered (event : PaymentEvent) (o : Office) :
    Except PaymentError Disposition → Office → Prop
  /-- The event is passed over. -/
  | passedOver (held : o.memory.standing event.id = some .processed ∨
      o.memory.standing event.id = some .received) : Delivered event o (.ok .duplicate) o
  /-- The event is claimed, and cannot be dealt with. -/
  | refused {entry : EventEntry} {e : PaymentError}
      (free : o.memory.standing event.id ≠ some .processed) :
      Delivered event o (.error e) (o.noting event.id (entry.completed (some e.message)))
  /-- The event is claimed and dealt with. -/
  | dealt {entry : EventEntry} {d : Disposition} {o' : Office}
      (free : o.memory.standing event.id ≠ some .processed)
      (h : Dealt event (o.noting event.id entry) (.ok d) o') :
      Delivered event o (.ok d) (o'.noting event.id (entry.completed none))

theorem noting_noting (e e' : EventEntry) : (o.noting id e).noting id e' = o.noting id e' := by
  simp only [noting, Memory.insertEvent, Table.insert_insert]

/-- The record of an event that is there is closed. -/
theorem closeEvent_yields {event : PaymentEvent} {entry : EventEntry} {error : Option String}
    (h : (closeEvent event error).Yields Serves o () o')
    (found : o.memory.events.get? event.id = some entry) :
    o' = o.noting event.id (entry.completed error) := by
  obtain ⟨answer, t, hask, hnext⟩ := yields_bind.1 h
  obtain ⟨supply, m, -, hanswer, rfl⟩ := yields_request.1 hask
  rw [Memory.answer_completeEvent found] at hanswer
  obtain ⟨rfl, rfl⟩ := Prod.mk.inj hanswer
  exact (yields_done.1 hnext).2

/-- An event that has been claimed is dealt with, and its record is closed. -/
theorem handleEvent_yields {event : PaymentEvent} {entry : EventEntry}
    (h : (handleEvent price event).Yields Serves (o.noting event.id entry) result o')
    (sound : (o.noting event.id entry).memory.Sound)
    (free : o.memory.standing event.id ≠ some .processed) : Delivered event o result o' := by
  obtain ⟨result', t, hdispatch, hnext⟩ := yields_bind.1 h
  have hdealt := dispatchEvent_yields hdispatch sound
  have leaves : (dispatchEvent price event).Asks (ServiceCall.Leaves event.id) :=
    (asks_dispatchEvent price event).imp fun _ h => h.leaves
  have found : t.memory.events.get? event.id = some entry :=
    (event_of_asks leaves hdispatch).trans Table.get?_insert_self
  rcases result' with e | d
  · obtain ⟨⟨⟩, u, hclose, hnext⟩ := yields_bind.1 (yields_report_bind.1 hnext)
    obtain rfl := closeEvent_yields hclose found
    obtain ⟨rfl, rfl⟩ := yields_done.1 hnext
    cases hdealt with
    | refused =>
      rw [noting_noting]
      exact .refused free
  · obtain ⟨⟨⟩, u, hclose, hnext⟩ := yields_bind.1 hnext
    obtain rfl := closeEvent_yields hclose found
    obtain ⟨rfl, rfl⟩ := yields_done.1 hnext
    exact .dealt free hdealt

/-- An event that is recorded is passed over or claimed. -/
theorem recordEvent_serves {kind : String} {payload : Json}
    {answer : Except StoreError EventRecord}
    (h : o.Serves (.store (.recordEvent id kind payload)) answer o') :
    (answer = .ok .duplicate ∧ o' = o ∧
      (o.memory.standing id = some .processed ∨ o.memory.standing id = some .received)) ∨
    (answer = .ok .recorded ∧ o.memory.standing id ≠ some .processed ∧
      ∃ entry, o' = o.noting id entry) := by
  obtain ⟨supply, m, -, hanswer, rfl⟩ := h
  have hr := o.memory.recorded supply.now id
  change ((.ok (o.memory.recordEvent supply.now id).1 : Except StoreError EventRecord),
    (o.memory.recordEvent supply.now id).2) = (answer, m) at hanswer
  generalize o.memory.recordEvent supply.now id = record at hr hanswer
  obtain ⟨record, m'⟩ := record
  obtain ⟨rfl, rfl⟩ := Prod.mk.inj hanswer
  cases hr with
  | first unseen => exact .inr ⟨rfl, by simp [Memory.standing, unseen], _, rfl⟩
  | @again e found claimable =>
    refine .inr ⟨rfl, fun hp => ?_, _, rfl⟩
    have status : e.status = .processed := by simpa [Memory.standing, found] using hp
    simp [EventEntry.claimable, status] at claimable
  | @passedOver e found held =>
    refine .inl ⟨rfl, rfl, ?_⟩
    cases status : e.status with
    | failed => simp [EventEntry.claimable, status] at held
    | received => simp [Memory.standing, found, status]
    | processed => simp [Memory.standing, found, status]

/-- Every delivery comes to one of these. -/
theorem Delivers.delivered {event : PaymentEvent} (h : o.Delivers price event result o')
    (sound : o.memory.Sound) : Delivered event o result o' := by
  obtain ⟨answer, t, hask, hnext⟩ := yields_bind.1 (yields_within.1 h)
  have hserves := yields_request.1 hask
  have sound' := hserves.servesFresh.evolves.sound sound
  rcases recordEvent_serves hserves with ⟨rfl, rfl, held⟩ | ⟨rfl, free, entry, rfl⟩
  · have hend := yields_report_bind.1 hnext
    obtain ⟨rfl, rfl⟩ := yields_done.1 hend
    exact .passedOver held
  · exact handleEvent_yields hnext sound' free

/-- A delivery does not change the records of other events. -/
theorem Delivers.other {event : PaymentEvent} (h : o.Delivers price event result o')
    (other : event.id ≠ id) : o'.memory.standing id = o.memory.standing id := by
  have asks := (asks_processEvent price event).imp fun _ h => h.leaves other
  rw [Memory.standing, Memory.standing, event_of_asks asks h]

/-! ## Between the deliveries -/

/-- Somebody has claimed an event and not closed its record. -/
def Claimed (o : Office) (id : String) : Prop :=
  o.memory.standing id = some .received

/-- What may happen between some deliveries: other events are delivered, the store serves requests
that leave certain records alone, and what it keeps changes places. -/
inductive Step (kept : String → Prop) (among : PaymentEvent → Prop) : Office → Office → Prop
  | delivery {o o' : Office} {price : Price} {event : PaymentEvent}
      {result : Except PaymentError Disposition} (allowed : among event)
      (h : o.Delivers price event result o') : Step kept among o o'
  | request {o : Office} {supply : Supply} {call : StoreCall} (fresh : supply.Fresh o.memory)
      (leaves : ∀ id, kept id → ¬ call.Touches id) :
      Step kept among o { o with memory := (o.memory.answer supply call).2 }
  | question {o : Office} (q : Question) :
      Step kept among o { o with memory := o.memory.insertQuestion q }
  | rearranged {o : Office} {m : Memory} (h : o.memory.Rearranged m) :
      Step kept among o { o with memory := m }

/-- An office that begins with an empty store, where every delivery is dealt with to the end and
nobody else has to do with the records of events. -/
def Reachable (o : Office) : Prop :=
  Relation.ReflTransGen (Step (fun _ => True) fun _ => True) ⟨.empty, [], []⟩ o

variable {kept : String → Prop} {among : PaymentEvent → Prop}

theorem Step.sound (hs : Step kept among o o') (sound : o.memory.Sound) : o'.memory.Sound := by
  cases hs with
  | delivery allowed h => exact sound_of_asks (asks_processEvent _ _) h sound
  | request fresh leaves => exact (Memory.evolves_answer fresh _).sound sound
  | question q => exact sound.insertQuestion q
  | rearranged h => exact sound.rearranged h

/-- An event that was closed stays as it was closed, as long as it is not delivered or was
processed. -/
theorem Step.standing (hs : Step kept among o o') (sound : o.memory.Sound) (hid : kept id)
    (closed : (∀ event, among event → event.id ≠ id) ∨ o.memory.standing id = some .processed) :
    o'.memory.standing id = o.memory.standing id := by
  cases hs with
  | @delivery _ price event result allowed h =>
    by_cases other : event.id ≠ id
    · exact h.other other
    · obtain rfl := not_not.1 other
      have processed : o.memory.standing event.id = some .processed :=
        closed.resolve_left fun hnone => hnone event allowed rfl
      cases h.delivered sound with
      | passedOver => rfl
      | refused free | dealt free => exact absurd processed free
  | request fresh leaves => exact Memory.standing_answer (leaves id hid)
  | question q => rfl
  | rearranged h => exact sound.standing_rearranged h

theorem steps_kept (hs : Relation.ReflTransGen (Step kept among) o o') (sound : o.memory.Sound)
    (hid : kept id)
    (closed : (∀ event, among event → event.id ≠ id) ∨ o.memory.standing id = some .processed) :
    o'.memory.Sound ∧ o'.memory.standing id = o.memory.standing id := by
  induction hs with
  | refl => exact ⟨sound, rfl⟩
  | tail _ hs ih =>
    obtain ⟨sound', same⟩ := ih
    exact ⟨hs.sound sound', (hs.standing sound' hid (same ▸ closed)).trans same⟩

theorem standing_noting (o : Office) (id : String) (e : EventEntry) :
    (o.noting id e).memory.standing id = some e.status := by
  simp [noting, Memory.standing, Memory.insertEvent]

/-- Nobody holds an event after a step if nobody did so before, since a delivery closes the record
that it claims. -/
theorem Step.unclaimed (hs : Step (fun _ => True) among o o') (sound : o.memory.Sound)
    (h : ∀ id, ¬ o.Claimed id) (id : String) : ¬ o'.Claimed id := by
  unfold Claimed
  cases hs with
  | @delivery _ price event result allowed hd =>
    by_cases other : event.id ≠ id
    · rw [hd.other other]
      exact h id
    · obtain rfl := not_not.1 other
      cases hd.delivered sound with
      | passedOver => exact h event.id
      | refused | dealt =>
        rw [standing_noting]
        nofun
  | request fresh leaves =>
    rw [Memory.standing_answer (leaves id trivial)]
    exact h id
  | question q => exact h id
  | rearranged hr =>
    rw [sound.standing_rearranged hr]
    exact h id

/-- What becomes of the store in a step is what requests and questions make of it. -/
theorem Step.reachable (hs : Step kept among o o')
    (h : Memory.Reachable Supply.Fresh o.memory) : Memory.Reachable Supply.Fresh o'.memory := by
  cases hs with
  | @delivery _ price event result allowed hd =>
    refine (asks_processEvent price event).yields
      (Q := fun t : Office => Memory.Reachable Supply.Fresh t.memory) hd h ?_
    intro t call answer t' _ hserves ht
    cases call with
    | store call =>
      obtain ⟨supply, m, fresh, hanswer, rfl⟩ := hserves
      have hm : (t.memory.answer supply call).2 = m := congrArg Prod.snd hanswer
      exact hm ▸ ht.request call fresh
    | hedge | mail | enqueue | createPayment | clientSecret =>
      obtain rfl := hserves
      exact ht
  | request fresh leaves => exact h.request _ fresh
  | question q => exact h.question q
  | rearranged hr => exact h.tail (.rearranged hr)

theorem Reachable.unclaimed (h : o.Reachable) :
    Memory.Reachable Supply.Fresh o.memory ∧ ∀ id, ¬ o.Claimed id := by
  induction h with
  | refl => exact ⟨Memory.reachable_empty, nofun⟩
  | tail _ hs ih => exact ⟨hs.reachable ih.1, hs.unclaimed ih.1.sound ih.2⟩

/-! ## One delivery after the other -/

/-- An event that was processed is passed over from then on, and nothing is changed. -/
theorem passedOver_of_processed {o₁ o₂ : Office} {event : PaymentEvent} (sound : o.memory.Sound)
    (processed : o.memory.standing id = some .processed)
    (hs : Relation.ReflTransGen (Step (· = id) fun _ => True) o o₁) (hid : event.id = id)
    (hd : o₁.Delivers price event result o₂) : result = .ok .duplicate ∧ o₂ = o₁ := by
  obtain ⟨sound', same⟩ := steps_kept hs sound rfl (.inr processed)
  subst hid
  cases hd.delivered sound' with
  | passedOver => exact ⟨rfl, rfl⟩
  | refused free | dealt free => exact absurd (same.trans processed) free

/-- An event that failed is not passed over when it is delivered again. -/
theorem claimed_of_failed {o₁ o₂ : Office} {event : PaymentEvent} (sound : o.memory.Sound)
    (failed : o.memory.standing id = some .failed)
    (hs : Relation.ReflTransGen (Step (· = id) fun other => other.id ≠ id) o o₁)
    (hid : event.id = id) (hd : o₁.Delivers price event result o₂) : result ≠ .ok .duplicate := by
  obtain ⟨sound', same⟩ := steps_kept hs sound rfl (.inl fun _ h => h)
  subst hid
  cases hd.delivered sound' with
  | passedOver held => simp [same, failed] at held
  | refused => nofun
  | dealt free h =>
    cases h with
    | confirmed => nofun
    | other kind handled => simpa using handled

/-- **Deliveries in turn.** An event is delivered to a store in any state that an empty store gets
into; the mailer and the queue answer as they like. If it is refused, nothing has changed but its
record, which carries the wording of the refusal, no message was sent and no report queued, and the
next delivery of the event is not passed over. If it is passed over, nothing has changed. If it is
not refused, every later delivery of the event is passed over and changes nothing, unless this one
was passed over because somebody held the event. If it confirms a payment and was dealt with, the
session of the intent has one report, and this was given to the queue once, unless it was finished
already. Where every delivery so far was dealt with to the end, and nobody else has to do with the
records of events, the store is in such a state and nobody holds any event. -/
theorem deliveries_in_turn {event : PaymentEvent}
    (h : Memory.Reachable Supply.Fresh o.memory) (hd : o.Delivers price event result o') :
    (∀ e, result = .error e →
      (∃ entry, o' = o.noting event.id entry ∧ entry.status = .failed ∧
        entry.error = some e.message) ∧
      ∀ o₁ o₂ price' event' result', event'.id = event.id →
        Relation.ReflTransGen (Step (· = event.id) fun other => other.id ≠ event.id) o' o₁ →
        o₁.Delivers price' event' result' o₂ → result' ≠ .ok .duplicate) ∧
    (∀ d, result = .ok d →
      (d = .duplicate → o' = o) ∧
      (d ≠ .duplicate ∨ ¬ o.Claimed event.id → ∀ o₁ o₂ price' event' result',
        event'.id = event.id →
        Relation.ReflTransGen (Step (· = event.id) fun _ => True) o' o₁ →
        o₁.Delivers price' event' result' o₂ → result' = .ok .duplicate ∧ o₂ = o₁) ∧
      (event.kind = PaymentEvent.succeeded → d = .processed →
        ∃ intent s r, event.intent = .ok intent ∧ o.Confirmed o' intent s r)) ∧
    ∀ q : Office, q.Reachable →
      Memory.Reachable Supply.Fresh q.memory ∧ ∀ id, ¬ q.Claimed id := by
  have sound := h.sound
  have sound' := sound_of_asks (asks_processEvent price event) hd sound
  refine ⟨?_, ?_, fun q reachable => reachable.unclaimed⟩
  · rintro e rfl
    cases hd.delivered sound with
    | @refused entry =>
      have failed := standing_noting o event.id (entry.completed (some e.message))
      exact ⟨⟨_, rfl, rfl, rfl⟩, fun o₁ o₂ price' event' result' hid hs hd' =>
        claimed_of_failed sound' failed hs hid hd'⟩
  · rintro d rfl
    cases hd.delivered sound with
    | passedOver held =>
      refine ⟨fun _ => rfl, fun alone o₁ o₂ price' event' result' hid hs hd' => ?_, nofun⟩
      have processed := held.resolve_right (alone.resolve_left fun hne => hne rfl)
      exact passedOver_of_processed sound' processed hs hid hd'
    | @dealt entry d o₁ free hdealt =>
      have processed := standing_noting o₁ event.id (entry.completed none)
      refine ⟨fun hdup => ?_, fun _ o₂ o₃ price' event' result' hid hs hd' =>
        passedOver_of_processed sound' processed hs hid hd', fun kind _ => ?_⟩
      · cases hdealt with
        | confirmed => cases hdup
        | other kind handled => exact absurd hdup handled
      · cases hdealt with
        | confirmed named hc => exact ⟨_, _, _, named, hc.1, hc.2, hc.3, hc.4, hc.5⟩
        | other other => exact absurd kind other

end Office

namespace Sample

/-- The payment of the visitor is confirmed. -/
def confirmation : PaymentEvent where
  id := "event"
  kind := PaymentEvent.succeeded
  payload := .record [("id", .string "intent")]

/-- Nothing was sent or queued yet. -/
def office : Office := ⟨addressed, [], []⟩

/-- The confirmation was delivered: the report is begun, the receipt sent and the report queued. -/
def settled : Office where
  memory := (((addressed.answer (supply 5) (.recordEvent "event" confirmation.kind .null)).2.answer
    (supply 6) (.initialiseReport "intent")).2.answer (supply 7) (.completeEvent "event" none)).2
  mails := [.receipt ⟨"visitor@example.com", none, 5900, "usd"⟩]
  queued := [⟨⟨6⟩⟩]

theorem delivers_confirmation :
    office.Delivers .standard confirmation (.ok .processed) settled := by
  refine yields_ask.2 ⟨_, _, ⟨supply 5, _, ⟨rfl, rfl⟩, rfl, rfl⟩, ?_⟩
  refine yields_ask.2 ⟨_, _, ⟨supply 6, _, ⟨rfl, rfl⟩, rfl, rfl⟩, yields_log.2 ?_⟩
  refine yields_ask.2 ⟨_, _, ⟨supply 7, _, ⟨rfl, rfl⟩, rfl, rfl⟩, ?_⟩
  refine yields_ask.2 ⟨.ok (), _, rfl, ?_⟩
  refine yields_ask.2 ⟨.ok (), _, rfl, ?_⟩
  refine yields_ask.2 ⟨_, _, ⟨supply 7, _, ⟨rfl, rfl⟩, rfl, rfl⟩, ?_⟩
  exact yields_done.2 ⟨rfl, rfl⟩

/-- The confirmation was recorded by somebody who has gone away. -/
def abandoned : Office where
  memory := (addressed.answer (supply 5) (.recordEvent "event" confirmation.kind .null)).2
  mails := []
  queued := []

/-- The confirmation was delivered after the claim on it had run out. -/
def recovered : Office where
  memory := (((abandoned.memory.answer (supply 400) (.recordEvent "event" confirmation.kind
    .null)).2.answer (supply 401) (.initialiseReport "intent")).2.answer (supply 402)
      (.completeEvent "event" none)).2
  mails := [.receipt ⟨"visitor@example.com", none, 5900, "usd"⟩]
  queued := [⟨⟨401⟩⟩]

theorem delivers_abandoned :
    abandoned.Delivers .standard confirmation (.ok .duplicate) abandoned := by
  refine yields_ask.2 ⟨_, _, ⟨supply 6, _, ⟨rfl, rfl⟩, rfl, rfl⟩, yields_log.2 ?_⟩
  exact yields_done.2 ⟨rfl, rfl⟩

theorem delivers_recovered :
    abandoned.Delivers .standard confirmation (.ok .processed) recovered := by
  refine yields_ask.2 ⟨_, _, ⟨supply 400, _, ⟨rfl, rfl⟩, rfl, rfl⟩, ?_⟩
  refine yields_ask.2 ⟨_, _, ⟨supply 401, _, ⟨rfl, rfl⟩, rfl, rfl⟩, yields_log.2 ?_⟩
  refine yields_ask.2 ⟨_, _, ⟨supply 402, _, ⟨rfl, rfl⟩, rfl, rfl⟩, ?_⟩
  refine yields_ask.2 ⟨.ok (), _, rfl, ?_⟩
  refine yields_ask.2 ⟨.ok (), _, rfl, ?_⟩
  refine yields_ask.2 ⟨_, _, ⟨supply 402, _, ⟨rfl, rfl⟩, rfl, rfl⟩, ?_⟩
  exact yields_done.2 ⟨rfl, rfl⟩

end Sample

namespace Office

/-- In the sample the payment is confirmed, and the report of its session is queued. When the event
is delivered again, it is passed over. -/
theorem deliveries_in_turn_sample :
    Sample.office.Delivers .standard Sample.confirmation (.ok .processed) Sample.settled ∧
      (∃ s r, Sample.office.Confirmed Sample.settled "intent" s r) ∧
      ∀ result o, Sample.settled.Delivers .standard Sample.confirmation result o →
        result = .ok .duplicate ∧ o = Sample.settled := by
  have hd := Sample.delivers_confirmation
  obtain ⟨-, hok, -⟩ := deliveries_in_turn Sample.reachable_addressed hd
  obtain ⟨-, later, hconfirmed⟩ := hok .processed rfl
  obtain ⟨intent, s, r, named, hc⟩ := hconfirmed rfl rfl
  obtain rfl : "intent" = intent := Except.ok.inj named
  exact ⟨hd, ⟨s, r, hc⟩, fun result o hd' => later (.inl nofun) _ o _ _ result rfl .refl hd'⟩

/-- An event that was passed over because somebody held it is dealt with when the claim has run
out. -/
theorem passed_over_then_processed :
    ¬ ∀ (o o' o₁ o₂ : Office) (price : Price) (event : PaymentEvent) (d : Disposition)
        (result : Except PaymentError Disposition),
      Memory.Reachable Supply.Fresh o.memory → o.Delivers price event (.ok d) o' →
      Relation.ReflTransGen (Step (· = event.id) fun _ => True) o' o₁ →
      o₁.Delivers price event result o₂ → result = .ok .duplicate ∧ o₂ = o₁ := by
  intro hall
  have reachable : Memory.Reachable Supply.Fresh Sample.abandoned.memory :=
    Sample.reachable_addressed.request _ ⟨rfl, rfl⟩
  obtain ⟨passed, -⟩ := hall _ _ _ _ _ _ _ _ reachable Sample.delivers_abandoned .refl
    Sample.delivers_recovered
  cases passed

end Office

end RiskReport

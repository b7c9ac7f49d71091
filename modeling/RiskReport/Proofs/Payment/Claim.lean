import RiskReport.Proofs.Payment.Replay
import RiskReport.Proofs.Time.Instant

/-!
# When an event may be claimed

A store keeps one small entry for each payment event, and overwrites it with each claim and each
completion. Here the requests that a store has served are kept with the entry: `Memory.after` is the
store after some requests, and `Memory.history` is what they did about one event and when. The entry
tells of the history just what matters (`EventEntry.Tells`): when the event was claimed last, how it
was completed last since then, and how often it was claimed.

**Theorem (`claimed_iff`).** A claim is granted exactly if the event was never claimed before, or
its latest completion since the last claim had an error, or it was not completed since and the last
claim is more than the lease ago. Any other claim is passed over and changes nothing.
-/

namespace RiskReport

/-! ## Time -/

/-- A time as clocks show it: not inside a leap second, and the end of a lease from then on can be
told. -/
structure Instant.Clock (t : Instant) : Prop where
  regular : t.nano < Duration.perSecond
  lease : (t.shift? eventLease.total).isSome

/-- A lease has run out if more than its time has passed. -/
theorem EventEntry.leaseExpired_iff {e : EventEntry} {now : Instant} (received : e.receivedAt.Clock)
    (clock : now.Clock) :
    e.leaseExpired now = true ↔ e.receivedAt.total + eventLease.total < now.total := by
  obtain ⟨expires, hexpires⟩ := Option.isSome_iff_exists.1 received.lease
  obtain ⟨hregular, htotal⟩ := Instant.shift?_eq_some_iff.1 hexpires
  rw [leaseExpired, hexpires, Option.map_some, Option.getD_some,
    Instant.lt_iff hregular.nano clock.regular, htotal]

/-! ## The history of an event -/

/-- What was done about an event and when, the latest first. -/
abbrev EventHistory := List (Instant × Deed)

namespace EventHistory

/-- When the event was claimed last, and how it was completed since then, the latest first. -/
def sinceClaim : EventHistory → Option (Instant × List (Option String))
  | [] => none
  | (t, .claimed .recorded) :: _ => some (t, [])
  | (_, .claimed .duplicate) :: earlier => sinceClaim earlier
  | (_, .closed error) :: earlier => (sinceClaim earlier).map fun (t, errors) => (t, error :: errors)

/-- How often the event was claimed. -/
def claims : EventHistory → Nat
  | [] => 0
  | (_, .claimed .recorded) :: earlier => claims earlier + 1
  | _ :: earlier => claims earlier

/-- The event may be claimed at some time. -/
inductive Claimable (now : Instant) (history : EventHistory) : Prop
  /-- Nobody has asked for it. -/
  | unseen (h : ∀ t answer, (t, Deed.claimed answer) ∉ history)
  /-- Since the last claim it was completed, the last time with an error. -/
  | failed {t : Instant} {error : String} {errors : List (Option String)}
      (h : history.sinceClaim = some (t, some error :: errors))
  /-- Since the last claim it was not completed, and more than the time of a lease has passed. -/
  | expired {t : Instant} (h : history.sinceClaim = some (t, []))
      (late : t.total + eventLease.total < now.total)

end EventHistory

/-- Where an event stands after some completions, the latest first. -/
def EventStatus.after : List (Option String) → EventStatus
  | [] => .received
  | none :: _ => .processed
  | some _ :: _ => .failed

/-- The entry of an event tells what matters of its history. -/
structure EventEntry.Tells (e : EventEntry) (history : EventHistory) : Prop where
  since : ∃ errors, history.sinceClaim = some (e.receivedAt, errors) ∧ e.status = .after errors
  attempts : e.attempts = history.claims
  clock : e.receivedAt.Clock

namespace EventEntry.Tells

variable {e : EventEntry} {history : EventHistory} {now : Instant}

theorem first (clock : now.Clock) :
    (EventEntry.first now).Tells [(now, .claimed .recorded)] :=
  ⟨⟨[], rfl, rfl⟩, rfl, clock⟩

theorem reclaimed (h : e.Tells history) (clock : now.Clock) :
    (e.reclaimed now).Tells ((now, .claimed .recorded) :: history) :=
  ⟨⟨[], rfl, rfl⟩, congrArg (· + 1) h.attempts, clock⟩

theorem passedOver (h : e.Tells history) : e.Tells ((now, .claimed .duplicate) :: history) :=
  ⟨h.since, h.attempts, h.clock⟩

theorem completed (h : e.Tells history) (error : Option String) :
    (e.completed error).Tells ((now, .closed error) :: history) := by
  obtain ⟨errors, hsince, -⟩ := h.since
  have hsince' : EventHistory.sinceClaim ((now, .closed error) :: history) =
      some (e.receivedAt, error :: errors) := by
    simp [EventHistory.sinceClaim, hsince]
  cases error with
  | none => exact ⟨⟨_, hsince', rfl⟩, h.attempts, h.clock⟩
  | some message => exact ⟨⟨_, hsince', rfl⟩, h.attempts, h.clock⟩

end EventEntry.Tells

namespace EventHistory

/-- The entry that a store keeps for an event with some history; there is none before anything was
done about the event. -/
inductive Kept (history : EventHistory) : Option EventEntry → Prop
  | unseen (h : history = []) : Kept history none
  | seen {e : EventEntry} (h : e.Tells history) : Kept history (some e)

variable {history : EventHistory} {now : Instant}

/-- An event that nobody has asked for was not claimed. -/
theorem sinceClaim_eq_none (h : ∀ t answer, (t, Deed.claimed answer) ∉ history) :
    history.sinceClaim = none := by
  induction history with
  | nil => rfl
  | cons entry history ih =>
    obtain ⟨t, answer | error⟩ := entry
    · exact absurd List.mem_cons_self (h t answer)
    · have hrest := ih fun t answer hm => h t answer (List.mem_cons_of_mem _ hm)
      simp [sinceClaim, hrest]

/-- The entry of an event says whether it may be claimed. -/
theorem claimable_iff {e : EventEntry} (h : e.Tells history) (clock : now.Clock) :
    e.claimable now = true ↔ history.Claimable now := by
  obtain ⟨errors, hsince, hstatus⟩ := h.since
  have hseen : ¬ ∀ t answer, (t, Deed.claimed answer) ∉ history := by
    intro hnone
    simp [sinceClaim_eq_none hnone] at hsince
  unfold EventEntry.claimable
  rw [hstatus]
  match errors with
  | [] =>
    simp only [EventStatus.after, EventEntry.leaseExpired_iff h.clock clock]
    refine ⟨fun hlate => .expired hsince hlate, fun hclaimable => ?_⟩
    cases hclaimable with
    | unseen hnone => exact absurd hnone hseen
    | failed hfailed => simp [hsince] at hfailed
    | expired hopen late =>
      obtain ⟨rfl, -⟩ := Prod.mk.inj (Option.some.inj (hsince.symm.trans hopen))
      exact late
  | none :: errors =>
    simp only [EventStatus.after, Bool.false_eq_true, false_iff]
    intro hclaimable
    cases hclaimable with
    | unseen hnone => exact hseen hnone
    | failed hfailed => simp [hsince] at hfailed
    | expired hopen => simp [hsince] at hopen
  | some error :: errors =>
    simp only [EventStatus.after, true_iff]
    exact .failed hsince

end EventHistory

/-! ## The requests that a store has served -/

instance decidableTouches (id : String) : DecidablePred (StoreCall.Touches id)
  | .recordEvent id' _ _ | .completeEvent id' _ => inferInstanceAs (Decidable (id' = id))
  | .createSession _ | .getSession _ | .upsertAnswer _ | .answers _ | .attachIntent _
  | .markPaymentFailed _ | .markRefunded _ | .initialiseReport _ | .getReport _ | .reportByToken _
  | .riskResults _ | .persistReport _ | .markReportFailed .. | .pendingReports _ => isFalse not_false

namespace Memory

/-- The store after some requests, the latest first. -/
def after (m : Memory) : List (Supply × StoreCall) → Memory
  | [] => m
  | (supply, call) :: earlier => ((m.after earlier).answer supply call).2

/-- What a request does about an event, and when. -/
def deed? (m : Memory) (id : String) (supply : Supply) (call : StoreCall) :
    Option (Instant × Deed) :=
  (Deed.of? id (some ⟨.store call, (m.answer supply call).1⟩)).map (supply.now, ·)

/-- What some requests, the latest first, do about an event. -/
def history (m : Memory) (id : String) : List (Supply × StoreCall) → EventHistory
  | [] => []
  | (supply, call) :: earlier =>
    ((m.after earlier).deed? id supply call).toList ++ m.history id earlier

variable {m : Memory} {id : String} {supply : Supply} {call : StoreCall}

theorem get?_insertEvent {e : EventEntry} : (m.insertEvent id e).events.get? id = some e :=
  Table.get?_insert_self

theorem deed?_recordEvent (kind : String) (payload : Json) :
    m.deed? id supply (.recordEvent id kind payload) =
      some (supply.now, .claimed (m.recordEvent supply.now id).1) := by
  simp [deed?, answer, respond, Deed.of?]

theorem deed?_eq_none (h : ¬ call.Touches id) : m.deed? id supply call = none := by
  have hleaves : ServiceCall.Leaves id (.store call) := h
  exact congrArg (Option.map (supply.now, ·)) (Deed.of?_eq_none hleaves)

/-- A request for an event keeps its entry in step with its history. -/
theorem kept_answer {history : EventHistory} (h : history.Kept (m.events.get? id))
    (clock : supply.now.Clock) :
    EventHistory.Kept ((m.deed? id supply call).toList ++ history)
      ((m.answer supply call).2.events.get? id) := by
  by_cases ht : call.Touches id
  · cases call with
    | recordEvent id' kind payload =>
      obtain rfl : id' = id := ht
      have hr := m.recorded supply.now id'
      rw [deed?_recordEvent]
      change EventHistory.Kept _ ((m.recordEvent supply.now id').2.events.get? id')
      generalize m.recordEvent supply.now id' = recorded at hr
      obtain ⟨answer, m'⟩ := recorded
      cases hr with
      | first unseen =>
        rw [unseen] at h
        cases h with
        | unseen h =>
          subst h
          simp only [Table.get?_insert_self]
          exact .seen (.first clock)
      | again found =>
        rw [found] at h
        cases h with
        | seen h =>
          simp only [Table.get?_insert_self]
          exact .seen (h.reclaimed clock)
      | passedOver found =>
        rw [found] at h ⊢
        cases h with
        | seen h => exact .seen h.passedOver
    | completeEvent id' error =>
      obtain rfl : id' = id := ht
      cases he : m.events.get? id' with
      | none =>
        have hnone : m.deed? id' supply (.completeEvent id' error) = none := by
          rw [deed?, answer_completeEvent_of_unseen he]
          rfl
        rw [hnone, answer_completeEvent_of_unseen he]
        exact h
      | some e =>
        have hdeed : m.deed? id' supply (.completeEvent id' error) =
            some (supply.now, .closed error) := by
          rw [deed?, answer_completeEvent he]
          simp [Deed.of?]
        rw [hdeed, answer_completeEvent he, get?_insertEvent]
        rw [he] at h
        cases h with
        | seen h => exact .seen (h.completed error)
    | _ => exact ht.elim
  · rw [deed?_eq_none ht, event_answer ht]
    exact h

/-- A claim is granted exactly if the history of the event allows it. -/
theorem recordEvent_iff {history : EventHistory} {now : Instant}
    (h : history.Kept (m.events.get? id)) (clock : now.Clock) :
    (m.recordEvent now id).1 = .recorded ↔ history.Claimable now := by
  have hr := m.recorded now id
  generalize m.recordEvent now id = recorded at hr
  obtain ⟨answer, m'⟩ := recorded
  cases hr with
  | first unseen =>
    rw [unseen] at h
    cases h with
    | unseen h =>
      subst h
      exact ⟨fun _ => .unseen fun _ _ => List.not_mem_nil, fun _ => rfl⟩
  | again found claimable =>
    rw [found] at h
    cases h with
    | seen h => exact ⟨fun _ => (EventHistory.claimable_iff h clock).1 claimable, fun _ => rfl⟩
  | passedOver found held =>
    rw [found] at h
    cases h with
    | seen h =>
      refine ⟨nofun, fun hclaimable => ?_⟩
      have hclaimable := (EventHistory.claimable_iff h clock).2 hclaimable
      simp [held] at hclaimable

/-- A claim that is not granted is passed over, and nothing is changed. -/
theorem recordEvent_of_not_recorded {now : Instant} (h : (m.recordEvent now id).1 ≠ .recorded) :
    m.recordEvent now id = (.duplicate, m) := by
  have hr := m.recorded now id
  generalize m.recordEvent now id = recorded at h hr
  obtain ⟨answer, m'⟩ := recorded
  cases hr with
  | first | again => exact absurd rfl h
  | passedOver => rfl

/-- After any requests the entry of an event is in step with its history. -/
theorem kept_after {requests : List (Supply × StoreCall)} (unseen : m.events.get? id = none)
    (clock : ∀ x ∈ requests, x.1.now.Clock) :
    (m.history id requests).Kept ((m.after requests).events.get? id) := by
  induction requests with
  | nil =>
    rw [after, unseen]
    exact .unseen rfl
  | cons request earlier ih =>
    obtain ⟨supply, call⟩ := request
    have hkept := ih fun x hx => clock x (List.mem_cons_of_mem _ hx)
    exact kept_answer hkept (clock _ List.mem_cons_self)

/-- A request for an event is answered from the entry of the event alone. -/
theorem answer_congr {n : Memory} (ht : call.Touches id)
    (he : m.events.get? id = n.events.get? id) :
    (m.answer supply call).1 = (n.answer supply call).1 ∧
      (m.answer supply call).2.events.get? id = (n.answer supply call).2.events.get? id := by
  cases call with
  | recordEvent id' kind payload =>
    obtain rfl : id' = id := ht
    simp only [answer, respond, recordEvent, he]
    cases hn : n.events.get? id' with
    | none => exact ⟨rfl, get?_insertEvent.trans get?_insertEvent.symm⟩
    | some e =>
      by_cases hc : e.claimable supply.now = true
      · simp only [hc, if_true]
        exact ⟨rfl, get?_insertEvent.trans get?_insertEvent.symm⟩
      · simp only [hc, if_false, Bool.false_eq_true]
        exact ⟨rfl, he.trans hn |>.trans hn.symm⟩
  | completeEvent id' error =>
    obtain rfl : id' = id := ht
    cases hn : n.events.get? id' with
    | none =>
      rw [answer_completeEvent_of_unseen hn, answer_completeEvent_of_unseen (he.trans hn)]
      exact ⟨rfl, he⟩
    | some e =>
      rw [answer_completeEvent hn, answer_completeEvent (he.trans hn)]
      exact ⟨rfl, get?_insertEvent.trans get?_insertEvent.symm⟩
  | _ => exact ht.elim

/-- Requests for other events, and requests for no event, make no difference to an event. -/
theorem event_filter (m : Memory) (id : String) (requests : List (Supply × StoreCall)) :
    m.history id (requests.filter fun x => x.2.Touches id) = m.history id requests ∧
      (m.after (requests.filter fun x => x.2.Touches id)).events.get? id =
        (m.after requests).events.get? id := by
  induction requests with
  | nil => exact ⟨rfl, rfl⟩
  | cons request earlier ih =>
    obtain ⟨supply, call⟩ := request
    obtain ⟨hhistory, hentry⟩ := ih
    by_cases ht : call.Touches id
    · obtain ⟨hanswer, hentry'⟩ := @answer_congr _ id supply call _ ht hentry
      simp only [List.filter_cons, ht, decide_true, if_true, history, after, deed?, hanswer,
        hhistory, hentry', and_self]
    · have hnone : (m.after earlier).deed? id supply call = none := deed?_eq_none ht
      simp only [List.filter_cons, ht, decide_false, Bool.false_eq_true, if_false, history, after,
        hnone, Option.toList_none, List.nil_append, event_answer ht]
      exact ⟨hhistory, hentry⟩

/-! ## The law of claims -/

/-- **Claims.** A store serves any requests, among them some for an event that it has not seen
before. A further claim on this event is granted exactly if nobody has asked for the event, or its
latest completion since it was claimed last had an error, or it was not completed since then and
more than the time of a lease has passed; otherwise the claim is passed over and nothing is changed.
The entry counts the claims that were granted. Requests that are not for this event have no
influence on any of that. -/
theorem claimed_iff {requests : List (Supply × StoreCall)} (unseen : m.events.get? id = none)
    (clock : ∀ x ∈ requests, x.1.now.Clock) (now : supply.now.Clock) (kind : String)
    (payload : Json) :
    (((m.after requests).answer supply (.recordEvent id kind payload)).1 = .ok .recorded ↔
      (m.history id requests).Claimable supply.now) ∧
    (¬ (m.history id requests).Claimable supply.now →
      (m.after requests).answer supply (.recordEvent id kind payload) =
        (.ok .duplicate, m.after requests)) ∧
    ((m.after requests).events.get? id).elim 0 (·.attempts) = (m.history id requests).claims ∧
    m.history id (requests.filter fun x => x.2.Touches id) = m.history id requests ∧
    (m.after (requests.filter fun x => x.2.Touches id)).events.get? id =
      (m.after requests).events.get? id := by
  have hkept := kept_after unseen clock
  have hiff := recordEvent_iff hkept now
  refine ⟨⟨fun h => hiff.1 (Except.ok.inj h), fun h => congrArg Except.ok (hiff.2 h)⟩,
    fun h => ?_, ?_, event_filter m id requests⟩
  · have hsame := recordEvent_of_not_recorded (mt hiff.1 h)
    simp only [answer, respond, hsame]
  · generalize (m.after requests).events.get? id = entry at hkept
    cases hkept with
    | unseen hnone =>
      rw [hnone]
      rfl
    | seen h => exact h.attempts

end Memory

/-- An event is claimed, fails after a second, and is claimed again after another one. -/
def Sample.claims : List (Supply × StoreCall) :=
  [(supply 2, .recordEvent "event" "kind" .null), (supply 1, .completeEvent "event" (some "down")),
    (supply 0, .recordEvent "event" "kind" .null)]

/-- In the sample a third claim is granted once more than 300 seconds have passed. -/
theorem Memory.claimed_iff_sample :
    ((Memory.empty.after Sample.claims).answer (Sample.supply 302)
        (.recordEvent "event" "kind" .null)).1 = .ok .duplicate ∧
      ((Memory.empty.after Sample.claims).answer (Sample.supply 303)
        (.recordEvent "event" "kind" .null)).1 = .ok .recorded ∧
      ((Memory.empty.after Sample.claims).events.get? "event").elim 0 (·.attempts) = 2 := by
  have clock : ∀ x ∈ Sample.claims, x.1.now.Clock := by
    intro x hx
    simp only [Sample.claims, List.mem_cons, List.not_mem_nil, or_false] at hx
    rcases hx with rfl | rfl | rfl <;> exact ⟨by decide, by decide +kernel⟩
  have hhistory : Memory.empty.history "event" Sample.claims =
      [(⟨2, 0⟩, .claimed .recorded), (⟨1, 0⟩, .closed (some "down")),
        (⟨0, 0⟩, .claimed .recorded)] := rfl
  have early := @claimed_iff .empty "event" (Sample.supply 302) Sample.claims rfl clock
    ⟨by decide, by decide +kernel⟩ "kind" .null
  have late := @claimed_iff .empty "event" (Sample.supply 303) Sample.claims rfl clock
    ⟨by decide, by decide +kernel⟩ "kind" .null
  rw [hhistory] at early late
  refine ⟨?_, late.1.2 (.expired rfl (by decide)), late.2.2.1⟩
  refine congrArg Prod.fst (early.2.1 fun hclaimable => ?_)
  cases hclaimable with
  | unseen h => exact h _ _ List.mem_cons_self
  | failed h => cases h
  | expired h late =>
    cases h
    exact absurd late (by decide)

end RiskReport

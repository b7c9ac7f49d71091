import Mathlib.Logic.Function.Basic
import RiskReport.Proofs.Payment.Notes
import RiskReport.Proofs.Service

/-!
# When a processed event is handled again

The payment service may deliver an event any number of times, and each delivery gets a handler of
its own. `Handling` is a store in memory with such handlers, and `Handling.Step` lets one of them go
on, at a time of its own choosing.

A claim on an event runs out, so that another handler may take the event over while the first one
is still at work, and nothing tells their completions apart. The latest one counts. So an event that
was processed stays processed only as long as nobody who claimed it earlier comes in late with an
error.

**Theorem (`replay_iff_late_failure`).** After an event was processed, its deliveries are passed
over exactly until somebody completes it with an error, and the first who does so is another handler
that was at work on the event when it was processed.

**Counterexample (`processed_event_replayed`).** Two handlers are enough for that to happen.
-/

namespace RiskReport

/-! ## What requests do to the record of an event -/

namespace Memory

variable {id : String} {m m' : Memory} {supply : Supply}

/-- The standing of an event in the store. -/
def standing (m : Memory) (id : String) : Option EventStatus :=
  (m.events.get? id).map (·.status)

/-- A request that leaves an event alone does not change its entry. -/
theorem event_answer {call : StoreCall} (h : ¬ call.Touches id) :
    (m.answer supply call).2.events.get? id = m.events.get? id := by
  have he := answer_effect m supply call
  generalize (m.answer supply call).2 = m' at he
  cases he with
  | claimed | reclaimed | completed => exact Table.get?_insert_of_ne fun heq => h heq.symm
  | none | opened | answered | attached | paymentFailed | refunded | begun | finished | givenUp =>
    rfl

/-- A request that leaves an event alone does not change its standing. -/
theorem standing_answer {call : StoreCall} (h : ¬ call.Touches id) :
    (m.answer supply call).2.standing id = m.standing id := by
  rw [standing, standing, event_answer h]

/-- The order in which a store lists the records does not matter to the standing of an event. -/
theorem Sound.standing_rearranged (h : m.Sound) (hr : m.Rearranged m') :
    m'.standing id = m.standing id := by
  rw [standing, standing, h.distinct.2.2.get?_perm hr.events]

/-- What becomes of a claim on an event. -/
inductive Recorded (m : Memory) (now : Instant) (id : String) : EventRecord → Memory → Prop
  | first (unseen : m.events.get? id = none) :
      Recorded m now id .recorded (m.insertEvent id (.first now))
  | again {e : EventEntry} (found : m.events.get? id = some e)
      (claimable : e.claimable now = true) :
      Recorded m now id .recorded (m.insertEvent id (e.reclaimed now))
  | passedOver {e : EventEntry} (found : m.events.get? id = some e)
      (held : e.claimable now = false) : Recorded m now id .duplicate m

theorem recorded (m : Memory) (now : Instant) (id : String) :
    m.Recorded now id (m.recordEvent now id).1 (m.recordEvent now id).2 := by
  unfold recordEvent
  cases he : m.events.get? id with
  | none => exact .first he
  | some e =>
    by_cases hc : e.claimable now = true
    · simp only [hc, if_true]
      exact .again he hc
    · simp only [hc, if_false, Bool.false_eq_true]
      exact .passedOver he (by simpa using hc)

/-- An event is claimed by whoever asks, unless it is processed or somebody is at work on it. -/
theorem standing_recordEvent {answer : EventRecord} {now : Instant}
    (h : m.recordEvent now id = (answer, m')) :
    (m.standing id = some .processed → answer = .duplicate) ∧
      (m.standing id = some .failed → answer = .recorded) ∧
      m'.standing id = if answer = .recorded then some .received else m.standing id := by
  have hr := m.recorded now id
  rw [h] at hr
  cases hr with
  | first unseen => simp [standing, unseen, EventEntry.first]
  | @again e found claimable =>
    have hp : e.status ≠ .processed := by
      intro hp
      simp [EventEntry.claimable, hp] at claimable
    simp [standing, found, EventEntry.reclaimed, hp]
  | @passedOver e found held =>
    have hf : e.status ≠ .failed := by
      intro hf
      simp [EventEntry.claimable, hf] at held
    simp [standing, found, hf]

/-- An event that is there is closed by whoever asks. -/
theorem answer_completeEvent {e : EventEntry} (found : m.events.get? id = some e)
    (error : Option String) :
    m.answer supply (.completeEvent id error) = (.ok (), m.insertEvent id (e.completed error)) := by
  simp only [answer, respond, completeEvent, event, found]
  rfl

theorem answer_completeEvent_of_unseen (unseen : m.events.get? id = none) (error : Option String) :
    m.answer supply (.completeEvent id error) =
      (.error (.notFound ("payment event " ++ id)), m) := by
  simp only [answer, respond, completeEvent, event, unseen]
  rfl

theorem standing_completeEvent {error : Option String} {answer : Except StoreError Unit}
    (h : m.answer supply (.completeEvent id error) = (answer, m')) (there : m.standing id ≠ none) :
    answer = .ok () ∧
      m'.standing id = some (if error = none then .processed else .failed) := by
  cases he : m.events.get? id with
  | none => simp [standing, he] at there
  | some e =>
    rw [answer_completeEvent he] at h
    obtain ⟨rfl, rfl⟩ := Prod.mk.inj h
    refine ⟨rfl, ?_⟩
    cases error <;> simp [standing, insertEvent, EventEntry.completed]

/-- Whatever leaves an event alone does not change its standing. -/
theorem standing_of_leaves {call : ServiceCall} {answer : call.Answer} (h : call.Leaves id)
    (hs : m.Serves call answer m') : m'.standing id = m.standing id := by
  cases call with
  | store call =>
    obtain ⟨supply, hanswer⟩ := hs
    have hm : m'.standing id = (m.answer supply call).2.standing id :=
      congrArg (fun r => standing r.2 id) hanswer.symm
    exact hm.trans (standing_answer h)
  | hedge | mail | enqueue | createPayment | clientSecret =>
    obtain rfl : m' = m := hs
    rfl

end Memory

/-! ## Handlers of one event -/

/-- What an exchange does about an event. -/
def Deed.of? (id : String) : Option (Exchange services) → Option Deed
  | some ⟨.store (.recordEvent id' _ _), .ok answer⟩ =>
    if id' = id then some (.claimed answer) else none
  | some ⟨.store (.completeEvent id' error), .ok _⟩ =>
    if id' = id then some (.closed error) else none
  | _ => none

/-- Whatever leaves an event alone does nothing about it. -/
theorem Deed.of?_eq_none {id : String} {call : ServiceCall} {answer : call.Answer}
    (h : call.Leaves id) : Deed.of? id (some ⟨call, answer⟩) = none := by
  cases call with
  | store call =>
    cases call with
    | recordEvent id' =>
      have hne : ¬ id' = id := h
      cases answer <;> simp [Deed.of?, hne]
    | completeEvent id' =>
      have hne : ¬ id' = id := h
      cases answer <;> simp [Deed.of?, hne]
    | _ => rfl
  | hedge | mail | enqueue | createPayment | clientSecret => rfl

/-- What a step of a handler may do about an event, by where the handler stood. The event stood as
`before` and stands as `after`, and the handler has to do `p` next. -/
inductive Move {α : Type} (id : String) (before after : Option EventStatus) (p : Service α) :
    Phase → Option Deed → Prop
  | none {phase : Phase} (next : Handles id phase p) (same : after = before) :
      Move id before after p phase none
  | claimed {answer : EventRecord} (next : Handles id (.recorded (.ok answer)) p)
      (processed : before = some .processed → answer = .duplicate)
      (failed : before = some .failed → answer = .recorded)
      (standing : after = if answer = .recorded then some .received else before) :
      Move id before after p .waiting (some (.claimed answer))
  | closed {error : Option String} (next : Handles id .finished p)
      (standing : after = some (if error = none then .processed else .failed)) :
      Move id before after p .working (some (.closed error))

/-- A handler records the event while it waits, and closes it while it works. -/
theorem Handles.step {α : Type} {id : String} {phase : Phase} {p p' : Service α} {m m' : Memory}
    {x : Option (Exchange services)} (h : Handles id phase p)
    (hs : Program.Step Memory.Serves p m x p' m')
    (there : phase = .working → m.standing id ≠ none) :
    Move id (m.standing id) (m'.standing id) p' phase (Deed.of? id x) := by
  cases h with
  | done => cases hs
  | log h =>
    cases hs
    exact .none h rfl
  | record h =>
    cases hs with
    | asked served =>
      obtain ⟨supply, hanswer⟩ := served
      obtain ⟨rfl, rfl⟩ := Prod.mk.inj hanswer
      obtain ⟨processed, failed, standing⟩ := @Memory.standing_recordEvent id m _ _ supply.now rfl
      simp only [Deed.of?, if_true]
      exact .claimed (h _) processed failed standing
  | close h =>
    cases hs with
    | asked served =>
      obtain ⟨supply, hanswer⟩ := served
      obtain ⟨rfl, standing⟩ := Memory.standing_completeEvent hanswer (there rfl)
      simp only [Deed.of?, if_true]
      exact .closed (h _) standing
  | @other _ spans call next leaves h =>
    cases hs with
    | @asked _ _ _ _ _ a served =>
      have hnone : Deed.of? id (some ⟨call, a⟩) = none := Deed.of?_eq_none leaves
      rw [hnone]
      exact .none (h _) (Memory.standing_of_leaves leaves served)

/-- A store in memory with the handlers of an event. -/
structure Handling (ι α : Type) where
  memory : Memory
  /-- What each handler has still to do. -/
  handlers : ι → Service α
  /-- What was done about the event, the latest first. -/
  notes : List (Note ι)

namespace Handling

variable {ι α : Type} [DecidableEq ι] {id : String} {h h' : Handling ι α}

/-- Nobody has seen the event yet. -/
structure Begins (id : String) (h : Handling ι α) : Prop where
  unseen : h.memory.events.get? id = none
  handlers : ∀ i, Handles id .waiting (h.handlers i)
  notes : h.notes = []

/-- A handler goes on. -/
inductive Step (id : String) : Handling ι α → Handling ι α → Prop
  | step {h : Handling ι α} {i : ι} {p : Service α} {m : Memory} {x : Option (Exchange services)}
      (hs : Program.Step Memory.Serves (h.handlers i) h.memory x p m) :
      Step id h
        { memory := m
          handlers := Function.update h.handlers i p
          notes := ((Deed.of? id x).map (Note.mk i)).toList ++ h.notes }

/-- A state that a store and the handlers of an event get into. -/
def Reachable (id : String) (h : Handling ι α) : Prop :=
  ∃ h₀, Begins id h₀ ∧ Relation.ReflTransGen (Step id) h₀ h

/-- The notes are in order, and say where the handlers and the event stand. -/
structure Kept (id : String) (h : Handling ι α) : Prop where
  orderly : Note.Orderly h.notes
  handlers : ∀ i, Handles id (Note.phase i h.notes) (h.handlers i)
  standing : h.memory.standing id = Note.standing h.notes

theorem Begins.kept (hb : Begins id h) : Kept id h where
  orderly := hb.notes ▸ .nil
  handlers := by
    rw [hb.notes]
    exact hb.handlers
  standing := by simp [Memory.standing, hb.unseen, hb.notes, Note.standing]

theorem Kept.step (hk : Kept id h) (hs : Step id h h') : Kept id h' := by
  cases hs with
  | @step i p m x hs =>
    have there : Note.phase i h.notes = .working → h.memory.standing id ≠ none :=
      fun hw => hk.standing ▸ Note.standing_ne_none hw
    have hmove := (hk.handlers i).step hs there
    generalize hphase : Note.phase i h.notes = phase at hmove
    generalize Deed.of? id x = deed at hmove
    -- The handlers that do not go on stand where they stood.
    have others {deed : Option Deed} {phase : Phase}
        (hown : Note.phase i ((deed.map (Note.mk i)).toList ++ h.notes) = phase)
        (hp : Handles id phase p) : ∀ j,
        Handles id (Note.phase j ((deed.map (Note.mk i)).toList ++ h.notes))
          (Function.update h.handlers i p j) := by
      intro j
      by_cases hj : j = i
      · subst hj
        rw [hown, Function.update_self]
        exact hp
      · rw [Function.update_of_ne hj, Note.phase_of_ne hj]
        exact hk.handlers j
    cases hmove with
    | none next same =>
      exact ⟨hk.orderly, others hphase next, same.trans hk.standing⟩
    | @claimed answer next processed failed standing =>
      rw [hk.standing] at processed failed standing
      refine ⟨.claimed hk.orderly hphase processed failed, others (by simp [Note.phase]) next, ?_⟩
      cases answer <;> exact standing
    | @closed error next standing =>
      refine ⟨.closed hk.orderly hphase, others (by simp [Note.phase]) next, ?_⟩
      cases error <;> exact standing

theorem Reachable.kept (hr : Reachable id h) : Kept id h := by
  obtain ⟨h₀, hb, hs⟩ := hr
  induction hs with
  | refl => exact hb.kept
  | tail _ hs ih => exact ih.step hs

/-! ## Running some handlers -/

/-- Let a handler go on, with the store answering from a supply. -/
def advance (id : String) (h : Handling ι α) (i : ι) (supply : Supply) : Handling ι α :=
  match h.handlers i with
  | .ask _ (.store call) next =>
    let (answer, m) := h.memory.answer supply call
    { memory := m
      handlers := Function.update h.handlers i (next answer)
      notes := ((Deed.of? id (some ⟨.store call, answer⟩)).map (Note.mk i)).toList ++ h.notes }
  | .log _ _ next => { h with handlers := Function.update h.handlers i next }
  | _ => h

/-- Let handlers go on, one after the other. -/
def run (id : String) (h : Handling ι α) (schedule : List (ι × Supply)) : Handling ι α :=
  schedule.foldl (fun h x => h.advance id x.1 x.2) h

theorem Reachable.advance (hr : Reachable id h) (i : ι) (supply : Supply) :
    Reachable id (h.advance id i supply) := by
  obtain ⟨h₀, hb, hs⟩ := hr
  unfold Handling.advance
  split
  · next spans call next hi =>
    refine ⟨h₀, hb, hs.tail (.step ?_)⟩
    rw [hi]
    exact .asked ⟨supply, rfl⟩
  · next spans event next hi =>
    refine ⟨h₀, hb, hs.tail (.step (x := none) ?_)⟩
    rw [hi]
    exact .logged
  · exact ⟨h₀, hb, hs⟩

theorem Reachable.run (hr : Reachable id h) (schedule : List (ι × Supply)) :
    Reachable id (h.run id schedule) := by
  induction schedule generalizing h with
  | nil => exact hr
  | cons x schedule ih => exact ih (hr.advance x.1 x.2)

end Handling

namespace Sample

/-- A payment has failed. -/
def failure : PaymentEvent where
  id := "event"
  kind := PaymentEvent.failed
  payload := .record [("id", .string "intent")]

/-- Three deliveries of the event, and the request that attaches the intent to its session. -/
def deliveries : Handling (Fin 4) (Except PaymentError Disposition) where
  memory := answered
  handlers i :=
    if i = 3 then (Service.store (.attachIntent ⟨⟨⟨1⟩⟩, none, "intent", none⟩)).bind fun _ =>
      .done (.ok .ignored)
    else processEvent .standard failure
  notes := []

/-- The first delivery comes too early and fails, the second takes the event over after 302 seconds
and processes it, and then the first one reports its failure. -/
def replayed : Handling (Fin 4) (Except PaymentError Disposition) :=
  deliveries.run "event" <|
    [(0, 0), (0, 1), (1, 302), (3, 303), (1, 304), (1, 304), (1, 305), (0, 306), (0, 306),
      (2, 307)].map fun (i, time) => (i, supply time)

theorem begins_deliveries : Handling.Begins "event" deliveries where
  unseen := rfl
  handlers i := by
    by_cases hi : i = 3
    · simp only [deliveries, hi, if_true]
      exact .other not_false fun _ => .done _ (by decide)
    · simp only [deliveries, hi, if_false]
      exact handles_processEvent .standard failure
  notes := rfl

theorem reachable_replayed : Handling.Reachable "event" replayed :=
  Handling.Reachable.run ⟨_, begins_deliveries, .refl⟩ _

end Sample

/-! ## Deliveries after an event was processed -/

namespace Handling

variable {ι α : Type} [DecidableEq ι] {id : String} {h : Handling ι α}

/-- **Replay.** Some handlers of an event work on it over a store in memory, in any order and at any
times, and one of them completes it without an error. The later deliveries are passed over exactly
until a completion with an error is the latest one. The first such completion is by another handler
that was at work on the event when it was processed; so if there was none, every later delivery is
passed over. -/
theorem replay_iff_late_failure {i : ι} {later earlier : List (Note ι)} (hr : Reachable id h)
    (hn : h.notes = later ++ ⟨i, .closed none⟩ :: earlier) :
    (Note.PassedOver later ↔
      ∀ x y j answer, later = y ++ ⟨j, .claimed answer⟩ :: x → Note.lastFailure x = none) ∧
    (∀ x y j error, later = y ++ ⟨j, .closed (some error)⟩ :: x → Note.Unfailed x →
      j ≠ i ∧ Note.phase j earlier = .working) ∧
    ((∀ j, j ≠ i → Note.phase j earlier ≠ .working) → Note.PassedOver later) := by
  have ho : Note.Orderly (later ++ ⟨i, .closed none⟩ :: earlier) := hn ▸ hr.kept.orderly
  exact ⟨Note.passedOver_iff ho, fun x y j error heq hx => Note.late_of_first_failure ho heq hx,
    Note.passedOver_of_alone ho⟩

/-- In the sample the first handler was at work when the second one processed the event. -/
theorem replay_iff_late_failure_sample : ∃ error earlier, Sample.replayed.notes =
    [⟨2, .claimed .recorded⟩, ⟨0, .closed (some error)⟩] ++ ⟨1, .closed none⟩ :: earlier ∧
      Note.phase 0 earlier = .working := by
  obtain ⟨error, earlier, hn⟩ : ∃ error earlier, Sample.replayed.notes =
      [⟨2, .claimed .recorded⟩, ⟨0, .closed (some error)⟩] ++ ⟨1, .closed none⟩ :: earlier :=
    ⟨_, _, rfl⟩
  obtain ⟨-, late, -⟩ := replay_iff_late_failure Sample.reachable_replayed hn
  exact ⟨error, earlier, hn, (late [] [_] 0 error rfl fun _ _ => List.not_mem_nil).2⟩

/-- An event that was processed is handled again after a late failure. -/
theorem processed_event_replayed :
    ¬ ∀ (h : Handling (Fin 4) (Except PaymentError Disposition)) (i : Fin 4)
        (later earlier : List (Note (Fin 4))),
      Reachable "event" h → h.notes = later ++ ⟨i, .closed none⟩ :: earlier →
        Note.PassedOver later := by
  intro hall
  obtain ⟨error, earlier, hn⟩ : ∃ error earlier, Sample.replayed.notes =
      [⟨2, .claimed .recorded⟩, ⟨0, .closed (some error)⟩] ++ ⟨1, .closed none⟩ :: earlier :=
    ⟨_, _, rfl⟩
  cases hall _ _ _ _ Sample.reachable_replayed hn 2 .recorded List.mem_cons_self

end Handling

end RiskReport

import Mathlib.Logic.Function.Basic
import RiskReport.Proofs.Payment.Errand
import RiskReport.Proofs.Service

/-!
# One report and one receipt for a session

Any number of payment events are dealt with over one store in memory: several deliveries of one
event, or several events of one payment, in any order, and some of them are abandoned on the way.
`Desk` is the store with the handlers of these events and with the log of their errands.

A handler may only go on to the receipt if the store has told it that the report of the session is
new. The store says so once for a session, since afterwards the session has a report. The claims on
events run out, and nothing here depends on them. The logs that come about so are the orderly ones
(`Errand.Orderly`), and what is shown about receipts is shown about these (`Orderly.settled`).

**Theorem (`receipts_single`).** The report of a session is begun at most once, and at most one
receipt is sent for it, when the report is there.
-/

namespace RiskReport

/-! ## Logs of errands -/

namespace Errand

variable {ι : Type} [DecidableEq ι] {log : List (ι × Errand)} {i j : ι} {s : SessionId}

/-- The latest errand of a handler, by a log that begins with what was done last. -/
def latest (i : ι) : List (ι × Errand) → Option Errand
  | [] => none
  | (j, errand) :: rest => if j = i then some errand else latest i rest

/-- The sessions whose reports were begun. -/
def begun : List (ι × Errand) → List SessionId
  | [] => []
  | (_, .began s) :: rest => s :: begun rest
  | _ :: rest => begun rest

/-- The sessions that were looked up. -/
def lookups : List (ι × Errand) → List SessionId
  | [] => []
  | (_, .lookedUp s) :: rest => s :: lookups rest
  | _ :: rest => lookups rest

/-- The session that a handler has looked up last. -/
def lookup (i : ι) : List (ι × Errand) → Option SessionId
  | [] => none
  | (j, .lookedUp s) :: rest => if j = i then some s else lookup i rest
  | _ :: rest => lookup i rest

/-- The sessions that the receipts are for. A receipt is for the session that its sender has looked
up last, since that says whom it goes to. -/
def billed : List (ι × Errand) → List (Option SessionId)
  | [] => []
  | (i, .sentReceipt) :: rest => lookup i rest :: billed rest
  | _ :: rest => billed rest

/-- The logs that can come about. -/
inductive Orderly : List (ι × Errand) → Prop
  | nil : Orderly []
  | began {i : ι} {s : SessionId} {log : List (ι × Errand)} (h : Orderly log)
      (first : latest i log = none) (new : s ∉ begun log) : Orderly ((i, .began s) :: log)
  | lookedUp {i : ι} {s : SessionId} {log : List (ι × Errand)} (h : Orderly log)
      (own : latest i log = some (.began s)) : Orderly ((i, .lookedUp s) :: log)
  | sentReceipt {i : ι} {s : SessionId} {log : List (ι × Errand)} (h : Orderly log)
      (own : latest i log = some (.lookedUp s)) : Orderly ((i, .sentReceipt) :: log)

/-- A handler has begun the report of a session and not yet sent the receipt. -/
def Owes (log : List (ι × Errand)) (i : ι) (s : SessionId) : Prop :=
  latest i log = some (.began s) ∨ latest i log = some (.lookedUp s)

theorem latest_cons_of_ne {e : Errand} (h : j ≠ i) : latest j ((i, e) :: log) = latest j log := by
  simp [latest, Ne.symm h]

/-- The latest errand decides for its handler, and the others owe what they owed. -/
theorem owes_cons {e : Errand} :
    Owes ((i, e) :: log) j s ↔
      j = i ∧ (e = .began s ∨ e = .lookedUp s) ∨ j ≠ i ∧ Owes log j s := by
  by_cases h : j = i
  · simp [Owes, latest, h]
  · simp [Owes, latest, h, Ne.symm h]

theorem lookup_of_latest (h : latest i log = some (.lookedUp s)) : lookup i log = some s := by
  induction log with
  | nil => cases h
  | cons entry log ih =>
    obtain ⟨j, e⟩ := entry
    by_cases hj : j = i
    · simp only [latest, hj, if_true, Option.some.injEq] at h
      simp [lookup, h, hj]
    · have hrest := ih (by simpa [latest, hj] using h)
      cases e <;> simp [lookup, hj, hrest]

theorem mem_lookups (h : lookup i log = some s) : s ∈ lookups log := by
  induction log with
  | nil => cases h
  | cons entry log ih =>
    obtain ⟨j, _ | t | _⟩ := entry
    case lookedUp =>
      by_cases hj : j = i
      · have hts : t = s := by simpa [lookup, hj] using h
        exact hts ▸ List.mem_cons_self
      · exact List.mem_cons_of_mem t (ih (by simpa [lookup, hj] using h))
    all_goals exact ih h

/-- No errand is run twice for a session, and who owes a receipt. -/
structure Settled (log : List (ι × Errand)) : Prop where
  begun : (begun log).Nodup
  lookups : (lookups log).Nodup
  billed : (billed log).Nodup
  lookups_begun : ∀ s ∈ Errand.lookups log, s ∈ Errand.begun log
  billed_lookups : ∀ x ∈ Errand.billed log, ∃ s ∈ Errand.lookups log, x = some s
  owed : ∀ i s, Owes log i s → s ∈ Errand.begun log ∧ some s ∉ Errand.billed log
  unseen : ∀ i s, latest i log = some (.began s) → s ∉ Errand.lookups log
  apart : ∀ i j s, Owes log i s → Owes log j s → i = j

theorem settled_nil : Settled ([] : List (ι × Errand)) where
  begun := List.nodup_nil
  lookups := List.nodup_nil
  billed := List.nodup_nil
  lookups_begun := by simp [Errand.lookups]
  billed_lookups := by simp [Errand.billed]
  owed := by simp [Owes, latest]
  unseen := by simp [latest]
  apart := by simp [Owes, latest]

/-- A session that is new to the log is begun; the handler owes its receipt, and nobody else
does. -/
theorem Settled.began (h : Settled log) (new : s ∉ Errand.begun log) :
    Settled ((i, .began s) :: log) := by
  have hlookups : s ∉ Errand.lookups log := fun hs => new (h.lookups_begun s hs)
  have hbilled : some s ∉ Errand.billed log := by
    intro hs
    obtain ⟨t, ht, heq⟩ := h.billed_lookups _ hs
    exact hlookups (Option.some.inj heq ▸ ht)
  have owes (j : ι) (t : SessionId) (hj : Owes ((i, .began s) :: log) j t) :
      j = i ∧ t = s ∨ t ≠ s ∧ Owes log j t := by
    rcases owes_cons.1 hj with ⟨rfl, ⟨⟨⟩⟩ | ⟨⟨⟩⟩⟩ | ⟨-, hj'⟩
    · exact .inl ⟨rfl, rfl⟩
    · exact .inr ⟨fun ht => new (ht ▸ (h.owed j t hj').1), hj'⟩
  exact {
    begun := List.nodup_cons.2 ⟨new, h.begun⟩
    lookups := h.lookups
    billed := h.billed
    lookups_begun := fun t ht => List.mem_cons_of_mem s (h.lookups_begun t ht)
    billed_lookups := h.billed_lookups
    owed := by
      intro j t hj
      rcases owes j t hj with ⟨-, rfl⟩ | ⟨-, hj⟩
      · exact ⟨List.mem_cons_self, hbilled⟩
      · exact ⟨List.mem_cons_of_mem s (h.owed j t hj).1, (h.owed j t hj).2⟩
    unseen := by
      intro j t hj
      by_cases hji : j = i
      · have hst : s = t := by simpa [latest, hji] using hj
        exact hst ▸ hlookups
      · exact h.unseen j t (latest_cons_of_ne hji ▸ hj)
    apart := by
      intro j k t hj hk
      rcases owes j t hj with ⟨rfl, rfl⟩ | ⟨hts, hj⟩ <;>
        rcases owes k t hk with ⟨rfl, ht⟩ | ⟨hts', hk⟩
      · rfl
      · exact absurd rfl hts'
      · exact absurd ht hts
      · exact h.apart j k t hj hk }

/-- A session is looked up by the handler that has begun its report, and the same receipts are owed
as before. -/
theorem Settled.lookedUp (h : Settled log) (own : latest i log = some (.began s)) :
    Settled ((i, .lookedUp s) :: log) := by
  have owes (j : ι) (t : SessionId) (hj : Owes ((i, .lookedUp s) :: log) j t) : Owes log j t := by
    rcases owes_cons.1 hj with ⟨rfl, ⟨⟨⟩⟩ | ⟨⟨⟩⟩⟩ | ⟨-, hj'⟩
    · exact .inl own
    · exact hj'
  exact {
    begun := h.begun
    lookups := List.nodup_cons.2 ⟨h.unseen i s own, h.lookups⟩
    billed := h.billed
    lookups_begun := by
      intro t ht
      rcases List.mem_cons.1 ht with rfl | ht
      · exact (h.owed i _ (.inl own)).1
      · exact h.lookups_begun t ht
    billed_lookups := by
      intro x hx
      obtain ⟨t, ht, rfl⟩ := h.billed_lookups x hx
      exact ⟨t, List.mem_cons_of_mem s ht, rfl⟩
    owed := fun j t hj => h.owed j t (owes j t hj)
    unseen := by
      intro j t hj
      by_cases hji : j = i
      · simp [latest, hji] at hj
      · rw [latest_cons_of_ne hji] at hj
        have hts : t ≠ s := fun ht => hji (h.apart j i s (.inl (ht ▸ hj)) (.inl own))
        exact List.not_mem_cons_of_ne_of_not_mem hts (h.unseen j t hj)
    apart := fun j k t hj hk => h.apart j k t (owes j t hj) (owes k t hk) }

/-- A receipt is sent by the handler that has looked the session up; whoever still owes a receipt is
another handler, so it is for another session. -/
theorem Settled.sentReceipt (h : Settled log) (own : latest i log = some (.lookedUp s)) :
    Settled ((i, .sentReceipt) :: log) := by
  have hbilled : Errand.billed ((i, .sentReceipt) :: log) = some s :: Errand.billed log := by
    rw [Errand.billed, lookup_of_latest own]
  have hlookups : s ∈ Errand.lookups log := mem_lookups (lookup_of_latest own)
  have owes (j : ι) (t : SessionId) (hj : Owes ((i, .sentReceipt) :: log) j t) :
      t ≠ s ∧ Owes log j t := by
    rcases owes_cons.1 hj with ⟨-, ⟨⟨⟩⟩ | ⟨⟨⟩⟩⟩ | ⟨hji, hj'⟩
    exact ⟨fun ht => hji (h.apart j i s (ht ▸ hj') (.inr own)), hj'⟩
  exact {
    begun := h.begun
    lookups := h.lookups
    billed := hbilled ▸ List.nodup_cons.2 ⟨(h.owed i s (.inr own)).2, h.billed⟩
    lookups_begun := h.lookups_begun
    billed_lookups := by
      rw [hbilled]
      intro x hx
      rcases List.mem_cons.1 hx with rfl | hx
      · exact ⟨s, hlookups, rfl⟩
      · exact h.billed_lookups x hx
    owed := by
      intro j t hj
      obtain ⟨hts, hj⟩ := owes j t hj
      obtain ⟨ht, hnot⟩ := h.owed j t hj
      rw [hbilled]
      exact ⟨ht, by simp [hts, hnot]⟩
    unseen := by
      intro j t hj
      by_cases hji : j = i
      · simp [latest, hji] at hj
      · exact h.unseen j t (latest_cons_of_ne hji ▸ hj)
    apart := fun j k t hj hk => h.apart j k t (owes j t hj).2 (owes k t hk).2 }

theorem Orderly.settled (h : Orderly log) : Settled log := by
  induction h with
  | nil => exact settled_nil
  | began _ _ new ih => exact ih.began new
  | lookedUp _ own ih => exact ih.lookedUp own
  | sentReceipt _ own ih => exact ih.sentReceipt own

/-- The log after a step of a handler. -/
def noted (log : List (ι × Errand)) (i : ι) (x : Option (Exchange services)) :
    List (ι × Errand) :=
  ((x.bind of?).map fun e => (i, e)).toList ++ log

theorem latest_noted (x : Option (Exchange services)) :
    latest i (noted log i x) = (x.bind of?).or (latest i log) := by
  unfold noted
  cases x.bind of? with
  | none => rfl
  | some e => simp [latest]

theorem latest_noted_of_ne (x : Option (Exchange services)) (h : j ≠ i) :
    latest j (noted log i x) = latest j log := by
  unfold noted
  cases x.bind of? with
  | none => rfl
  | some e => exact latest_cons_of_ne h

/-- A handler that does what the order of errands allows, over a store that is served with new
identifiers, keeps the log in order. The reports that were begun are there. -/
theorem Orderly.run {m m' : Memory} {call : ServiceCall} {answer : call.Answer} (h : Orderly log)
    (known : ∀ s ∈ begun log, m.Begun s) (sound : m.Sound)
    (allowed : order.Allows (latest i log) call) (served : m.ServesFresh call answer m') :
    Orderly (noted log i (some ⟨call, answer⟩)) ∧
      ∀ s ∈ begun (noted log i (some ⟨call, answer⟩)), m'.Begun s := by
  have lasts : ∀ s ∈ begun log, m'.Begun s := fun s hs => served.evolves.begun sound (known s hs)
  cases call with
  | store call =>
    cases call with
    | initialiseReport intent =>
      obtain ⟨supply, fresh, hanswer⟩ := served
      rcases answer with e | r | r
      · exact ⟨h, lasts⟩
      · obtain ⟨hnew, hbegun⟩ := Memory.begun_of_created hanswer
        refine ⟨.began h allowed fun hr => hnew (known _ hr), fun s hs => ?_⟩
        rcases List.mem_cons.1 hs with rfl | hs
        · exact hbegun
        · exact lasts s hs
      · exact ⟨h, lasts⟩
    | getSession id => exact ⟨.lookedUp h allowed, lasts⟩
    | _ => exact ⟨h, lasts⟩
  | mail message =>
    cases message with
    | receipt receipt =>
      obtain ⟨s, own⟩ := allowed
      exact ⟨.sentReceipt h own, lasts⟩
    | reportReady message => exact allowed.elim
  | hedge | enqueue | createPayment | clientSecret => exact ⟨h, lasts⟩

end Errand

/-! ## Handlers of many events -/

/-- A store in memory with the handlers of payment events. -/
structure Desk (ι : Type) where
  memory : Memory
  /-- What each handler has still to do. -/
  handlers : ι → Service (Except PaymentError Disposition)
  /-- The errands that were run, the latest first. -/
  log : List (ι × Errand)

namespace Desk

variable {ι : Type} [DecidableEq ι] {d d' : Desk ι}

/-- Some payment events are to be dealt with over some store. -/
def opening (price : Price) (m : Memory) (events : ι → PaymentEvent) : Desk ι where
  memory := m
  handlers i := processEvent price (events i)
  log := []

/-- A handler goes on, or something else happens to the store. -/
inductive Step : Desk ι → Desk ι → Prop
  | handler {d : Desk ι} {i : ι} {p : Service (Except PaymentError Disposition)} {m : Memory}
      {x : Option (Exchange services)}
      (hs : Program.Step Memory.ServesFresh (d.handlers i) d.memory x p m) :
      Step d
        { memory := m, handlers := Function.update d.handlers i p, log := Errand.noted d.log i x }
  | other {d : Desk ι} {m : Memory} (hs : Memory.Step Supply.Fresh d.memory m) :
      Step d { d with memory := m }

/-- A state that some events and a sound store get into. -/
def Reachable (d : Desk ι) : Prop :=
  ∃ price m events, m.Sound ∧ Relation.ReflTransGen Step (opening price m events) d

/-- The log is in order, and says which reports were begun and what each handler did last. -/
structure Kept (d : Desk ι) : Prop where
  memory : d.memory.Sound
  orderly : Errand.Orderly d.log
  begun : ∀ s ∈ Errand.begun d.log, d.memory.Begun s
  handlers : ∀ i, (d.handlers i).Follows Errand.order (Errand.latest i d.log)

theorem kept_opening {price : Price} {m : Memory} {events : ι → PaymentEvent} (h : m.Sound) :
    (opening price m events).Kept where
  memory := h
  orderly := .nil
  begun := by simp [opening, Errand.begun]
  handlers i := follows_processEvent price (events i)

theorem Kept.step (h : d.Kept) (hs : Step d d') : d'.Kept := by
  cases hs with
  | other hs =>
    have he := hs.evolves
    exact {
      memory := he.sound h.memory
      orderly := h.orderly
      begun := fun s hs => he.begun h.memory (h.begun s hs)
      handlers := h.handlers }
  | @handler i p m x hs =>
    have handlers (hown : p.Follows Errand.order (Errand.latest i (Errand.noted d.log i x)))
        (j : ι) : (Function.update d.handlers i p j).Follows Errand.order
          (Errand.latest j (Errand.noted d.log i x)) := by
      by_cases hj : j = i
      · subst hj
        rw [Function.update_self]
        exact hown
      · rw [Function.update_of_ne hj, Errand.latest_noted_of_ne x hj]
        exact h.handlers j
    rcases (h.handlers i).step hs with ⟨rfl, rfl, hp⟩ | ⟨call, answer, rfl, allowed, served, hp⟩
    · exact ⟨h.memory, h.orderly, h.begun, handlers hp⟩
    · obtain ⟨orderly, begun⟩ := h.orderly.run h.begun h.memory allowed served
      refine ⟨served.evolves.sound h.memory, orderly, begun, handlers ?_⟩
      rw [Errand.latest_noted]
      exact hp

theorem Reachable.kept (h : d.Reachable) : d.Kept := by
  obtain ⟨price, m, events, hm, hs⟩ := h
  induction hs with
  | refl => exact kept_opening hm
  | tail _ hs ih => exact ih.step hs

/-! ## Running some handlers -/

/-- Let a handler go on, if what the store takes from outside is new. Mail is delivered, and reports
are queued. -/
def advance (d : Desk ι) (i : ι) (supply : Supply) : Desk ι :=
  if supply.Fresh d.memory then
    match d.handlers i with
    | .ask _ (.store call) next =>
      let (answer, m) := d.memory.answer supply call
      { memory := m
        handlers := Function.update d.handlers i (next answer)
        log := Errand.noted d.log i (some ⟨.store call, answer⟩) }
    | .ask _ (.mail message) next =>
      { d with
        handlers := Function.update d.handlers i (next (.ok ()))
        log := Errand.noted d.log i (some ⟨.mail message, .ok ()⟩) }
    | .ask _ (.enqueue _) next =>
      { d with handlers := Function.update d.handlers i (next (.ok ())) }
    | .log _ _ next => { d with handlers := Function.update d.handlers i next }
    | _ => d
  else d

/-- Let handlers go on, one after the other. -/
def run (d : Desk ι) (schedule : List (ι × Supply)) : Desk ι :=
  schedule.foldl (fun d x => d.advance x.1 x.2) d

theorem Reachable.tail (h : d.Reachable) (hs : Step d d') : d'.Reachable := by
  obtain ⟨price, m, events, hm, hd⟩ := h
  exact ⟨price, m, events, hm, hd.tail hs⟩

theorem Reachable.advance (h : d.Reachable) (i : ι) (supply : Supply) :
    (d.advance i supply).Reachable := by
  unfold Desk.advance
  split_ifs with fresh
  · split
    · next spans call next hi =>
      exact h.tail (.handler (hi ▸ .asked ⟨supply, fresh, rfl⟩))
    · next spans message next hi => exact h.tail (.handler (hi ▸ .asked rfl))
    · next spans r next hi =>
      exact h.tail (.handler (x := some ⟨.enqueue r, .ok ()⟩) (hi ▸ .asked rfl))
    · next spans event next hi => exact h.tail (.handler (x := none) (hi ▸ .logged))
    · exact h
  · exact h

theorem Reachable.run (h : d.Reachable) (schedule : List (ι × Supply)) :
    (d.run schedule).Reachable := by
  induction schedule generalizing d with
  | nil => exact h
  | cons x schedule ih => exact ih (h.advance x.1 x.2)

end Desk

namespace Sample

/-- Two different events say that the visitor has paid. -/
def payments : Desk (Fin 2) :=
  .opening .standard addressed fun i =>
    { id := toString i
      kind := PaymentEvent.succeeded
      payload := .record [("id", .string "intent")] }

/-- Both events are recorded before the first one begins the report. The second one has nothing to
begin, and the first one is about to send the receipt. -/
def confirmed : Desk (Fin 2) :=
  payments.run <| [(0, 4), (1, 5), (0, 6), (1, 7), (0, 8), (0, 9), (1, 10), (1, 11), (1, 12)].map
    fun (i, time) => (i, supply time)

theorem reachable_confirmed : confirmed.Reachable :=
  Desk.Reachable.run ⟨_, _, _, reachable_addressed.sound, .refl⟩ _

end Sample

/-! ## One of each -/

namespace Desk

variable {ι : Type} [DecidableEq ι] {d : Desk ι}

/-- **Receipts.** Some payment events are dealt with over a store in memory, each by a handler of
its own, in any order and each as far as it gets; meanwhile others may use the store. For no session
is a report begun twice, or the session looked up twice for a receipt, or a receipt sent twice; and
a session is looked up, and a receipt sent, only when its report is there. -/
theorem receipts_single (h : d.Reachable) :
    (Errand.begun d.log).Nodup ∧ (Errand.lookups d.log).Nodup ∧ (Errand.billed d.log).Nodup ∧
      (∀ x ∈ Errand.billed d.log, ∃ s ∈ Errand.lookups d.log, x = some s) ∧
      (∀ i spans id next, d.handlers i = .ask spans (.store (.getSession id)) next →
        id ∉ Errand.lookups d.log ∧ d.memory.Begun id) ∧
      ∀ i spans message next, d.handlers i = .ask spans (.mail message) next →
        ∃ id, Errand.lookup i d.log = some id ∧ some id ∉ Errand.billed d.log ∧
          d.memory.Begun id := by
  have hk := h.kept
  have hs := hk.orderly.settled
  refine ⟨hs.begun, hs.lookups, hs.billed, hs.billed_lookups, ?_, ?_⟩
  · intro i spans id next hi
    have own : Errand.latest i d.log = some (.began id) := (hi ▸ hk.handlers i).1
    exact ⟨hs.unseen i id own, hk.begun id (hs.owed i id (.inl own)).1⟩
  · intro i spans message next hi
    cases message with
    | receipt receipt =>
      obtain ⟨id, own⟩ : ∃ id, Errand.latest i d.log = some (.lookedUp id) :=
        (hi ▸ hk.handlers i).1
      obtain ⟨hbegun, hnew⟩ := hs.owed i id (.inr own)
      exact ⟨id, Errand.lookup_of_latest own, hnew, hk.begun id hbegun⟩
    | reportReady message => exact (hi ▸ hk.handlers i).1.elim

/-- In the sample the first handler is about to send the receipt, which nobody has sent, and the
report is there. The second one is done. -/
theorem receipts_single_sample :
    (∃ spans message next, Sample.confirmed.handlers 0 = .ask spans (.mail message) next) ∧
      Sample.confirmed.handlers 1 = .done (.ok .processed) ∧
      some ⟨⟨1⟩⟩ ∉ Errand.billed Sample.confirmed.log ∧ Sample.confirmed.memory.Begun ⟨⟨1⟩⟩ := by
  have hmail : ∃ spans message next,
      Sample.confirmed.handlers 0 = .ask spans (.mail message) next := ⟨_, _, _, rfl⟩
  obtain ⟨spans, message, next, hi⟩ := hmail
  obtain ⟨-, -, -, -, -, receipt⟩ := receipts_single Sample.reachable_confirmed
  obtain ⟨id, hlookup, hnew, hbegun⟩ := receipt 0 spans message next hi
  obtain rfl : ⟨⟨1⟩⟩ = id := Option.some.inj hlookup
  exact ⟨⟨spans, message, next, hi⟩, rfl, hnew, hbegun⟩

end Desk

end RiskReport

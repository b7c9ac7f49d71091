import Mathlib.Logic.Function.Basic
import RiskReport.Payment.Checkout
import RiskReport.Proofs.Protocol
import RiskReport.Proofs.Service

/-!
# One intent for a session

Any number of visitors start payments over one store in memory, several of them for one session, as
from two windows of a browser. Each looks at the session, asks the payment service for an intent or
for a secret, attaches the intent, and perhaps asks again; anything may happen in between, and the
payment service may fail at any time. `Till` is the store with these checkouts and with the stage
that each of them has got to.

What a checkout knows at a stage is said by `CheckoutStage.Holds`, and it stays true whatever the
others do, since an intent that is attached to a session stays attached (`Evolves.attached`). That
two intents which the payment service prepares are different is not needed: an intent is attached
only to a session that has none.

**Theorem (`tickets_agree`).** All tickets of a session carry the secret of the one intent that is
attached to it, at most one of them is new, and the session keeps the intent, its customer and its
address from then on.
-/

namespace RiskReport

open Program

/-! ## Attached intents -/

namespace Memory

variable {m m' : Memory} {id : SessionId} {intent : String}

/-- An intent is attached to a session. -/
def Attached (m : Memory) (id : SessionId) (intent : String) : Prop :=
  ∃ s, m.sessions.get? id = some s ∧ s.attachedIntent? = some intent

/-- A session has one intent at most. -/
theorem Attached.unique {intent' : String} (h : m.Attached id intent)
    (h' : m.Attached id intent') : intent = intent' := by
  obtain ⟨s, found, hs⟩ := h
  obtain ⟨s', found', hs'⟩ := h'
  obtain rfl := Option.some.inj (found.symm.trans found')
  exact Option.some.inj (hs.symm.trans hs')

/-- An intent that is attached stays attached. -/
theorem Evolves.attached (he : m.Evolves m') (h : m.Sound) (ha : m.Attached id intent) :
    m'.Attached id intent := by
  obtain ⟨s, found, hs⟩ := ha
  obtain ⟨s', found', ht⟩ := he.session_turns h found
  obtain ⟨href, -, -⟩ := ht.intent_lasts (by rw [hs]; rfl)
  refine ⟨s', found', ?_⟩
  rwa [Session.attachedIntent?, href]

/-- An intent with a name is attached to a session that has none, and then the session has it. -/
theorem Sound.attached_of_answer {supply : Supply} {p : NewIntent} {s : Session} (h : m.Sound)
    (named : p.intent ≠ "")
    (ha : m.answer supply (.attachIntent p) = (.ok (.attached s), m')) :
    (∀ intent, ¬ m.Attached p.session intent) ∧ m'.Attached p.session p.intent := by
  obtain ⟨t, found, ⟨-, ⟨⟩, -⟩ | ⟨free, s', -, rfl, hs'⟩⟩ :=
    attachIntent_eq_ok (respond_of_answer ha)
  constructor
  · rintro intent ⟨t', found', ht⟩
    obtain rfl := Option.some.inj (found.symm.trans found')
    rw [free] at ht
    cases ht
  · have hid : t.id = p.session := h.sessions.key _ _ found
    have key : s'.id = p.session := by rw [hs', ← hid]
    rw [← key]
    refine ⟨s', Table.get?_insert_self, ?_⟩
    simp [hs', Session.attachedIntent?, Text.nonEmpty?, named]

/-- A session that is handed back instead is the one in the store. -/
theorem found_of_alreadyAttached {supply : Supply} {p : NewIntent} {s : Session}
    (ha : m.answer supply (.attachIntent p) = (.ok (.alreadyAttached s), m')) :
    m' = m ∧ m.sessions.get? p.session = some s := by
  obtain ⟨t, found, ⟨-, ⟨⟩, hm⟩ | ⟨-, s', ⟨⟩, -⟩⟩ := attachIntent_eq_ok (respond_of_answer ha)
  exact ⟨hm, found⟩

end Memory

/-! ## The stages of a checkout -/

/-- What the payment service answers: an intent that it prepares has a name, and there is one secret
for each name. It may refuse anything. -/
def Vouched (secrets : String → String) : (call : ServiceCall) → call.Answer → Prop
  | .createPayment _, .ok intent => intent.id ≠ "" ∧ intent.clientSecret = secrets intent.id
  | .clientSecret intent, .ok secret => secret = secrets intent
  | _, _ => True

/-- How far a checkout has got. -/
inductive CheckoutStage where
  | begins
  /-- The session has this intent. -/
  | met (intent : String)
  /-- The payment service has told the secret of the session's intent. -/
  | told (intent secret : String)
  /-- The payment service has prepared an intent. -/
  | prepared (intent : PaymentIntent)
  /-- The intent that was prepared is attached. -/
  | attached (intent : PaymentIntent)

namespace CheckoutStage

/-- The stage of a checkout that has just seen the session. -/
def seen (s : Session) : CheckoutStage :=
  match s.attachedIntent? with
  | some intent => met intent
  | none => begins

/-- The stage after an exchange. -/
def next : CheckoutStage → (call : ServiceCall) → call.Answer → CheckoutStage
  | _, .store (.getSession _), .ok (some s) => seen s
  | _, .store (.attachIntent _), .ok (.alreadyAttached s) => seen s
  | prepared intent, .store (.attachIntent _), .ok (.attached _) => attached intent
  | _, .createPayment _, .ok intent => prepared intent
  | met intent, .clientSecret _, .ok secret => told intent secret
  | stage, _, _ => stage

/-- What the checkout of a session may ask for. -/
def order (id : SessionId) : Protocol services CheckoutStage where
  Allows
    | stage, .store (.getSession id') => stage = begins ∧ id' = id
    | stage, .store (.attachIntent p) =>
      ∃ intent, stage = prepared intent ∧ p.session = id ∧ p.intent = intent.id
    | stage, .createPayment _ => stage = begins ∨ ∃ intent, stage = met intent
    | stage, .clientSecret intent => stage = met intent
    | _, _ => False
  next := next

/-- What a checkout yields at a stage: a ticket that is new carries the secret of the intent that
was attached, and a ticket for an intent that was there before the secret that was told. -/
def Yields : CheckoutStage → Except PaymentError Ticket → Prop
  | stage, .ok ⟨secret, false⟩ => ∃ intent, stage = attached intent ∧ intent.clientSecret = secret
  | stage, .ok ⟨secret, true⟩ => ∃ intent, stage = told intent secret
  | _, .error _ => True

/-- What a checkout of a session knows at a stage. -/
def Holds (secrets : String → String) (m : Memory) (id : SessionId) : CheckoutStage → Prop
  | begins => True
  | met intent => m.Attached id intent
  | told intent secret => m.Attached id intent ∧ secret = secrets intent
  | prepared intent => intent.id ≠ "" ∧ intent.clientSecret = secrets intent.id
  | attached intent => m.Attached id intent.id ∧ intent.clientSecret = secrets intent.id

end CheckoutStage

open CheckoutStage

/-! ## Checkouts go by their stages -/

section

variable {id : SessionId}

theorem keeps_winningSecret (winner : Session) (unused : PaymentIntent) :
    (winningSecret winner unused).Keeps (order id) Yields (seen winner) := by
  refine keeps_report.2 ?_
  unfold seen
  cases winner.attachedIntent? with
  | none => exact trivial
  | some intent =>
    refine Keeps.after rfl fun answer => ?_
    rcases answer with e | secret
    · exact trivial
    · exact ⟨intent, rfl⟩

/-- A checkout that has found no secret prepares an intent and attaches it. -/
theorem keeps_attachNewPayment {payment : NewPayment} {stage : CheckoutStage}
    (hid : payment.session = id) (hs : stage = begins ∨ ∃ intent, stage = met intent) :
    (attachNewPayment payment).Keeps (order id) Yields stage := by
  refine Keeps.after hs fun answer => ?_
  rcases answer with e | intent
  · exact trivial
  · have hprepared : next stage (.createPayment payment) (.ok intent) = prepared intent := by
      rcases hs with rfl | ⟨_, rfl⟩ <;> rfl
    change Keeps _ _ _ (next stage (.createPayment payment) (.ok intent))
    rw [hprepared]
    refine Keeps.after ⟨intent, rfl, hid, rfl⟩ fun answer => ?_
    rcases answer with e | s | winner
    · exact trivial
    · exact ⟨intent, rfl, rfl⟩
    · exact keeps_winningSecret winner intent

/-- The checkout of a session goes by its stages and yields what they say. The checkout is a
variable, since to look for a request in it would be to trim a text that is not known. -/
theorem keeps_beginCheckout {price : Price} {id : SessionId} {email : String}
    {p : Service (Except PaymentError Ticket)} (hp : p = beginCheckout price id email) :
    p.Keeps (order id) Yields begins := by
  unfold beginCheckout at hp
  generalize Text.trimmed? email = address at hp
  subst hp
  refine keeps_traced ?_
  cases address with
  | none => exact trivial
  | some email =>
    refine Keeps.after ⟨rfl, rfl⟩ fun answer => ?_
    rcases answer with e | _ | session
    · exact trivial
    · exact trivial
    · change Keeps _ _ ((existingSecret? session).bind _) (seen session)
      unfold existingSecret? seen
      cases session.attachedIntent? with
      | none => exact keeps_attachNewPayment rfl (.inl rfl)
      | some intent =>
        refine Keeps.after rfl fun answer => ?_
        rcases answer with e | secret
        · change Keeps _ _ (attachNewPayment _) (met intent)
          exact keeps_attachNewPayment rfl (.inr ⟨intent, rfl⟩)
        · exact ⟨intent, rfl⟩

end

/-! ## What a checkout knows -/

section

variable {secrets : String → String} {m m' : Memory} {id : SessionId} {stage : CheckoutStage}

/-- A store that has evolved takes nothing back of what a checkout knows. -/
theorem CheckoutStage.Holds.lasts (h : stage.Holds secrets m id) (sound : m.Sound)
    (he : m.Evolves m') : stage.Holds secrets m' id := by
  cases stage with
  | begins => trivial
  | met intent => exact he.attached sound h
  | told intent secret => exact ⟨he.attached sound h.1, h.2⟩
  | prepared intent => exact h
  | attached intent => exact ⟨he.attached sound h.1, h.2⟩

theorem holds_seen {s : Session} (found : m.sessions.get? id = some s) :
    (seen s).Holds secrets m id := by
  unfold seen
  cases hs : s.attachedIntent? with
  | none => trivial
  | some intent => exact ⟨s, found, hs⟩

/-- After an exchange that its order allows a checkout knows what its next stage says. If it has
attached an intent now, nobody had attached one before. -/
theorem CheckoutStage.Holds.run {call : ServiceCall} {answer : call.Answer}
    (h : stage.Holds secrets m id) (sound : m.Sound) (allowed : (order id).Allows stage call)
    (served : m.ServesFresh call answer m') (vouched : Vouched secrets call answer) :
    (next stage call answer).Holds secrets m' id ∧
      ∀ intent, next stage call answer = attached intent →
        stage = attached intent ∨ ∀ other, ¬ m.Attached id other := by
  have lasts : stage.Holds secrets m' id := h.lasts sound served.evolves
  -- Where a stage cannot be the one in question, there is nothing to show of it.
  have unchanged : stage.Holds secrets m' id ∧ ∀ intent, stage = attached intent →
      stage = attached intent ∨ ∀ other, ¬ m.Attached id other :=
    ⟨lasts, fun _ hs => .inl hs⟩
  have seen_ne (s : Session) (intent : PaymentIntent) : seen s ≠ attached intent := by
    unfold seen
    split <;> simp
  cases call with
  | store call =>
    cases call with
    | getSession id' =>
      obtain ⟨rfl, rfl⟩ := allowed
      obtain ⟨supply, fresh, hanswer⟩ := served
      rcases answer with e | _ | s
      · exact unchanged
      · exact unchanged
      · obtain ⟨hfound, rfl⟩ := Prod.mk.inj hanswer
        exact ⟨holds_seen (Except.ok.inj hfound), fun intent hs => absurd hs (seen_ne s intent)⟩
    | attachIntent p =>
      obtain ⟨intent, rfl, rfl, hintent⟩ := allowed
      obtain ⟨named, hsecret⟩ := h
      obtain ⟨supply, fresh, hanswer⟩ := served
      rcases answer with e | s | s
      · exact unchanged
      · obtain ⟨free, hattached⟩ := sound.attached_of_answer (hintent ▸ named) hanswer
        rw [hintent] at hattached
        exact ⟨⟨hattached, hsecret⟩, fun _ _ => .inr free⟩
      · obtain ⟨rfl, found⟩ := Memory.found_of_alreadyAttached hanswer
        exact ⟨holds_seen found, fun intent hs => absurd hs (seen_ne s intent)⟩
    | _ => exact allowed.elim
  | createPayment payment =>
    rcases answer with e | intent
    · cases stage <;> exact unchanged
    · rcases allowed with rfl | ⟨_, rfl⟩
      · exact ⟨vouched, fun _ hs => nomatch hs⟩
      · exact ⟨vouched, fun _ hs => nomatch hs⟩
  | clientSecret intent =>
    obtain rfl : stage = met intent := allowed
    rcases answer with e | secret
    · exact unchanged
    · exact ⟨⟨lasts, vouched⟩, fun _ hs => nomatch hs⟩
  | hedge | mail | enqueue => exact allowed.elim

end

/-! ## Checkouts of many visitors -/

/-- A store in memory with the checkouts of some visitors. -/
structure Till (ι : Type) where
  memory : Memory
  /-- The session that a visitor pays for. -/
  session : ι → SessionId
  /-- What each checkout has still to do. -/
  checkouts : ι → Service (Except PaymentError Ticket)
  /-- The stage that each checkout has got to. -/
  stage : ι → CheckoutStage

namespace Till

variable {ι : Type} [DecidableEq ι] {secrets : String → String} {t t' : Till ι}

/-- Some visitors, each with a session and an address, start their payments. -/
def opening (price : Price) (m : Memory) (visits : ι → SessionId × String) : Till ι where
  memory := m
  session i := (visits i).1
  checkouts i := beginCheckout price (visits i).1 (visits i).2
  stage _ := begins

/-- A checkout has made an exchange. -/
def noted (t : Till ι) (i : ι) : Option (Exchange services) → ι → CheckoutStage
  | some ⟨call, answer⟩ => Function.update t.stage i (next (t.stage i) call answer)
  | none => t.stage

/-- A checkout goes on, or something else happens to the store. -/
inductive Step (secrets : String → String) : Till ι → Till ι → Prop
  | checkout {t : Till ι} {i : ι} {p : Service (Except PaymentError Ticket)} {m : Memory}
      {x : Option (Exchange services)}
      (hs : Program.Step (fun m call answer m' =>
        m.ServesFresh call answer m' ∧ Vouched secrets call answer) (t.checkouts i) t.memory x p m) :
      Step secrets t
        { t with memory := m, checkouts := Function.update t.checkouts i p, stage := t.noted i x }
  | other {t : Till ι} {m : Memory} (hs : Memory.Step Supply.Fresh t.memory m) :
      Step secrets t { t with memory := m }

/-- A state that some visitors and a sound store get into. -/
def Reachable (secrets : String → String) (t : Till ι) : Prop :=
  ∃ price m visits, m.Sound ∧ Relation.ReflTransGen (Step secrets) (opening price m visits) t

/-- Every checkout goes by its stages, what it knows is so, and of the checkouts of a session one at
most has attached an intent. -/
structure Kept (secrets : String → String) (t : Till ι) : Prop where
  memory : t.memory.Sound
  checkouts : ∀ i, (t.checkouts i).Keeps (order (t.session i)) Yields (t.stage i)
  holds : ∀ i, (t.stage i).Holds secrets t.memory (t.session i)
  apart : ∀ i j a b, t.session i = t.session j → t.stage i = attached a → t.stage j = attached b →
    i = j

omit [DecidableEq ι] in
/-- Checkouts that all begin know nothing, and none of them has attached an intent. -/
theorem kept_of_begins {price : Price} {m : Memory} {session : ι → SessionId}
    {checkouts : ι → Service (Except PaymentError Ticket)} (h : m.Sound)
    (hc : ∀ i, ∃ email, checkouts i = beginCheckout price (session i) email) :
    Kept secrets ⟨m, session, checkouts, fun _ => begins⟩ where
  memory := h
  checkouts i := by
    obtain ⟨email, hi⟩ := hc i
    exact keeps_beginCheckout hi
  holds _ := trivial
  apart := fun _ _ _ _ _ hi => nomatch hi

omit [DecidableEq ι] in
theorem kept_opening {price : Price} {m : Memory} {visits : ι → SessionId × String}
    (h : m.Sound) : (opening price m visits).Kept secrets :=
  kept_of_begins h fun i => ⟨(visits i).2, rfl⟩

/-- A checkout makes an exchange. -/
theorem Kept.exchange {i : ι} {p : Service (Except PaymentError Ticket)} {m : Memory}
    {call : ServiceCall} {answer : call.Answer} (h : t.Kept secrets)
    (allowed : (order (t.session i)).Allows (t.stage i) call)
    (served : t.memory.ServesFresh call answer m) (vouched : Vouched secrets call answer)
    (hp : p.Keeps (order (t.session i)) Yields (next (t.stage i) call answer)) :
    Kept secrets
      { t with
        memory := m
        checkouts := Function.update t.checkouts i p
        stage := t.noted i (some ⟨call, answer⟩) } := by
  obtain ⟨holds, first⟩ := (h.holds i).run h.memory allowed served vouched
  have self : t.noted i (some ⟨call, answer⟩) i = next (t.stage i) call answer :=
    Function.update_self ..
  have others {j : ι} (hj : j ≠ i) : t.noted i (some ⟨call, answer⟩) j = t.stage j :=
    Function.update_of_ne hj ..
  -- Whoever has attached an intent before has done so to another session.
  have alone {j : ι} {a b : PaymentIntent} (hj : j ≠ i) (hs : t.session j = t.session i)
      (hattached : next (t.stage i) call answer = attached a) : t.stage j ≠ attached b := by
    intro hb
    rcases first a hattached with hi | free
    · exact hj (h.apart j i b a hs hb hi)
    · have hholds := h.holds j
      rw [hb, hs] at hholds
      exact free _ hholds.1
  refine ⟨served.evolves.sound h.memory, fun j => ?_, fun j => ?_, fun j k a b hs hj hk => ?_⟩
  · by_cases hj : j = i
    · subst hj
      simp only [Function.update_self, self]
      exact hp
    · simp only [Function.update_of_ne hj, others hj]
      exact h.checkouts j
  · by_cases hj : j = i
    · subst hj
      simp only [self]
      exact holds
    · simp only [others hj]
      exact (h.holds j).lasts h.memory served.evolves
  · dsimp only at hs hj hk
    by_cases hji : j = i <;> by_cases hki : k = i
    · rw [hji, hki]
    · subst hji
      rw [self] at hj
      rw [others hki] at hk
      exact absurd hk (alone hki hs.symm hj)
    · subst hki
      rw [others hji] at hj
      rw [self] at hk
      exact absurd hj (alone hji hs hk)
    · rw [others hji] at hj
      rw [others hki] at hk
      exact h.apart j k a b hs hj hk

omit [DecidableEq ι] in
/-- Something else happens to the store. -/
theorem Kept.other {m : Memory} (h : t.Kept secrets) (hs : Memory.Step Supply.Fresh t.memory m) :
    Kept secrets { t with memory := m } :=
  have he : t.memory.Evolves m := hs.evolves
  ⟨he.sound h.memory, h.checkouts, fun i => (h.holds i).lasts h.memory he, h.apart⟩

theorem Kept.step (h : t.Kept secrets) (hs : Step secrets t t') : t'.Kept secrets := by
  cases hs with
  | @checkout i p m x hs =>
    rcases (h.checkouts i).step hs with ⟨rfl, rfl, hp⟩ | ⟨call, answer, rfl, allowed, hserved, hp⟩
    · have checkouts (j : ι) : (Function.update t.checkouts i p j).Keeps (order (t.session j))
          Yields (t.stage j) := by
        by_cases hj : j = i
        · subst hj
          rwa [Function.update_self]
        · rw [Function.update_of_ne hj]
          exact h.checkouts j
      exact ⟨h.memory, checkouts, h.holds, h.apart⟩
    · exact h.exchange allowed hserved.1 hserved.2 hp
  | other hs => exact h.other hs

theorem Kept.steps (h : t.Kept secrets) (hs : Relation.ReflTransGen (Step secrets) t t') :
    t'.Kept secrets := by
  induction hs with
  | refl => exact h
  | tail _ hs ih => exact ih.step hs

theorem Reachable.kept (h : t.Reachable secrets) : t.Kept secrets := by
  obtain ⟨price, m, visits, hm, hs⟩ := h
  exact (kept_opening hm).steps hs

/-! ## What lasts -/

/-- A session is there after a step, as what it has turned into. -/
theorem Step.session_turns (hs : Step secrets t t') (h : t.memory.Sound) {id : SessionId}
    {s : Session} (found : t.memory.sessions.get? id = some s) :
    ∃ s', t'.memory.sessions.get? id = some s' ∧ s.Turns s' := by
  cases hs with
  | @checkout i p m x hs =>
    generalize t.checkouts i = q at hs
    cases hs with
    | asked served => exact served.1.evolves.session_turns h found
    | logged => exact ⟨s, found, .same⟩
  | other hs => exact hs.evolves.session_turns h found

/-- A session with an intent keeps it, with the customer and the address. -/
theorem Kept.intent_lasts (h : t.Kept secrets) (hs : Relation.ReflTransGen (Step secrets) t t')
    {id : SessionId} {s : Session} (found : t.memory.sessions.get? id = some s)
    (taken : s.attachedIntent?.isSome) :
    ∃ s', t'.memory.sessions.get? id = some s' ∧ s'.intentRef = s.intentRef ∧
      s'.customerRef = s.customerRef ∧ s'.email = s.email := by
  induction hs with
  | refl => exact ⟨s, found, rfl, rfl, rfl⟩
  | tail hs hstep ih =>
    obtain ⟨s', found', href, hcustomer, hemail⟩ := ih
    obtain ⟨s'', found'', ht⟩ := hstep.session_turns (h.steps hs).memory found'
    have taken' : s'.attachedIntent?.isSome := by rwa [Session.attachedIntent?, href]
    obtain ⟨href', hcustomer', hemail'⟩ := ht.intent_lasts taken'
    exact ⟨s'', found'', href'.trans href, hcustomer'.trans hcustomer, hemail'.trans hemail⟩

/-- A checkout that is done stays done, and pays for the same session. -/
theorem done_lasts (hs : Relation.ReflTransGen (Step secrets) t t') :
    t'.session = t.session ∧ ∀ i r, t.checkouts i = .done r → t'.checkouts i = .done r := by
  induction hs with
  | refl => exact ⟨rfl, fun _ _ h => h⟩
  | tail _ hstep ih =>
    refine ⟨?_, fun i r hi => ?_⟩
    · cases hstep with
      | checkout => exact ih.1
      | other => exact ih.1
    · have hdone := ih.2 i r hi
      cases hstep with
      | @checkout j _ _ _ hs =>
        have hne : i ≠ j := by
          rintro rfl
          rw [hdone] at hs
          cases hs
        exact (Function.update_of_ne hne ..).trans hdone
      | other => exact hdone

/-! ## Tickets -/

omit [DecidableEq ι] in
/-- A checkout that is done yields what its stage says. -/
theorem Kept.yields (h : t.Kept secrets) {i : ι} {r : Except PaymentError Ticket}
    (hi : t.checkouts i = .done r) : (t.stage i).Yields r := by
  have hkeeps := h.checkouts i
  rw [hi] at hkeeps
  exact hkeeps

omit [DecidableEq ι] in
/-- A ticket of a checkout carries the secret of the intent that its session has. -/
theorem Kept.ticket (h : t.Kept secrets) {i : ι} {ticket : Ticket}
    (hi : t.checkouts i = .done (.ok ticket)) :
    ∃ intent, t.memory.Attached (t.session i) intent ∧ ticket.clientSecret = secrets intent := by
  have hyields := h.yields hi
  have hholds := h.holds i
  obtain ⟨secret, _ | _⟩ := ticket
  · obtain ⟨intent, hs, rfl⟩ := hyields
    rw [hs] at hholds
    exact ⟨intent.id, hholds.1, hholds.2⟩
  · obtain ⟨intent, hs⟩ := hyields
    rw [hs] at hholds
    exact ⟨intent, hholds.1, hholds.2⟩

omit [DecidableEq ι] in
/-- Of the checkouts of a session one at most yields a ticket that is new. -/
theorem Kept.new_single (h : t.Kept secrets) {i j : ι} {a b : String}
    (hs : t.session i = t.session j) (hi : t.checkouts i = .done (.ok ⟨a, false⟩))
    (hj : t.checkouts j = .done (.ok ⟨b, false⟩)) : i = j := by
  obtain ⟨x, hx, -⟩ := h.yields hi
  obtain ⟨y, hy, -⟩ := h.yields hj
  exact h.apart i j x y hs hx hy

/-! ## Running some checkouts -/

/-- Let a checkout go on, if what the store takes from outside is new. The payment service prepares
the intent of a name. -/
def advance (secrets : String → String) (t : Till ι) (i : ι) (supply : Supply) (name : String) :
    Till ι :=
  if supply.Fresh t.memory ∧ name ≠ "" then
    match t.checkouts i with
    | .ask _ (.store call) next =>
      let (answer, m) := t.memory.answer supply call
      { t with
        memory := m
        checkouts := Function.update t.checkouts i (next answer)
        stage := t.noted i (some ⟨.store call, answer⟩) }
    | .ask _ (.createPayment payment) next =>
      let answer : Except PaymentError PaymentIntent := .ok ⟨name, none, secrets name⟩
      { t with
        checkouts := Function.update t.checkouts i (next answer)
        stage := t.noted i (some ⟨.createPayment payment, answer⟩) }
    | .ask _ (.clientSecret intent) next =>
      let answer : Except PaymentError String := .ok (secrets intent)
      { t with
        checkouts := Function.update t.checkouts i (next answer)
        stage := t.noted i (some ⟨.clientSecret intent, answer⟩) }
    | .log _ _ next => { t with checkouts := Function.update t.checkouts i next }
    | _ => t
  else t

/-- Let checkouts go on, one after the other. -/
def run (secrets : String → String) (t : Till ι) (schedule : List (ι × Supply × String)) :
    Till ι :=
  schedule.foldl (fun t x => t.advance secrets x.1 x.2.1 x.2.2) t

theorem Reachable.tail (h : t.Reachable secrets) (hs : Step secrets t t') :
    t'.Reachable secrets := by
  obtain ⟨price, m, visits, hm, ht⟩ := h
  exact ⟨price, m, visits, hm, ht.tail hs⟩

theorem Reachable.advance (h : t.Reachable secrets) (i : ι) (supply : Supply) (name : String) :
    (t.advance secrets i supply name).Reachable secrets := by
  unfold Till.advance
  split_ifs with hfresh
  · obtain ⟨fresh, named⟩ := hfresh
    split
    · next spans call next hi =>
      exact h.tail (.checkout (hi ▸ .asked ⟨⟨supply, fresh, rfl⟩, trivial⟩))
    · next spans payment next hi =>
      exact h.tail (.checkout (hi ▸ .asked ⟨rfl, named, rfl⟩))
    · next spans intent next hi =>
      exact h.tail (.checkout (hi ▸ .asked ⟨rfl, rfl⟩))
    · next spans event next hi => exact h.tail (.checkout (x := none) (hi ▸ .logged))
    · exact h
  · exact h

theorem Reachable.run (h : t.Reachable secrets) (schedule : List (ι × Supply × String)) :
    (t.run secrets schedule).Reachable secrets := by
  induction schedule generalizing t with
  | nil => exact h
  | cons x schedule ih => exact ih (h.advance x.1 x.2.1 x.2.2)

end Till

namespace Sample

/-- The secret of an intent. -/
def secretOf (intent : String) : String := intent ++ " secret"

/-- A visitor starts to pay in two windows, a left one (`false`) and a right one (`true`). -/
def windows : Till Bool :=
  .opening .standard answered fun _ => (⟨⟨1⟩⟩, "visitor@example.com")

/-- Both windows see a session without an intent, and for both one is prepared. The left window
attaches its own; the right one is too late and is told the secret of the other. -/
def ticketed : Till Bool :=
  windows.run secretOf
    [(false, supply 3, "x"), (true, supply 4, "x"), (false, supply 5, "first"),
      (true, supply 6, "second"), (false, supply 7, "x"), (true, supply 8, "x"),
      (true, supply 9, "x"), (true, supply 10, "x")]

theorem reachable_ticketed : ticketed.Reachable secretOf :=
  Till.Reachable.run
    ⟨_, _, _, (Memory.Reachable.sound (reachable_answered.mono fun _ _ h => h.toFresh)), .refl⟩ _

end Sample

namespace Till

variable {ι : Type} [DecidableEq ι] {secrets : String → String} {t : Till ι}

/-- **Tickets.** Some visitors start payments over a store in memory that others use as well, each
as far as it gets and in any order, and the payment service may refuse anything. Whoever gets a
ticket pays for a session with an intent, and all tickets of the session carry the secret of that
intent; one of them at most is new. From then on the session keeps the intent, its customer and its
address, and the tickets stay what they are. -/
theorem tickets_agree (h : t.Reachable secrets) :
    (∀ i ticket, t.checkouts i = .done (.ok ticket) →
      ∃ intent, t.memory.Attached (t.session i) intent ∧
        ∀ j other, t.session j = t.session i → t.checkouts j = .done (.ok other) →
          other.clientSecret = secrets intent) ∧
      (∀ i j a b, t.session i = t.session j → t.checkouts i = .done (.ok ⟨a, false⟩) →
        t.checkouts j = .done (.ok ⟨b, false⟩) → i = j) ∧
      ∀ t', Relation.ReflTransGen (Step secrets) t t' →
        (t'.session = t.session ∧ ∀ i r, t.checkouts i = .done r → t'.checkouts i = .done r) ∧
        ∀ id s, t.memory.sessions.get? id = some s → s.attachedIntent?.isSome →
          ∃ s', t'.memory.sessions.get? id = some s' ∧ s'.intentRef = s.intentRef ∧
            s'.customerRef = s.customerRef ∧ s'.email = s.email := by
  have hk := h.kept
  refine ⟨fun i ticket hi => ?_, fun i j a b hs hi hj => hk.new_single hs hi hj, fun t' ht => ?_⟩
  · obtain ⟨intent, hattached, -⟩ := hk.ticket hi
    refine ⟨intent, hattached, fun j other hs hj => ?_⟩
    obtain ⟨intent', hattached', hsecret⟩ := hk.ticket hj
    rw [hs] at hattached'
    rw [hsecret, hattached'.unique hattached]
  · exact ⟨done_lasts ht, fun id s found taken => hk.intent_lasts ht found taken⟩

/-- In the sample both windows have a ticket, only the left one is new, and both carry the
secret of the intent of the left window. -/
theorem tickets_agree_sample :
    Sample.ticketed.checkouts false = .done (.ok ⟨"first secret", false⟩) ∧
      Sample.ticketed.checkouts true = .done (.ok ⟨"first secret", true⟩) ∧
      ∃ intent, Sample.ticketed.memory.Attached ⟨⟨1⟩⟩ intent ∧
        Sample.secretOf intent = "first secret" := by
  have left : Sample.ticketed.checkouts false = .done (.ok ⟨"first secret", false⟩) := rfl
  have right : Sample.ticketed.checkouts true = .done (.ok ⟨"first secret", true⟩) := rfl
  obtain ⟨tickets, -, -⟩ := tickets_agree Sample.reachable_ticketed
  obtain ⟨intent, hattached, hsecrets⟩ := tickets false _ left
  exact ⟨left, right, intent, hattached, (hsecrets true _ rfl right).symm⟩

end Till

end RiskReport

import RiskReport.Program

/-!
# Programs among other programs

A program that shares a state with others goes on one step at a time: it logs an event, or a request
of it is answered. `Program.Step` is one such step. It is told how requests are answered, and it
says which request was answered and how, its `Exchange`, so that whoever puts programs together can
keep a record of them.

`Program.Asks` says of a program which requests it may ever ask. `Program.outcome` is what a program
yields that has the state for itself, and the state that it leaves; what it logs is left out.
-/

namespace RiskReport

/-- A request with its answer. -/
abbrev Exchange (I : Interface) := (call : I.Call) × I.Answer call

namespace Program

variable {I : Interface} {α β σ : Type}

/-! ## The requests of a program -/

/-- Every request that the program may ask has a property. -/
def Asks (P : I.Call → Prop) : Program I α → Prop
  | done _ => True
  | ask _ call next => P call ∧ ∀ a, (next a).Asks P
  | log _ _ next => next.Asks P

theorem asks_done {P : I.Call → Prop} (a : α) : (done a : Program I α).Asks P :=
  trivial

theorem asks_request {P : I.Call → Prop} {call : I.Call} (h : P call) : (request call).Asks P :=
  ⟨h, fun _ => trivial⟩

theorem asks_report {P : I.Call → Prop} (event : Log.Event) :
    (report event : Program I Unit).Asks P :=
  trivial

theorem Asks.bind {P : I.Call → Prop} {p : Program I α} {f : α → Program I β} (h : p.Asks P)
    (hf : ∀ a, (f a).Asks P) : (p.bind f).Asks P := by
  induction p with
  | done a => exact hf a
  | ask spans call next ih => exact ⟨h.1, fun a => ih a (h.2 a)⟩
  | log spans event next ih => exact ih h

theorem Asks.within {P : I.Call → Prop} {p : Program I α} (outer : List Log.Span) (h : p.Asks P) :
    (p.within outer).Asks P := by
  induction p with
  | done a => trivial
  | ask spans call next ih => exact ⟨h.1, fun a => ih a (h.2 a)⟩
  | log spans event next ih => exact ih h

theorem Asks.imp {P Q : I.Call → Prop} {p : Program I α} (h : p.Asks P)
    (hpq : ∀ call, P call → Q call) : p.Asks Q := by
  induction p with
  | done a => trivial
  | ask spans call next ih => exact ⟨hpq call h.1, fun a => ih a (h.2 a)⟩
  | log spans event next ih => exact ih h

/-! ## Steps -/

/-- A program goes on by one step. -/
inductive Step (serves : σ → (call : I.Call) → I.Answer call → σ → Prop) :
    Program I α → σ → Option (Exchange I) → Program I α → σ → Prop
  | asked {spans : List Log.Span} {call : I.Call} {next : I.Answer call → Program I α} {s s' : σ}
      {a : I.Answer call} (h : serves s call a s') :
      Step serves (ask spans call next) s (some ⟨call, a⟩) (next a) s'
  | logged {spans : List Log.Span} {event : Log.Event} {next : Program I α} {s : σ} :
      Step serves (log spans event next) s none next s

variable {serves : σ → (call : I.Call) → I.Answer call → σ → Prop} {s s' : σ}
  {x : Option (Exchange I)}

/-- A program that is followed by another goes on first. -/
theorem Step.of_bind {p : Program I α} {f : α → Program I β} {q : Program I β}
    (h : Step serves (p.bind f) s x q s') :
    (∃ a, p = done a ∧ Step serves (f a) s x q s') ∨
      ∃ p', Step serves p s x p' s' ∧ q = p'.bind f := by
  cases p with
  | done a => exact .inl ⟨a, rfl, h⟩
  | ask spans call next =>
    cases h with
    | asked hs => exact .inr ⟨_, .asked hs, rfl⟩
  | log spans event next =>
    cases h with
    | logged => exact .inr ⟨_, .logged, rfl⟩

/-- What a step of a program may be whose requests are known. -/
theorem Asks.step {P : I.Call → Prop} {p p' : Program I α} (h : p.Asks P)
    (hs : Step serves p s x p' s') :
    p'.Asks P ∧
      (x = none ∧ s' = s ∨ ∃ call a, P call ∧ x = some ⟨call, a⟩ ∧ serves s call a s') := by
  cases hs with
  | asked hs => exact ⟨h.2 _, .inr ⟨_, _, h.1, rfl, hs⟩⟩
  | logged => exact ⟨h, .inl ⟨rfl, rfl⟩⟩

/-! ## Outcomes -/

/-- What a program yields whose requests are answered at once, and the state after it. -/
def outcome (answer : (call : I.Call) → σ → I.Answer call × σ) (p : Program I α) (s : σ) : α × σ :=
  ((p.runWith answer s).1, (p.runWith answer s).2.1)

variable {answer : (call : I.Call) → σ → I.Answer call × σ}

@[simp] theorem outcome_done (a : α) (s : σ) : (done a).outcome answer s = (a, s) := rfl

@[simp] theorem outcome_request (call : I.Call) (s : σ) :
    (request call).outcome answer s = answer call s := rfl

@[simp] theorem outcome_report (event : Log.Event) (s : σ) :
    (report event).outcome answer s = ((), s) := rfl

@[simp] theorem outcome_bind (p : Program I α) (f : α → Program I β) (s : σ) :
    (p.bind f).outcome answer s =
      (f (p.outcome answer s).1).outcome answer (p.outcome answer s).2 := by
  induction p generalizing s with
  | done a => rfl
  | ask spans call next ih => exact ih _ _
  | log spans event next ih => exact ih s

@[simp] theorem outcome_within (p : Program I α) (outer : List Log.Span) (s : σ) :
    (p.within outer).outcome answer s = p.outcome answer s := by
  induction p generalizing s with
  | done a => rfl
  | ask spans call next ih => exact ih _ _
  | log spans event next ih => exact ih s

/-- A span around a program does not change what it yields. -/
@[simp] theorem outcome_traced {ε : Type} (span : Log.Span) (wording : ε → String)
    (p : Program I (Except ε α)) (s : σ) :
    (p.traced span wording).outcome answer s = p.outcome answer s := by
  rw [traced, outcome_within, outcome_bind]
  cases h : (p.outcome answer s).1 <;> exact Prod.ext h.symm rfl

end Program

end RiskReport

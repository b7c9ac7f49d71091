import RiskReport.Log

/-!
# Programs over requests

The services of the library wait for stores, providers and clocks. A `Program` is such a service
as a value: it is done, or it asks a request and goes on with the answer, or it logs an event.
Nothing else happens between two requests, so a request is the only place at which other work can
come between or at which a program can be abandoned. A request carries the spans that are open
when it is asked, so that whatever serves it logs inside them.

`Program.bind` runs one program after another, `Program.serve` replaces each request by the program
that serves it, and `Program.runWith` answers the requests from a state.
-/

namespace RiskReport

open Log

/-- The requests that a program may ask, and what each is answered with. -/
structure Interface where
  Call : Type
  Answer : Call → Type

/-- A program that asks requests of an interface before it is done. -/
inductive Program (I : Interface) (α : Type) where
  | done (a : α)
  | ask (spans : List Span) (call : I.Call) (next : I.Answer call → Program I α)
  | log (spans : List Span) (event : Event) (next : Program I α)

namespace Program

variable {I J : Interface} {α β σ : Type}

/-- Go on with the result of a program. -/
def bind : Program I α → (α → Program I β) → Program I β
  | done a, f => f a
  | ask spans call next, f => ask spans call fun r => (next r).bind f
  | log spans event next, f => log spans event (next.bind f)

instance : Monad (Program I) where
  pure := done
  bind := bind

/-- Ask one request. -/
def request (call : I.Call) : Program I (I.Answer call) :=
  ask [] call done

/-- Log one event. -/
def report (event : Event) : Program I Unit :=
  log [] event (done ())

/-- The program inside further spans, the outermost first. -/
def within (outer : List Span) : Program I α → Program I α
  | done a => done a
  | ask spans call next => ask (outer ++ spans) call fun r => (next r).within outer
  | log spans event next => log (outer ++ spans) event (next.within outer)

/-- The program inside a span that reports the program's failure. -/
def traced {ε : Type} (span : Span) (wording : ε → String)
    (p : Program I (Except ε α)) : Program I (Except ε α) :=
  within [span] <| p.bind fun
    | .error e => do
      report (.failure span.target (wording e))
      return .error e
    | .ok a => done (.ok a)

/-- Replace each request by the program that serves it. -/
def serve (serving : (call : I.Call) → Program J (I.Answer call)) : Program I α → Program J α
  | done a => done a
  | ask spans call next =>
    ((serving call).within spans).bind fun r => (next r).serve serving
  | log spans event next => log spans event (next.serve serving)

/-- Run a program whose requests are answered at once from a state; the events are collected in
order. -/
def runWith (answer : (call : I.Call) → σ → I.Answer call × σ) :
    Program I α → σ → α × σ × List Entry
  | done a, s => (a, s, [])
  | ask _ call next, s =>
    let (r, s) := answer call s
    (next r).runWith answer s
  | log spans event next, s =>
    let (a, s, entries) := next.runWith answer s
    (a, s, ⟨spans, event⟩ :: entries)

@[simp] theorem pure_eq (a : α) : (pure a : Program I α) = done a := rfl

@[simp] theorem bind_eq (p : Program I α) (f : α → Program I β) : p >>= f = p.bind f := rfl

@[simp] theorem done_bind (a : α) (f : α → Program I β) : (done a).bind f = f a := rfl

@[simp] theorem bind_done (p : Program I α) : p.bind done = p := by
  induction p with
  | done a => rfl
  | ask spans call next ih => simp [bind, ih]
  | log spans event next ih => simp [bind, ih]

theorem bind_assoc {γ : Type} (p : Program I α) (f : α → Program I β) (g : β → Program I γ) :
    (p.bind f).bind g = p.bind fun a => (f a).bind g := by
  induction p with
  | done a => rfl
  | ask spans call next ih => simp [bind, ih]
  | log spans event next ih => simp [bind, ih]

@[simp] theorem within_nil (p : Program I α) : p.within [] = p := by
  induction p with
  | done a => rfl
  | ask spans call next ih => simp [within, ih]
  | log spans event next ih => simp [within, ih]

end Program

end RiskReport

import RiskReport.Proofs.Program

/-!
# Programs that keep to a protocol

`Program.Asks` says which requests a program may ever ask. What a program may ask next often depends
on what it has been answered so far: a receipt may be sent once, and only after a report was begun.
A `Protocol` says so by states and by the way from one state to the next, and `Program.Keeps` says
of a program that it keeps to a protocol from some state on, whatever it is answered. A program that
is put together from others keeps to a protocol if its parts do, each from where the one before it
has stopped (`keeps_bind`).
-/

namespace RiskReport

/-- Which requests may be asked in a state, and to which state an answer leads. -/
structure Protocol (I : Interface) (σ : Type) where
  Allows : σ → I.Call → Prop
  next : σ → (call : I.Call) → I.Answer call → σ

namespace Program

variable {I : Interface} {α β σ τ : Type} {P : Protocol I σ} {s : σ}

/-- From some state on the program asks only what the protocol allows, and whenever it is done, its
result and the state after it have a property. -/
def Keeps (P : Protocol I σ) (Q : σ → α → Prop) : Program I α → σ → Prop
  | done a, s => Q s a
  | ask _ call next, s => P.Allows s call ∧ ∀ a, (next a).Keeps P Q (P.next s call a)
  | log _ _ next, s => next.Keeps P Q s

/-- A program keeps to a protocol, whatever its result. -/
abbrev Follows (P : Protocol I σ) (p : Program I α) (s : σ) : Prop :=
  p.Keeps P (fun _ _ => True) s

theorem follows_done (a : α) : (done a : Program I α).Follows P s :=
  trivial

theorem follows_report (event : Log.Event) : (report event : Program I Unit).Follows P s :=
  trivial

theorem keeps_bind {Q : σ → β → Prop} {p : Program I α} {f : α → Program I β} :
    (p.bind f).Keeps P Q s ↔ p.Keeps P (fun s a => (f a).Keeps P Q s) s := by
  induction p generalizing s with
  | done a => exact Iff.rfl
  | ask spans call next ih => exact and_congr_right fun _ => forall_congr' fun a => ih a
  | log spans event next ih => exact ih

theorem keeps_within {Q : σ → α → Prop} {p : Program I α} {outer : List Log.Span} :
    (p.within outer).Keeps P Q s ↔ p.Keeps P Q s := by
  induction p generalizing s with
  | done a => exact Iff.rfl
  | ask spans call next ih => exact and_congr_right fun _ => forall_congr' fun a => ih a
  | log spans event next ih => exact ih

theorem Keeps.imp {Q R : σ → α → Prop} {p : Program I α} (h : p.Keeps P Q s)
    (hqr : ∀ s a, Q s a → R s a) : p.Keeps P R s := by
  induction p generalizing s with
  | done a => exact hqr s a h
  | ask spans call next ih => exact ⟨h.1, fun a => ih a (h.2 a)⟩
  | log spans event next ih => exact ih h

/-- A span around a program is none of the protocol's business. -/
theorem keeps_traced {ε : Type} {Q : σ → Except ε α → Prop} {span : Log.Span}
    {wording : ε → String} {p : Program I (Except ε α)} (h : p.Keeps P Q s) :
    (p.traced span wording).Keeps P Q s := by
  refine keeps_within.2 (keeps_bind.2 (h.imp fun s result hresult => ?_))
  cases result with
  | error e => exact hresult
  | ok a => exact hresult

/-- What comes after a request goes on from the state that its answer leads to. -/
theorem Keeps.after {Q : σ → β → Prop} {call : I.Call} {f : I.Answer call → Program I β}
    (h : P.Allows s call) (hf : ∀ a, (f a).Keeps P Q (P.next s call a)) :
    ((request call).bind f).Keeps P Q s :=
  ⟨h, hf⟩

/-- An event that is logged leads nowhere. -/
theorem keeps_report {Q : σ → β → Prop} {event : Log.Event} {f : Unit → Program I β} :
    ((report event).bind f).Keeps P Q s ↔ (f ()).Keeps P Q s :=
  Iff.rfl

/-- What comes after a program may keep to the protocol from any state on. -/
theorem Follows.bind {Q : σ → β → Prop} {p : Program I α} {f : α → Program I β}
    (h : p.Follows P s) (hf : ∀ s a, (f a).Keeps P Q s) : (p.bind f).Keeps P Q s :=
  keeps_bind.2 (h.imp fun s a _ => hf s a)

/-- What a step may be of a program that keeps to a protocol. -/
theorem Keeps.step {serves : τ → (call : I.Call) → I.Answer call → τ → Prop} {Q : σ → α → Prop}
    {p p' : Program I α} {t t' : τ} {x : Option (Exchange I)} (h : p.Keeps P Q s)
    (hs : Step serves p t x p' t') :
    x = none ∧ t' = t ∧ p'.Keeps P Q s ∨
      ∃ call a, x = some ⟨call, a⟩ ∧ P.Allows s call ∧ serves t call a t' ∧
        p'.Keeps P Q (P.next s call a) := by
  cases hs with
  | asked hs => exact .inr ⟨_, _, rfl, h.1, hs, h.2 _⟩
  | logged => exact .inl ⟨rfl, rfl, h⟩

end Program

end RiskReport

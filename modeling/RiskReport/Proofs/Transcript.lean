import RiskReport.Proofs.Program

/-!
# Transcripts

A program that has the conversation to itself leaves a transcript: what it asked, and what it was
answered, in order. `Program.Ran p xs a` says that the program may run to its end with a transcript
and then yields a result. Nothing is said about where the answers come from, so a statement about
all transcripts is one about all scripts of answers.

The lemmas take a transcript apart along the parts of its program: a program that is followed by
another has the transcript of the one and then the transcript of the other (`ran_bind`).

Where the answers come from a state, a transcript takes one state to another (`Served`). A program
`Yields` a result and leaves a state if it has a transcript that does so.

A program may be abandoned before its end. `Goes` says how far it may get, and what it `Secures`
holds of what it has asked for and of the state wherever it is abandoned (`Secures.goes`).
-/

namespace RiskReport.Program

variable {I : Interface} {α β σ : Type} {xs : List (Exchange I)}

/-- The program may run to its end with a transcript and a result. -/
inductive Ran : Program I α → List (Exchange I) → α → Prop
  | done (a : α) : Ran (done a) [] a
  | asked {spans : List Log.Span} {call : I.Call} {next : I.Answer call → Program I α}
      {r : I.Answer call} {xs : List (Exchange I)} {a : α} (h : Ran (next r) xs a) :
      Ran (ask spans call next) (⟨call, r⟩ :: xs) a
  | logged {spans : List Log.Span} {event : Log.Event} {next : Program I α}
      {xs : List (Exchange I)} {a : α} (h : Ran next xs a) : Ran (log spans event next) xs a

@[simp] theorem ran_done {a b : α} : (done a : Program I α).Ran xs b ↔ xs = [] ∧ b = a := by
  constructor
  · intro h
    cases h with
    | done => exact ⟨rfl, rfl⟩
  · rintro ⟨rfl, rfl⟩
    exact .done _

theorem ran_ask {spans : List Log.Span} {call : I.Call} {next : I.Answer call → Program I α}
    {a : α} :
    (ask spans call next).Ran xs a ↔ ∃ r ys, xs = ⟨call, r⟩ :: ys ∧ (next r).Ran ys a := by
  constructor
  · intro h
    cases h with
    | asked h => exact ⟨_, _, rfl, h⟩
  · rintro ⟨r, ys, rfl, h⟩
    exact .asked h

theorem ran_log {spans : List Log.Span} {event : Log.Event} {next : Program I α} {a : α} :
    (log spans event next).Ran xs a ↔ next.Ran xs a := by
  constructor
  · intro h
    cases h with
    | logged h => exact h
  · exact .logged

@[simp] theorem ran_request {call : I.Call} {a : I.Answer call} :
    (request call).Ran xs a ↔ xs = [⟨call, a⟩] := by
  constructor
  · intro h
    obtain ⟨r, ys, rfl, hr⟩ := ran_ask.1 h
    obtain ⟨rfl, rfl⟩ := ran_done.1 hr
    rfl
  · rintro rfl
    exact .asked (.done a)

theorem ran_bind {p : Program I α} {f : α → Program I β} {b : β} :
    (p.bind f).Ran xs b ↔ ∃ a ys zs, xs = ys ++ zs ∧ p.Ran ys a ∧ (f a).Ran zs b := by
  induction p generalizing xs with
  | done a =>
    constructor
    · intro h
      exact ⟨a, [], xs, rfl, .done a, h⟩
    · rintro ⟨a', ys, zs, rfl, ha, h⟩
      obtain ⟨rfl, rfl⟩ := ran_done.1 ha
      exact h
  | ask spans call next ih =>
    constructor
    · intro h
      obtain ⟨r, ys, rfl, hr⟩ := ran_ask.1 h
      obtain ⟨a, us, vs, rfl, ha, hf⟩ := (ih r).1 hr
      exact ⟨a, _, vs, rfl, .asked ha, hf⟩
    · rintro ⟨a, ys, zs, rfl, ha, h⟩
      obtain ⟨r, us, rfl, hr⟩ := ran_ask.1 ha
      exact .asked ((ih r).2 ⟨a, us, zs, rfl, hr, h⟩)
  | log spans event next ih =>
    refine ran_log.trans (ih.trans ?_)
    simp only [ran_log]

@[simp] theorem ran_within {p : Program I α} {outer : List Log.Span} {a : α} :
    (p.within outer).Ran xs a ↔ p.Ran xs a := by
  induction p generalizing xs with
  | done b => exact Iff.rfl
  | ask spans call next ih => simp only [within, ran_ask, ih]
  | log spans event next ih => simp only [within, ran_log, ih]

/-- A span around a program leaves its transcript and its result as they are. -/
@[simp] theorem ran_traced {ε : Type} {span : Log.Span} {wording : ε → String}
    {p : Program I (Except ε α)} {r : Except ε α} :
    (p.traced span wording).Ran xs r ↔ p.Ran xs r := by
  rw [traced, ran_within, ran_bind]
  constructor
  · rintro ⟨r', ys, zs, rfl, hp, h⟩
    have hr : zs = [] ∧ r = r' := by
      cases r' with
      | error e => exact ran_done.1 (ran_log.1 h)
      | ok a => exact ran_done.1 h
    obtain ⟨rfl, rfl⟩ := hr
    rwa [List.append_nil]
  · intro h
    refine ⟨r, xs, [], (List.append_nil xs).symm, h, ?_⟩
    cases r with
    | error e => exact .logged (.done _)
    | ok a => exact .done _

/-! ## The transcript of one run -/

section

variable (answer : (call : I.Call) → σ → I.Answer call × σ)

/-- The transcript that a program leaves whose requests are answered at once. -/
def transcript : Program I α → σ → List (Exchange I)
  | done _, _ => []
  | ask _ call next, s =>
    ⟨call, (answer call s).1⟩ :: (next (answer call s).1).transcript (answer call s).2
  | log _ _ next, s => next.transcript s

variable {answer}

@[simp] theorem transcript_done (a : α) (s : σ) : (done a).transcript answer s = [] := rfl

@[simp] theorem transcript_request (call : I.Call) (s : σ) :
    (request call).transcript answer s = [⟨call, (answer call s).1⟩] := rfl

@[simp] theorem transcript_report (event : Log.Event) (s : σ) :
    (report event).transcript answer s = [] := rfl

@[simp] theorem transcript_bind (p : Program I α) (f : α → Program I β) (s : σ) :
    (p.bind f).transcript answer s =
      p.transcript answer s ++
        (f (p.outcome answer s).1).transcript answer (p.outcome answer s).2 := by
  induction p generalizing s with
  | done a => rfl
  | ask spans call next ih => exact congrArg _ (ih _ _)
  | log spans event next ih => exact ih s

@[simp] theorem transcript_within (p : Program I α) (outer : List Log.Span) (s : σ) :
    (p.within outer).transcript answer s = p.transcript answer s := by
  induction p generalizing s with
  | done a => rfl
  | ask spans call next ih => exact congrArg _ (ih _ _)
  | log spans event next ih => exact ih s

/-- A span around a program does not change what it asks. -/
@[simp] theorem transcript_traced {ε : Type} (span : Log.Span) (wording : ε → String)
    (p : Program I (Except ε α)) (s : σ) :
    (p.traced span wording).transcript answer s = p.transcript answer s := by
  rw [traced, transcript_within, transcript_bind]
  cases (p.outcome answer s).1 <;> exact List.append_nil _

end

/-! ## States before and after -/

section

variable {serves : σ → (call : I.Call) → I.Answer call → σ → Prop} {s s' : σ} {a : α} {b : β}

/-- The exchanges of a transcript take one state to another. -/
inductive Served (serves : σ → (call : I.Call) → I.Answer call → σ → Prop) :
    σ → List (Exchange I) → σ → Prop
  | nil (s : σ) : Served serves s [] s
  | cons {s s' s'' : σ} {call : I.Call} {a : I.Answer call} {xs : List (Exchange I)}
      (h : serves s call a s') (hs : Served serves s' xs s'') :
      Served serves s (⟨call, a⟩ :: xs) s''

theorem served_append {ys : List (Exchange I)} :
    Served serves s (xs ++ ys) s' ↔ ∃ t, Served serves s xs t ∧ Served serves t ys s' := by
  induction xs generalizing s with
  | nil =>
    constructor
    · exact fun h => ⟨s, .nil s, h⟩
    · rintro ⟨t, ht, h⟩
      cases ht
      exact h
  | cons x xs ih =>
    constructor
    · rintro (_ | ⟨h, hs⟩)
      obtain ⟨t, ht, hys⟩ := ih.1 hs
      exact ⟨t, .cons h ht, hys⟩
    · rintro ⟨t, _ | ⟨h, hs⟩, hys⟩
      exact .cons h (ih.2 ⟨t, hs, hys⟩)

/-- A program that has a state for itself may yield a result and leave another state. -/
def Yields (serves : σ → (call : I.Call) → I.Answer call → σ → Prop) (p : Program I α) (s : σ)
    (a : α) (s' : σ) : Prop :=
  ∃ xs, p.Ran xs a ∧ Served serves s xs s'

theorem yields_done {a' : α} : (done a : Program I α).Yields serves s a' s' ↔ a' = a ∧ s' = s := by
  constructor
  · rintro ⟨xs, hr, hs⟩
    obtain ⟨rfl, rfl⟩ := ran_done.1 hr
    cases hs
    exact ⟨rfl, rfl⟩
  · rintro ⟨rfl, rfl⟩
    exact ⟨[], .done _, .nil _⟩

theorem yields_ask {spans : List Log.Span} {call : I.Call} {next : I.Answer call → Program I α} :
    (ask spans call next).Yields serves s a s' ↔
      ∃ r t, serves s call r t ∧ (next r).Yields serves t a s' := by
  constructor
  · rintro ⟨xs, hr, hs⟩
    obtain ⟨r, ys, rfl, hnext⟩ := ran_ask.1 hr
    cases hs with
    | cons h hs => exact ⟨r, _, h, ys, hnext, hs⟩
  · rintro ⟨r, t, h, ys, hnext, hs⟩
    exact ⟨_, .asked hnext, .cons h hs⟩

theorem yields_request {call : I.Call} {a : I.Answer call} :
    (request call).Yields serves s a s' ↔ serves s call a s' := by
  simp only [request, yields_ask, yields_done]
  constructor
  · rintro ⟨_, _, h, rfl, rfl⟩
    exact h
  · exact fun h => ⟨_, _, h, rfl, rfl⟩

theorem yields_log {spans : List Log.Span} {event : Log.Event} {next : Program I α} :
    (log spans event next).Yields serves s a s' ↔ next.Yields serves s a s' := by
  simp only [Yields, ran_log]

theorem yields_report {event : Log.Event} :
    (report event : Program I Unit).Yields serves s () s' ↔ s' = s := by
  rw [report, yields_log, yields_done, and_iff_right rfl]

/-- What a program logs first makes no difference to what it yields. -/
theorem yields_report_bind {event : Log.Event} {f : Unit → Program I β} :
    ((report event).bind f).Yields serves s b s' ↔ (f ()).Yields serves s b s' :=
  yields_log

theorem yields_bind {p : Program I α} {f : α → Program I β} :
    (p.bind f).Yields serves s b s' ↔
      ∃ a t, p.Yields serves s a t ∧ (f a).Yields serves t b s' := by
  constructor
  · rintro ⟨xs, hr, hs⟩
    obtain ⟨a, ys, zs, rfl, hp, hf⟩ := ran_bind.1 hr
    obtain ⟨t, hys, hzs⟩ := served_append.1 hs
    exact ⟨a, t, ⟨ys, hp, hys⟩, zs, hf, hzs⟩
  · rintro ⟨a, t, ⟨ys, hp, hys⟩, zs, hf, hzs⟩
    exact ⟨ys ++ zs, ran_bind.2 ⟨a, ys, zs, rfl, hp, hf⟩, served_append.2 ⟨t, hys, hzs⟩⟩

theorem yields_within {p : Program I α} {outer : List Log.Span} :
    (p.within outer).Yields serves s a s' ↔ p.Yields serves s a s' := by
  simp only [Yields, ran_within]

/-- What every request that a program may ask keeps, the program keeps. -/
theorem Asks.yields {P : I.Call → Prop} {p : Program I α} {Q : σ → Prop} (h : p.Asks P)
    (hy : p.Yields serves s a s') (hs : Q s)
    (keeps : ∀ s call a s', P call → serves s call a s' → Q s → Q s') : Q s' := by
  obtain ⟨xs, hr, hserved⟩ := hy
  induction hr generalizing s with
  | done a =>
    cases hserved
    exact hs
  | asked hr ih =>
    cases hserved with
    | cons hserves hserved => exact ih (h.2 _) (keeps _ _ _ _ h.1 hserves hs) hserved
  | logged hr ih => exact ih h hs hserved

end

/-! ## Programs that are abandoned -/

section

variable {serves : σ → (call : I.Call) → I.Answer call → σ → Prop} {s s' : σ} {p p' : Program I α}

/-- A program that has a state for itself goes on for some exchanges. It may be abandoned wherever
it stands. -/
inductive Goes (serves : σ → (call : I.Call) → I.Answer call → σ → Prop) :
    Program I α → σ → List (Exchange I) → Program I α → σ → Prop
  | stays (p : Program I α) (s : σ) : Goes serves p s [] p s
  | step {p p' p'' : Program I α} {s s' s'' : σ} {x : Option (Exchange I)}
      {xs : List (Exchange I)} (h : Step serves p s x p' s') (hs : Goes serves p' s' xs p'' s'') :
      Goes serves p s (x.toList ++ xs) p'' s''

/-- Whoever answers a program at once, as requests are served, lets it go on to its end. -/
theorem goes_outcome {answer : (call : I.Call) → σ → I.Answer call × σ}
    (h : ∀ call s, serves s call (answer call s).1 (answer call s).2) (p : Program I α) (s : σ) :
    p.Goes serves s (p.transcript answer s) (done (p.outcome answer s).1)
      (p.outcome answer s).2 := by
  induction p generalizing s with
  | done a => exact .stays _ s
  | ask spans call next ih => exact .step (.asked (h call s)) (ih _ _)
  | log spans event next ih => exact .step .logged (ih s)

/-- The request that a program waits for. -/
def pending? : Program I α → Option I.Call
  | done _ => none
  | ask _ call _ => some call
  | log _ _ next => next.pending?

/-- What was asked for by a program that stands where it stands after some exchanges. -/
def asked (xs : List (Exchange I)) (p : Program I α) : List I.Call :=
  xs.map (·.1) ++ p.pending?.toList

/-- Wherever the program is abandoned a property holds of what it has asked for by then and of the
state; and where it is done, another one holds of its result as well. `calls` were asked for
before. -/
def Secures (serves : σ → (call : I.Call) → I.Answer call → σ → Prop)
    (Inv : List I.Call → σ → Prop) (Q : List I.Call → α → σ → Prop) :
    Program I α → (calls : List I.Call) → σ → Prop
  | done a, calls, s => Inv calls s ∧ Q calls a s
  | ask _ call next, calls, s =>
    Inv (calls ++ [call]) s ∧
      ∀ a s', serves s call a s' → (next a).Secures serves Inv Q (calls ++ [call]) s'
  | log _ _ next, calls, s => next.Secures serves Inv Q calls s

variable {Inv : List I.Call → σ → Prop} {Q : List I.Call → α → σ → Prop} {calls : List I.Call}

/-- What is logged first makes no difference to what a program secures. -/
theorem secures_report_bind {event : Log.Event} {f : Unit → Program I α} :
    ((report event).bind f).Secures serves Inv Q calls s ↔ (f ()).Secures serves Inv Q calls s :=
  Iff.rfl

/-- What comes after a request goes on with each of its answers. -/
theorem Secures.after {call : I.Call} {f : I.Answer call → Program I α}
    (h : Inv (calls ++ [call]) s)
    (hf : ∀ a s', serves s call a s' → (f a).Secures serves Inv Q (calls ++ [call]) s') :
    ((request call).bind f).Secures serves Inv Q calls s :=
  ⟨h, hf⟩

theorem Secures.bind {R : List I.Call → β → σ → Prop} {f : α → Program I β}
    (h : p.Secures serves Inv Q calls s)
    (hf : ∀ calls a s, Q calls a s → (f a).Secures serves Inv R calls s) :
    (p.bind f).Secures serves Inv R calls s := by
  induction p generalizing calls s with
  | done a => exact hf calls a s h.2
  | ask spans call next ih => exact ⟨h.1, fun a s' hs => ih a (h.2 a s' hs)⟩
  | log spans event next ih => exact ih h

@[simp] theorem secures_within {outer : List Log.Span} :
    (p.within outer).Secures serves Inv Q calls s ↔ p.Secures serves Inv Q calls s := by
  induction p generalizing calls s with
  | done a => exact Iff.rfl
  | ask spans call next ih =>
    exact and_congr_right fun _ => forall₃_congr fun a _ _ => ih a
  | log spans event next ih => exact ih

/-- What a program secures it still secures after a step. -/
theorem Secures.step {x : Option (Exchange I)} (h : p.Secures serves Inv Q calls s)
    (hs : Step serves p s x p' s') :
    p'.Secures serves Inv Q (calls ++ x.toList.map (·.1)) s' := by
  cases hs with
  | asked hs => exact h.2 _ _ hs
  | logged => exact (List.append_nil calls).symm ▸ h

/-- What a program secures holds where it stands. -/
theorem Secures.holds (h : p.Secures serves Inv Q calls s) :
    Inv (calls ++ p.pending?.toList) s ∧
      ∀ a, p = done a → Q (calls ++ p.pending?.toList) a s := by
  induction p with
  | done a =>
    rw [pending?, Option.toList_none, List.append_nil]
    refine ⟨h.1, ?_⟩
    rintro _ ⟨⟩
    exact h.2
  | ask spans call next ih =>
    refine ⟨h.1, ?_⟩
    rintro _ ⟨⟩
  | log spans event next ih =>
    refine ⟨(ih h).1, ?_⟩
    rintro _ ⟨⟩

/-- What a program secures it still secures after some exchanges. -/
theorem Secures.run (h : p.Secures serves Inv Q calls s) (hs : p.Goes serves s xs p' s') :
    p'.Secures serves Inv Q (calls ++ xs.map (·.1)) s' := by
  induction hs generalizing calls with
  | stays => exact (List.append_nil calls).symm ▸ h
  | step hstep _ ih =>
    rw [List.map_append, ← List.append_assoc]
    exact ih (h.step hstep)

/-- What a program secures holds wherever it is abandoned. -/
theorem Secures.goes (h : p.Secures serves Inv Q [] s) (hs : p.Goes serves s xs p' s') :
    Inv (asked xs p') s' ∧ ∀ a, p' = done a → Q (asked xs p') a s' :=
  (h.run hs).holds

end

end RiskReport.Program

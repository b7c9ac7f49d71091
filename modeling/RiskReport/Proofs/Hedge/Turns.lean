import RiskReport.Hedge.Fallback
import RiskReport.Proofs.Transcript

/-!
# Hedgers in turn

A tree of hedgers stands for the list of its leaves from left to right, a primary before its
secondary (`Hedger.leaves`). However its nodes are nested, the leaves are asked in this order, each
about the same risks, until one of them has hedges (`Hedger.InTurn`). Only the wording of a failure
tells one nesting from another.

What a leaf does when it is asked makes no difference to whom the nodes ask. A tree over any leaves
is the tree that merely calls its leaves, with the calls served by them (`Hedger.generate_serve`),
so it is enough to look at the calls.

**Theorem (`leaves_asked_in_turn`).** A tree asks its leaves in turn, and for no risks it asks
nobody.
-/

namespace RiskReport

/-! ## Served programs -/

namespace Program

variable {I J : Interface} {α β : Type} {serving : (call : I.Call) → Program J (I.Answer call)}

@[simp] theorem serve_request (call : I.Call) : (request call).serve serving = serving call := by
  show ((serving call).within []).bind done = serving call
  rw [within_nil, bind_done]

/-- Programs that run one after the other are served one after the other. -/
@[simp] theorem serve_bind (p : Program I α) (f : α → Program I β) :
    (p.bind f).serve serving = (p.serve serving).bind fun a => (f a).serve serving := by
  induction p with
  | done a => rfl
  | ask spans call next ih => simp only [bind, serve, ih, bind_assoc]
  | log spans event next ih => simp only [bind, serve, ih]

end Program

namespace Hedger

variable {ι : Type}

/-! ## Leaves in turn -/

/-- The leaves of a tree from left to right. -/
def leaves : Hedger ι → List ι
  | leaf i => [i]
  | unconfigured => []
  | primaryOnly p => p.leaves
  | secondaryOnly s => s.leaves
  | both p s => p.leaves ++ s.leaves

/-- Some leaves are asked in turn, each of which has its answer: those in front have failed when one
is asked, the first that has hedges is the last one asked, and its hedges are the outcome. If all
fail, so does the whole. -/
inductive InTurn (answer : ι → Except HedgeError HedgeResult) :
    (leaves asked : List ι) → Except HedgeError HedgeResult → Prop
  | answered {failed later : List ι} {i : ι} {result : HedgeResult}
      (hfailed : ∀ j ∈ failed, ∃ e, answer j = .error e) (h : answer i = .ok result) :
      InTurn answer (failed ++ i :: later) (failed ++ [i]) (.ok result)
  | failed {leaves : List ι} (h : ∀ j ∈ leaves, ∃ e, answer j = .error e) (e : HedgeError) :
      InTurn answer leaves leaves (.error e)

namespace InTurn

variable {answer : ι → Except HedgeError HedgeResult} {leaves later asked asked' : List ι}
  {r : Except HedgeError HedgeResult} {result : HedgeResult} {e : HedgeError}

/-- One leaf is asked, whatever its answer. -/
theorem single (answer : ι → Except HedgeError HedgeResult) (i : ι) :
    InTurn answer [i] [i] (answer i) := by
  cases h : answer i with
  | ok result =>
    rw [← List.nil_append [i]]
    exact answered (List.forall_mem_nil _) h
  | error e => exact failed (by simpa using ⟨e, h⟩) e

/-- Once a leaf has hedges, none of those that come later is asked. -/
theorem append_of_ok (h : InTurn answer leaves asked (.ok result)) (later : List ι) :
    InTurn answer (leaves ++ later) asked (.ok result) := by
  cases h with
  | answered hfailed h =>
    rw [List.append_assoc, List.cons_append]
    exact answered hfailed h

/-- Once all leaves have failed, those that come later have their turn. -/
theorem append_of_error (h : InTurn answer leaves asked (.error e))
    (hlater : InTurn answer later asked' r) :
    InTurn answer (leaves ++ later) (asked ++ asked') r := by
  cases h with
  | failed h =>
    cases hlater with
    | answered hfailed hi =>
      rw [← List.append_assoc, ← List.append_assoc]
      exact answered (List.forall_mem_append.2 ⟨h, hfailed⟩) hi
    | failed hfailed e => exact failed (List.forall_mem_append.2 ⟨h, hfailed⟩) e

/-- A failure may be worded otherwise. -/
theorem mapError (h : InTurn answer leaves asked r) (f : HedgeError → HedgeError) :
    InTurn answer leaves asked (r.mapError f) := by
  cases h with
  | answered hfailed h => exact answered hfailed h
  | failed h e => exact failed h (f e)

/-- Asking in turn fails exactly if every leaf does. -/
theorem error_iff (h : InTurn answer leaves asked r) :
    (∃ e, r = .error e) ↔ ∀ i ∈ leaves, ∃ e, answer i = .error e := by
  cases h with
  | @answered _ _ i _ _ hi =>
    constructor
    · rintro ⟨e, ⟨⟩⟩
    · intro hall
      obtain ⟨e, he⟩ := hall i (by simp)
      cases hi.symm.trans he
  | failed h e => exact ⟨fun _ => h, fun _ => ⟨e, rfl⟩⟩

end InTurn

/-! ## Calls -/

/-- Calls of leaves about some risks, and their answers. -/
def calls (ι : Type) : Interface where
  Call := ι × List ScoredRisk
  Answer _ := Except HedgeError HedgeResult

/-- Call a leaf. -/
def call (i : ι) (risks : List ScoredRisk) :
    Program (calls ι) (Except HedgeError HedgeResult) :=
  Program.request (I := calls ι) (i, risks)

/-- Have the leaves serve their calls. -/
def serving {I : Interface} (ask : ι → List ScoredRisk → Program I (Except HedgeError HedgeResult))
    (c : (calls ι).Call) : Program I ((calls ι).Answer c) :=
  ask c.1 c.2

/-- Every leaf has one answer about some risks, however often it is called. -/
def answering (answer : ι → List ScoredRisk → Except HedgeError HedgeResult)
    (c : (calls ι).Call) (s : Unit) : (calls ι).Answer c × Unit :=
  (answer c.1 c.2, s)

section

variable {I : Interface} {leafName : ι → String}
  {ask : ι → List ScoredRisk → Program I (Except HedgeError HedgeResult)}

attribute [local simp] generate

theorem generate_node_nil (primary secondary : Option (Hedger ι)) :
    (node primary secondary).generate leafName ask [] = .done (.ok .nothing) := by
  cases primary <;> cases secondary <;> simp [node]

/-- A tree over any leaves calls its leaves, and the leaves serve the calls. -/
theorem generate_serve (h : Hedger ι) (risks : List ScoredRisk) :
    h.generate leafName ask risks = (h.generate leafName call risks).serve (serving ask) := by
  induction h with
  | leaf i =>
    simp only [generate]
    exact (@Program.serve_request (calls ι) I (serving ask) (i, risks)).symm
  | unconfigured => cases risks <;> simp [Program.serve]
  | secondaryOnly s ih =>
    cases risks with
    | nil => simp [Program.serve]
    | cons r rs => simpa using ih
  | primaryOnly p ih =>
    cases risks with
    | nil => simp [Program.serve]
    | cons r rs =>
      simp only [generate, Program.bind_eq, Program.serve_bind, ih]
      congr 1
      funext x
      cases x <;> rfl
  | both p s ihp ihs =>
    cases risks with
    | nil => simp [Program.serve]
    | cons r rs =>
      simp only [generate, Program.bind_eq, Program.serve_bind, ihp]
      congr 1
      funext x
      cases x with
      | ok result => rfl
      | error e =>
        rw [ihs]
        rfl

end

/-! ## Runs -/

section

variable (leafName : ι → String) (answer : ι → List ScoredRisk → Except HedgeError HedgeResult)

/-- The calls of a tree whose leaves have their answers, each with its answer. -/
def called (h : Hedger ι) (risks : List ScoredRisk) : List (Exchange (calls ι)) :=
  (h.generate leafName call risks).transcript (answering answer) ()

/-- What a tree answers whose leaves have their answers. -/
def reply (h : Hedger ι) (risks : List ScoredRisk) : Except HedgeError HedgeResult :=
  ((h.generate leafName call risks).outcome (answering answer) ()).1

variable {p s : Hedger ι} {risks : List ScoredRisk} {result : HedgeResult} {e : HedgeError}

theorem run_unconfigured (hrisks : risks ≠ []) :
    (unconfigured : Hedger ι).called leafName answer risks = [] ∧
      (unconfigured : Hedger ι).reply leafName answer risks = .error .noProvider := by
  obtain ⟨risk, others, rfl⟩ := List.exists_cons_of_ne_nil hrisks
  constructor <;> simp [called, reply, generate]

theorem run_secondaryOnly (hrisks : risks ≠ []) :
    (secondaryOnly s).called leafName answer risks = s.called leafName answer risks ∧
      (secondaryOnly s).reply leafName answer risks = s.reply leafName answer risks := by
  obtain ⟨risk, others, rfl⟩ := List.exists_cons_of_ne_nil hrisks
  constructor <;> simp [called, reply, generate]

theorem run_primaryOnly (hrisks : risks ≠ []) :
    (primaryOnly p).called leafName answer risks = p.called leafName answer risks ∧
      (primaryOnly p).reply leafName answer risks =
        (p.reply leafName answer risks).mapError .primaryFailed := by
  obtain ⟨risk, others, rfl⟩ := List.exists_cons_of_ne_nil hrisks
  simp only [called, reply, generate, Program.bind_eq, Program.transcript_bind,
    Program.outcome_bind]
  cases ((p.generate leafName call (risk :: others)).outcome (answering answer) ()).1 with
  | ok result => exact ⟨List.append_nil _, rfl⟩
  | error e => exact ⟨List.append_nil _, rfl⟩

theorem run_both_of_ok (hrisks : risks ≠ []) (h : p.reply leafName answer risks = .ok result) :
    (both p s).called leafName answer risks = p.called leafName answer risks ∧
      (both p s).reply leafName answer risks = .ok result := by
  obtain ⟨risk, others, rfl⟩ := List.exists_cons_of_ne_nil hrisks
  rw [reply] at h
  constructor <;> simp [called, reply, generate, h]

theorem run_both_of_error (hrisks : risks ≠ []) (h : p.reply leafName answer risks = .error e) :
    (both p s).called leafName answer risks =
        p.called leafName answer risks ++ s.called leafName answer risks ∧
      (both p s).reply leafName answer risks = s.reply leafName answer risks := by
  obtain ⟨risk, others, rfl⟩ := List.exists_cons_of_ne_nil hrisks
  rw [reply] at h
  constructor <;> simp [called, reply, generate, h]

/-- The leaves that a tree calls are asked in turn. -/
theorem exists_inTurn (hrisks : risks ≠ []) (h : Hedger ι) :
    ∃ asked : List ι,
      h.called leafName answer risks = asked.map (fun i => ⟨(i, risks), answer i risks⟩) ∧
        InTurn (answer · risks) h.leaves asked (h.reply leafName answer risks) := by
  induction h with
  | leaf i => exact ⟨[i], rfl, .single _ i⟩
  | unconfigured =>
    obtain ⟨hcalled, hreply⟩ := run_unconfigured leafName answer hrisks
    rw [hcalled, hreply]
    exact ⟨[], rfl, .failed (List.forall_mem_nil _) _⟩
  | secondaryOnly s ih =>
    obtain ⟨hcalled, hreply⟩ := run_secondaryOnly leafName answer (s := s) hrisks
    rw [hcalled, hreply]
    exact ih
  | primaryOnly p ih =>
    obtain ⟨asked, hasked, hturn⟩ := ih
    obtain ⟨hcalled, hreply⟩ := run_primaryOnly leafName answer (p := p) hrisks
    rw [hcalled, hreply]
    exact ⟨asked, hasked, hturn.mapError .primaryFailed⟩
  | both p s ihp ihs =>
    obtain ⟨asked, hasked, hturn⟩ := ihp
    obtain ⟨asked', hasked', hturn'⟩ := ihs
    cases hp : p.reply leafName answer risks with
    | ok result =>
      rw [hp] at hturn
      obtain ⟨hcalled, hreply⟩ := run_both_of_ok leafName answer (s := s) hrisks hp
      rw [hcalled, hreply]
      exact ⟨asked, hasked, hturn.append_of_ok s.leaves⟩
    | error e =>
      rw [hp] at hturn
      obtain ⟨hcalled, hreply⟩ := run_both_of_error leafName answer (s := s) hrisks hp
      rw [hcalled, hreply, hasked, hasked', ← List.map_append]
      exact ⟨asked ++ asked', rfl, hturn.append_of_error hturn'⟩

end

/-- **Leaves in turn.** A tree of hedgers, each of which has its answer, is asked about some risks.
Then it calls its leaves from left to right, each place at most once and each about these very
risks, up to the first that has hedges; these are what it answers. It fails exactly if every leaf
fails, or there is none. About no risks a node calls nobody and has no texts. What the leaves do
when they are called makes no difference to any of this. -/
theorem leaves_asked_in_turn (leafName : ι → String)
    (answer : ι → List ScoredRisk → Except HedgeError HedgeResult) :
    (∀ (h : Hedger ι) (risks : List ScoredRisk), risks ≠ [] →
        (∃ asked, h.called leafName answer risks =
            asked.map (fun i => ⟨(i, risks), answer i risks⟩) ∧
          InTurn (answer · risks) h.leaves asked (h.reply leafName answer risks)) ∧
        ((∃ e, h.reply leafName answer risks = .error e) ↔
          ∀ i ∈ h.leaves, ∃ e, answer i risks = .error e)) ∧
      (∀ primary secondary : Option (Hedger ι),
        (node primary secondary).called leafName answer [] = [] ∧
          (node primary secondary).reply leafName answer [] = .ok .nothing) ∧
      ∀ (I : Interface) (ask : ι → List ScoredRisk → Program I (Except HedgeError HedgeResult))
        (h : Hedger ι) (risks : List ScoredRisk),
        h.generate leafName ask risks = (h.generate leafName call risks).serve (serving ask) := by
  refine ⟨fun h risks hrisks => ?_, fun primary secondary => ?_, fun I ask => generate_serve⟩
  · obtain ⟨asked, hasked, hturn⟩ := exists_inTurn leafName answer hrisks h
    exact ⟨⟨asked, hasked, hturn⟩, hturn.error_iff⟩
  · simp only [called, reply, generate_node_nil]
    exact ⟨rfl, rfl⟩

end Hedger

end RiskReport

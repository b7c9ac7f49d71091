import Mathlib.Logic.Relation
import RiskReport.Proofs.Store.Effect

/-!
# The states that a store gets into

A store begins empty. Requests follow, in any order and with any arguments, and questions may be put
in. A table has no order that one could rely on, so its entries may change places at any time
(`Rearranged`). What a request takes from outside is not arbitrary: identifiers that are minted are
new. `Step` and `Reachable` take that condition as a parameter, `admits`; `Supply.Fresh` asks for
new identifiers, `Supply.New` for a new access token as well, and `Supply.FreshToken` for a new
access token of the right alphabet.

`Reachable.invariant` is the one induction over the states of a store: what holds of the empty
store, and is kept by every effect, by every question and by every other order of the entries, holds
of every state.
-/

namespace RiskReport

/-- A token of the characters that tokens are made of, at least one. -/
structure AccessToken.UrlSafe (t : AccessToken) : Prop where
  nonempty : t.text.toList ≠ []
  alphabet : ∀ c ∈ t.text.toList, c ∈ AccessToken.alphabet

/-- Minted tokens are safe in addresses. -/
theorem AccessToken.ofBits_urlSafe (n : Nat) : (AccessToken.ofBits n).UrlSafe where
  nonempty := by simp [ofBits, AccessToken.length]
  alphabet := by
    intro c hc
    simp only [ofBits, String.toList_ofList, List.mem_map] at hc
    obtain ⟨i, -, rfl⟩ := hc
    have hlt : n / Nat.pow 64 (AccessToken.length - 1 - i) % 64 < alphabet.length :=
      Nat.mod_lt _ (by decide)
    rw [List.getD_eq_getElem?_getD, List.getElem?_eq_getElem hlt, Option.getD_some]
    exact List.getElem_mem hlt

/-- The identifiers from outside are not in use. -/
structure Supply.Fresh (supply : Supply) (m : Memory) : Prop where
  session : m.sessions.get? supply.session = none
  report : m.reports.get? supply.report = none

instance decidableFresh (supply : Supply) (m : Memory) : Decidable (supply.Fresh m) :=
  decidable_of_iff
    (m.sessions.get? supply.session = none ∧ m.reports.get? supply.report = none)
    ⟨fun h => ⟨h.1, h.2⟩, fun h => ⟨h.session, h.report⟩⟩

/-- The identifiers and the token from outside are not in use, and the token is safe in
addresses. -/
structure Supply.FreshToken (supply : Supply) (m : Memory) : Prop extends supply.Fresh m where
  token : ∀ r ∈ m.reports.rows, r.accessToken ≠ supply.token
  urlSafe : supply.token.UrlSafe

/-- The identifiers and the token from outside are not in use. -/
structure Supply.New (supply : Supply) (m : Memory) : Prop extends supply.Fresh m where
  token : ∀ r ∈ m.reports.rows, r.accessToken ≠ supply.token

theorem Supply.FreshToken.toNew {supply : Supply} {m : Memory} (h : supply.FreshToken m) :
    supply.New m :=
  ⟨h.toFresh, h.token⟩

namespace Memory

/-- The tables of a store list the same entries in some other order. -/
structure Rearranged (m m' : Memory) : Prop where
  sessions : m'.sessions.entries.Perm m.sessions.entries
  questions : m'.questions.entries.Perm m.questions.entries
  answers : m'.answers.entries.Perm m.answers.entries
  reports : m'.reports.entries.Perm m.reports.entries
  results : m'.results.entries.Perm m.results.entries
  events : m'.events.entries.Perm m.events.entries

/-- What happens to a store: a request, a question that is put in, or another order of what is
kept. -/
inductive Step (admits : Supply → Memory → Prop) : Memory → Memory → Prop
  | request {m : Memory} {supply : Supply} (call : StoreCall) (h : admits supply m) :
      Step admits m (m.answer supply call).2
  | question {m : Memory} (q : Question) : Step admits m (m.insertQuestion q)
  | rearranged {m m' : Memory} (h : m.Rearranged m') : Step admits m m'

/-- A state that an empty store gets into. -/
def Reachable (admits : Supply → Memory → Prop) (m : Memory) : Prop :=
  Relation.ReflTransGen (Step admits) .empty m

variable {admits : Supply → Memory → Prop} {m : Memory}

theorem reachable_empty : Reachable admits .empty :=
  .refl

theorem Reachable.request {supply : Supply} (h : Reachable admits m) (call : StoreCall)
    (hs : admits supply m) : Reachable admits (m.answer supply call).2 :=
  h.tail (.request call hs)

theorem Reachable.question (h : Reachable admits m) (q : Question) :
    Reachable admits (m.insertQuestion q) :=
  h.tail (.question q)

/-- A condition on what comes from outside may be relaxed. -/
theorem Reachable.mono {admits' : Supply → Memory → Prop} (h : Reachable admits m)
    (ha : ∀ supply m, admits supply m → admits' supply m) : Reachable admits' m := by
  refine Relation.ReflTransGen.mono ?_ _ _ h
  rintro m _ (⟨call, hs⟩ | q | hr)
  · exact .request call (ha _ _ hs)
  · exact .question q
  · exact .rearranged hr

/-- What the empty store has, and effects, questions and other orders keep, every state has. -/
theorem Reachable.invariant {P : Memory → Prop} (h : Reachable admits m) (empty : P .empty)
    (effect : ∀ {m m' supply call}, P m → admits supply m → Effect m supply call m' → P m')
    (question : ∀ {m} q, P m → P (m.insertQuestion q))
    (rearranged : ∀ {m m'}, P m → m.Rearranged m' → P m') : P m := by
  induction h with
  | refl => exact empty
  | tail _ hstep ih =>
    cases hstep with
    | request call hs => exact effect ih hs (answer_effect _ _ call)
    | question q => exact question q ih
    | rearranged hr => exact rearranged ih hr

end Memory

/-! ## A store with a report to be made

The states below serve as an instance: one question, and one visitor who has answered it and
paid. -/

namespace Sample

open Memory

/-- Identifiers, tokens and times that count up. -/
def supply (n : Nat) : Supply where
  now := ⟨n, 0⟩
  session := ⟨⟨n⟩⟩
  report := ⟨⟨n⟩⟩
  token := .ofBits n
  row i := ⟨⟨n + i⟩⟩

/-- A question with two options, the first of them bad. -/
def question : Question where
  id := "backups"
  sectionTitle := "Continuity"
  riskName := "Data loss"
  riskDesc := "Nothing is kept elsewhere."
  hedge := "Keep a copy elsewhere."
  scoringConfig := (ScoringConfig.radio ⟨["No", "Yes"], [9, 2], [8, 1]⟩).toJson
  isScoring := true
  sortOrder := 1

/-- One question, and a visitor who has answered it. -/
def answered : Memory :=
  (((Memory.empty.insertQuestion question).answer (supply 1) (.createSession "visitor")).2.answer
    (supply 2) (.upsertAnswer ⟨⟨⟨1⟩⟩, "backups", "No", none⟩)).2

/-- The visitor has left an address, and a payment is prepared. -/
def addressed : Memory :=
  (answered.answer (supply 3)
    (.attachIntent ⟨⟨⟨1⟩⟩, none, "intent", some "visitor@example.com"⟩)).2

/-- The visitor has left an address and paid. -/
def ordered : Memory :=
  (addressed.answer (supply 4) (.initialiseReport "intent")).2

/-- The visitor has paid, and the report is a draft. -/
def paid : Memory :=
  ((answered.answer (supply 3) (.attachIntent ⟨⟨⟨1⟩⟩, none, "intent", none⟩)).2.answer
    (supply 4) (.initialiseReport "intent")).2

theorem reachable_answered : Reachable Supply.FreshToken answered := by
  refine ((reachable_empty.question question).request _ ?_).request _ ?_
  · exact ⟨⟨rfl, rfl⟩, fun r hr => (List.not_mem_nil hr).elim, AccessToken.ofBits_urlSafe 1⟩
  · exact ⟨⟨rfl, rfl⟩, fun r hr => (List.not_mem_nil hr).elim, AccessToken.ofBits_urlSafe 2⟩

theorem reachable_addressed : Reachable Supply.Fresh addressed :=
  (reachable_answered.mono fun _ _ h => h.toFresh).request _ ⟨rfl, rfl⟩

theorem reachable_ordered : Reachable Supply.Fresh ordered :=
  reachable_addressed.request _ ⟨rfl, rfl⟩

theorem reachable_paid : Reachable Supply.FreshToken paid := by
  refine (reachable_answered.request _ ?_).request _ ?_
  · exact ⟨⟨rfl, rfl⟩, fun r hr => (List.not_mem_nil hr).elim, AccessToken.ofBits_urlSafe 3⟩
  · exact ⟨⟨rfl, rfl⟩, fun r hr => (List.not_mem_nil hr).elim, AccessToken.ofBits_urlSafe 4⟩

/-- The results of the report. -/
def results : ScoredReport where
  report := ⟨⟨4⟩⟩
  risks := [⟨"backups", 1, "Data loss", "Nothing is kept elsewhere.", "Keep a copy elsewhere.",
    "Continuity", 9, 8, 72, .watch⟩]
  hedges := ⟨[("backups", "Copy it tonight.")]⟩
  executiveSummary := "One risk."
  topPriorityHtml := ""

/-- The report is ready. -/
def delivered : Memory :=
  (paid.answer (supply 5) (.persistReport results)).2

theorem reachable_delivered : Reachable Supply.Fresh delivered :=
  (reachable_paid.mono fun _ _ h => h.toFresh).request _ ⟨rfl, rfl⟩

end Sample

end RiskReport

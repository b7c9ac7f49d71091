import RiskReport.Hedge.Fallback

/-!
# Rehearsing hedgers

A stub stands in for a hedger: it answers as it was told to. A tree of stubs is run on a list of
risks, and which stub was asked about which questions is kept.
-/

namespace RiskReport.Rehearsal

open Log

/-- How a stand-in for a hedger answers. -/
structure HedgerStub where
  /-- The failure, if the stub is to fail. -/
  error : Option HedgeError := none
  /-- The hedges; if none are given, each risk gets one. -/
  hedges : Option (Table String String) := none
  summary : String := ""
  topPriority : String := ""
  deriving DecidableEq, Repr, Inhabited

namespace HedgerStub

/-- The hedges of a stub that was given none. -/
def standardHedges (risks : List ScoredRisk) : Table String String :=
  risks.foldl (fun t r => t.insert r.questionId ("stub hedge for " ++ r.questionId)) .empty

/-- The answer of a stub. -/
def answer (s : HedgerStub) (risks : List ScoredRisk) : Except HedgeError HedgeResult :=
  match s.error with
  | some e => .error e
  | none =>
    .ok {
      hedges := s.hedges.getD (standardHedges risks)
      executiveSummary := s.summary
      topPriorityHtml := s.topPriority }

end HedgerStub

/-- A stub in a tree, with the label under which its calls are kept. -/
structure StubLeaf where
  label : String
  name : String
  stub : HedgerStub
  deriving DecidableEq, Repr, Inhabited

/-- Asking stubs. -/
def stubInterface : Interface where
  Call := StubLeaf × List ScoredRisk
  Answer _ := Except HedgeError HedgeResult

/-- A run of a tree of stubs: the result, the questions that each label was asked about, and the
log. -/
structure HedgerRun where
  result : Except HedgeError HedgeResult
  calls : List (String × List String)
  log : List Entry

/-- Answer a stub's call and keep what it was asked about. -/
def answerStub (call : StubLeaf × List ScoredRisk) (calls : List (String × List String)) :
    Except HedgeError HedgeResult × List (String × List String) :=
  (call.1.stub.answer call.2, calls ++ [(call.1.label, call.2.map (·.questionId))])

/-- Run a tree of stubs. -/
def runHedger (h : Hedger StubLeaf) (risks : List ScoredRisk) : HedgerRun :=
  let p := h.generate StubLeaf.name
    (fun leaf risks => Program.request (I := stubInterface) (leaf, risks)) risks
  let (result, calls, log) := p.runWith answerStub []
  ⟨result, calls, log⟩

end RiskReport.Rehearsal

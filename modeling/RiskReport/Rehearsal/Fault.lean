import RiskReport.Store.Call

/-!
# Faults of a store

A rehearsed store can be told to misbehave: to let a request wait, to refuse it, or to answer it
differently. Faults are queued by the method that they disturb; the first one of a method acts on
its calls until it is used up.
-/

namespace RiskReport.Rehearsal

/-- The name of the method that a request calls. -/
def methodName : StoreCall → String
  | .createSession _ => "create_session"
  | .getSession _ => "get_session"
  | .upsertAnswer _ => "upsert_answer"
  | .answers _ => "answers_for_session"
  | .attachIntent _ => "attach_payment_intent"
  | .markPaymentFailed _ => "mark_session_payment_failed"
  | .markRefunded _ => "mark_session_refunded"
  | .initialiseReport _ => "initialise_report"
  | .getReport _ => "get_report"
  | .reportByToken _ => "get_report_by_access_token"
  | .riskResults _ => "list_risk_results"
  | .persistReport _ => "persist_scored_report"
  | .markReportFailed .. => "mark_report_failed"
  | .pendingReports _ => "list_pending_reports"
  | .recordEvent .. => "record_payment_event"
  | .completeEvent .. => "complete_payment_event"

/-- How an answer is changed. -/
inductive Alteration where
  /-- What is looked for is not there. -/
  | missing
  /-- A report that is there is being worked on. -/
  | processing
  /-- A report has no totals and no time. -/
  | noAggregates
  /-- A session had an empty intent attached. -/
  | blankIntent
  deriving DecidableEq, Repr, Inhabited

/-- What a fault does to a call. -/
structure Disturbance where
  /-- The refusal that takes the place of the answer. -/
  error : Option StoreError := none
  alteration : Option Alteration := none
  deriving DecidableEq, Repr, Inhabited

/-- A fault of one method. -/
structure Fault where
  method : String
  disturbance : Disturbance
  /-- The milliseconds that the call waits first. -/
  hang : Option Nat
  /-- How many calls are left alone first. -/
  skip : Nat
  /-- How many calls are disturbed. -/
  times : Nat
  deriving DecidableEq, Repr, Inhabited

namespace Fault

/-- The fault after it has disturbed a call, if it is not used up. -/
def used (f : Fault) : List Fault :=
  if f.times ≤ 1 then [] else [{ f with times := f.times - 1 }]

/-- The fault that acts on a call of a method, if one does, and the faults that remain. -/
def take (method : String) : List Fault → Option Fault × List Fault
  | [] => (none, [])
  | f :: rest =>
    if f.method == method then
      if 0 < f.skip then (none, { f with skip := f.skip - 1 } :: rest)
      else (some f, f.used ++ rest)
    else
      let (acting, rest) := take method rest
      (acting, f :: rest)

end Fault

/-- A report without totals and time. -/
def withoutAggregates (r : Report) : Report :=
  { r with overallScore := none, criticalCount := none, generatedAt := none }

/-- Change the answer to a call; changes that do not fit the call change nothing. -/
def Alteration.apply : Alteration → (call : StoreCall) → Except StoreError call.Value →
    Except StoreError call.Value
  | .missing, .getSession _, _ => .ok none
  | .missing, .getReport _, _ => .ok none
  | .missing, .answers _, _ => .ok []
  | .processing, .getReport _, r => r.map (Option.map fun r => { r with status := .processing })
  | .processing, .reportByToken _, r =>
    r.map (Option.map fun r => { r with status := .processing })
  | .noAggregates, .reportByToken _, r => r.map (Option.map withoutAggregates)
  | _, _, r => r

end RiskReport.Rehearsal

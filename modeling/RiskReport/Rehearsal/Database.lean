import RiskReport.Database.Store
import RiskReport.Rehearsal.Clock

/-!
# Rehearsing dialogues with the database

A scripted database gives one reply after another, whatever it is asked, and keeps what was said
to it, and the identifiers and tokens that were made for the dialogue. Connections, and statements
that begin and end transactions, succeed unless the script says otherwise.
-/

namespace RiskReport.Rehearsal

open Log Database

/-- Whether a scripted database can be reached. -/
inductive Reachability where
  | answering
  /-- The program has put the database away. -/
  | closed
  /-- The database never answers. -/
  | silent
  deriving DecidableEq, Repr, Inhabited

/-- A database that follows a script. -/
structure ScriptedDatabase where
  reachability : Reachability := .answering
  /-- How attempts to connect are refused; each refusal is used once, in order. -/
  refusals : List Failure := []
  /-- The replies to queries, in order. -/
  replies : List (Except Failure Reply)
  /-- Failures of other statements; each is used once, in order. -/
  control : List (Statement × Failure) := []
  /-- What was said, the latest first. -/
  sent : List Statement := []
  /-- The identifiers and tokens that were made, the latest first. -/
  minted : List SqlValue := []

namespace ScriptedDatabase

/-- The failure that the script has for a statement, if it has one, and the failures that
remain. -/
def takeFailure (s : Statement) : List (Statement × Failure) →
    Option Failure × List (Statement × Failure)
  | [] => (none, [])
  | (s', f) :: rest =>
    if s' = s then (some f, rest)
    else
      let (found, rest) := takeFailure s rest
      (found, (s', f) :: rest)

/-- What a query learns for which the script has no reply. -/
def endOfScript : String :=
  "error communicating with database: expected to read 5 bytes, got 0 bytes at EOF"

/-- The reply to a statement that was sent. -/
def reply (d : ScriptedDatabase) : Statement → Except Failure Reply × ScriptedDatabase
  | .query _ =>
    match d.replies with
    | [] => (.error (.lost endOfScript), d)
    | r :: rest => (r, { d with replies := rest })
  | s =>
    let (failure, control) := takeFailure s d.control
    ((failure.map .error).getD (.ok {}), { d with control })

/-- Send a statement, if the database can be reached. -/
def receive (d : ScriptedDatabase) (s : Statement) : Except Failure Reply × ScriptedDatabase :=
  match d.reachability with
  | .closed => (.error .poolClosed, d)
  | .silent => (.error (.lost "pool timed out while waiting for an open connection"), d)
  | .answering => { d with sent := s :: d.sent }.reply s

/-- Answer a request of a dialogue. -/
def answer : (request : Request) → ScriptedDatabase → request.Answer × ScriptedDatabase
  | .send s, d => d.receive s
  | .mintId, d =>
    let id := Clock.mint d.minted.length 0
    (id, { d with minted := .uuid id :: d.minted })
  | .mintToken, d =>
    let token := Clock.mintToken d.minted.length
    (token, { d with minted := .text token.text :: d.minted })

/-- Run a dialogue. -/
def run {α : Type} (d : ScriptedDatabase) (p : Asking α) : α × ScriptedDatabase × List Entry :=
  p.runWith answer d

/-- Everything that was said, in order. -/
def statements (d : ScriptedDatabase) : List Statement := d.sent.reverse

end ScriptedDatabase

end RiskReport.Rehearsal

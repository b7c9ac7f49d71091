import RiskReport.Http
import RiskReport.Text.Utf8

/-!
# Rehearsing requests over HTTP

A program that posts requests is run against one reply that is given beforehand: bytes with a
status, or a connection that goes wrong. What was posted is kept.
-/

namespace RiskReport.Rehearsal

open Log

/-- How a connection goes wrong. -/
inductive Breakage where
  /-- The reply is not HTTP. -/
  | garbage
  /-- There is no reply. -/
  | close
  /-- The body is shorter than announced. -/
  | truncate
  deriving DecidableEq, Repr, Inhabited

/-- A reply given beforehand. -/
structure CannedReply where
  status : Nat
  body : List UInt8
  breakage : Option Breakage
  deriving DecidableEq, Repr, Inhabited

namespace CannedReply

/-- Whether replies of this status never have a body. -/
def bodiless (status : Nat) : Bool := status == 204 || status == 304

/-- The reply to a request. -/
def serve (c : CannedReply) (r : Http.Request) : Except Http.Failure Http.Reply :=
  match c.breakage with
  | some .garbage | some .close => .error (.noReply r.url)
  | some .truncate =>
    .ok ⟨c.status, if bodiless c.status then some "" else none⟩
  | none => .ok ⟨c.status, some (if bodiless c.status then "" else Text.decodeLossy c.body)⟩

end CannedReply

/-- A run against replies given beforehand: the result, the requests, and the log. -/
structure HttpRun (α : Type) where
  result : α
  requests : List Http.Request
  log : List Entry

/-- Run a program; every request gets the same reply. -/
def runHttp {α : Type} (reply : CannedReply) (p : Program Http.interface α) : HttpRun α :=
  let (result, requests, log) :=
    p.runWith (fun r sent => (reply.serve r, sent ++ [r])) ([] : List Http.Request)
  ⟨result, requests, log⟩

end RiskReport.Rehearsal

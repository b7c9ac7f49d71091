import RiskReport.Program
import RiskReport.Json.Basic
import RiskReport.Text.Blank

/-!
# Requests over HTTP

The providers of hedges and of mail are reached by posting JSON. A request is refused before it is
sent if a header cannot be written; after that there may be no reply, or one whose body breaks off.
-/

namespace RiskReport.Http

/-- JSON posted to an address. -/
structure Request where
  url : String
  headers : List (String × String)
  body : Json
  deriving DecidableEq, Repr, Inhabited

/-- The status of a reply and its body, unless that breaks off. -/
structure Reply where
  status : Nat
  body : Option String
  deriving DecidableEq, Repr, Inhabited

/-- Why there is no reply, or none that can be read. -/
inductive Failure where
  | unsendable
  | noReply (url : String)
  | brokenBody
  deriving DecidableEq, Repr, Inhabited

/-- The wording of a failure. -/
def Failure.message : Failure → String
  | .unsendable => "builder error"
  | .noReply url => "error sending request for url (" ++ url ++ ")"
  | .brokenBody => "error decoding response body"

/-- Whether a character may stand in a header: no control but the tabulator. -/
def headerChar (c : Char) : Bool :=
  c == '\t' || (0x20 ≤ c.toNat && c.toNat != 0x7F)

/-- Whether the headers of a request can be written. -/
def Request.sendable (r : Request) : Bool :=
  r.headers.all fun h => h.2.toList.all headerChar

/-- Whether a reply says that the request was carried out. -/
def Reply.isSuccess (r : Reply) : Bool :=
  200 ≤ r.status && r.status < 300

/-- The number of characters that messages quote from a reply. -/
def excerptLength : Nat := 200

/-- Posting over HTTP. -/
def interface : Interface where
  Call := Request
  Answer _ := Except Failure Reply

/-- Post a request, unless its headers cannot be written. -/
def post (r : Request) : Program interface (Except Failure Reply) :=
  if r.sendable then Program.request (I := interface) r else .done (.error .unsendable)

end RiskReport.Http

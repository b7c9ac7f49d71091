import RiskReport.Json.Decode

/-!
# Statuses and tiers

The closed sets of names that rows carry: where a report stands, where a payment stands, and which
quarter of the probability and impact grid a risk falls into. Each has one spelling, which is used
in storage, in JSON and in logs; a stored text that is none of them is an `UnknownStatus`.
-/

namespace RiskReport

open Json

/-- A stored text that names no status of its kind. -/
structure UnknownStatus where
  kind : String
  value : String
  deriving DecidableEq, Repr, Inhabited

/-- The wording of an unknown status. -/
def UnknownStatus.message (e : UnknownStatus) : String :=
  "unknown " ++ e.kind ++ ": " ++ e.value

/-- Look a status up by its spelling. -/
def lookupStatus {α : Type} (kind : String) (spellings : List (String × α)) (s : String) :
    Except UnknownStatus α :=
  match spellings.lookup s with
  | some a => .ok a
  | none => .error ⟨kind, s⟩

/-- Where a report stands: a draft is processed until it is ready or given up. -/
inductive ReportStatus where
  | draft
  | processing
  | ready
  | error
  deriving DecidableEq, Repr, Inhabited

namespace ReportStatus

/-- The spelling of a status. -/
def text : ReportStatus → String
  | .draft => "draft"
  | .processing => "processing"
  | .ready => "ready"
  | .error => "error"

/-- The statuses by their spellings. -/
def spellings : List (String × ReportStatus) :=
  [.draft, .processing, .ready, .error].map fun s => (s.text, s)

/-- Whether a report in this status is never worked on again. -/
def isTerminal : ReportStatus → Bool
  | .ready | .error => true
  | .draft | .processing => false

/-- Read a status. -/
def parse : String → Except UnknownStatus ReportStatus :=
  lookupStatus "report status" spellings

/-- A status as JSON. -/
def toJson (s : ReportStatus) : Json := .string s.text

/-- A status from JSON. -/
def decoder : Decoder ReportStatus := Decoder.enumeration spellings

end ReportStatus

/-- Where the payment of a session stands. -/
inductive PaymentStatus where
  | pending
  | paid
  | failed
  | refunded
  deriving DecidableEq, Repr, Inhabited

namespace PaymentStatus

/-- The spelling of a status. -/
def text : PaymentStatus → String
  | .pending => "pending"
  | .paid => "paid"
  | .failed => "failed"
  | .refunded => "refunded"

/-- The statuses by their spellings. -/
def spellings : List (String × PaymentStatus) :=
  [.pending, .paid, .failed, .refunded].map fun s => (s.text, s)

/-- Read a status. -/
def parse : String → Except UnknownStatus PaymentStatus :=
  lookupStatus "payment status" spellings

/-- A status as JSON. -/
def toJson (s : PaymentStatus) : Json := .string s.text

/-- A status from JSON. -/
def decoder : Decoder PaymentStatus := Decoder.enumeration spellings

end PaymentStatus

/-- The quarter of the grid that a risk falls into: `watch` is high in probability and impact,
`red` in impact alone, `manage` in probability alone. -/
inductive RiskTier where
  | watch
  | red
  | manage
  | ignore
  deriving DecidableEq, Repr, Inhabited

namespace RiskTier

/-- The spelling of a tier. -/
def text : RiskTier → String
  | .watch => "watch"
  | .red => "red"
  | .manage => "manage"
  | .ignore => "ignore"

/-- The tiers by their spellings. -/
def spellings : List (String × RiskTier) :=
  [.watch, .red, .manage, .ignore].map fun t => (t.text, t)

/-- Read a tier. -/
def parse : String → Except UnknownStatus RiskTier :=
  lookupStatus "risk tier" spellings

/-- A tier as JSON. -/
def toJson (t : RiskTier) : Json := .string t.text

/-- A tier from JSON. -/
def decoder : Decoder RiskTier := Decoder.enumeration spellings

end RiskTier

end RiskReport

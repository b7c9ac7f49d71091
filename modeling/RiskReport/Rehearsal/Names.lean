import RiskReport.Report

/-!
# Names in scenarios

The identifiers and tokens that a scenario makes are random, so its text speaks of them by names:
`S0` for the first session, `R0` for the first report and `T0` for its token. A name stands for the
same thing in the steps of the scenario (`Names.session`, `Names.report`, `Names.reveal`) and in
the account of it (`Names.hide`).
-/

namespace RiskReport.Rehearsal

open Json

/-- What has names, in the order of the names' numbers. -/
structure Names where
  sessions : List SessionId := []
  reports : List Report := []
  deriving Repr, Inhabited

namespace Names

/-- The name with a letter and a number. -/
def label (letter : Char) (i : Nat) : String :=
  letter.toString ++ toString i

/-- The texts that have names, with the names. -/
def table (n : Names) : List (String × String) :=
  (n.sessions.zipIdx.map fun (s, i) => (s.write, label 'S' i)) ++
    (n.reports.zipIdx.map fun (r, i) => (r.id.write, label 'R' i)) ++
    (n.reports.zipIdx.map fun (r, i) => (r.accessToken.text, label 'T' i))

/-- Put names in place of the texts that have them. -/
def hide (n : Names) (s : String) : String :=
  if s.utf8ByteSize < AccessToken.length then s
  else n.table.foldl (fun s (text, name) => s.replace text name) s

/-- Put tokens in place of their names in braces. -/
def reveal (n : Names) (s : String) : String :=
  n.reports.zipIdx.foldl
    (fun s (r, i) => s.replace ("\x7b" ++ label 'T' i ++ "\x7d") r.accessToken.text) s

mutual

/-- Put names in place of texts everywhere in a value. -/
def hideIn (n : Names) : Json → Json
  | .string s => .string (n.hide s)
  | .array items => .array (n.hideInItems items)
  | .object fields => .object (n.hideInFields fields)
  | j => j

/-- Put names in place of texts in some values. -/
def hideInItems (n : Names) : List Json → List Json
  | [] => []
  | j :: js => n.hideIn j :: n.hideInItems js

/-- Put names in place of texts in some fields. -/
def hideInFields (n : Names) : List (String × Json) → List (String × Json)
  | [] => []
  | (k, j) :: fs => (k, n.hideIn j) :: n.hideInFields fs

end

/-- What the name with a letter stands for. -/
def lookup? {α : Type} (letter : Char) (things : List α) (s : String) : Option α :=
  match s.toList with
  | c :: digits =>
    if c == letter then (String.ofList digits).toNat?.bind (things[·]?) else none
  | [] => none

/-- Something by its name, or by its identifier. -/
def reference {α : Type} (letter : Char) (things : List α) (ofUuid : Uuid → α) : Decoder α :=
  .parsed "a name or an identifier" fun s =>
    match lookup? letter things s with
    | some a => .ok a
    | none => ((Uuid.parse s).mapError Uuid.Refusal.message).map ofUuid

/-- A session by its name, or by its identifier. -/
def session (n : Names) : Decoder SessionId :=
  reference 'S' n.sessions SessionId.mk

/-- A report by its name, or by its identifier. -/
def report (n : Names) : Decoder ReportId :=
  reference 'R' (n.reports.map (·.id)) ReportId.mk

/-- A text in which tokens may stand by their names. -/
def text (n : Names) : Decoder String := fun node => (Decoder.string node).map n.reveal

end Names

end RiskReport.Rehearsal

import RiskReport.Json.Print
import RiskReport.Rehearsal.Account
import RiskReport.Rehearsal.Database

/-!
# Accounts of dialogues with a database

How what was said to a scripted database is written as JSON. The identifiers and tokens that were
made for a dialogue are new, so the account calls them by names: `U0`, `T1` and so on in the order
in which they were first sent. Statements that set hedges have no order of their own; those that
follow each other are put in the order of their texts.
-/

namespace RiskReport.Rehearsal

open Database

/-- What was made for a dialogue, in the order in which it was first sent. -/
def firstUses (minted : List SqlValue) (statements : List Statement) : List SqlValue :=
  (statements.flatMap fun s => (s.parameters?.getD []).filter minted.contains).eraseDups

/-- The name of something that was made for a dialogue. -/
def mintedName (v : SqlValue) (index : Nat) : String :=
  match v with
  | .uuid _ => Names.label 'U' index
  | _ => Names.label 'T' index

/-- A value as it is sent, with a form for times. -/
def sqlValueJson (time : Instant → Json) : SqlValue → Json
  | .null => .null
  | .bool b => .bool b
  | .int i => .ofInt i
  | .text s => .string s
  | .uuid u => u.toJson
  | .time t => time t
  | .json j => j
  | .seconds d => .number (.float d.asSeconds)

/-- A value as it is sent, unless it has a name. -/
def namedValueJson (time : Instant → Json) (uses : List SqlValue) (v : SqlValue) : Json :=
  match uses.idxOf? v with
  | some i => .string (mintedName v i)
  | none => sqlValueJson time v

/-- A statement as it is sent. -/
def statementJson (time : Instant → Json) (uses : List SqlValue) (s : Statement) : Json :=
  .record <| ("sql", .string s.text) ::
    (s.parameters?.map fun ps => ("params", .array (ps.map (namedValueJson time uses)))).toList

/-- Whether a statement sets a hedge. -/
def setsHedge : Statement → Bool
  | .query (.setHedge ..) => true
  | _ => false

/-- The text by which statements that set hedges are put in order. -/
def hedgeKey (s : Statement) : String :=
  (Json.array ((s.parameters?.getD []).map (sqlValueJson Instant.toJson))).print

/-- Statements with each run of those that set hedges in the order of their texts. -/
def orderHedges (statements : List Statement) : List Statement :=
  (statements.splitBy fun a b => setsHedge a && setsHedge b).flatMap fun run =>
    run.mergeSort fun a b => decide (hedgeKey a ≤ hedgeKey b)

/-- All that was said to a database, with a form for times. -/
def ScriptedDatabase.statementsJson (time : Instant → Json) (d : ScriptedDatabase) : Json :=
  let statements := orderHedges d.statements
  let uses := firstUses d.minted statements
  .array (statements.map (statementJson time uses))

/-- How values are written that came from a database. -/
def databaseForm : ValueForm where
  time := Instant.toJson
  unit := .null
  rowIds := true

end RiskReport.Rehearsal

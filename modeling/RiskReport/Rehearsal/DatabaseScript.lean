import RiskReport.Rehearsal.Database
import RiskReport.Rehearsal.Script

/-!
# Scripted databases as JSON

How the script of a database is written. A reply to a query has columns, each with a name and a
type, and rows of values; or it says how many rows were changed; or it is an error with a code and
a message. In a row null stands for an empty column, and an object that holds null under the key
`json` for the JSON value null.
-/

namespace RiskReport.Rehearsal.Script

open Json Database

/-- A value as a column of a type holds it. -/
def cell (type : String) (j : Json) : Except String SqlValue :=
  match type, j with
  | _, .null => .ok .null
  | "uuid", .string s => ((Uuid.parse s).mapError Uuid.Refusal.message).map .uuid
  | "text", .string s => .ok (.text s)
  | "timestamptz", .string s => (Instant.parse s).map SqlValue.ofInstant
  | "int2", .number (.int i) | "int4", .number (.int i) => .ok (.int i)
  | "bool", .bool b => .ok (.bool b)
  | "jsonb", j => .ok (.json (if j = .object [("json", .null)] then .null else j))
  | type, _ => .error ("no value of a column of type " ++ type)

/-- A row of values under their columns. -/
def row (columns : List (List String)) (values : List Json) : Except String Row := do
  let cells ← (columns.zip values).mapM fun
    | ([name, type], value) => (cell type value).map (name, ·)
    | _ => .error "a column has a name and a type"
  return ⟨cells⟩

/-- The failure that a code and a message stand for. -/
def failure : Fields Failure :=
  Failure.refused <$> Fields.required "code" .string <*> .required "message" .string

/-- A reply to a query. -/
def reply : Decoder (Except Failure Reply) :=
  form <|
    ((fun columns rows affected error => (columns, rows, affected, error))
      <$> orElse "columns" (.list (.list .string)) []
      <*> orElse "rows" (.list (.list .json)) []
      <*> orElse "affected" count 0
      <*> Fields.optional "error" (form failure)).refine fun
        | (_, _, _, some f) => .ok (.error f)
        | (columns, rows, affected, none) =>
          match rows.mapM (row columns) with
          | .error e => .error (.malformed e)
          | .ok [] => .ok (.ok { affected })
          | .ok rows => .ok (.ok { rows, affected := rows.length })

/-- What a script can let fail: statements, and the connection. -/
def controlled : List (String × Option Statement) :=
  [("startup", none), ("BEGIN", some .begin), ("SET", some .isolate), ("COMMIT", some .commit),
    ("ROLLBACK", some .rollback)]

/-- A statement that fails, or the connection, and how. -/
def control : Decoder (Option Statement × Failure) :=
  form <| Prod.mk <$> .required "on" (.enumeration controlled) <*> failure

/-- The names of the ways in which a database can be out of reach. -/
def reachabilities : List (String × Reachability) :=
  [("closed", .closed), ("silent", .silent)]

/-- A scripted database. -/
def database : Decoder ScriptedDatabase :=
  form <|
    (fun replies control reachability =>
        { reachability, replies
          refusals := control.filterMap fun (s, f) => if s.isNone then some f else none
          control := control.filterMap fun (s, f) => s.map (·, f) })
      <$> orElse "replies" (.list reply) []
      <*> orElse "control" (.list control) []
      <*> orElse "pool" (.enumeration reachabilities) .answering

/-- A request to a store in a database. Nothing has a name yet. -/
def databaseCall : Decoder StoreCall :=
  let pending := StoreCall.pendingReports <$> Fields.required "since" Instant.decoder
  .tagged "step" "do" <|
    (("pending", pending) :: storeCalls {}).map fun (name, fields) => (name, form fields)

end RiskReport.Rehearsal.Script

import RiskReport.Json.Print
import RiskReport.Log
import RiskReport.Text.Quoted

/-!
# Lines of the log

An event is logged as a line of text for people or as a JSON object for machines. Both say when it
happened, how serious it is, in which spans it happened and what its fields are; only the text
says which part of the program it comes from.
-/

namespace RiskReport.Log

/-- A value in a line of text: plain texts are quoted. -/
def Value.line : Value → String
  | .int i => toString i
  | .bool b => if b then "true" else "false"
  | .text s => Text.quoted s
  | .shown s => s

/-- Fields in a line of text. -/
def fieldsLine (fields : Fields) : String :=
  " ".intercalate (fields.map fun (k, v) => k ++ "=" ++ v.line)

/-- A span in a line of text. -/
def Span.line (s : Span) : String :=
  if s.fields.isEmpty then s.name else s.name ++ "\x7b" ++ fieldsLine s.fields ++ "\x7d"

/-- The level in a line of text, five characters wide. -/
def Level.column (l : Level) : String :=
  String.ofList (List.replicate (5 - l.text.length) ' ') ++ l.text

/-- Spans in a line of text, the outermost first. -/
def spansLine (spans : List Span) : String :=
  if spans.isEmpty then "" else ":".intercalate (spans.map Span.line) ++ ": "

/-- What an event says in a line of text. -/
def Event.line (e : Event) : String :=
  " ".intercalate (e.message.toList ++ e.fields.map fun (k, v) => k ++ "=" ++ v.line)

/-- An event as a line of text. -/
def Entry.line (time : String) (e : Entry) : String :=
  time ++ " " ++ e.event.level.column ++ " " ++ spansLine e.spans ++ e.event.target.text ++ ": " ++
    e.event.line

/-- A value as JSON. -/
def Value.toJson : Value → Json
  | .int i => .ofInt i
  | .bool b => .bool b
  | .text s | .shown s => .string s

/-- Fields as the fields of an object. -/
def fieldsJson (fields : Fields) : List (String × Json) :=
  fields.map fun (k, v) => (k, v.toJson)

/-- A span as an object. -/
def Span.toJson (s : Span) : Json :=
  .record (fieldsJson s.fields ++ [("name", .string s.name)])

/-- The innermost span and all spans of an event, if there are any. -/
def spansJson (spans : List Span) : List (String × Json) :=
  match spans.getLast? with
  | none => []
  | some s => [("span", s.toJson), ("spans", .array (spans.map Span.toJson))]

/-- An event as an object. -/
def Entry.toJson (time : String) (e : Entry) : Json :=
  let message := (e.event.message.map fun m => ("message", Json.string m)).toList
  .record <|
    [("timestamp", .string time), ("level", .string e.event.level.text),
      ("fields", .record (message ++ fieldsJson e.event.fields))] ++ spansJson e.spans

/-- How events are written. -/
inductive Format where
  | text
  | json
  deriving DecidableEq, Repr, Inhabited

/-- An event as it is written in a format. -/
def Entry.write (time : String) (e : Entry) : Format → String
  | .text => e.line time
  | .json => (e.toJson time).print

end RiskReport.Log

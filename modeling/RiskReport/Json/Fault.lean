import RiskReport.Json.Document
import RiskReport.Text.Quoted

/-!
# Why a value is refused

A `Cause` says what a decoder met and what it wanted; a `Fault` adds the place in the text, if the
value was read from one. The wording of each cause is in `Cause.message`.
-/

namespace RiskReport.Json

open Decimal

/-- What kind of value was met. -/
inductive Shape where
  | null
  | boolean (value : Bool)
  | integer (value : Int)
  | float (value : Binary64)
  | text (value : String)
  | sequence
  | map
  deriving DecidableEq, Repr, Inhabited

/-- A value named in a message. -/
def Shape.describe : Shape → String
  | .null => "null"
  | .boolean b => "boolean `" ++ (if b then "true" else "false") ++ "`"
  | .integer i => "integer `" ++ toString i ++ "`"
  | .float x => "floating point `" ++ x.write .json ++ "`"
  | .text s => "string " ++ Text.quoted s
  | .sequence => "sequence"
  | .map => "map"

/-- Why a value is refused. -/
inductive Cause where
  | notJson (error : SyntaxError)
  | invalidType (found : Shape) (expected : String)
  | invalidValue (found : Shape) (expected : String)
  | invalidLength (length : Nat) (expected : String)
  | missingField (name : String)
  | duplicateField (name : String)
  | unknownField (name : String) (known : List String)
  | unknownVariant (name : String) (known : List String)
  /-- A text or a record that breaks a rule of its own. -/
  | malformed (reason : String)
  deriving DecidableEq, Repr, Inhabited

/-- Names to choose from, as a message lists them. -/
def alternatives (names : List String) : String :=
  match names.map fun n => "`" ++ n ++ "`" with
  | [a] => a
  | [a, b] => a ++ " or " ++ b
  | as => "one of " ++ ", ".intercalate as

/-- The wording of a cause. -/
def Cause.message : Cause → String
  | .notJson e => e.message
  | .invalidType found expected => "invalid type: " ++ found.describe ++ ", expected " ++ expected
  | .invalidValue found expected => "invalid value: " ++ found.describe ++ ", expected " ++ expected
  | .invalidLength n expected => "invalid length " ++ toString n ++ ", expected " ++ expected
  | .missingField name => "missing field `" ++ name ++ "`"
  | .duplicateField name => "duplicate field `" ++ name ++ "`"
  | .unknownField name known => "unknown field `" ++ name ++ "`, expected " ++ alternatives known
  | .unknownVariant name known =>
    "unknown variant `" ++ name ++ "`, expected " ++ alternatives known
  | .malformed reason => reason

/-- A cause and its place in the text, in bytes. -/
structure Fault where
  cause : Cause
  place : Option Nat
  deriving DecidableEq, Repr, Inhabited

/-- A syntax error as a fault. -/
def Flaw.fault (e : Flaw) : Fault :=
  ⟨.notJson e.error, some e.offset⟩

/-- The wording of a fault found in a text: the cause, and the line and column of its place. -/
def Fault.message (text : String) (f : Fault) : String :=
  match f.place with
  | none => f.cause.message
  | some place =>
    let (line, column) := position text.toList place
    f.cause.message ++ " at line " ++ toString line ++ " column " ++ toString column

/-- The error that reading an array reports for a container that fails to end. -/
def Cut.readingList : Cut → SyntaxError
  | .unended => .eofList
  | .unseparated => .expectedListSeparator
  | .closedAfterComma => .trailingComma
  | .endedAfterComma => .eofValue
  | .notKey => .keyNotText

/-- The error that reading an object reports for a container that fails to end. -/
def Cut.readingObject : Cut → SyntaxError
  | .unended => .eofObject
  | .unseparated => .expectedObjectSeparator
  | .closedAfterComma => .trailingComma
  | .endedAfterComma => .eofValue
  | .notKey => .keyNotText

/-- The error that skipping an array reports: a comma asks for another value. -/
def Cut.skippingList : Cut → SyntaxError
  | .closedAfterComma => .expectedValue
  | cut => cut.readingList

/-- The error that skipping an object reports: a comma asks for another key. -/
def Cut.skippingObject : Cut → SyntaxError
  | .closedAfterComma => .keyNotText
  | .endedAfterComma => .eofObject
  | cut => cut.readingObject

/-- The error at the end of an array from which no more items are wanted. -/
def Cut.closingList : Cut → SyntaxError
  | .unended => .eofList
  | .closedAfterComma => .trailingComma
  | _ => .trailingCharacters

/-- The place after a container's ending, or the fault in it. -/
def Ending.check (wording : Cut → SyntaxError) : Ending → Except Fault (Option Nat)
  | .unwritten => .ok none
  | .closed stop => .ok (some stop)
  | .cut how place => .error ⟨.notJson (wording how), some place⟩
  | .lost => .error ⟨.notJson .eofValue, none⟩

/-- How far the text is read in looking for a container's closing bracket: past the bracket, or up
to what stands instead. -/
def Ending.reached : Ending → Option Nat
  | .unwritten | .lost => none
  | .closed stop => some stop
  | .cut .unended place | .cut .endedAfterComma place => some place
  | .cut _ place => some (place - 1)

/-- What kind of value a node is; text that is no value counts as null. -/
def Node.shape : Node → Shape
  | .null _ => .null
  | .bool b _ => .boolean b
  | .number (.int i) _ => .integer i
  | .number (.float x) _ => .float x
  | .text s _ => .text s
  | .array .. => .sequence
  | .object .. => .map
  | .flawed .. => .null

/-- The place of a node's first character, if it was written. -/
def Node.start : Node → Option Nat
  | .null span | .bool _ span | .number _ span | .text _ span => span.map (·.start)
  | .array _ .unwritten _ _ | .object _ .unwritten _ _ => none
  | .array _ _ start _ | .object _ _ start _ => some start
  | .flawed _ start _ _ => some start

/-- The place at which a value of the wrong kind is refused: a scalar has been read by then, a
container has not. -/
def Node.refusal : Node → Option Nat
  | .null span | .bool _ span | .number _ span | .text _ span => span.map (·.stop)
  | n => n.start

/-- Refuse a node that is not what is expected; text that is no value is refused for its flaw. -/
def Node.mismatch (expected : String) (n : Node) : Fault :=
  match n with
  | .flawed _ _ e _ => e.fault
  | n => ⟨.invalidType n.shape expected, n.refusal⟩

/-- The fault of a container that is nested too deeply to be read. -/
def tooDeepAt (start : Nat) : Fault :=
  ⟨.notJson .tooDeep, some (start + 1)⟩

mutual

/-- Pass over a node that nobody asks for. -/
def Node.skip : Node → Except Fault Unit
  | .flawed _ _ _ (some e) => .error e.fault
  | .array items ending _ _ => do
    skipItems items
    let _ ← ending.check Cut.skippingList
  | .object fields ending _ _ => do
    skipFields fields
    let _ ← ending.check Cut.skippingObject
  | _ => .ok ()

/-- Pass over some items. -/
def skipItems : List Node → Except Fault Unit
  | [] => .ok ()
  | n :: ns => do n.skip; skipItems ns

/-- Pass over some fields. -/
def skipFields : List (Label × Node) → Except Fault Unit
  | [] => .ok ()
  | (label, n) :: fs => do
    match label.key with
    | .flawed _ (some e) => throw e.fault
    | _ => n.skip; skipFields fs

end

mutual

/-- The node with its places forgotten, if it can be read at all. -/
def Node.detach : Node → Except Fault Node
  | .null _ => .ok (.null none)
  | .bool b _ => .ok (.bool b none)
  | .number n _ => .ok (.number n none)
  | .text s _ => .ok (.text s none)
  | .flawed _ _ e _ => .error e.fault
  | .array items ending start deep => do
    if deep then throw (tooDeepAt start)
    let items ← detachItems items
    let _ ← ending.check Cut.readingList
    return .array items .unwritten 0 false
  | .object fields ending start deep => do
    if deep then throw (tooDeepAt start)
    let fields ← detachFields fields
    let _ ← ending.check Cut.readingObject
    return .object fields .unwritten 0 false

/-- Some items with their places forgotten. -/
def detachItems : List Node → Except Fault (List Node)
  | [] => .ok []
  | n :: ns => do return (← n.detach) :: (← detachItems ns)

/-- Some fields with their places forgotten. -/
def detachFields : List (Label × Node) → Except Fault (List (Label × Node))
  | [] => .ok []
  | (label, n) :: fs => do
    match label.key with
    | .flawed e _ => throw e.fault
    | .text k => return (⟨.text k, 0, 0, false, 0⟩, ← n.detach) :: (← detachFields fs)

end

mutual

/-- The value of a node; of two fields with one key the later one counts, and text that is no
value counts as null. -/
def Node.value : Node → Json
  | .null _ => .null
  | .bool b _ => .bool b
  | .number n _ => .number n
  | .text s _ => .string s
  | .array items .. => .array (itemValues items)
  | .object fields .. => .record (fieldValues fields)
  | .flawed .. => .null

/-- The values of some items. -/
def itemValues : List Node → List Json
  | [] => []
  | n :: ns => n.value :: itemValues ns

/-- The keys and values of some fields. -/
def fieldValues : List (Label × Node) → List (String × Json)
  | [] => []
  | (label, n) :: fs =>
    match label.key with
    | .text k => (k, n.value) :: fieldValues fs
    | .flawed .. => fieldValues fs

end

end RiskReport.Json

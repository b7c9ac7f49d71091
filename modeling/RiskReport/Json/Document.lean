import RiskReport.Json.Text

/-!
# JSON documents

A `Node` is a JSON value together with what a decoder needs to report errors: where each part
stands in the text, in which order the keys of an object were written, and how far the text could
be read at all. A flaw of the text does not end reading with an error. It becomes a node
(`Node.flawed`) or the ending of a container (`Ending`), and a decoder that walks the document in
its written order meets it in its turn; so an ill-typed value in front of a syntax error is
reported first. A part that nobody asks for is passed over by weaker rules, which is why a flaw
says both what reading and what skipping report.

`Node.ofJson` is the document of a value that was never written: its parts have no places.
-/

namespace RiskReport.Json

/-- Where a value begins and ends in the text, in bytes. -/
structure Span where
  start : Nat
  stop : Nat
  deriving DecidableEq, Repr, Inhabited

/-- How a container fails to end. -/
inductive Cut where
  /-- The text ends where a separator should stand. -/
  | unended
  /-- Something else stands where a separator should. -/
  | unseparated
  /-- A comma stands before the closing bracket. -/
  | closedAfterComma
  /-- The text ends after a comma. -/
  | endedAfterComma
  /-- Something other than a key stands where one should. -/
  | notKey
  deriving DecidableEq, Repr, Inhabited

/-- How a container ends. -/
inductive Ending where
  /-- It was never written. -/
  | unwritten
  /-- Its closing bracket ends at this place. -/
  | closed (stop : Nat)
  /-- It fails to end, and the failure is found at this place. -/
  | cut (how : Cut) (place : Nat)
  /-- Its last part fails to end. -/
  | lost
  deriving DecidableEq, Repr, Inhabited

/-- The key of a field. -/
inductive Key where
  | text (key : String)
  | flawed (reading : Flaw) (skipping : Option Flaw)
  deriving DecidableEq, Repr, Inhabited

/-- A field's key with the place where it ends, the place of the next character and whether that
is a closing bracket, and the place of the first character after the field's value. -/
structure Label where
  key : Key
  stop : Nat
  after : Nat
  beforeClose : Bool
  next : Nat
  deriving DecidableEq, Repr, Inhabited

/-- A value of a document. -/
inductive Node where
  | null (span : Option Span)
  | bool (value : Bool) (span : Option Span)
  | number (value : Number) (span : Option Span)
  | text (value : String) (span : Option Span)
  | array (items : List Node) (ending : Ending) (start : Nat) (deep : Bool)
  | object (fields : List (Label × Node)) (ending : Ending) (start : Nat) (deep : Bool)
  /-- Text that is no value: its first character, its place, what reading reports, and what
  skipping reports, if anything. -/
  | flawed (first : Option Char) (start : Nat) (reading : Flaw) (skipping : Option Flaw)
  deriving Repr, Inhabited

mutual

/-- The document of a value that was never written. -/
def Node.ofJson : Json → Node
  | .null => .null none
  | .bool b => .bool b none
  | .number n => .number n none
  | .string s => .text s none
  | .array items => .array (Node.ofItems items) .unwritten 0 false
  | .object fields => .object (Node.ofFields fields) .unwritten 0 false

/-- The documents of some values. -/
def Node.ofItems : List Json → List Node
  | [] => []
  | v :: vs => Node.ofJson v :: Node.ofItems vs

/-- The documents of some fields. -/
def Node.ofFields : List (String × Json) → List (Label × Node)
  | [] => []
  | (k, v) :: fs => (⟨.text k, 0, 0, false, 0⟩, Node.ofJson v) :: Node.ofFields fs

end

/-- The depth of containers at which reading gives up. -/
def depthLimit : Nat := 128

/-- Read one of the three words, given the characters after its first one. -/
def readWord (word : List Char) (c : Cursor) : Except Flaw Cursor :=
  match word with
  | [] => .ok c
  | w :: ws =>
    match c.rest with
    | [] => .error (c.flawHere .eofValue)
    | x :: _ => if x == w then readWord ws c.eat else .error (c.eat.flawHere .expectedWord)

/-- A word and its value, or the flaw in it. -/
def wordNode (c : Cursor) (word : List Char) (value : Option Span → Node) :
    Node × Option Cursor :=
  match readWord word c.eat with
  | .ok after => (value (some ⟨c.offset, after.offset⟩), some after)
  | .error e => (.flawed c.rest.head? c.offset e (some e), none)

/-- A numeral, or the flaw in it. -/
def numberNode (c : Cursor) : Node × Option Cursor :=
  match readNumber c with
  | .ok (n, after) => (.number n (some ⟨c.offset, after.offset⟩), some after)
  | .error e =>
    match skipNumber c with
    | .ok after => (.flawed c.rest.head? c.offset e none, some after)
    | .error e' => (.flawed c.rest.head? c.offset e (some e'), none)

/-- A string, or the flaw in it. -/
def textNode (c : Cursor) : Node × Option Cursor :=
  match readText [] c.rest.tail (c.offset + 1) with
  | .ok (s, after) => (.text s (some ⟨c.offset, after.offset⟩), some after)
  | .error e =>
    match skipText c.rest.tail (c.offset + 1) with
    | .ok after => (.flawed c.rest.head? c.offset e none, some after)
    | .error e' => (.flawed c.rest.head? c.offset e (some e'), none)

/-- A key, its label apart from its place, and the place after it. -/
def readKey (c : Cursor) : Key × Option Cursor :=
  match readText [] c.rest.tail (c.offset + 1) with
  | .ok (s, after) => (.text s, some after)
  | .error e =>
    match skipText c.rest.tail (c.offset + 1) with
    | .ok after => (.flawed e none, some after)
    | .error e' => (.flawed e (some e'), none)

/-- Text that is no value at all. -/
def strayNode (c : Cursor) : Node × Option Cursor :=
  let e := c.flawAhead (if c.rest.isEmpty then .eofValue else .expectedValue)
  (.flawed c.rest.head? c.offset e (some e), none)

mutual

/-- Read a value at a place that is no blank. The fuel is more than the characters left. -/
def readValue : (fuel depth : Nat) → Cursor → Node × Option Cursor
  | 0, _, c => strayNode c
  | fuel + 1, depth, c =>
    match c.rest with
    | 'n' :: _ => wordNode c ['u', 'l', 'l'] .null
    | 't' :: _ => wordNode c ['r', 'u', 'e'] (.bool true)
    | 'f' :: _ => wordNode c ['a', 'l', 's', 'e'] (.bool false)
    | '"' :: _ => textNode c
    | '[' :: _ =>
      let (items, ending, after) := readItems fuel (depth + 1) true c.eat
      (.array items ending c.offset (depthLimit ≤ depth + 1), after)
    | '{' :: _ =>
      let (fields, ending, after) := readFields fuel (depth + 1) true c.eat
      (.object fields ending c.offset (depthLimit ≤ depth + 1), after)
    | x :: _ => if x == '-' || x.isDigit then numberNode c else strayNode c
    | [] => strayNode c

/-- Read the items of an array up to its ending. -/
def readItems : (fuel depth : Nat) → (first : Bool) → Cursor →
    List Node × Ending × Option Cursor
  | 0, _, _, _ => ([], .lost, none)
  | fuel + 1, depth, first, c =>
    let c := c.skipBlanks
    let more (c : Cursor) : List Node × Ending × Option Cursor :=
      match readValue fuel depth c with
      | (v, none) => ([v], .lost, none)
      | (v, some after) =>
        let (vs, ending, last) := readItems fuel depth false after
        (v :: vs, ending, last)
    match c.rest with
    | [] => ([], .cut .unended c.offset, none)
    | x :: _ =>
      if x == ']' then ([], .closed (c.offset + 1), some c.eat)
      else if first then more c
      else if x == ',' then
        let c := c.eat.skipBlanks
        match c.rest with
        | [] => ([], .cut .endedAfterComma c.offset, none)
        | y :: _ =>
          if y == ']' then ([], .cut .closedAfterComma (c.offset + 1), none) else more c
      else ([], .cut .unseparated (c.offset + 1), none)

/-- Read the fields of an object up to its ending. -/
def readFields : (fuel depth : Nat) → (first : Bool) → Cursor →
    List (Label × Node) × Ending × Option Cursor
  | 0, _, _, _ => ([], .lost, none)
  | fuel + 1, depth, first, c =>
    let c := c.skipBlanks
    let more (c : Cursor) : List (Label × Node) × Ending × Option Cursor :=
      match readKey c with
      | (key, none) => ([(⟨key, 0, 0, false, 0⟩, .null none)], .lost, none)
      | (key, some keyEnd) =>
        let after := keyEnd.skipBlanks
        let label (next : Nat) : Label :=
          ⟨key, keyEnd.offset, after.offset, after.peek == '}', next⟩
        match after.rest with
        | ':' :: _ =>
          match readValue fuel depth after.eat.skipBlanks with
          | (v, none) => ([(label 0, v)], .lost, none)
          | (v, some after) =>
            let (fs, ending, last) := readFields fuel depth false after
            ((label after.skipBlanks.offset, v) :: fs, ending, last)
        | rest =>
          let e := after.flawAhead (if rest.isEmpty then .eofObject else .expectedColon)
          ([(label 0, .flawed none after.offset e (some e))], .lost, none)
    match c.rest with
    | [] => ([], .cut .unended c.offset, none)
    | x :: _ =>
      if x == '}' then ([], .closed (c.offset + 1), some c.eat)
      else if first then
        if x == '"' then more c else ([], .cut .notKey (c.offset + 1), none)
      else if x == ',' then
        let c := c.eat.skipBlanks
        match c.rest with
        | [] => ([], .cut .endedAfterComma c.offset, none)
        | y :: _ =>
          if y == '"' then more c
          else if y == '}' then ([], .cut .closedAfterComma (c.offset + 1), none)
          else ([], .cut .notKey (c.offset + 1), none)
      else ([], .cut .unseparated (c.offset + 1), none)

end

/-- A text read as JSON: its value, and the flaw of whatever follows the value. -/
structure Document where
  root : Node
  trailing : Option Flaw
  deriving Repr, Inhabited

/-- Read a text. -/
def Document.ofText (s : String) : Document :=
  let cs := s.toList
  match readValue (2 * cs.length + 2) 0 (Cursor.skipBlanks ⟨cs, 0⟩) with
  | (root, none) => ⟨root, none⟩
  | (root, some after) =>
    let after := after.skipBlanks
    ⟨root, if after.rest.isEmpty then none else some (after.flawAhead .trailingCharacters)⟩

/-- The line and the column of a place: lines are counted from one, columns in bytes since the
last line feed. -/
def position (cs : List Char) (offset : Nat) : Nat × Nat :=
  go cs offset 1 0
where
  go : List Char → Nat → Nat → Nat → Nat × Nat
    | [], _, line, column => (line, column)
    | c :: cs, left, line, column =>
      if left < c.utf8Size then (line, column + left)
      else if c == '\n' then go cs (left - 1) (line + 1) 0
      else go cs (left - c.utf8Size) line (column + c.utf8Size)

end RiskReport.Json

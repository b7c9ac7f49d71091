import RiskReport.Json.Fault

/-!
# Decoding JSON documents

A `Decoder` takes a node of a document to a value of a type, or says why it is refused. The
combinators here fix the rules for every type of the library:

* a record is read from an object, whose unknown keys are passed over, or from an array of its
  fields in order;
* the fields of an object are read in the order in which they stand, so that the first bad one is
  reported; missing fields are reported last, in the order of declaration (`Fields`);
* an enumeration is read from its name, or from an object that maps its one name to null.
-/

namespace RiskReport.Json

/-- A reader of values of one type. -/
abbrev Decoder (α : Type) := Node → Except Fault α

namespace Decoder

/-- A whole number between two bounds, which the message calls by a name. -/
def int (low high : Int) (name : String) : Decoder Int
  | .number (.int i) span =>
    if low ≤ i && i ≤ high then .ok i
    else .error ⟨.invalidValue (.integer i) name, span.map (·.stop)⟩
  | n => .error (n.mismatch name)

/-- A natural number below `2 ^ bits`. -/
def unsigned (bits : Nat) : Decoder Nat := fun n =>
  (int 0 (Nat.pow 2 bits - 1 : Nat) ("u" ++ toString bits) n).map Int.toNat

/-- A whole number of `bits` bits with its sign. -/
def signed (bits : Nat) : Decoder Int :=
  let half := Nat.pow 2 (bits - 1)
  int (-(half : Int)) ((half : Int) - 1) ("i" ++ toString bits)

/-- A truth value. -/
def bool : Decoder Bool
  | .bool b _ => .ok b
  | n => .error (n.mismatch "a boolean")

/-- A text with a meaning of its own: `expected` names it, and `parse` reads it or says what is
wrong with it. -/
def parsed {α : Type} (expected : String) (parse : String → Except String α) : Decoder α
  | .text s span =>
    match parse s with
    | .ok a => .ok a
    | .error reason => .error ⟨.malformed reason, span.map (·.stop)⟩
  | n => .error (n.mismatch expected)

/-- A text. -/
def string : Decoder String :=
  parsed "a string" .ok

/-- Null and nothing else. -/
def unit : Decoder Unit
  | .null _ => .ok ()
  | n => .error (n.mismatch "unit")

/-- A value that may be null. -/
def optional {α : Type} (d : Decoder α) : Decoder (Option α)
  | .null _ => .ok none
  | n => (d n).map some

/-- Any value. -/
def json : Decoder Json := fun n =>
  n.detach.map Node.value

/-- Decode each item of a list, the first refusal first. -/
def items {α : Type} (d : Decoder α) : List Node → Except Fault (List α)
  | [] => .ok []
  | n :: ns => do return (← d n) :: (← items d ns)

/-- An array of values of one type. -/
def list {α : Type} (d : Decoder α) : Decoder (List α)
  | .array ns ending start deep => do
    if deep then throw (tooDeepAt start)
    let as ← items d ns
    let _ ← ending.check Cut.readingList
    return as
  | n => .error (n.mismatch "a sequence")

/-- Put an entry into a list of entries in ascending order of the keys. -/
def insertEntry {α : Type} (key : String) (value : α) : List (String × α) → List (String × α)
  | [] => [(key, value)]
  | (k, v) :: rest =>
    if key < k then (key, value) :: (k, v) :: rest
    else if key = k then (key, value) :: rest
    else (k, v) :: insertEntry key value rest

/-- Decode the fields of an object into entries, of two with one key the later one. -/
def entries {α : Type} (d : Decoder α) (acc : List (String × α)) :
    List (Label × Node) → Except Fault (List (String × α))
  | [] => .ok acc
  | (label, n) :: fs => do
    match label.key with
    | .flawed e _ => throw e.fault
    | .text k => entries d (insertEntry k (← d n) acc) fs

/-- An object with any keys and values of one type: its entries in ascending order of the keys. -/
def map {α : Type} (d : Decoder α) : Decoder (List (String × α))
  | .object fs ending start deep => do
    if deep then throw (tooDeepAt start)
    let es ← entries d [] fs
    let _ ← ending.check Cut.readingObject
    return es
  | n => .error (n.mismatch "a map")

/-- The variant with a name. -/
def variant {α : Type} (variants : List (String × α)) (name : String) (place : Option Nat) :
    Except Fault α :=
  match variants.lookup name with
  | some a => .ok a
  | none => .error ⟨.unknownVariant name (variants.map (·.1)), place⟩

/-- An enumeration, from a name or from an object that maps one name to null. -/
def enumeration {α : Type} (variants : List (String × α)) : Decoder α
  | .text s span => variant variants s (span.map (·.stop))
  | .object fs .unwritten _ _ =>
    match fs with
    | [(⟨.text k, _, _, _, _⟩, n)] => do
      let a ← variant variants k none
      unit n
      return a
    | _ => .error ⟨.invalidValue .map "map with a single key", none⟩
  | .object fs ending start deep => do
    if deep then throw (tooDeepAt start)
    match fs with
    | [] =>
      match ending with
      | .closed place => throw ⟨.notJson .expectedValue, some place⟩
      | .cut how place => throw ⟨.notJson how.readingObject, some place⟩
      | _ => throw ⟨.notJson .expectedValue, some (start + 1)⟩
    | (label, n) :: rest =>
      match label.key with
      | .flawed e _ => throw e.fault
      | .text k =>
        let a ← variant variants k (some label.stop)
        unit n
        match rest, ending with
        | [], .closed _ => return a
        | [], .cut .unended place => throw ⟨.notJson .eofObject, some place⟩
        | _, _ => throw ⟨.notJson .expectedValue, some label.next⟩
  | .flawed first start e _ =>
    if first == none || first == some '"' then .error e.fault
    else .error ⟨.notJson .expectedValue, some (start + 1)⟩
  | n =>
    match n.start with
    | none => .error (n.mismatch "string or map")
    | some start => .error ⟨.notJson .expectedValue, some (start + 1)⟩

end Decoder

/-- The fields of a record under way: what has been read so far (`Slots`), how a field is read into
its slot, and how the full slots make up the record. The fields are numbered in the order of their
declaration. -/
structure Fields (α : Type) : Type 1 where
  Slots : Type
  empty : Slots
  names : List String
  /-- Whether the slot of a field is full. -/
  full : Nat → Slots → Bool
  /-- Read a field into its slot. -/
  read : Nat → Node → Slots → Except Fault Slots
  /-- Fill the slot of a field that an array is too short to hold, if the field has a default. -/
  fill : Nat → Slots → Option Slots
  /-- Make up the record; a missing field takes its default or is reported. -/
  finish : Slots → Except Cause α

namespace Fields

/-- One field. `missing` is its value when an object does not have it, `short` its value when an
array ends before it. -/
def field {α : Type} (name : String) (d : Decoder α) (missing short : Option α) : Fields α where
  Slots := Option α
  empty := none
  names := [name]
  full _ s := s.isSome
  read _ n _ := (d n).map some
  fill _ _ := short.map some
  finish s :=
    match s.or missing with
    | some a => .ok a
    | none => .error (.missingField name)

/-- A field that must be there. -/
def required {α : Type} (name : String) (d : Decoder α) : Fields α :=
  field name d none none

/-- A field that may be null or missing. -/
def optional {α : Type} (name : String) (d : Decoder α) : Fields (Option α) :=
  field name d.optional (some none) none

/-- A field with a default. -/
def withDefault {α : Type} (name : String) (d : Decoder α) (value : α) : Fields α :=
  field name d (some value) (some value)

/-- No field. -/
def const {α : Type} (a : α) : Fields α where
  Slots := Unit
  empty := ()
  names := []
  full _ _ := false
  read _ _ s := .ok s
  fill _ s := some s
  finish _ := .ok a

/-- The fields of two records, one after the other. -/
def and {α β : Type} (fs : Fields (α → β)) (gs : Fields α) : Fields β where
  Slots := fs.Slots × gs.Slots
  empty := (fs.empty, gs.empty)
  names := fs.names ++ gs.names
  full i s := if i < fs.names.length then fs.full i s.1 else gs.full (i - fs.names.length) s.2
  read i n s :=
    if i < fs.names.length then (fs.read i n s.1).map fun x => (x, s.2)
    else (gs.read (i - fs.names.length) n s.2).map fun x => (s.1, x)
  fill i s :=
    if i < fs.names.length then (fs.fill i s.1).map fun x => (x, s.2)
    else (gs.fill (i - fs.names.length) s.2).map fun x => (s.1, x)
  finish s := do
    let f ← fs.finish s.1
    let a ← gs.finish s.2
    return f a

/-- Check or change the record that the fields make up. -/
def refine {α β : Type} (fs : Fields α) (f : α → Except Cause β) : Fields β where
  Slots := fs.Slots
  empty := fs.empty
  names := fs.names
  full := fs.full
  read := fs.read
  fill := fs.fill
  finish s := fs.finish s >>= f

instance : Pure Fields := ⟨const⟩

instance : Functor Fields where
  map f fs := fs.refine fun a => .ok (f a)

instance : Seq Fields where
  seq fs gs := fs.and (gs ())

/-- The number of fields. -/
def count {α : Type} (fs : Fields α) : Nat := fs.names.length

end Fields

/-- How a record is called in messages, and how strict it is. -/
structure RecordForm where
  /-- The record, as in `struct Price`. -/
  title : String
  /-- What an array that is too short is compared with. -/
  whole : String
  /-- What an array that was never written is compared with when it is too long. -/
  fewer : String
  /-- Whether unknown keys are refused. -/
  strict : Bool := false

/-- The form of a record with a name and a number of fields. -/
def RecordForm.named (name : String) (count : Nat) : RecordForm where
  title := "struct " ++ name
  whole :=
    "struct " ++ name ++ " with " ++ toString count ++
      (if count == 1 then " element" else " elements")
  fewer := "fewer elements in array"

namespace Decoder

/-- The place at which a key is refused: past a closing bracket that follows it. -/
def keyPlace (ending : Ending) (label : Label) : Option Nat :=
  match ending with
  | .unwritten => none
  | _ => some (if label.beforeClose then label.after + 1 else label.after)

/-- Read the fields of an object in their order. -/
def readFields {α : Type} (form : RecordForm) (fs : Fields α) (ending : Ending) :
    List (Label × Node) → fs.Slots → Except Fault fs.Slots
  | [], s => .ok s
  | (label, n) :: rest, s => do
    match label.key with
    | .flawed e _ => throw e.fault
    | .text k =>
      match fs.names.findIdx? (· == k) with
      | none =>
        if form.strict then throw ⟨.unknownField k fs.names, keyPlace ending label⟩
        n.skip
        readFields form fs ending rest s
      | some i =>
        if fs.full i s then throw ⟨.duplicateField k, keyPlace ending label⟩
        readFields form fs ending rest (← fs.read i n s)

/-- Read the items of an array into the fields from number `i` on; `left` fields are still to be
read. The result has the items that are left. -/
def readItems {α : Type} (form : RecordForm) (fs : Fields α) (ending : Ending) :
    (left i : Nat) → List Node → fs.Slots → Except Fault (List Node × fs.Slots)
  | 0, _, ns, s => .ok (ns, s)
  | left + 1, i, n :: ns, s => do
    readItems form fs ending left (i + 1) ns (← fs.read i n s)
  | left + 1, i, [], s => do
    let stop ← ending.check Cut.readingList
    match fs.fill i s with
    | some s => readItems form fs ending left (i + 1) [] s
    | none => throw ⟨.invalidLength i form.whole, stop⟩

/-- How far an array has been read when its record is made up: past its closing bracket, or to
whatever stands instead. -/
def reached (ending : Ending) (rest : List Node) : Option Nat :=
  match rest with
  | n :: _ => n.start
  | [] => ending.reached

/-- Check that an array has no items left. -/
def endItems (form : RecordForm) (ending : Ending) (length : Nat) (rest : List Node) :
    Except Fault (Option Nat) :=
  match rest with
  | [] => ending.check Cut.closingList
  | n :: _ =>
    match n.start with
    | none => .error ⟨.invalidLength length form.fewer, none⟩
    | some start => .error ⟨.notJson .trailingCharacters, some (start + 1)⟩

/-- A record, from an object or from an array. -/
def record {α : Type} (form : RecordForm) (fs : Fields α) : Decoder α
  | .object fields ending start deep => do
    if deep then throw (tooDeepAt start)
    let s ← readFields form fs ending fields fs.empty
    let stop ← ending.check Cut.readingObject
    (fs.finish s).mapError fun e => ⟨e, stop⟩
  | .array ns ending start deep => do
    if deep then throw (tooDeepAt start)
    let (rest, s) ← readItems form fs ending fs.count 0 ns fs.empty
    let a ← (fs.finish s).mapError fun e => ⟨e, reached ending rest⟩
    let _ ← endItems form ending ns.length rest
    return a
  | n => .error (n.mismatch form.title)

/-- A record called by its name. -/
def struct {α : Type} (name : String) (fs : Fields α) : Decoder α :=
  record (.named name fs.count) fs

/-- The record that is left of a tagged one once its tag has been taken off. -/
def untagged {α : Type} (name : String) (fs : Fields α) : Decoder α :=
  record
    { RecordForm.named name fs.count with
      fewer := toString fs.count ++
        (if fs.count == 1 then " element in sequence" else " elements in sequence") }
    fs

/-- The variant that a tag names. -/
def tag {α : Type} (variants : List (String × Decoder α)) : Decoder (Decoder α)
  | .text s span => variant variants s (span.map (·.stop))
  | n => .error (n.mismatch "variant identifier")

/-- Find the tag among the fields of an object: the variant, if it is there, and the other fields
with their places forgotten. -/
def splitTag {α : Type} (key : String) (variants : List (String × Decoder α)) (ending : Ending) :
    Option (Decoder α) → List (Label × Node) →
      Except Fault (Option (Decoder α) × List (Label × Node))
  | found, [] => .ok (found, [])
  | found, (label, n) :: rest => do
    match label.key with
    | .flawed e _ => throw e.fault
    | .text k =>
      if k == key then
        if found.isSome then throw ⟨.duplicateField key, keyPlace ending label⟩
        splitTag key variants ending (some (← tag variants n)) rest
      else
        let n ← n.detach
        let (found, others) ← splitTag key variants ending found rest
        return (found, (⟨.text k, 0, 0, false, 0⟩, n) :: others)

/-- A record with a tag that says which variant it is: an object with the tag among its fields, or
an array with the tag in front. The rest is read once the tag is known, and has no places then. -/
def tagged {α : Type} (title key : String) (variants : List (String × Decoder α)) : Decoder α
  | .object fields ending start deep => do
    if deep then throw (tooDeepAt start)
    let (found, others) ← splitTag key variants ending none fields
    let stop ← ending.check Cut.readingObject
    match found with
    | none => throw ⟨.missingField key, stop⟩
    | some rest => rest (.object others .unwritten 0 false)
  | .array ns ending start deep => do
    if deep then throw (tooDeepAt start)
    match ns with
    | [] =>
      let stop ← ending.check Cut.readingList
      throw ⟨.missingField key, stop⟩
    | n :: ns =>
      let rest ← tag variants n
      let ns ← detachItems ns
      let _ ← ending.check Cut.readingList
      rest (.array ns .unwritten 0 false)
  | n => .error (n.mismatch title)

/-- Decode a value that was never written. -/
def ofJson {α : Type} (d : Decoder α) (v : Json) : Except Fault α :=
  d (Node.ofJson v)

/-- Decode a text, which holds one value and nothing after it. -/
def ofText {α : Type} (d : Decoder α) (s : String) : Except Fault α := do
  let doc := Document.ofText s
  let a ← d doc.root
  match doc.trailing with
  | none => return a
  | some e => throw e.fault

end Decoder

/-- Read a text as a JSON value. -/
def parse (s : String) : Except Fault Json :=
  Decoder.json.ofText s

end RiskReport.Json

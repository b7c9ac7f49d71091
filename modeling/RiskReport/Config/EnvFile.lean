import RiskReport.Text.Blank

/-!
# Files of variables

A file of variables has lines of the form `KEY=value`, perhaps after the word `export`. Blank lines
and lines that begin with `#` say nothing, and so does what follows a `#` after a blank. Single
quotes keep everything as it is. Outside of them a backslash takes away the meaning of the next
character, and `$NAME` or a name in braces after `$` stands for the value of a variable. A quoted
value may go on over several lines. `EnvFile.extend` adds the variables of a file to those that are
set already, which win; it stops at the first line that cannot be read.
-/

namespace RiskReport.EnvFile

open Text

/-! ## Lines -/

/-- The lines of a text, each with the line feed that ends it. -/
def linesOf : List Char → List (List Char)
  | [] => []
  | c :: cs =>
    if c == '\n' then [c] :: linesOf cs
    else
      match linesOf cs with
      | [] => [[c]]
      | l :: ls => (c :: l) :: ls

/-- What is open at a place in a line. -/
inductive Opened where
  | nothing
  /-- A blank has been read. -/
  | blank
  | escape
  | double
  | doubleEscape
  | single
  | singleEscape
  deriving DecidableEq, Repr, Inhabited

namespace Opened

/-- What a character opens where nothing else is open. -/
def start : Char → Opened
  | '\\' => escape
  | '"' => double
  | '\'' => single
  | _ => nothing

/-- What is open after a further character; nothing at all, if a comment begins with it. -/
def next (c : Char) : Opened → Option Opened
  | nothing => if isBlank c && c != '\n' && c != '\r' then some blank else some (start c)
  | blank => if c == '#' then none else some (start c)
  | escape => some nothing
  | double => some (if c == '\\' then doubleEscape else if c == '"' then nothing else double)
  | doubleEscape => some double
  | single => some (if c == '\\' then singleEscape else if c == '\'' then nothing else single)
  | singleEscape => some single

end Opened

/-- Follow a line: what of it stands before a comment, and what is open at its end unless a comment
has ended it. -/
def follow : Opened → List Char → List Char × Option Opened
  | opened, [] => ([], some opened)
  | opened, c :: cs =>
    match opened.next c with
    | none => ([], none)
    | some opened =>
      let (kept, ending) := follow opened cs
      (c :: kept, ending)

/-- A line without the line feed, and the carriage return before it, that end it. -/
def dropLineEnd (cs : List Char) : List Char :=
  match cs.reverse with
  | '\n' :: '\r' :: rest | '\n' :: rest => rest.reverse
  | _ => cs

/-- Put lines together that belong together, after a beginning that is still open. What is never
closed is dropped. -/
def joinLines : (beginning : List Char) → Opened → List (List Char) → List (List Char)
  | _, _, [] => []
  | beginning, opened, line :: rest =>
    let whole := beginning ++ line
    if (trimStartChars whole).head? == some '#' then joinLines [] .nothing rest
    else
      match follow opened line with
      | (kept, none) => (beginning ++ kept) :: joinLines [] .nothing rest
      | (_, some .nothing) => dropLineEnd whole :: joinLines [] .nothing rest
      | (_, some opened) => joinLines whole opened rest

/-! ## Values -/

/-- What stands for the value of a variable. -/
inductive Reference where
  /-- A name after `$`. -/
  | bare
  /-- A name in braces after `$`. -/
  | braced
  deriving DecidableEq, Repr, Inhabited

/-- How far a value has been read. -/
structure Reading where
  /-- What the value is so far, the last character first. -/
  output : List Char := []
  single : Bool := false
  double : Bool := false
  escaped : Bool := false
  /-- Whether the value is over. -/
  finished : Bool := false
  reference : Option Reference := none
  /-- The name that is being read, the last character first. -/
  name : List Char := []
  deriving DecidableEq, Repr, Inhabited

namespace Reading

/-- Put a character after the value. -/
def push (r : Reading) (c : Char) : Reading := { r with output := c :: r.output }

/-- Put the value of the variable whose name has been read after the value. -/
def resolve (lookup : String → Option String) (r : Reading) : Reading :=
  let value := (lookup (String.ofList r.name.reverse)).getD ""
  { r with output := value.toList.reverse ++ r.output, reference := none, name := [] }

/-- Whether a character may stand in a name after `$`: a letter or a digit. Beyond ASCII
everything that is not blank counts as a letter. -/
def isNameChar (c : Char) : Bool := c.isAlphanum || (128 ≤ c.toNat && !isBlank c)

/-- Read a character after a backslash. -/
def readEscaped (r : Reading) (c : Char) : Option Reading :=
  let r := { r with escaped := false }
  if c ∈ ['\\', '\'', '"', '$', ' '] then some (r.push c)
  else if c == 'n' then some (r.push '\n')
  else none

/-- Read a character of a reference. -/
def readReference (lookup : String → Option String) (r : Reading) (kind : Reference) (c : Char) :
    Reading :=
  if isNameChar c then { r with name := c :: r.name }
  else
    match kind with
    | .braced => if c == '}' then r.resolve lookup else { r with name := c :: r.name }
    | .bare =>
      if c == '{' && r.name.isEmpty then { r with reference := some .braced }
      else if c == '$' then { r.resolve lookup with reference := some .bare }
      else (r.resolve lookup).push c

/-- Read a character that is neither escaped nor in single quotes nor in a reference. -/
def readPlain (r : Reading) (c : Char) : Reading :=
  if c == '$' then { r with reference := some .bare }
  else if c == '\\' then { r with escaped := true }
  else if c == '"' then { r with double := !r.double }
  else if r.double then r.push c
  else if c == '\'' then { r with single := true }
  else if c == ' ' || c == '\t' then { r with finished := true }
  else r.push c

/-- Read a value to its end. -/
def read (lookup : String → Option String) : Reading → List Char → Option Reading
  | r, [] => some r
  | r, c :: cs =>
    if r.finished then
      if c == ' ' || c == '\t' then read lookup r cs
      else if c == '#' then some r
      else none
    else if r.escaped then
      match r.readEscaped c with
      | some r => read lookup r cs
      | none => none
    else if r.single then
      read lookup (if c == '\'' then { r with single := false } else r.push c) cs
    else
      match r.reference with
      | some kind => read lookup (r.readReference lookup kind c) cs
      | none => read lookup (r.readPlain c) cs

end Reading

/-- The value that some characters stand for, unless a quote or a brace is left open. -/
def valueOf (lookup : String → Option String) (cs : List Char) : Option String :=
  match Reading.read lookup {} cs with
  | none => none
  | some r =>
    if r.single || r.double || r.reference == some .braced then none
    else some (String.ofList (r.resolve lookup).output.reverse)

/-! ## Variables -/

/-- Read a name: a letter or a line below, then letters, digits, lines below and dots. -/
def readKey (cs : List Char) : Option (String × List Char) :=
  match cs with
  | [] => none
  | c :: _ =>
    if c.isAlpha || c == '_' then
      let inKey (c : Char) : Bool := c.isAlphanum || c == '_' || c == '.'
      some (String.ofList (cs.takeWhile inKey), trimStartChars (cs.dropWhile inKey))
    else none

/-- Read an equals sign. -/
def readEquals : List Char → Option (List Char)
  | '=' :: cs => some (trimStartChars cs)
  | _ => none

/-- Read the name that a line sets, and what follows the equals sign. -/
def readSetting (cs : List Char) : Option (String × List Char) := do
  let (key, rest) ← readKey cs
  match key, readEquals rest with
  | _, some value => return (key, value)
  | "export", none =>
    let (key, rest) ← readKey rest
    return (key, ← readEquals rest)
  | _, none => none

/-- What a line says. -/
inductive Line where
  | nothing
  | setting (key value : String)
  | unreadable
  deriving DecidableEq, Repr, Inhabited

/-- Read a line. -/
def Line.read (lookup : String → Option String) (cs : List Char) : Line :=
  match trimStartChars (trimEndChars cs) with
  | [] | '#' :: _ => .nothing
  | cs =>
    match readSetting cs with
    | none => .unreadable
    | some (key, value) =>
      if value.isEmpty || value.head? == some '#' then .setting key ""
      else
        match valueOf lookup value with
        | some value => .setting key value
        | none => .unreadable

/-- Add the settings of lines to variables that are set. -/
def extendLines (vars : List (String × String)) : List (List Char) → List (String × String)
  | [] => vars
  | line :: rest =>
    match Line.read (fun key => vars.lookup key) line with
    | .nothing => extendLines vars rest
    | .unreadable => vars
    | .setting key value =>
      extendLines (if (vars.lookup key).isSome then vars else vars ++ [(key, value)]) rest

/-- Add the variables of a file to those that are set already. -/
def extend (vars : List (String × String)) (text : String) : List (String × String) :=
  let cs := match text.toList with
    | '\uFEFF' :: cs => cs
    | cs => cs
  extendLines vars (joinLines [] .nothing (linesOf cs))

/-- The words of a file: every name that it sets or refers to is among them. -/
def words (text : String) : List String :=
  let inWord (c : Char) : Bool := c == '_' || c == '.' || Reading.isNameChar c
  ((text.toList.splitBy fun a b => inWord a && inWord b).map String.ofList).eraseDups

end RiskReport.EnvFile

import RiskReport.Config.Number
import RiskReport.Log
import RiskReport.Text.Blank

/-!
# Which events are logged

A filter is a list of rules, written with commas between them: `warn` lets every event pass that is
at least that serious, `part=debug` says so for the parts of the program whose names begin with
`part`, and `part` alone lets everything of them pass. Of the rules that are about a part, the one
with the longest name counts. An event of which no rule speaks is not logged, and spans pass like
events of level INFO.
-/

namespace RiskReport.Log

open Text

/-- How serious an event must be: the highest rank that passes. Rank 0 lets nothing pass, rank 5
everything. -/
abbrev Verbosity := Nat

namespace Verbosity

/-- Nothing passes. -/
def off : Verbosity := 0

/-- Everything passes. -/
def all : Verbosity := 5

/-- The names of verbosities. -/
def names : List (String × Verbosity) :=
  [("off", off), ("error", 1), ("warn", 2), ("info", 3), ("debug", 4), ("trace", all)]

/-- A verbosity by its name or its number; an empty name lets errors pass. -/
def parse? (s : String) : Option Verbosity :=
  match readUnsigned 64 s with
  | .ok n => if n ≤ all then some n else none
  | .error _ => if s.isEmpty then some 1 else names.lookup (lowerAscii s)

end Verbosity

/-- What passes of the parts whose names begin with a text. -/
structure Rule where
  part : String
  passes : Verbosity
  deriving DecidableEq, Repr, Inhabited

namespace Rule

/-- Whether a rule can begin with a character. -/
def canBegin (c : Char) : Bool :=
  c == '-' || c == ':' || c == '_' || c.isAlphanum || (128 ≤ c.toNat && !isBlank c)

/-- Read a rule. -/
def parse? (s : String) : Option Rule :=
  match trimChars s.toList with
  | [] => some ⟨"", .all⟩
  | cs =>
    if !(cs.head?.map canBegin).getD false || cs.contains '[' then none
    else
      let part := String.ofList (cs.takeWhile (· != '='))
      match cs.dropWhile (· != '=') with
      | [] => some ((Verbosity.parse? part).elim ⟨part, .all⟩ fun v => ⟨"", v⟩)
      | ['='] => some ⟨part, .all⟩
      | _ :: level => (Verbosity.parse? (String.ofList level)).map fun v => ⟨part, v⟩

/-- Whether a rule is about a part. -/
def concerns (r : Rule) (t : Target) : Bool := t.text.startsWith r.part

end Rule

/-- The rules by which events are logged. -/
structure Filter where
  rules : List Rule
  deriving DecidableEq, Repr, Inhabited

namespace Filter

/-- The variable that filters are read from. -/
def variableName : String := "RUST_LOG"

/-- The filter that lets everything pass that is not meant for debugging. -/
def standard : Filter := ⟨[⟨"", 3⟩]⟩

/-- Read a filter. One without rules lets errors pass. -/
def parse? (s : String) : Option Filter := do
  let rules ← ((s.splitOn ",").filter (!·.isEmpty)).mapM Rule.parse?
  return ⟨if rules.isEmpty then [⟨"", 1⟩] else rules⟩

/-- The filter that is set, or the standard one if there is none that can be read. -/
def ofVariable (setting : Option String) : Filter :=
  (setting.bind parse?).getD standard

/-- The rule that counts for a part: the one with the longest name, of several the last. -/
def ruleFor? (f : Filter) (t : Target) : Option Rule :=
  (f.rules.filter (·.concerns t)).foldl
    (fun best r =>
      match best with
      | none => some r
      | some b => if b.part.utf8ByteSize ≤ r.part.utf8ByteSize then some r else some b)
    none

/-- Whether something of a part passes at a level. -/
def passes (f : Filter) (t : Target) (level : Level) : Bool :=
  match f.ruleFor? t with
  | some r => level.rank ≤ r.passes
  | none => false

/-- An event with the spans that pass, if the event passes. -/
def keep? (f : Filter) (e : Entry) : Option Entry :=
  if f.passes e.event.target e.event.level then
    some { e with spans := e.spans.filter fun s => f.passes s.target .info }
  else none

/-- What is logged of some events. -/
def keep (f : Filter) (entries : List Entry) : List Entry := entries.filterMap f.keep?

end Filter

end RiskReport.Log

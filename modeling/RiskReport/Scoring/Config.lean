import RiskReport.Json.Decode
import RiskReport.Text.Blank

/-!
# Scoring configurations

Each question says in its configuration how an answer to it is scored: by the option chosen, or by
the length of the text. A configuration comes as JSON with a tag (`ScoringConfig.decoder`) and is
checked before use (`ScoringConfig.check`). A configuration that passes the check scores every
answer (`ScoringConfig.score?_isSome`), which makes `CheckedConfig.score` total.
-/

namespace RiskReport

open Json Text

/-- How likely a risk is and how hard it would hit, each from 1 to 10. -/
structure RiskScore where
  probability : Nat
  impact : Nat
  deriving DecidableEq, Repr, Inhabited

namespace RiskScore

/-- The lowest probability and impact. -/
def lowest : Int := 1

/-- The highest probability and impact. -/
def highest : Int := 10

/-- The score of an answer that matches nothing. -/
def minimum : RiskScore := ⟨1, 1⟩

/-- A value moved into the range of scores. -/
def clamp (v : Int) : Nat := (max lowest (min highest v)).toNat

/-- The score with both values moved into their range. -/
def clamped (probability impact : Int) : RiskScore :=
  ⟨clamp probability, clamp impact⟩

/-- Whether a value is in the range of scores. -/
def inRange (v : Int) : Bool := lowest ≤ v && v ≤ highest

/-- The probability times the impact. -/
def composite (s : RiskScore) : Nat := s.probability * s.impact

end RiskScore

/-- A question with options, each with its probability and its impact. -/
structure RadioConfig where
  opts : List String
  pScores : List Int
  iScores : List Int
  deriving DecidableEq, Repr, Inhabited

/-- A question answered by a text, which counts as long above a threshold. -/
structure TextConfig where
  threshold : Int
  pShort : Int
  pLong : Int
  iShort : Int
  iLong : Int
  deriving DecidableEq, Repr, Inhabited

/-- How the answers to a question are scored. -/
inductive ScoringConfig where
  | radio (config : RadioConfig)
  | text (config : TextConfig)
  deriving DecidableEq, Repr, Inhabited

/-- Why a scoring configuration is refused. -/
inductive ConfigError where
  | empty
  | malformed (cause : Cause)
  | noOptions
  | scoreCount (field : String) (count options : Nat)
  | optionScore (field : String) (index : Nat) (value : Int)
  | negativeThreshold (value : Int)
  | lengthScore (field : String) (value : Int)
  deriving DecidableEq, Repr, Inhabited

/-- The range of scores, as messages show it. -/
def outOfRange : String :=
  " out of range [" ++ toString RiskScore.lowest ++ "," ++ toString RiskScore.highest ++ "]"

/-- The wording of a refusal. -/
def ConfigError.message : ConfigError → String
  | .empty => "scoring config: empty JSON"
  | .malformed cause => "scoring config: " ++ cause.message
  | .noOptions => "radio config: opts must not be empty"
  | .scoreCount field count options =>
    "radio config: " ++ field ++ " length " ++ toString count ++ " != opts length " ++
      toString options
  | .optionScore field index value =>
    "radio config: " ++ field ++ "[" ++ toString index ++ "]=" ++ toString value ++ outOfRange
  | .negativeThreshold value =>
    "text config: threshold " ++ toString value ++ " must be non-negative"
  | .lengthScore field value => "text config: " ++ field ++ "=" ++ toString value ++ outOfRange

namespace RadioConfig

/-- Refuse the first score of a list that is out of range. -/
def checkScores (field : String) (scores : List Int) : Except ConfigError Unit :=
  match scores.zipIdx.find? fun (v, _) => !RiskScore.inRange v with
  | some (v, i) => .error (.optionScore field i v)
  | none => .ok ()

/-- Refuse a configuration without options, or whose scores do not fit the options. -/
def check (c : RadioConfig) : Except ConfigError Unit := do
  if c.opts.isEmpty then throw .noOptions
  if c.pScores.length ≠ c.opts.length then
    throw (.scoreCount "p_scores" c.pScores.length c.opts.length)
  if c.iScores.length ≠ c.opts.length then
    throw (.scoreCount "i_scores" c.iScores.length c.opts.length)
  checkScores "p_scores" c.pScores
  checkScores "i_scores" c.iScores

/-- The score of the first option that the trimmed answer equals; an answer that equals none has
the minimum. Nothing, if the option has no scores. -/
def score? (c : RadioConfig) (answer : String) : Option RiskScore :=
  match c.opts.findIdx? (· == trim answer) with
  | none => some .minimum
  | some i => do return .clamped (← c.pScores[i]?) (← c.iScores[i]?)

/-- The options and their scores as fields of JSON. -/
def jsonFields (c : RadioConfig) : List (String × Json) :=
  [("opts", .array (c.opts.map .string)), ("p_scores", .array (c.pScores.map .ofInt)),
    ("i_scores", .array (c.iScores.map .ofInt))]

/-- The fields of a configuration in JSON. -/
def fields : Fields RadioConfig :=
  RadioConfig.mk <$> .required "opts" (.list .string)
    <*> .required "p_scores" (.list (.signed 64))
    <*> .required "i_scores" (.list (.signed 64))

/-- The lists of scores of a checked configuration are as long as its options. -/
theorem lengths_of_check {c : RadioConfig} (h : c.check = .ok ()) :
    c.pScores.length = c.opts.length ∧ c.iScores.length = c.opts.length := by
  simp only [check] at h
  by_cases h₀ : c.opts.isEmpty = true
  · simp [h₀, bind, Except.bind, throw, throwThe, MonadExceptOf.throw] at h
  · by_cases h₁ : c.pScores.length = c.opts.length
    · by_cases h₂ : c.iScores.length = c.opts.length
      · exact ⟨h₁, h₂⟩
      · simp [h₀, h₁, h₂, bind, Except.bind, throw, throwThe, MonadExceptOf.throw] at h
    · simp [h₀, h₁, bind, Except.bind, throw, throwThe, MonadExceptOf.throw] at h

theorem score?_isSome {c : RadioConfig} (h : c.check = .ok ()) (answer : String) :
    (c.score? answer).isSome := by
  obtain ⟨hp, hi⟩ := lengths_of_check h
  unfold score?
  split
  · rfl
  · next i hf =>
    have hlt : i < c.opts.length := (List.findIdx?_eq_some_iff_getElem.1 hf).1
    have hp' : i < c.pScores.length := by omega
    have hi' : i < c.iScores.length := by omega
    simp [List.getElem?_eq_getElem hp', List.getElem?_eq_getElem hi']

end RadioConfig

namespace TextConfig

/-- Refuse a score that is out of range. -/
def checkScore (field : String) (value : Int) : Except ConfigError Unit :=
  if RiskScore.inRange value then .ok () else .error (.lengthScore field value)

/-- Refuse a negative threshold and scores out of range. -/
def check (c : TextConfig) : Except ConfigError Unit := do
  if c.threshold < 0 then throw (.negativeThreshold c.threshold)
  checkScore "p_short" c.pShort
  checkScore "p_long" c.pLong
  checkScore "i_short" c.iShort
  checkScore "i_long" c.iLong

/-- A trimmed answer of more characters than the threshold scores as a long one. -/
def score (c : TextConfig) (answer : String) : RiskScore :=
  if c.threshold < (trim answer).length then .clamped c.pLong c.iLong
  else .clamped c.pShort c.iShort

/-- The threshold and the scores as fields of JSON. -/
def jsonFields (c : TextConfig) : List (String × Json) :=
  [("threshold", .ofInt c.threshold), ("p_short", .ofInt c.pShort), ("p_long", .ofInt c.pLong),
    ("i_short", .ofInt c.iShort), ("i_long", .ofInt c.iLong)]

/-- The fields of a configuration in JSON. -/
def fields : Fields TextConfig :=
  TextConfig.mk <$> .required "threshold" (.signed 64)
    <*> .required "p_short" (.signed 64)
    <*> .required "p_long" (.signed 64)
    <*> .required "i_short" (.signed 64)
    <*> .required "i_long" (.signed 64)

end TextConfig

namespace ScoringConfig

/-- Refuse a configuration that cannot score every answer into range. -/
def check : ScoringConfig → Except ConfigError Unit
  | .radio c => c.check
  | .text c => c.check

/-- The score of an answer; nothing, if the option chosen has none. -/
def score? : ScoringConfig → String → Option RiskScore
  | .radio c, answer => c.score? answer
  | .text c, answer => some (c.score answer)

theorem score?_isSome {c : ScoringConfig} (h : c.check = .ok ()) (answer : String) :
    (c.score? answer).isSome := by
  cases c with
  | radio c => exact RadioConfig.score?_isSome h answer
  | text c => rfl

/-- The configuration as JSON. -/
def toJson : ScoringConfig → Json
  | .radio c => .record (("type", .string "radio") :: c.jsonFields)
  | .text c => .record (("type", .string "text") :: c.jsonFields)

/-- A configuration from JSON, not checked. -/
def decoder : Decoder ScoringConfig :=
  .tagged "internally tagged enum ScoringConfig" "type"
    [("radio", .untagged "RadioConfig" (radio <$> RadioConfig.fields)),
     ("text", .untagged "TextConfig" (text <$> TextConfig.fields))]

end ScoringConfig

/-- A configuration that has passed the check. -/
structure CheckedConfig where
  config : ScoringConfig
  checked : config.check = .ok ()

namespace CheckedConfig

/-- Check a configuration. -/
def ofConfig (c : ScoringConfig) : Except ConfigError CheckedConfig :=
  match h : c.check with
  | .ok () => .ok ⟨c, h⟩
  | .error e => .error e

/-- Read and check a configuration; null and the empty object are none. -/
def parse (raw : Json) : Except ConfigError CheckedConfig :=
  match raw with
  | .null | .object [] => .error .empty
  | raw =>
    match ScoringConfig.decoder.ofJson raw with
    | .ok c => ofConfig c
    | .error fault => .error (.malformed fault.cause)

/-- The score of an answer. -/
def score (c : CheckedConfig) (answer : String) : RiskScore :=
  (c.config.score? answer).get (ScoringConfig.score?_isSome c.checked answer)

end CheckedConfig

end RiskReport

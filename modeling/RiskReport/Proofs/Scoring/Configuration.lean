import RiskReport.Proofs.Json.Tagged
import RiskReport.Proofs.Scoring.Choice

/-!
# Configurations from their JSON to the scores

A scoring configuration is read from JSON, it is checked, and then it is asked for the scores of
answers. Each of the three leans on the one before. What is written of a configuration is read back
to it, whether it passes the check or not (`ScoringConfig.ofJson_toJson`), so parsing it says what
the check says. The check passes the configurations that are well formed and whose scores are all
in the range (`ScoringConfig.check_eq_ok_iff`). With one of them, an answer has the scores that are
set for it (`ScoringConfig.Gives`): there are some, and moving them into the range changes nothing.

**Theorem (`configuration_settled`).** All of this holds of every configuration, of every JSON that
one is parsed from, and of every answer.
-/

namespace RiskReport

open Json Text

variable {depth : Nat}

/-! ## Written and read back -/

/-- A whole number of 64 bits with its sign. -/
def Word (v : Int) : Prop :=
  -2 ^ 63 ≤ v ∧ v < 2 ^ 63

theorem reads_word {v : Int} (h : Word v) : (Decoder.signed 64).Reads depth (.ofInt v) (· = v) :=
  Decoder.reads_int h.1 (Int.le_sub_one_of_lt h.2)

namespace RadioConfig

variable {c : RadioConfig}

/-- The scores are whole numbers of 64 bits. -/
structure Fits (c : RadioConfig) : Prop where
  probability : ∀ v ∈ c.pScores, Word v
  impact : ∀ v ∈ c.iScores, Word v

theorem keys_distinct : ("type" :: c.jsonFields.map (·.1)).Nodup := by
  show ["type", "opts", "p_scores", "i_scores"].Nodup
  decide

/-- The fields are read to the configuration that they were written for. -/
theorem reads_jsonFields (h : c.Fits) (hdepth : depth + 1 < depthLimit) :
    fields.Reads depth c.jsonFields (· = c) := by
  have distinct : (c.jsonFields.map (·.1)).Nodup := keys_distinct.of_cons
  have opts : (Fields.required "opts" (.list .string)).Reads depth c.jsonFields (· = c.opts) :=
    Fields.reads_of_mem distinct (by simp [jsonFields])
      (Decoder.Reads.list_map hdepth fun _ _ => Decoder.reads_string)
  have pScores :
      (Fields.required "p_scores" (.list (.signed 64))).Reads depth c.jsonFields (· = c.pScores) :=
    Fields.reads_of_mem distinct (by simp [jsonFields])
      (Decoder.Reads.list_map hdepth fun v hv => reads_word (h.probability v hv))
  have iScores :
      (Fields.required "i_scores" (.list (.signed 64))).Reads depth c.jsonFields (· = c.iScores) :=
    Fields.reads_of_mem distinct (by simp [jsonFields])
      (Decoder.Reads.list_map hdepth fun v hv => reads_word (h.impact v hv))
  exact ((opts.map_eq RadioConfig.mk).and_eq pScores (by decide)).and_eq iScores (by decide)

theorem jsonFields_detach (hdepth : depth + 1 < depthLimit) :
    ∀ f ∈ c.jsonFields, Decoder.Detaches depth f.2 := by
  have opts : Decoder.Detaches depth (.array (c.opts.map .string)) :=
    .array hdepth <| List.forall_mem_map.2 fun _ _ => Decoder.detaches_string
  have scores (vs : List Int) : Decoder.Detaches depth (.array (vs.map .ofInt)) :=
    .array hdepth <| List.forall_mem_map.2 fun _ _ => Decoder.detaches_int
  simp [jsonFields, opts, scores]

theorem jsonFields_shown : ∀ f ∈ c.jsonFields, Shows depth (Node.ofJson f.2) f.2 := by
  have opts :
      Shows depth (Node.ofJson (.array (c.opts.map .string))) (.array (c.opts.map .string)) :=
    shows_ofJson_array <| List.forall_mem_map.2 fun _ _ => rfl
  have scores (vs : List Int) :
      Shows depth (Node.ofJson (.array (vs.map .ofInt))) (.array (vs.map .ofInt)) :=
    shows_ofJson_array <| List.forall_mem_map.2 fun _ _ => rfl
  simp [jsonFields, opts, scores]

end RadioConfig

namespace TextConfig

variable {c : TextConfig}

/-- The threshold and the scores are whole numbers of 64 bits. -/
structure Fits (c : TextConfig) : Prop where
  threshold : Word c.threshold
  pShort : Word c.pShort
  pLong : Word c.pLong
  iShort : Word c.iShort
  iLong : Word c.iLong

theorem keys_distinct : ("type" :: c.jsonFields.map (·.1)).Nodup := by
  show ["type", "threshold", "p_short", "p_long", "i_short", "i_long"].Nodup
  decide

/-- The fields are read to the configuration that they were written for. -/
theorem reads_jsonFields (h : c.Fits) : fields.Reads depth c.jsonFields (· = c) := by
  have word (name : String) {v : Int} (hv : Word v) (hmem : (name, .ofInt v) ∈ c.jsonFields) :
      (Fields.required name (.signed 64)).Reads depth c.jsonFields (· = v) :=
    Fields.reads_of_mem keys_distinct.of_cons hmem (reads_word hv)
  have threshold := (word "threshold" h.threshold (by simp [jsonFields])).map_eq TextConfig.mk
  have pShort := threshold.and_eq (word "p_short" h.pShort (by simp [jsonFields])) (by decide)
  have pLong := pShort.and_eq (word "p_long" h.pLong (by simp [jsonFields])) (by decide)
  have iShort := pLong.and_eq (word "i_short" h.iShort (by simp [jsonFields])) (by decide)
  exact iShort.and_eq (word "i_long" h.iLong (by simp [jsonFields])) (by decide)

theorem jsonFields_detach : ∀ f ∈ c.jsonFields, Decoder.Detaches depth f.2 := by
  simp [jsonFields, Decoder.detaches_int]

theorem jsonFields_shown : ∀ f ∈ c.jsonFields, Shows depth (Node.ofJson f.2) f.2 := by
  have word (v : Int) : Shows depth (Node.ofJson (.ofInt v)) (.ofInt v) := rfl
  simp [jsonFields, word]

end TextConfig

namespace ScoringConfig

/-- The whole numbers of a configuration are of 64 bits, as those are that it is read to. -/
def Fits : ScoringConfig → Prop
  | .radio c => c.Fits
  | .text c => c.Fits

variable {c : ScoringConfig}

/-- Whatever document the JSON of a configuration comes as, it is read to the configuration. -/
theorem reads_toJson (h : c.Fits) : decoder.Reads 0 c.toJson (· = c) := by
  cases c with
  | radio c =>
    have fields : (Decoder.untagged "RadioConfig" (radio <$> RadioConfig.fields)).Reads 0
        (.object c.jsonFields) (· = .radio c) :=
      Decoder.reads_record rfl (by decide) fun _ =>
        (RadioConfig.reads_jsonFields h (by decide)).map_eq radio
    exact Decoder.reads_tagged_record (by decide) rfl RadioConfig.keys_distinct
      (RadioConfig.jsonFields_detach (by decide)) fields
  | text c =>
    have fields : (Decoder.untagged "TextConfig" (text <$> TextConfig.fields)).Reads 0
        (.object c.jsonFields) (· = .text c) :=
      Decoder.reads_record rfl (by decide) fun _ => (TextConfig.reads_jsonFields h).map_eq text
    exact Decoder.reads_tagged_record (by decide) rfl TextConfig.keys_distinct
      TextConfig.jsonFields_detach fields

theorem toJson_shown : Shows 0 (Node.ofJson c.toJson) c.toJson := by
  cases c with
  | radio c =>
    exact shows_ofJson_record RadioConfig.keys_distinct <|
      List.forall_mem_cons.2 ⟨rfl, RadioConfig.jsonFields_shown⟩
  | text c =>
    exact shows_ofJson_record TextConfig.keys_distinct <|
      List.forall_mem_cons.2 ⟨rfl, TextConfig.jsonFields_shown⟩

theorem ofJson_toJson (h : c.Fits) : decoder.ofJson c.toJson = .ok c := by
  obtain ⟨_, hread, rfl⟩ := reads_toJson h _ toJson_shown
  exact hread

end ScoringConfig

namespace CheckedConfig

variable {v : Json} {c : ScoringConfig}

/-- What is read from JSON goes to the check. -/
theorem parse_of_ofJson (h : ScoringConfig.decoder.ofJson v = .ok c) : parse v = ofConfig c := by
  unfold parse
  split
  -- Null and the empty object are refused beforehand, but nothing could be read from them anyway.
  · cases h
  · cases h
  · simp only [h]

theorem ofConfig_of_ok (h : c.check = .ok ()) : ofConfig c = .ok ⟨c, h⟩ := by
  unfold ofConfig
  split
  · rfl
  · next e he => cases h.symm.trans he

theorem ofConfig_of_error {e : ConfigError} (h : c.check = .error e) : ofConfig c = .error e := by
  unfold ofConfig
  split
  · next he => cases h.symm.trans he
  · next e' he =>
    obtain rfl := Except.error.inj (h.symm.trans he)
    rfl

/-- What is parsed is what the JSON is read to. -/
theorem ofJson_of_parse {c : CheckedConfig} (h : parse v = .ok c) :
    ScoringConfig.decoder.ofJson v = .ok c.config := by
  cases hread : ScoringConfig.decoder.ofJson v with
  | error fault =>
    exfalso
    unfold parse at h
    split at h
    · cases h
    · cases h
    · simp [hread] at h
  | ok config =>
    rw [parse_of_ofJson hread] at h
    cases hcheck : config.check with
    | error e => cases (ofConfig_of_error hcheck).symm.trans h
    | ok =>
      obtain rfl := Except.ok.inj ((ofConfig_of_ok hcheck).symm.trans h)
      rfl

end CheckedConfig

/-! ## Accepted -/

namespace TextConfig

variable {c : TextConfig}

/-- The threshold is no negative number, and all scores are within the range. -/
structure Accepted (c : TextConfig) : Prop where
  threshold : 0 ≤ c.threshold
  pShort : 1 ≤ c.pShort ∧ c.pShort ≤ 10
  pLong : 1 ≤ c.pLong ∧ c.pLong ≤ 10
  iShort : 1 ≤ c.iShort ∧ c.iShort ≤ 10
  iLong : 1 ≤ c.iLong ∧ c.iLong ≤ 10

theorem checkScore_eq_ok_iff {field : String} {v : Int} :
    checkScore field v = .ok () ↔ 1 ≤ v ∧ v ≤ 10 := by
  rw [← RiskScore.inRange_iff, checkScore]
  cases RiskScore.inRange v <;> simp

/-- With a threshold that is no negative number, it is the scores alone that are checked. -/
theorem check_of_threshold (h : 0 ≤ c.threshold) :
    c.check = (do
      checkScore "p_short" c.pShort
      checkScore "p_long" c.pLong
      checkScore "i_short" c.iShort
      checkScore "i_long" c.iLong) := by
  simp [check, Int.not_lt.2 h]

/-- The check says what is accepted. -/
theorem check_eq_ok_iff : c.check = .ok () ↔ c.Accepted := by
  constructor
  · intro h
    have threshold : 0 ≤ c.threshold := by
      by_contra hneg
      simp [check, Int.not_le.1 hneg, bind, Except.bind, throw, throwThe, MonadExceptOf.throw] at h
    rw [check_of_threshold threshold] at h
    obtain ⟨_, pShort, h⟩ := Except.bind_eq_ok h
    obtain ⟨_, pLong, h⟩ := Except.bind_eq_ok h
    obtain ⟨_, iShort, iLong⟩ := Except.bind_eq_ok h
    exact ⟨threshold, checkScore_eq_ok_iff.1 pShort, checkScore_eq_ok_iff.1 pLong,
      checkScore_eq_ok_iff.1 iShort, checkScore_eq_ok_iff.1 iLong⟩
  · intro h
    rw [check_of_threshold h.threshold, checkScore_eq_ok_iff.2 h.pShort,
      checkScore_eq_ok_iff.2 h.pLong, checkScore_eq_ok_iff.2 h.iShort,
      checkScore_eq_ok_iff.2 h.iLong]
    rfl

end TextConfig

namespace ScoringConfig

variable {c : ScoringConfig} {answer : String} {s : RiskScore}

/-- The configuration can score every answer within the range. -/
def Accepted : ScoringConfig → Prop
  | .radio c => c.Accepted
  | .text c => c.Accepted

theorem check_eq_ok_iff : c.check = .ok () ↔ c.Accepted := by
  cases c with
  | radio c => exact RadioConfig.check_eq_ok_iff
  | text c => exact TextConfig.check_eq_ok_iff

/-! ## Scores of answers -/

/-- The pairs of a probability and an impact that a configuration sets. -/
def pairs : ScoringConfig → List (Int × Int)
  | .radio c => c.pScores.zip c.iScores
  | .text c => [(c.pShort, c.iShort), (c.pLong, c.iLong)]

/-- The score that a configuration has for an answer. Among options it is the one that is set for
the first option that the trimmed answer equals, and the minimum if it equals none; for a text it
depends on whether the trimmed answer has more characters than the threshold. -/
inductive Gives : ScoringConfig → String → RiskScore → Prop
  | option {c : RadioConfig} {answer : String} {i : Nat} {s : RiskScore}
      (chosen : c.Offers i (trim answer)) (set : c.Sets i s) : Gives (.radio c) answer s
  | other {c : RadioConfig} {answer : String} (h : trim answer ∉ c.opts) :
      Gives (.radio c) answer .minimum
  | short {c : TextConfig} {answer : String} {s : RiskScore}
      (h : (trim answer).length ≤ c.threshold)
      (set : (c.pShort, c.iShort) = ((s.probability : Int), (s.impact : Int))) :
      Gives (.text c) answer s
  | long {c : TextConfig} {answer : String} {s : RiskScore}
      (h : c.threshold < (trim answer).length)
      (set : (c.pLong, c.iLong) = ((s.probability : Int), (s.impact : Int))) :
      Gives (.text c) answer s

theorem Gives.mem_pairs (h : c.Gives answer s) :
    s = .minimum ∨ ((s.probability : Int), (s.impact : Int)) ∈ c.pairs := by
  cases h with
  | option chosen set =>
    right
    exact List.mem_of_getElem? (List.getElem?_zip_eq_some.2 set)
  | other => exact .inl rfl
  | short h set => exact .inr (set ▸ List.mem_cons_self)
  | long h set => exact .inr (set ▸ List.mem_cons_of_mem _ List.mem_cons_self)

/-- With a checked configuration every answer has the score that is set for it. -/
theorem exists_gives (h : c.check = .ok ()) (answer : String) :
    ∃ s, c.score? answer = some s ∧ c.Gives answer s := by
  cases c with
  | radio c =>
    cases hfind : c.opts.findIdx? (· == trim answer) with
    | none =>
      have hother := Fields.not_mem_of_findIdx? hfind
      exact ⟨_, RadioConfig.score?_eq_minimum hother, .other hother⟩
    | some i =>
      have chosen := RadioConfig.offers_of_findIdx? hfind
      obtain ⟨s, set, -, hscore⟩ :=
        RadioConfig.exists_sets h (List.getElem?_eq_some_iff.1 chosen.1).1
      exact ⟨s, hscore answer hfind, .option chosen set⟩
  | text c =>
    have hc := TextConfig.check_eq_ok_iff.1 h
    by_cases hlong : c.threshold < (trim answer).length
    · have hscore : c.score answer = .clamped c.pLong c.iLong := if_pos hlong
      exact ⟨_, congrArg some hscore, .long hlong (RiskScore.pair_clamped hc.pLong hc.iLong)⟩
    · have hscore : c.score answer = .clamped c.pShort c.iShort := if_neg hlong
      exact ⟨_, congrArg some hscore,
        .short (Int.not_lt.1 hlong) (RiskScore.pair_clamped hc.pShort hc.iShort)⟩

end ScoringConfig

theorem CheckedConfig.score?_eq (c : CheckedConfig) (answer : String) :
    c.config.score? answer = some (c.score answer) :=
  (Option.some_get _).symm

/-- **Configurations.** What is written of a configuration is parsed to it if it passes the check,
and otherwise refused with the very error of the check. The check passes the configurations that can
score every answer within the range. Whatever JSON a configuration is parsed from, it is the one
that the JSON holds, and it has a score for every answer: the one that it sets for the answer, which
is one of its pairs or the minimum, and lies within the range. -/
theorem ScoringConfig.configuration_settled :
    (∀ c : ScoringConfig, c.Fits →
        (∀ h : c.check = .ok (), CheckedConfig.parse c.toJson = .ok ⟨c, h⟩) ∧
          ∀ e, c.check = .error e → CheckedConfig.parse c.toJson = .error e) ∧
      (∀ c : ScoringConfig, c.check = .ok () ↔ c.Accepted) ∧
      ∀ (v : Json) (c : CheckedConfig), CheckedConfig.parse v = .ok c →
        decoder.ofJson v = .ok c.config ∧ ∀ answer,
          c.config.score? answer = some (c.score answer) ∧
            c.config.Gives answer (c.score answer) ∧
            (c.score answer = .minimum ∨
              (((c.score answer).probability : Int), ((c.score answer).impact : Int)) ∈
                c.config.pairs) ∧
            (c.score answer).Bounded := by
  refine ⟨fun c h => ?_, fun _ => check_eq_ok_iff, fun v c h => ?_⟩
  · have hparse := CheckedConfig.parse_of_ofJson (ofJson_toJson h)
    exact ⟨fun hok => hparse.trans (CheckedConfig.ofConfig_of_ok hok),
      fun e he => hparse.trans (CheckedConfig.ofConfig_of_error he)⟩
  · refine ⟨CheckedConfig.ofJson_of_parse h, fun answer => ?_⟩
    obtain ⟨s, hs, gives⟩ := exists_gives c.checked answer
    have hscore := c.score?_eq answer
    obtain rfl := Option.some.inj (hs.symm.trans hscore)
    exact ⟨hscore, gives, gives.mem_pairs, c.score_bounded answer⟩

namespace Sample

/-- Three options, the worst of them first. -/
def threeWay : RadioConfig where
  opts := ["No", "Partly", "Yes"]
  pScores := [9, 5, 2]
  iScores := [8, 6, 1]

/-- A long text is given an impact out of the range. -/
def overrated : TextConfig where
  threshold := 40
  pShort := 7
  pLong := 3
  iShort := 6
  iLong := 11

/-- The options as somebody else may write them: the fields in another order, and one more. -/
def document : Json :=
  .object [("i_scores", .array [.ofInt 8, .ofInt 6, .ofInt 1]), ("note", .string "Since May."),
    ("opts", .array [.string "No", .string "Partly", .string "Yes"]),
    ("p_scores", .array [.ofInt 9, .ofInt 5, .ofInt 2]), ("type", .string "radio")]

theorem fits_threeWay : (ScoringConfig.radio threeWay).Fits := by
  constructor <;> simp [threeWay, Word]

theorem fits_overrated : (ScoringConfig.text overrated).Fits := by
  constructor <;> simp [overrated, Word]

end Sample

/-- One configuration is written and parsed, another is refused, and one is parsed from JSON that
somebody else has written: it scores the second option and an answer that is no option. -/
theorem ScoringConfig.configuration_settled_sample :
    (∃ h, CheckedConfig.parse (radio Sample.threeWay).toJson = .ok ⟨radio Sample.threeWay, h⟩) ∧
      (radio Sample.threeWay).Accepted ∧
      CheckedConfig.parse (text Sample.overrated).toJson = .error (.lengthScore "i_long" 11) ∧
      ¬ (text Sample.overrated).Accepted ∧
      ∃ c, CheckedConfig.parse Sample.document = .ok c ∧ c.config = radio Sample.threeWay ∧
        c.score " Partly " = ⟨5, 6⟩ ∧ c.config.Gives " Partly " ⟨5, 6⟩ ∧
        c.score "Perhaps" = .minimum ∧ c.config.Gives "Perhaps" .minimum := by
  obtain ⟨written, accepts, parsed⟩ := configuration_settled
  have hthreeWay : (radio Sample.threeWay).check = .ok () := rfl
  have hoverrated : (text Sample.overrated).check = .error (.lengthScore "i_long" 11) := rfl
  have hparse : CheckedConfig.parse Sample.document = .ok ⟨radio Sample.threeWay, hthreeWay⟩ := rfl
  obtain ⟨-, hscores⟩ := parsed _ _ hparse
  refine ⟨⟨hthreeWay, (written _ Sample.fits_threeWay).1 hthreeWay⟩, (accepts _).1 hthreeWay,
    (written _ Sample.fits_overrated).2 _ hoverrated, fun haccepted => ?_, _, hparse, rfl, rfl,
    (hscores " Partly ").2.1, rfl, (hscores "Perhaps").2.1⟩
  cases hoverrated.symm.trans ((accepts _).2 haccepted)

end RiskReport

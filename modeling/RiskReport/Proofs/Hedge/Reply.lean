import Mathlib.Tactic.FinCases
import RiskReport.Hedge.Provider
import RiskReport.Proofs.Hedge.Fence
import RiskReport.Proofs.Json.Decoding
import RiskReport.Proofs.Json.Printing
import RiskReport.Proofs.Program

/-!
# Replies that are read back

A service hands on some texts if its reply holds, in the place where the service puts its answers,
the JSON of the texts, bare or between code fences (`Vendor.HandsOn`). Such a reply is read back to
the texts that it was written for (`Provider.generate_reads_back`). How the JSON is written makes no
difference, neither that of the texts nor that of the reply around it, and nor does what else the
reply holds.
-/

namespace RiskReport

open Json

variable {depth : Nat} {h : HedgeResult}

/-! ## The texts -/

/-- The same hedges, in another order maybe, and the same texts on the whole. -/
structure HedgeResult.Same (a b : HedgeResult) : Prop where
  hedges : a.hedges.entries.Perm b.hedges.entries
  executiveSummary : a.executiveSummary = b.executiveSummary
  topPriorityHtml : a.topPriorityHtml = b.topPriorityHtml

namespace HedgeResult

theorem Same.get? {a b : HedgeResult} (h : a.Same b) (distinct : b.hedges.Distinct) (k : String) :
    a.hedges.get? k = b.hedges.get? k :=
  distinct.get?_perm h.hedges

/-- The fields of the texts as JSON. -/
def fields (h : HedgeResult) : List (String × Json) :=
  [("hedges", .record (h.hedges.entries.map fun (k, v) => (k, .string v))),
    ("executive_summary", .string h.executiveSummary),
    ("top_priority_html", .string h.topPriorityHtml)]

theorem toJson_eq (h : HedgeResult) : h.toJson = .record h.fields := rfl

theorem fields_distinct (h : HedgeResult) : (h.fields.map (·.1)).Nodup := by
  show ["hedges", "executive_summary", "top_priority_html"].Nodup
  decide

/-- The three texts are found in an object. -/
theorem toJson_eq_object (h : HedgeResult) :
    ∃ obj, h.toJson = .object obj ∧
      (Json.object obj).field? "hedges" =
        some (.record (h.hedges.entries.map fun (k, v) => (k, .string v))) ∧
      (Json.object obj).field? "executive_summary" = some (.string h.executiveSummary) ∧
      (Json.object obj).field? "top_priority_html" = some (.string h.topPriorityHtml) := by
  obtain ⟨obj, hobj, -⟩ := record_eq_object h.fields_distinct
  refine ⟨obj, hobj, ?_, ?_, ?_⟩ <;>
    · rw [← hobj, field?_record h.fields_distinct]
      rfl

/-- The hedges are the fields of an object. -/
theorem hedges_eq_object (distinct : h.hedges.Distinct) :
    ∃ fs, Json.record (h.hedges.entries.map fun (k, v) => (k, .string v)) = .object fs ∧
      fs.Perm (h.hedges.entries.map fun e => (e.1, .string e.2)) :=
  record_eq_object (by rwa [List.map_map])

/-- The texts are read back from their JSON. -/
theorem reads_toJson (distinct : h.hedges.Distinct) : decoder.Reads 0 h.toJson (·.Same h) := by
  obtain ⟨obj, hobj, hhedges, hsummary, htop⟩ := h.toJson_eq_object
  obtain ⟨fs, hfs, hperm⟩ := hedges_eq_object distinct
  rw [hfs] at hhedges
  rw [hobj]
  refine Decoder.reads_struct (by decide) fun hkeys => ?_
  have hedges : (Fields.withDefault "hedges" (Decoder.map .string) []).Reads 1 obj
      (·.Perm h.hedges.entries) :=
    Fields.reads_present hkeys hhedges
      (Decoder.Reads.map (by decide) (fun _ => Decoder.reads_string) hperm)
  have summary : (Fields.withDefault "executive_summary" .string "").Reads 1 obj
      (· = h.executiveSummary) :=
    Fields.reads_present hkeys hsummary Decoder.reads_string
  have top : (Fields.withDefault "top_priority_html" .string "").Reads 1 obj
      (· = h.topPriorityHtml) :=
    Fields.reads_present hkeys htop Decoder.reads_string
  -- One field after the other, while the fields that are still to come may be anything.
  have first := hedges.map (f := fun hedges summary top => HedgeResult.mk ⟨hedges⟩ summary top)
    (Q := fun f => ∀ s t, (f s t).Same { h with executiveSummary := s, topPriorityHtml := t })
    fun _ hes _ _ => ⟨hes, rfl, rfl⟩
  have second := first.and (R := fun f => ∀ t, (f t).Same { h with topPriorityHtml := t }) summary
    (by decide) fun f s hf hs t => hs ▸ hf s t
  exact second.and top (by decide) fun f t hf ht => ht ▸ hf t

/-- The compact JSON of the texts is one way to write them. -/
theorem written_print (distinct : h.hedges.Distinct) :
    Written (.value h.toJson) h.toJson.print.toList := by
  have hhedges : (Json.record (h.hedges.entries.map fun (k, v) => (k, .string v))).Printable := by
    refine printable_record (by rwa [List.map_map]) fun f hf => ?_
    obtain ⟨e, -, rfl⟩ := List.mem_map.1 hf
    trivial
  rw [toJson_eq]
  refine (printable_record h.fields_distinct fun f hf => ?_).written_print
  simp only [fields, List.mem_cons, List.not_mem_nil, or_false] at hf
  rcases hf with rfl | rfl | rfl
  · exact hhedges
  · trivial
  · trivial

/-- A text that is the JSON of hedges, bare or between fences, is read back. -/
theorem ofReply_of_fenced (distinct : h.hedges.Distinct) {e : List Char} {text : String}
    (he : Written (.value h.toJson) e) (hfenced : Fenced e text.toList) :
    ∃ h', ofReply text = .ok h' ∧ h'.Same h := by
  have hbraced : Braced e := by
    obtain ⟨obj, hobj, -⟩ := h.toJson_eq_object
    rw [hobj] at he
    cases he with
    | object _ _ hfields => exact ⟨rfl, by simp [List.getLast?_cons, hfields.getLast?_fields]⟩
  have hstrip : stripFences text = String.ofList e := by
    rw [← hfenced.strip hbraced, String.ofList_toList]
  have hwritten : h.toJson.WrittenAs (String.ofList e) :=
    ⟨[], e, [], blanks_nil, he, blanks_nil, by simp⟩
  obtain ⟨h', hread, hsame⟩ := (reads_toJson distinct).ofText hwritten
  refine ⟨h', ?_, hsame⟩
  rw [ofReply, hstrip, hread]
  rfl

end HedgeResult

/-! ## Answers -/

/-- A block of an answer: it has a kind, and it may have a text. -/
structure IsBlock (v : Json) (kind : String) (text : Option String) : Prop where
  kind : v.field? "type" = some (.string kind)
  text : v.field? "text" = text.map .string

/-- One of several answers: its message may have a text. -/
def IsChoice (v : Json) (text : Option String) : Prop :=
  ∃ fs, v.field? "message" = some (.object fs) ∧
    (Json.object fs).field? "content" = text.map .string

/-- The body of a service's reply answers with a text: the first block of text among the blocks, or
the first of several choices. -/
def Vendor.AnswersWith (vendor : Vendor) (body : Json) (text : String) : Prop :=
  match vendor with
  | .anthropic => ∃ pre block post, body.field? "content" = some (.array (pre ++ block :: post)) ∧
      (∀ v ∈ pre, ∃ kind t, IsBlock v kind t ∧ kind ≠ "text") ∧ IsBlock block "text" (some text) ∧
      ∀ v ∈ post, ∃ kind t, IsBlock v kind t
  | .deepseek => ∃ choice post, body.field? "choices" = some (.array (choice :: post)) ∧
      IsChoice choice (some text) ∧ ∀ v ∈ post, ∃ t, IsChoice v t

/-- A reply of a service hands on some texts: it was successful, and its body answers with the JSON
of the texts, bare or between fences. -/
def Vendor.HandsOn (vendor : Vendor) (reply : Http.Reply) (h : HedgeResult) : Prop :=
  ∃ s body text e, reply = ⟨200, some s⟩ ∧ body.WrittenAs s ∧ vendor.AnswersWith body text ∧
    Fenced e text.toList ∧ Written (.value h.toJson) e

/-- A text that may be missing is empty then. -/
theorem reads_text {obj : List (String × Json)} {name : String} {text : Option String}
    (distinct : (obj.map (·.1)).Nodup)
    (h : (Json.object obj).field? name = text.map .string) :
    (Fields.withDefault name .string "").Reads depth obj (· = text.getD "") := by
  refine Fields.reads_field distinct (fun v hv => ?_) fun hnone => ?_
  · rw [h] at hv
    obtain ⟨t, rfl, rfl⟩ := Option.map_eq_some_iff.1 hv
    exact Decoder.reads_string
  · rw [h, Option.map_eq_none_iff] at hnone
    exact ⟨"", rfl, by rw [hnone]; rfl⟩

theorem IsBlock.unique {v : Json} {kind kind' : String} {t t' : Option String}
    (h : IsBlock v kind t) (h' : IsBlock v kind' t') : kind' = kind ∧ t' = t := by
  have hkind := h'.kind.symm.trans h.kind
  have htext := h'.text.symm.trans h.text
  simp only [Option.some.injEq, Json.string.injEq] at hkind
  exact ⟨hkind, Option.map_injective (fun _ _ => Json.string.inj) htext⟩

theorem IsBlock.reads {v : Json} {kind : String} {text : Option String} (h : IsBlock v kind text)
    (hdepth : depth + 1 < depthLimit) :
    (Decoder.struct "ContentBlock" <|
      Prod.mk <$> Fields.required "type" .string <*> .withDefault "text" .string "").Reads
        depth v (· = (kind, text.getD "")) := by
  obtain ⟨obj, rfl⟩ := eq_object_of_field? h.kind
  refine Decoder.reads_struct hdepth fun hkeys => ?_
  have type : (Fields.required "type" .string).Reads (depth + 1) obj (· = kind) :=
    Fields.reads_present hkeys h.kind Decoder.reads_string
  have first := type.map (f := Prod.mk) (Q := fun f : String → String × String =>
    ∀ t, f t = (kind, t)) fun _ hk _ => by rw [hk]
  exact first.and (reads_text hkeys h.text) (by decide) fun f t hf ht => ht ▸ hf t

theorem IsChoice.reads {v : Json} {text : Option String} (h : IsChoice v text)
    (hdepth : depth + 2 < depthLimit) :
    (Decoder.struct "Choice" <| Fields.required "message" <|
      .struct "ChoiceMessage" <| .withDefault "content" .string "").Reads
        depth v (· = text.getD "") := by
  obtain ⟨fs, hmessage, hcontent⟩ := h
  obtain ⟨obj, rfl⟩ := eq_object_of_field? hmessage
  refine Decoder.reads_struct (by omega) fun hkeys => ?_
  refine Fields.reads_present hkeys hmessage ?_
  exact Decoder.reads_struct hdepth fun hkeys => reads_text hkeys hcontent

/-- Of several blocks the first one of text is found. -/
theorem find?_text {pre : List Json} {block : Json} {post : List Json} {text : String}
    (hpre : ∀ v ∈ pre, ∃ kind t, IsBlock v kind t ∧ kind ≠ "text")
    (hblock : IsBlock block "text" (some text)) {blocks : List (String × String)}
    (h : List.Forall₂ (fun v b => ∀ kind t, IsBlock v kind t → b = (kind, t.getD ""))
      (pre ++ block :: post) blocks) :
    blocks.find? (·.1 == "text") = some ("text", text) := by
  induction pre generalizing blocks with
  | nil =>
    cases h with
    | cons hb _ =>
      obtain rfl := hb _ _ hblock
      rfl
  | cons v pre ih =>
    cases h with
    | cons hb hbs =>
      obtain ⟨kind, t, hv, hkind⟩ := hpre v List.mem_cons_self
      obtain rfl := hb _ _ hv
      rw [List.find?_cons_of_neg (by simpa using hkind)]
      exact ih (fun w hw => hpre w (List.mem_cons_of_mem v hw)) hbs

namespace Provider

theorem reads_blocks {obj : List (String × Json)} {vs : List Json}
    (h : (Json.object obj).field? "content" = some (.array vs))
    (hvs : ∀ v ∈ vs, ∃ kind t, IsBlock v kind t) :
    blocks.Reads 0 (.object obj)
      (List.Forall₂ (fun v b => ∀ kind t, IsBlock v kind t → b = (kind, t.getD "")) vs) := by
  refine Decoder.reads_struct (by decide) fun hkeys => Fields.reads_present hkeys h ?_
  refine Decoder.Reads.list (by decide) fun v hv => ?_
  obtain ⟨kind, t, hblock⟩ := hvs v hv
  refine (hblock.reads (by decide)).imp ?_
  rintro _ rfl kind' t' hblock'
  obtain ⟨rfl, rfl⟩ := hblock.unique hblock'
  rfl

theorem reads_choices {obj : List (String × Json)} {choice : Json} {post : List Json}
    {text : String}
    (h : (Json.object obj).field? "choices" = some (.array (choice :: post)))
    (hchoice : IsChoice choice (some text)) (hpost : ∀ v ∈ post, ∃ t, IsChoice v t) :
    choices.Reads 0 (.object obj) (·.head? = some text) := by
  refine Decoder.reads_struct (by decide) fun hkeys => Fields.reads_present hkeys h ?_
  refine (Decoder.Reads.list (Q := fun v t => v = choice → t = text) (by decide) ?_).imp ?_
  · intro v hv
    by_cases hfirst : v = choice
    · subst hfirst
      exact (hchoice.reads (by decide)).imp fun _ ht _ => ht
    · obtain ⟨t, ht⟩ := hpost v ((List.mem_cons.1 hv).resolve_left hfirst)
      exact (ht.reads (by decide)).imp fun _ _ hv => absurd hv hfirst
  · rintro _ (_ | ⟨htext, -⟩)
    exact congrArg some (htext rfl)

/-- The text that a body answers with is the one that is taken from it. -/
theorem reads_answer {vendor : Vendor} {body : Json} {text : String}
    (h : vendor.AnswersWith body text) (hne : text ≠ "") :
    (answer vendor).Reads 0 body (· = some text) := by
  cases vendor with
  | anthropic =>
    obtain ⟨pre, block, post, hcontent, hpre, hblock, hpost⟩ := h
    obtain ⟨obj, rfl⟩ := eq_object_of_field? hcontent
    have hall : ∀ v ∈ pre ++ block :: post, ∃ kind t, IsBlock v kind t := by
      intro v hv
      rcases List.mem_append.1 hv with hv | hv
      · obtain ⟨kind, t, h, -⟩ := hpre v hv
        exact ⟨kind, t, h⟩
      · rcases List.mem_cons.1 hv with rfl | hv
        · exact ⟨_, _, hblock⟩
        · exact hpost v hv
    intro n hn
    obtain ⟨bs, hbs, hblocks⟩ := reads_blocks hcontent hall n hn
    refine ⟨_, ?_, rfl⟩
    simp [answer, hbs, Except.map, find?_text hpre hblock hblocks]
  | deepseek =>
    obtain ⟨choice, post, hchoices, hchoice, hpost⟩ := h
    obtain ⟨obj, rfl⟩ := eq_object_of_field? hchoices
    intro n hn
    obtain ⟨texts, htexts, hhead⟩ := reads_choices hchoices hchoice hpost n hn
    refine ⟨_, ?_, rfl⟩
    simp [answer, htexts, Except.map, hhead, Text.nonEmpty?, hne]

/-- A reply that hands on some texts is read back to them. -/
theorem readReply_of_handsOn {p : Provider} {reply : Http.Reply} (distinct : h.hedges.Distinct)
    (hreply : p.vendor.HandsOn reply h) : ∃ h', p.readReply reply = .ok h' ∧ h'.Same h := by
  obtain ⟨s, body, text, e, rfl, hbody, hanswer, hfenced, he⟩ := hreply
  obtain ⟨h', hread, hsame⟩ := HedgeResult.ofReply_of_fenced distinct he hfenced
  have hne : text ≠ "" := by
    rintro rfl
    exact hfenced.ne_nil (List.ne_nil_of_length_pos he.length_pos) rfl
  obtain ⟨_, htext, rfl⟩ := (reads_answer hanswer hne).ofText hbody
  have hreplied : p.replyText ⟨200, some s⟩ = .ok text := by
    simp [replyText, Http.Reply.isSuccess, htext]
  refine ⟨h', ?_, hsame⟩
  simp only [readReply, hreplied, Bind.bind, Except.bind, hread]

/-- **Replies.** A service is asked for hedges on some risks. If posting the request yields a reply
that hands on some texts, asking the service yields these texts. -/
theorem generate_reads_back {p : Provider} {risks : List ScoredRisk} {reply : Http.Reply}
    {σ : Type} {answer : (call : Http.interface.Call) → σ → Http.interface.Answer call × σ} {s : σ}
    (asked : risks ≠ []) (distinct : h.hedges.Distinct) (hreply : p.vendor.HandsOn reply h)
    (posted : ((Http.post (p.request (userPrompt risks))).outcome answer s).1 = .ok reply) :
    ∃ h', ((p.generate risks).outcome answer s).1 = .ok h' ∧ h'.Same h := by
  obtain ⟨h', hread, hsame⟩ := readReply_of_handsOn distinct hreply
  refine ⟨h', ?_, hsame⟩
  have hasked : risks.isEmpty = false := by simpa using asked
  simp only [generate, hasked, Bool.false_eq_true, if_false, Program.bind_eq,
    Program.outcome_bind, Program.outcome_report, posted]
  exact hread

/-! ### An answer between fences -/

namespace Sample

/-- Texts with fences, quotes and line feeds in them. -/
def texts : HedgeResult where
  hedges := ⟨[("runway", "Ask the \"bank\":\n```json\n\x7b\x7d\n```"), ("churn", "```")]⟩
  executiveSummary := "Two risks.\u3000"
  topPriorityHtml := "<strong>Runway</strong>"

/-- Their JSON between code fences, with blanks of several kinds around it. -/
def answer : List Char :=
  ['\u3000', '\n'] ++ (jsonFence ++ (['\n'] ++ (texts.toJson.print.toList ++
    (['\r', '\n'] ++ (fence ++ ['\t'])))))

/-- A block that asks for a tool. -/
def tool : Json :=
  .record [("type", .string "tool_use"), ("input", .array [.null, .record []])]

/-- The block with the answer. -/
def block : Json :=
  .record [("type", .string "text"), ("text", .string (String.ofList answer))]

/-- A reply whose answer stands among other blocks. -/
def body : Json :=
  .record [("id", .string "msg_1"), ("content", .array [tool, block, block])]

theorem tool_isBlock : IsBlock tool "tool_use" none := by
  constructor <;>
    · rw [tool, field?_record (by decide)]
      rfl

theorem block_isBlock : IsBlock block "text" (some (String.ofList answer)) := by
  constructor <;>
    · rw [block, field?_record (by show ["type", "text"].Nodup; decide)]
      rfl

theorem body_printable : body.Printable := by
  have tool : tool.Printable := by
    refine printable_record (by decide) fun f hf => ?_
    fin_cases hf
    · trivial
    · exact ⟨trivial, printable_record (by decide) (by simp), trivial⟩
  have block : block.Printable := by
    refine printable_record (by show ["type", "text"].Nodup; decide) fun f hf => ?_
    fin_cases hf <;> trivial
  refine printable_record (by show ["id", "content"].Nodup; decide) fun f hf => ?_
  fin_cases hf
  · trivial
  · exact ⟨tool, block, block, trivial⟩

def service : Provider :=
  ⟨.anthropic, "key", Vendor.anthropic.defaultModel, Vendor.anthropic.defaultBaseUrl⟩

/-- Every request is answered with the reply. -/
def answers (call : Http.interface.Call) (s : Unit) : Http.interface.Answer call × Unit :=
  (.ok ⟨200, some body.print⟩, s)

end Sample

theorem generate_reads_back_sample :
    ∃ h', ((Sample.service.generate [default]).outcome Sample.answers ()).1 = .ok h' ∧
      h'.Same Sample.texts := by
  have distinct : Sample.texts.hedges.Distinct := by
    show ["runway", "churn"].Nodup
    decide
  have answersWith : Vendor.anthropic.AnswersWith Sample.body (String.ofList Sample.answer) := by
    refine ⟨[Sample.tool], Sample.block, [Sample.block], ?_, ?_, Sample.block_isBlock, ?_⟩
    · rw [Sample.body, field?_record (by show ["id", "content"].Nodup; decide)]
      rfl
    · simpa using ⟨_, ⟨_, Sample.tool_isBlock⟩, by decide⟩
    · simpa using ⟨_, _, Sample.block_isBlock⟩
  have fenced : Fenced Sample.texts.toJson.print.toList (String.ofList Sample.answer).toList := by
    rw [String.toList_ofList]
    exact .intro .json .plain rfl rfl rfl rfl
  exact generate_reads_back (by decide) distinct
    ⟨_, Sample.body, _, _, rfl, Sample.body_printable.writtenAs, answersWith, fenced,
      HedgeResult.written_print distinct⟩ rfl

end Provider

end RiskReport

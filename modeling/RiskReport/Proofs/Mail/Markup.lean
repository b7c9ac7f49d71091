import Mathlib.Data.List.Infix
import RiskReport.Mail.Template

/-!
# Names in markup

A visitor names the business, and the name is part of the greeting in a page of markup. What is put
there is escaped character by character, and a character is escaped exactly if it is one of those in
`entities` (`escapeChar_cases`). So an escaped text delimits nothing, all its ampersands begin an
entity (`inert_escapeHtml`), and it is unescaped to the text that it was
(`unescapeHtml_escapeHtml`).

**Theorem (`names_inject_nothing`).** Whatever the name, the address and the amount are: both pages
have the markup that they have without a name, and their greeting, unescaped, is the greeting of the
trimmed name.

A page is put together from its lines, but it is reasoned about in three parts (`mailPage_eq`):
the text before the greeting, the escaped greeting, and the text after it. The name is in the second
one only.
-/

namespace RiskReport

open Text

/-! ## Entities -/

/-- The characters that are escaped, with their entities. -/
def entities : List (Char × List Char) :=
  [('&', "&amp;".toList), ('<', "&lt;".toList), ('>', "&gt;".toList), ('"', "&quot;".toList),
    ('\x27', "&#39;".toList)]

/-- The characters that delimit tags and values. -/
def delimiters : List Char := ['<', '>', '"', '\x27']

theorem escapeChar_entity : ∀ e ∈ entities, escapeChar e.1 = e.2 := by decide

theorem escapeChar_plain {c : Char} (h : ∀ e ∈ entities, c ≠ e.1) : escapeChar c = [c] := by
  obtain ⟨amp, lt, gt, quot, apos⟩ :
      c ≠ '&' ∧ c ≠ '<' ∧ c ≠ '>' ∧ c ≠ '"' ∧ c ≠ '\x27' := by
    simpa [entities] using h
  simp [escapeChar, amp, lt, gt, quot, apos]

/-- A character has an entity, by which it is escaped, or it is left as it is. -/
theorem escapeChar_cases (c : Char) :
    (∃ e ∈ entities, c = e.1 ∧ escapeChar c = e.2) ∨
      (∀ e ∈ entities, c ≠ e.1) ∧ escapeChar c = [c] := by
  by_cases h : ∃ e ∈ entities, c = e.1
  · obtain ⟨e, he, rfl⟩ := h
    exact .inl ⟨e, he, rfl, escapeChar_entity e he⟩
  · push Not at h
    exact .inr ⟨h, escapeChar_plain h⟩

/-- The text in which entities stand for characters: from left to right, every entity is replaced
by its character, and everything else is left as it is. -/
def unescapeChars : List Char → List Char
  | [] => []
  | c :: cs =>
    match entities.find? fun e => e.2.isPrefixOf (c :: cs) with
    | some e => e.1 :: unescapeChars (cs.drop (e.2.length - 1))
    | none => c :: unescapeChars cs
termination_by cs => cs.length

/-- A text with its entities replaced by their characters. -/
def unescapeHtml (s : String) : String :=
  String.ofList (unescapeChars s.toList)

theorem unescapeChars_entity {e : Char × List Char} (he : e ∈ entities) (cs : List Char) :
    unescapeChars (e.2 ++ cs) = e.1 :: unescapeChars cs := by
  simp only [entities, List.mem_cons, List.not_mem_nil, or_false] at he
  rcases he with rfl | rfl | rfl | rfl | rfl <;> exact unescapeChars.eq_2 _ _

/-- Every entity begins with an ampersand, so nothing else is replaced. -/
theorem unescapeChars_plain {c : Char} (h : c ≠ '&') (cs : List Char) :
    unescapeChars (c :: cs) = c :: unescapeChars cs := by
  have none : entities.find? (fun e => e.2.isPrefixOf (c :: cs)) = none := by
    simp [entities, Ne.symm h]
  rw [unescapeChars, none]

theorem unescapeChars_escape (cs : List Char) : unescapeChars (cs.flatMap escapeChar) = cs := by
  induction cs with
  | nil => exact unescapeChars.eq_1
  | cons c cs ih =>
    rw [List.flatMap_cons]
    rcases escapeChar_cases c with ⟨e, he, rfl, hescape⟩ | ⟨plain, hescape⟩
    · rw [hescape, unescapeChars_entity he, ih]
    · have hne : c ≠ '&' := plain _ List.mem_cons_self
      rw [hescape, List.singleton_append, unescapeChars_plain hne, ih]

/-- What was escaped is unescaped to what it was. -/
theorem unescapeHtml_escapeHtml (s : String) : unescapeHtml (escapeHtml s) = s := by
  rw [unescapeHtml, escapeHtml, String.toList_ofList, unescapeChars_escape, String.ofList_toList]

/-- A text that is an entity already stays one. -/
example : escapeHtml "&lt;" = "&amp;lt;" ∧ unescapeHtml "&amp;lt;" = "&lt;" := by
  decide +kernel

/-! ## Texts that are inert -/

/-- A text that can stand in markup: it delimits nothing, and where it has an ampersand, an entity
begins. -/
structure Inert (cs : List Char) : Prop where
  delimits : ∀ c ∈ delimiters, c ∉ cs
  entity : ∀ after, '&' :: after <:+ cs → ∃ e ∈ entities, e.2 <+: '&' :: after

namespace Inert

variable {cs ds : List Char}

theorem nil : Inert [] where
  delimits _ _ := List.not_mem_nil
  entity after h := by simp at h

theorem append (hc : Inert cs) (hd : Inert ds) : Inert (cs ++ ds) where
  delimits c h := by simp [hc.delimits c h, hd.delimits c h]
  entity after h := by
    obtain ⟨before, hbefore⟩ := h
    rcases List.append_eq_append_iff.1 hbefore with ⟨rest, rfl, hrest⟩ | ⟨rest, rfl, hrest⟩
    · cases rest with
      | nil => exact hd.entity after ⟨[], hrest⟩
      | cons c rest =>
        obtain ⟨rfl, rfl⟩ := List.cons.inj hrest
        obtain ⟨e, he, hprefix⟩ := hc.entity rest (List.suffix_append _ _)
        exact ⟨e, he, hprefix.trans (List.prefix_append _ ds)⟩
    · exact hd.entity after ⟨rest, hrest.symm⟩

end Inert

theorem inert_entity (e : Char × List Char) (he : e ∈ entities) : Inert e.2 where
  delimits c hc hmem := by
    have quiet : ∀ e ∈ entities, e.2.filter (· ∈ delimiters) = [] := by decide
    exact List.filter_eq_nil_iff.1 (quiet e he) c hmem (decide_eq_true hc)
  entity after h := by
    have begun : ∀ e ∈ entities, ∀ t ∈ e.2.tails, t.head? = some '&' → t = e.2 := by decide
    exact ⟨e, he, begun e he _ ((List.mem_tails _ _).2 h) rfl ▸ List.prefix_rfl⟩

theorem inert_escapeChar (c : Char) : Inert (escapeChar c) := by
  rcases escapeChar_cases c with ⟨e, he, rfl, hescape⟩ | ⟨plain, hescape⟩
  · rw [hescape]
    exact inert_entity e he
  · have delimited : delimiters ⊆ entities.map (·.1) := by decide
    rw [hescape]
    constructor
    · intro d hd hmem
      obtain ⟨e, he, rfl⟩ := List.mem_map.1 (delimited hd)
      exact plain e he (List.mem_singleton.1 hmem).symm
    · rintro after ⟨before, h⟩
      have hmem : '&' ∈ [c] := h ▸ by simp
      exact absurd (List.mem_singleton.1 hmem).symm (plain _ List.mem_cons_self)

theorem inert_escapeHtml (s : String) : Inert (escapeHtml s).toList := by
  rw [escapeHtml, String.toList_ofList]
  induction s.toList with
  | nil => exact .nil
  | cons c cs ih => exact (inert_escapeChar c).append ih

/-! ## Pages -/

/-- What follows the first place at which a text occurs. -/
def after? (mark : List Char) : List Char → Option (List Char)
  | [] => if mark = [] then some [] else none
  | c :: cs =>
    if mark.isPrefixOf (c :: cs) then some ((c :: cs).drop mark.length) else after? mark cs

theorem length_le_of_after? {mark cs rest : List Char} (h : after? mark cs = some rest) :
    mark.length ≤ cs.length := by
  induction cs with
  | nil =>
    rw [after?, Option.ite_none_right_eq_some] at h
    exact (congrArg List.length h.1).le
  | cons c cs ih =>
    rw [after?] at h
    split_ifs at h with hprefix
    · exact (List.isPrefixOf_iff_prefix.1 hprefix).length_le
    · exact (ih h).trans (Nat.le_succ _)

/-- The first place at which a text occurs stays the first one, whatever is put behind. -/
theorem after?_append {mark cs rest : List Char} (h : after? mark cs = some rest)
    (ds : List Char) : after? mark (cs ++ ds) = some (rest ++ ds) := by
  induction cs with
  | nil =>
    rw [after?, Option.ite_none_right_eq_some] at h
    obtain ⟨rfl, hrest⟩ := h
    obtain rfl := Option.some.inj hrest
    cases ds <;> rfl
  | cons c cs ih =>
    rw [after?] at h
    rw [List.cons_append, after?]
    split_ifs at h with hprefix
    · have hmark : mark <+: c :: cs := List.isPrefixOf_iff_prefix.1 hprefix
      obtain rfl := Option.some.inj h
      have hlonger : mark.isPrefixOf (c :: cs ++ ds) = true :=
        List.isPrefixOf_iff_prefix.2 (hmark.trans (List.prefix_append _ ds))
      rw [← List.cons_append, if_pos hlonger, List.drop_append_of_le_length hmark.length_le]
    · -- Where the text does not occur before, it is too long to reach into what is put behind.
      have hlong : ¬ mark.isPrefixOf (c :: (cs ++ ds)) = true := by
        intro hmark
        refine hprefix (List.isPrefixOf_iff_prefix.2 ?_)
        exact List.prefix_of_prefix_length_le (List.isPrefixOf_iff_prefix.1 hmark)
          (List.prefix_append (c :: cs) ds) ((length_le_of_after? h).trans (Nat.le_succ _))
      rw [if_neg hlong, ih h]

/-- The greeting that a reader of a page sees: the text of the first plain paragraph, without the
comma at its end. -/
def greetingOf? (page : String) : Option String :=
  (after? "<p>".toList page.toList).map fun cs =>
    unescapeHtml (String.ofList (cs.takeWhile (· ≠ '<')).dropLast)

/-- A page up to its greeting. -/
def beforeGreeting (title : String) : String :=
  "\n".intercalate
    ["<!DOCTYPE html>",
      "<html>",
      "<head><meta charset=\"utf-8\"></head>",
      "<body style=\"font-family: sans-serif; color: #1a1a1a; max-width: 560px; " ++
        "margin: 0 auto; padding: 24px;\">",
      "  <h2>" ++ title ++ "</h2>",
      "  <p>"]

/-- A page after its greeting. -/
def afterGreeting (paragraphs : List String) : String :=
  "\n".intercalate <| ",</p>" :: (paragraphs ++ ["  " ++ mailFooter, "</body>", "</html>"])

theorem intercalate_append_cons (sep a b : String) (l : List String) :
    sep.intercalate ((a ++ b) :: l) = a ++ sep.intercalate (b :: l) := by
  cases l with
  | nil => simp only [String.intercalate_singleton]
  | cons c l => simp only [String.intercalate_cons_cons, String.append_assoc]

/-- A page in three parts, of which only the second one depends on the name. -/
theorem mailPage_eq (title : String) (name : Option String) (paragraphs : List String) :
    mailPage title name paragraphs =
      beforeGreeting title ++ (escapeHtml (greeting name) ++ afterGreeting paragraphs) := by
  simp only [mailPage, beforeGreeting, afterGreeting, List.cons_append, List.nil_append,
    String.intercalate_cons_cons, intercalate_append_cons, String.intercalate_singleton,
    String.append_assoc]

theorem after?_beforeGreeting {title : String}
    (h : title ∈ ["Your Risk Assessment is Ready", "Payment Confirmed"]) :
    after? "<p>".toList (beforeGreeting title).toList = some [] := by
  -- Joined lists of characters are searched much faster than joined strings.
  rw [beforeGreeting, String.toList_intercalate]
  simp only [List.map_cons, List.map_nil, String.toList_append]
  revert title
  decide +kernel

theorem toList_afterGreeting (paragraphs : List String) :
    ∃ cs, (afterGreeting paragraphs).toList = ',' :: '<' :: cs := by
  have hsplit : ∃ s, afterGreeting paragraphs = ",<" ++ s :=
    ⟨_, intercalate_append_cons "\n" ",<" "/p>" _⟩
  obtain ⟨s, hs⟩ := hsplit
  refine ⟨s.toList, ?_⟩
  rw [hs, String.toList_append]
  rfl

/-- The greeting of a page is read back, whatever the name is. -/
theorem greetingOf?_mailPage {title : String}
    (h : after? "<p>".toList (beforeGreeting title).toList = some []) (name : Option String)
    (paragraphs : List String) :
    greetingOf? (mailPage title name paragraphs) = some (greeting name) := by
  obtain ⟨cs, hcs⟩ := toList_afterGreeting paragraphs
  let text := (escapeHtml (greeting name)).toList
  have hafter : after? "<p>".toList (mailPage title name paragraphs).toList =
      some (text ++ ',' :: '<' :: cs) := by
    rw [mailPage_eq, String.toList_append, after?_append h, String.toList_append, hcs,
      List.nil_append]
  have inert : ∀ c ∈ text, decide (c ≠ '<') = true := by
    intro c hc
    refine decide_eq_true ?_
    rintro rfl
    exact (inert_escapeHtml _).delimits _ List.mem_cons_self hc
  have hread : (text ++ ',' :: '<' :: cs).takeWhile (· ≠ '<') = text ++ [','] :=
    List.takeWhile_append_of_pos inert
  rw [greetingOf?, hafter, Option.map_some, hread, List.dropLast_concat, String.ofList_toList,
    unescapeHtml_escapeHtml]

/-- The characters by which a page is marked up, in their order. -/
def markupOf (page : String) : List Char :=
  page.toList.filter (· ∈ delimiters)

/-- Pages that differ in the name have the same markup. -/
theorem markupOf_mailPage (title : String) (name name' : Option String)
    (paragraphs : List String) :
    markupOf (mailPage title name paragraphs) = markupOf (mailPage title name' paragraphs) := by
  have inert (s : String) : (escapeHtml s).toList.filter (· ∈ delimiters) = [] := by
    refine List.filter_eq_nil_iff.2 fun c hc hd => ?_
    exact (inert_escapeHtml s).delimits c (of_decide_eq_true hd) hc
  simp only [markupOf, mailPage_eq, String.toList_append, List.filter_append, inert]

theorem count_markupOf {c : Char} (h : c ∈ delimiters) (page : String) :
    (markupOf page).count c = page.toList.count c :=
  List.count_filter (decide_eq_true h)

/-! ## The theorem -/

theorem greeting_cases (name : Option String) :
    (∀ n ∈ name, trim n = "") ∧ greeting name = "Hello" ∨
      ∃ n ∈ name, trim n ≠ "" ∧ greeting name = "Hello " ++ trim n := by
  cases name with
  | none => exact .inl ⟨nofun, rfl⟩
  | some n =>
    by_cases h : trim n = ""
    · exact .inl ⟨by simpa using h, by simp [greeting, trimmed?, h]⟩
    · exact .inr ⟨n, rfl, h, by simp [greeting, trimmed?, h]⟩

/-- **Names in mail.** An escaped text delimits nothing, has no ampersand but those that begin an
entity, and is unescaped to the text that it was, so no two texts are escaped alike. Whatever name,
address and amount are put into them, both pages are marked up as they are without a name: they
have the same characters of markup in the same order, so the same number of each. And the greeting
that is read back from a page greets nobody if there is no name or a blank one, and otherwise greets
the trimmed name. -/
theorem names_inject_nothing :
    (∀ s, Inert (escapeHtml s).toList ∧ unescapeHtml (escapeHtml s) = s) ∧
      Function.Injective escapeHtml ∧
      ∀ (name : Option String) (url amount : String),
        markupOf (reportReadyHtml name url) = markupOf (reportReadyHtml none url) ∧
        markupOf (receiptHtml name amount) = markupOf (receiptHtml none amount) ∧
        (∀ c ∈ delimiters,
          (reportReadyHtml name url).toList.count c = (reportReadyHtml none url).toList.count c ∧
          (receiptHtml name amount).toList.count c = (receiptHtml none amount).toList.count c) ∧
        ∃ greeting, greetingOf? (reportReadyHtml name url) = some greeting ∧
          greetingOf? (receiptHtml name amount) = some greeting ∧
          ((∀ n ∈ name, trim n = "") ∧ greeting = "Hello" ∨
            ∃ n ∈ name, trim n ≠ "" ∧ greeting = "Hello " ++ trim n) := by
  refine ⟨fun s => ⟨inert_escapeHtml s, unescapeHtml_escapeHtml s⟩,
    Function.LeftInverse.injective unescapeHtml_escapeHtml, fun name url amount => ?_⟩
  have ready : markupOf (reportReadyHtml name url) = markupOf (reportReadyHtml none url) :=
    markupOf_mailPage _ name none _
  have receipt : markupOf (receiptHtml name amount) = markupOf (receiptHtml none amount) :=
    markupOf_mailPage _ name none _
  refine ⟨ready, receipt, fun c hc => ⟨?_, ?_⟩, greeting name, ?_, ?_, greeting_cases name⟩
  · rw [← count_markupOf hc, ready, count_markupOf hc]
  · rw [← count_markupOf hc, receipt, count_markupOf hc]
  · exact greetingOf?_mailPage (after?_beforeGreeting List.mem_cons_self) name _
  · exact greetingOf?_mailPage (after?_beforeGreeting (.tail _ List.mem_cons_self)) name _

end RiskReport

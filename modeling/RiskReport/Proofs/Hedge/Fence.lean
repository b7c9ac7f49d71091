import RiskReport.Hedge.Reply
import RiskReport.Proofs.Text.Ends

/-!
# Texts between code fences

A text is found again between code fences and blanks, whatever stands in it, since only the two ends
of what is left after trimming are ever taken for fences. It must not have fences of its own at its
ends (`Unfenced`), and an opening fence that names no language must not be followed by one: a text
between braces (`Fenced.strip`) may follow at once, and any other text on a line of its own.

A fence that only closes is the delicate case. It is looked for after an opening fence, and a text
of one or two backquotes makes an opening fence together with it; what is left then is as many
backquotes as there were before (`dropOpening_append_fence`).

**Theorem (`HedgeResult.ofReply_between_fences`).** A reply is read as if its fences were not there,
to the same texts or to the same error.
-/

namespace RiskReport

open Text

variable {b cs e : List Char}

theorem fence_eq : fence = ['`', '`', '`'] := by
  decide

/-- What may open a text: a code fence, with its language or without, or none. -/
inductive Opening : List Char → Prop
  | none : Opening []
  | plain : Opening fence
  | json : Opening jsonFence

/-- What may close a text: a code fence or none. -/
inductive Closing : List Char → Prop
  | none : Closing []
  | plain : Closing fence

/-- A text, bare or between code fences, with blanks around it and around the fences. -/
inductive Fenced (e : List Char) : List Char → Prop
  | intro {before opening inside inside' closing after : List Char} (hopening : Opening opening)
      (hclosing : Closing closing) (hbefore : before.all isBlank) (hinside : inside.all isBlank)
      (hinside' : inside'.all isBlank) (hafter : after.all isBlank) :
      Fenced e (before ++ (opening ++ (inside ++ (e ++ (inside' ++ (closing ++ after))))))

/-- Blanks aside, the text neither begins nor ends with a fence. -/
structure Unfenced (e : List Char) : Prop where
  opening : ¬ fence <+: trimChars e
  closing : ¬ fence <:+ trimChars e

/-- A text between braces. -/
def Braced (e : List Char) : Prop :=
  e.head? = some '{' ∧ e.getLast? = some '}'

/-! ## Taking fences off -/

/-- What is left of the characters when fences and blanks are taken off. -/
def stripChars (cs : List Char) : List Char :=
  trimChars (dropClosing (dropOpening (trimChars cs)))

theorem stripFences_ofList (cs : List Char) :
    stripFences (String.ofList cs) = String.ofList (stripChars cs) := by
  rw [stripFences, String.toList_ofList, ← stripChars]

theorem stripChars_blanks_append (hb : b.all isBlank) (cs : List Char) :
    stripChars (b ++ cs) = stripChars cs := by
  rw [stripChars, trimChars_blanks_append hb, ← stripChars]

theorem stripChars_append_blanks (hb : b.all isBlank) (cs : List Char) :
    stripChars (cs ++ b) = stripChars cs := by
  rw [stripChars, trimChars_append_blanks hb, ← stripChars]

theorem fence_prefix_jsonFence : fence <+: jsonFence := by
  decide

/-- What does not begin with a fence does not begin with one that names its language either. -/
theorem dropOpening_eq (h : ¬ fence <+: cs) : dropOpening cs = cs := by
  have hjson : ¬ jsonFence <+: cs := fun hprefix => h (fence_prefix_jsonFence.trans hprefix)
  rw [dropOpening, dropPrefixChars?_eq_none_iff.2 hjson, dropPrefixChars?_eq_none_iff.2 h]
  rfl

theorem dropClosing_eq (h : ¬ fence <:+ cs) : dropClosing cs = cs := by
  have hprefix : ¬ fence <+: cs.reverse := by
    intro hprefix
    rw [← List.reverse_suffix, List.reverse_reverse] at hprefix
    exact h hprefix
  rw [dropClosing, dropPrefixChars?_eq_none_iff.2 hprefix]
  rfl

theorem dropClosing_append (cs : List Char) : dropClosing (cs ++ fence) = cs := by
  have hdrop : dropPrefixChars? fence (cs ++ fence).reverse = some cs.reverse := by
    rw [dropPrefixChars?_eq_some_iff, List.reverse_append]
    rfl
  rw [dropClosing, hdrop, Option.map_some, Option.getD_some, List.reverse_reverse]

/-- A fence is taken off in front of anything that does not begin like the name of a language. -/
theorem Opening.drop {mark : List Char} (hmark : Opening mark) (hne : mark ≠ [])
    (h : cs.head? ≠ some 'j') : dropOpening (mark ++ cs) = cs := by
  cases hmark with
  | none => exact absurd rfl hne
  | plain =>
    have hjson : ¬ jsonFence <+: fence ++ cs := by
      rintro ⟨rest, hrest⟩
      have hrest : fence ++ ("json".toList ++ rest) = fence ++ cs := hrest
      refine h ?_
      rw [← List.append_cancel_left hrest]
      rfl
    rw [dropOpening, dropPrefixChars?_eq_none_iff.2 hjson, Option.none_or,
      dropPrefixChars?_eq_some_iff.2 rfl, Option.getD_some]
  | json =>
    rw [dropOpening, dropPrefixChars?_eq_some_iff.2 rfl, Option.some_or, Option.getD_some]

/-- What begins with no fence is found in front of a closing fence, even where both together begin
with a fence: then they are backquotes, and it makes no difference which of them are taken off. -/
theorem dropOpening_append_fence (h : ¬ fence <+: cs) :
    dropClosing (dropOpening (cs ++ fence)) = cs := by
  by_cases hopen : fence <+: cs ++ fence
  · rw [fence_eq] at h hopen
    match cs, h, hopen with
    | [], _, _ => decide
    | [x], _, hopen =>
      obtain ⟨rfl, -⟩ := List.cons_prefix_cons.1 hopen
      decide
    | [x, y], _, hopen =>
      obtain ⟨rfl, hrest⟩ := List.cons_prefix_cons.1 hopen
      obtain ⟨rfl, -⟩ := List.cons_prefix_cons.1 hrest
      decide
    | x :: y :: z :: rest, h, hopen =>
      refine absurd ?_ h
      simpa [List.cons_prefix_cons] using hopen
  · rw [dropOpening_eq hopen, dropClosing_append]

/-! ## Texts between fences -/

theorem Opening.head? {mark : List Char} (hmark : Opening mark) (hne : mark ≠ []) :
    mark.head? = some '`' := by
  cases hmark with
  | none => exact absurd rfl hne
  | plain | json => rfl

theorem Opening.getLast? {mark : List Char} (hmark : Opening mark) (hne : mark ≠ []) :
    ∃ x, mark.getLast? = some x ∧ isBlank x = false := by
  cases hmark with
  | none => exact absurd rfl hne
  | plain => exact ⟨'`', rfl, rfl⟩
  | json => exact ⟨'n', rfl, rfl⟩

theorem Unfenced.strip (h : Unfenced cs) : stripChars cs = trimChars cs := by
  rw [stripChars, dropOpening_eq h.opening, dropClosing_eq h.closing, trimChars_trimChars]

/-- A text after an opening fence. -/
theorem Opening.strip {mark : List Char} (hmark : Opening mark) (hne : mark ≠ [])
    (h : cs.head? ≠ some 'j') (hclosing : ¬ fence <:+ trimChars cs) :
    stripChars (mark ++ cs) = trimChars cs := by
  obtain ⟨x, hlast, hx⟩ := hmark.getLast? hne
  have htrim : trimChars (mark ++ cs) = mark ++ trimEndChars cs := by
    have hhead : (mark ++ cs).head? = some '`' := by simp [hmark.head? hne]
    rw [trimChars, trimStartChars_of_head? hhead rfl, trimEndChars_append_right hlast hx]
  have hfirst : (trimEndChars cs).head? ≠ some 'j' := by
    obtain ⟨rest, hrest⟩ : trimEndChars cs <+: cs := List.rdropWhile_prefix isBlank cs
    rw [← hrest] at h
    cases hend : trimEndChars cs with
    | nil => simp
    | cons y ys => simpa [hend] using h
  have hfence : ¬ fence <:+ trimEndChars cs := by
    rintro ⟨front, hfront⟩
    refine hclosing ⟨trimStartChars front, ?_⟩
    rw [← trimStartChars_trimEndChars, ← hfront]
    exact (trimStartChars_append_left (x := '`') rfl rfl front).symm
  rw [stripChars, htrim, hmark.drop hne hfirst, dropClosing_eq hfence, trimChars_trimEndChars]

/-- A text in front of a closing fence. -/
theorem stripChars_append_fence (h : ¬ fence <+: trimChars cs) :
    stripChars (cs ++ fence) = trimChars cs := by
  have htrim : trimChars (cs ++ fence) = trimStartChars cs ++ fence := by
    have hlast : (trimStartChars cs ++ fence).getLast? = some '`' := by simp [fence_eq]
    rw [trimChars, trimStartChars_append_left (x := '`') rfl rfl,
      trimEndChars_of_getLast? hlast rfl]
  have hfence : ¬ fence <+: trimStartChars cs := by
    rintro ⟨rest, hrest⟩
    refine h ⟨trimEndChars rest, ?_⟩
    rw [trimChars, ← hrest]
    exact (trimEndChars_append_right (x := '`') rfl rfl rest).symm
  rw [stripChars, htrim, dropOpening_append_fence hfence, trimChars_trimStartChars]

/-- A text between an opening fence and a closing one. -/
theorem Opening.strip_closed {mark : List Char} (hmark : Opening mark) (hne : mark ≠ [])
    (h : cs.head? ≠ some 'j') : stripChars (mark ++ (cs ++ fence)) = trimChars cs := by
  have htrim : trimChars (mark ++ (cs ++ fence)) = mark ++ (cs ++ fence) := by
    have hhead : (mark ++ (cs ++ fence)).head? = some '`' := by simp [hmark.head? hne]
    have hlast : (mark ++ (cs ++ fence)).getLast? = some '`' := by simp [fence_eq]
    exact trimChars_of_ends hhead rfl hlast rfl
  have hfirst : (cs ++ fence).head? ≠ some 'j' := by
    cases cs with
    | nil => decide
    | cons x xs => exact h
  rw [stripChars, htrim, hmark.drop hne hfirst, dropClosing_append]

/-- Blanks around a text between braces are trimmed, and it has no fences at its ends. -/
theorem Braced.trimChars_eq (he : Braced e) : trimChars e = e :=
  trimChars_of_ends he.1 rfl he.2 rfl

theorem Braced.unfenced (he : Braced e) : Unfenced e := by
  obtain ⟨hhead, hlast⟩ := he
  constructor
  · rw [Braced.trimChars_eq ⟨hhead, hlast⟩]
    rintro ⟨rest, rfl⟩
    cases hhead
  · rw [Braced.trimChars_eq ⟨hhead, hlast⟩]
    rintro ⟨front, rfl⟩
    simp [fence_eq] at hlast

theorem Unfenced.congr {e' : List Char} (h : Unfenced e) (he : trimChars e' = trimChars e) :
    Unfenced e' :=
  ⟨he ▸ h.opening, he ▸ h.closing⟩

/-- A text is found again between fences that may be there or not, and blanks. -/
theorem Unfenced.strip_between {before opening closing after : List Char} (h : Unfenced e)
    (hopening : Opening opening) (hclosing : Closing closing) (hbefore : before.all isBlank)
    (hafter : after.all isBlank) (hfirst : opening ≠ [] → e.head? ≠ some 'j') :
    stripChars (before ++ (opening ++ (e ++ (closing ++ after)))) = trimChars e := by
  have hends : stripChars (before ++ (opening ++ (e ++ (closing ++ after)))) =
      stripChars (opening ++ (e ++ closing)) := by
    rw [stripChars_blanks_append hbefore, ← List.append_assoc e, ← List.append_assoc opening,
      stripChars_append_blanks hafter]
  rw [hends]
  by_cases hne : opening = []
  · subst hne
    cases hclosing with
    | none => rw [List.nil_append, List.append_nil, h.strip]
    | plain => rw [List.nil_append, stripChars_append_fence h.opening]
  · cases hclosing with
    | none => rw [List.append_nil, hopening.strip hne (hfirst hne) h.closing]
    | plain => rw [hopening.strip_closed hne (hfirst hne)]

theorem Fenced.ne_nil (he : e ≠ []) (h : Fenced e cs) : cs ≠ [] := by
  cases h
  simp [he]

/-- What stands between braces is what is left when fences and blanks are taken off. -/
theorem Fenced.strip (he : Braced e) (h : Fenced e cs) :
    stripFences (String.ofList cs) = String.ofList e := by
  obtain @⟨before, opening, inside, inside', closing, after, hopening, hclosing, hbefore, hinside,
    hinside', hafter⟩ := h
  have hblanks : trimChars (inside ++ (e ++ inside')) = trimChars e := by
    rw [trimChars_blanks_append hinside, trimChars_append_blanks hinside']
  have hfirst : (inside ++ (e ++ inside')).head? ≠ some 'j' := by
    cases inside with
    | nil => simp [he.1]
    | cons x xs =>
      rintro ⟨⟩
      cases (List.all_cons ▸ hinside : (isBlank 'j' && xs.all isBlank) = true)
  have hstrip := (he.unfenced.congr hblanks).strip_between hopening hclosing hbefore hafter
    fun _ => hfirst
  simp only [List.append_assoc, hblanks, he.trimChars_eq] at hstrip
  rw [stripFences_ofList, hstrip]

/-! ## Replies between fences -/

namespace HedgeResult

/-- Replies are read alike if they are the same without their fences. -/
theorem ofReply_congr {a b : String} (h : stripChars a.toList = stripChars b.toList) :
    ofReply a = ofReply b := by
  have hstrip : stripFences a = stripFences b := congrArg String.ofList h
  rw [ofReply, ofReply, hstrip]

/-- **Fences are seen through.** A text that neither begins nor ends with a fence, blanks aside, is
read as it is between an opening fence on a line of its own and a closing fence, with any blanks
around it and around them: to the same texts, or to the same error with the same excerpt. So it is
with only one of the two fences. -/
theorem ofReply_between_fences {text w₁ w₂ w₃ w₄ : String} (h : Unfenced text.toList)
    (h₁ : isBlankText w₁) (h₂ : isBlankText w₂) (h₃ : isBlankText w₃) (h₄ : isBlankText w₄) :
    (∀ opener ∈ ["```json", "```"],
      ofReply (w₁ ++ opener ++ "\n" ++ w₂ ++ text ++ w₃ ++ "```" ++ w₄) = ofReply text ∧
      ofReply (w₁ ++ opener ++ "\n" ++ w₂ ++ text ++ w₃) = ofReply text) ∧
    ofReply (w₂ ++ text ++ w₃ ++ "```" ++ w₄) = ofReply text := by
  have hblanks : trimChars (w₂.toList ++ (text.toList ++ w₃.toList)) = trimChars text.toList := by
    rw [trimChars_blanks_append h₂, trimChars_append_blanks h₃]
  have hline : trimChars ('\n' :: (w₂.toList ++ (text.toList ++ w₃.toList))) =
      trimChars text.toList :=
    (trimChars_blanks_append (b := ['\n']) rfl _).trans hblanks
  have hnil : ([] : List Char).all isBlank := rfl
  refine ⟨fun opener hmem => ?_, ?_⟩
  · have hmark : Opening opener.toList := by
      simp only [List.mem_cons, List.not_mem_nil, or_false] at hmem
      rcases hmem with rfl | rfl
      · exact .json
      · exact .plain
    have hfirst : opener.toList ≠ [] →
        ('\n' :: (w₂.toList ++ (text.toList ++ w₃.toList))).head? ≠ some 'j' := by
      rintro - ⟨⟩
    constructor
    · apply ofReply_congr
      rw [h.strip, ← hline, ← (h.congr hline).strip_between hmark .plain h₁ h₄ hfirst]
      simp [fence]
    · apply ofReply_congr
      rw [h.strip, ← hline, ← (h.congr hline).strip_between hmark .none h₁ hnil hfirst]
      simp
  · apply ofReply_congr
    rw [h.strip, ← hblanks, ← (h.congr hblanks).strip_between .none .plain hnil h₄ (absurd rfl)]
    simp [fence]

/-- A text that ends in two backquotes and begins with the name of a language. -/
theorem ofReply_between_fences_sample :
    Unfenced "json: ``".toList ∧ isBlankText "\t" ∧ isBlankText "" ∧ isBlankText "\u00a0" ∧
      HedgeResult.ofReply "json: ``" =
        .error (.parse "expected value at line 1 column 1 (raw: json: ``)") ∧
      HedgeResult.ofReply ("\t" ++ "```" ++ "\n" ++ "" ++ "json: ``" ++ "" ++ "```" ++ "\u00a0") =
        HedgeResult.ofReply "json: ``" ∧
      HedgeResult.ofReply ("" ++ "json: ``" ++ "" ++ "```" ++ "\u00a0") =
        HedgeResult.ofReply "json: ``" := by
  have unfenced : Unfenced "json: ``".toList := ⟨by decide, by decide⟩
  have before : isBlankText "\t" := by decide
  have inside : isBlankText "" := by decide
  have after : isBlankText "\u00a0" := by decide
  obtain ⟨hopened, hclosed⟩ := ofReply_between_fences unfenced before inside inside after
  refine ⟨unfenced, before, inside, after, ?_, (hopened "```" (by simp)).1, hclosed⟩
  decide +kernel

end HedgeResult

end RiskReport

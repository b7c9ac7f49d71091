import RiskReport.Access
import RiskReport.Proofs.Store.Lasting
import RiskReport.Proofs.Text.Ends

/-!
# What a store finds

The answers of a session are the answers that were given in it, each joined with its question
(`mem_answersOf`), and no question occurs in them twice (`nodup_answersOf`). A report is found by
its access token (`reportByToken_eq`), since tokens that were new when they were minted are all
different, and trimming leaves them as they are (`AccessToken.UrlSafe.trim_eq`).
-/

namespace RiskReport

/-! ## Tokens -/

theorem AccessToken.not_blank_of_mem_alphabet {c : Char} (h : c ∈ alphabet) :
    Text.isBlank c = false := by
  have hall : (alphabet.all fun c => !Text.isBlank c) = true := by rfl
  simpa using List.all_eq_true.1 hall c h

/-- Trimming leaves a token as it is. -/
theorem AccessToken.UrlSafe.trim_eq {t : AccessToken} (h : t.UrlSafe) : Text.trim t.text = t.text :=
  Text.trim_eq fun c hc => not_blank_of_mem_alphabet (h.alphabet c hc)

theorem AccessToken.UrlSafe.isEmpty_eq {t : AccessToken} (h : t.UrlSafe) :
    t.text.isEmpty = false := by
  have hne := h.nonempty
  simpa using hne

namespace Memory

variable {m : Memory}

/-- The tokens of reports are safe in addresses and all different. -/
structure Tokens (m : Memory) : Prop where
  single : m.reports.Apart (·.accessToken)
  urlSafe : m.reports.Every fun _ r => r.accessToken.UrlSafe

theorem tokens_empty : Tokens .empty :=
  ⟨Table.apart_empty, Table.every_empty⟩

/-- A report may be replaced by one with the same token. -/
theorem Tokens.replaceReport {r r' : Report} (h : m.Tokens) (found : m.reports.get? r.id = some r)
    (id : r'.id = r.id) (token : r'.accessToken = r.accessToken) : (m.insertReport r').Tokens where
  single := h.single.insert fun j q hq hs =>
    (h.single j q hq _ r found (hs.trans token)).trans id.symm
  urlSafe := h.urlSafe.insert (token ▸ h.urlSafe _ r found)

/-- Reports with tokens of their own keep them, and a new token is another one. -/
theorem Sound.tokens_apart {m' : Memory} {supply : Supply} {call : StoreCall} (h : m.Sound)
    (new : supply.New m) (ht : m.reports.Apart (·.accessToken)) (he : Effect m supply call m') :
    m'.reports.Apart (·.accessToken) := by
  intro i q hq j r hr (hqr : q.accessToken = r.accessToken)
  have key {i : ReportId} {q : Report} (hq : m'.reports.get? i = some q) : q.id = i :=
    (h.effect new.toFresh he).reports.key i q hq
  rcases h.origin new.toFresh he hq with ⟨q₀, hq₀, hturns⟩ | ⟨session, rfl⟩ <;>
    rcases h.origin new.toFresh he hr with ⟨r₀, hr₀, hturns'⟩ | ⟨session', rfl⟩
  · rw [hturns.accessToken_eq, hturns'.accessToken_eq] at hqr
    exact ht i q₀ hq₀ j r₀ hr₀ hqr
  · rw [hturns.accessToken_eq] at hqr
    exact absurd hqr (new.token q₀ (Table.mem_rows_of_get? hq₀))
  · rw [hturns'.accessToken_eq] at hqr
    exact absurd hqr.symm (new.token r₀ (Table.mem_rows_of_get? hr₀))
  · have hi : supply.report = i := key hq
    have hj : supply.report = j := key hr
    exact hi.symm.trans hj

theorem Tokens.effect {m' : Memory} {supply : Supply} {call : StoreCall} (h : m.Tokens)
    (hs : m.Sound) (fresh : supply.FreshToken m) (he : Effect m supply call m') : m'.Tokens where
  single := hs.tokens_apart fresh.toNew h.single he
  urlSafe := by
    intro id r hr
    rcases hs.origin fresh.toFresh he hr with ⟨r₀, hr₀, ht⟩ | ⟨session, rfl⟩
    · rw [ht.accessToken_eq]
      exact h.urlSafe id r₀ hr₀
    · exact fresh.urlSafe

theorem Tokens.rearranged {m' : Memory} (h : m.Tokens) (hs : m.Sound) (hr : m.Rearranged m') :
    m'.Tokens :=
  ⟨h.single.perm hs.reports.distinct hr.reports, h.urlSafe.perm hs.reports.distinct hr.reports⟩

theorem Reachable.tokens (h : Reachable Supply.FreshToken m) : m.Sound ∧ m.Tokens :=
  h.invariant (P := fun m => m.Sound ∧ m.Tokens) ⟨sound_empty, tokens_empty⟩
    (fun hm fresh he => ⟨hm.1.effect fresh.toFresh he, hm.2.effect hm.1 fresh he⟩)
    (fun q hm => ⟨hm.1.insertQuestion q, hm.2.single, hm.2.urlSafe⟩)
    fun hm hr => ⟨hm.1.rearranged hr, hm.2.rearranged hm.1 hr⟩

/-- A report that a token opens is a report of the store with this token. -/
theorem reportByToken_eq_some {token : String} {r : Report} (hk : m.reports.Keyed (·.id))
    (h : m.reportByToken token = some r) :
    m.reports.get? r.id = some r ∧ r.accessToken.text = token :=
  ⟨hk.mem_rows.1 (List.mem_of_find?_eq_some h), by simpa using List.find?_some h⟩

/-- A token opens nothing if it is the token of no report. -/
theorem reportByToken_eq_none {token : String} {id : ReportId} {r : Report}
    (h : m.reportByToken token = none) (found : m.reports.get? id = some r) :
    r.accessToken.text ≠ token := by
  simpa using List.find?_eq_none.1 h r (Table.mem_rows_of_get? found)

/-- A report is found by its token. -/
theorem reportByToken_eq {id : ReportId} {r : Report} (hk : m.reports.Keyed (·.id))
    (ht : m.reports.Apart (·.accessToken)) (found : m.reports.get? id = some r) :
    m.reportByToken r.accessToken.text = some r := by
  cases hq : m.reportByToken r.accessToken.text with
  | none => exact absurd rfl (reportByToken_eq_none hq found)
  | some q =>
    obtain ⟨hq', htoken⟩ := reportByToken_eq_some hk hq
    obtain rfl := ht _ q hq' _ r found (congrArg AccessToken.mk htoken)
    exact hq'.symm.trans found

/-- The order of the reports does not matter to what a token opens. -/
theorem reportByToken_rearranged {m' : Memory} (hs : m.Sound)
    (ht : m.reports.Apart (·.accessToken)) (hr : m.Rearranged m') (token : String) :
    m'.reportByToken token = m.reportByToken token := by
  refine Table.find?_rows_perm hr.reports fun q hq q' hq' opens opens' => ?_
  rw [hs.reports.mem_rows] at hq hq'
  have htoken : q.accessToken.text = q'.accessToken.text := by
    rw [eq_of_beq opens, eq_of_beq opens']
  have hid : q.id = q'.id := ht _ q hq _ q' hq' (congrArg AccessToken.mk htoken)
  exact Option.some.inj (hq.symm.trans (hid ▸ hq'))

/-! ## Answers -/

variable {session : SessionId}

/-- The answers of a session, each with its place in the questionnaire. -/
def placed (m : Memory) (session : SessionId) : List (Int × AnswerRow) :=
  m.answers.entries.filterMap fun ((s, question), answer) =>
    if s = session then
      (m.questions.get? question).map fun q => (q.sortOrder, q.answered answer.text)
    else none

theorem answersOf_eq (m : Memory) (session : SessionId) :
    m.answersOf session = ((m.placed session).mergeSort earlier).map (·.2) := rfl

theorem mem_placed (hd : m.answers.Distinct) {x : Int × AnswerRow} :
    x ∈ m.placed session ↔
      ∃ question answer q, m.answers.get? (session, question) = some answer ∧
        m.questions.get? question = some q ∧ x = (q.sortOrder, q.answered answer.text) := by
  simp only [placed, List.mem_filterMap, Prod.exists, hd.mem_entries]
  constructor
  · rintro ⟨s, question, answer, ha, hx⟩
    split_ifs at hx with heq
    · subst heq
      obtain ⟨q, hq, hx⟩ := Option.map_eq_some_iff.1 hx
      exact ⟨question, answer, q, ha, hq, hx.symm⟩
  · rintro ⟨question, answer, q, ha, hq, rfl⟩
    exact ⟨session, question, answer, ha, by rw [if_pos rfl, hq]; rfl⟩

/-- No question has two places. -/
theorem nodup_placed (hd : m.answers.Distinct) (hk : m.questions.Keyed (·.id)) :
    ((m.placed session).map (·.2.questionId)).Nodup := by
  unfold placed List.Nodup
  rw [List.pairwise_map, List.pairwise_filterMap]
  unfold Table.Distinct List.Nodup at hd
  rw [List.pairwise_map] at hd
  refine hd.imp fun {x y} hne a ha b hb heq => hne ?_
  obtain ⟨⟨s, question⟩, answer⟩ := x
  obtain ⟨⟨s', question'⟩, answer'⟩ := y
  -- The question of a row is the key that its answer is kept under.
  have key {s : SessionId} {question : String} {answer : StoredAnswer} {row : Int × AnswerRow}
      (h : (if s = session then
        (m.questions.get? question).map fun q => (q.sortOrder, q.answered answer.text)
        else none) = some row) : s = session ∧ row.2.questionId = question := by
    split_ifs at h with heq
    · obtain ⟨q, hq, rfl⟩ := Option.map_eq_some_iff.1 h
      exact ⟨heq, hk.key _ _ hq⟩
  obtain ⟨rfl, hqa⟩ := key ha
  obtain ⟨rfl, hqb⟩ := key hb
  exact Prod.ext rfl (hqa.symm.trans (heq.trans hqb))

theorem earlier_iff {x y : Int × AnswerRow} :
    earlier x y = true ↔ x.1 < y.1 ∨ x.1 = y.1 ∧ x.2.questionId ≤ y.2.questionId := by
  simp [earlier]

theorem earlier_trans (x y z : Int × AnswerRow) (hxy : earlier x y = true)
    (hyz : earlier y z = true) : earlier x z = true := by
  rw [earlier_iff] at hxy hyz ⊢
  rcases hxy with hxy | ⟨hxy, hxy'⟩ <;> rcases hyz with hyz | ⟨hyz, hyz'⟩
  · exact .inl (by omega)
  · exact .inl (by omega)
  · exact .inl (by omega)
  · exact .inr ⟨by omega, String.le_trans hxy' hyz'⟩

theorem earlier_total (x y : Int × AnswerRow) : (earlier x y || earlier y x) = true := by
  rw [Bool.or_eq_true, earlier_iff, earlier_iff]
  rcases Int.lt_trichotomy x.1 y.1 with h | h | h
  · exact .inl (.inl h)
  · rcases String.le_total x.2.questionId y.2.questionId with hq | hq
    · exact .inl (.inr ⟨h, hq⟩)
    · exact .inr (.inr ⟨h.symm, hq⟩)
  · exact .inr (.inl h)

/-- The answers of a session are sorted by their places, and no two share a place. -/
theorem pairwise_placed (hd : m.answers.Distinct) (hk : m.questions.Keyed (·.id)) :
    ((m.placed session).mergeSort earlier).Pairwise fun x y =>
      x.1 < y.1 ∨ x.1 = y.1 ∧ x.2.questionId < y.2.questionId := by
  have hperm : ((m.placed session).mergeSort earlier).Perm (m.placed session) :=
    List.mergeSort_perm _ _
  have hnodup := (hperm.map (·.2.questionId)).nodup_iff.2 (nodup_placed hd hk)
  have hsorted := List.pairwise_mergeSort earlier_trans earlier_total (m.placed session)
  refine hsorted.imp₂ (fun x y hxy hne => ?_) (List.pairwise_map.1 hnodup)
  exact (earlier_iff.1 hxy).imp_right fun h => ⟨h.1, Std.lt_of_le_of_ne h.2 hne⟩

/-- The answers of a session are those that were given in it, each with its question. -/
theorem mem_answersOf (hd : m.answers.Distinct) {row : AnswerRow} :
    row ∈ m.answersOf session ↔
      ∃ question answer q, m.answers.get? (session, question) = some answer ∧
        m.questions.get? question = some q ∧ row = q.answered answer.text := by
  simp only [answersOf_eq, List.mem_map, List.mem_mergeSort, mem_placed hd]
  constructor
  · rintro ⟨x, ⟨question, answer, q, ha, hq, rfl⟩, rfl⟩
    exact ⟨question, answer, q, ha, hq, rfl⟩
  · rintro ⟨question, answer, q, ha, hq, rfl⟩
    exact ⟨_, ⟨question, answer, q, ha, hq, rfl⟩, rfl⟩

/-- No question occurs twice in the answers of a session. -/
theorem nodup_answersOf (hd : m.answers.Distinct) (hk : m.questions.Keyed (·.id)) :
    ((m.answersOf session).map (·.questionId)).Nodup := by
  rw [answersOf_eq, List.map_map]
  exact ((List.mergeSort_perm _ _).map _).nodup_iff.2 (nodup_placed hd hk)

/-- A session in which something was answered has answers. -/
theorem answersOf_ne_nil (hs : m.Sound)
    (h : ∃ question answer, m.answers.get? (session, question) = some answer) :
    m.answersOf session ≠ [] := by
  obtain ⟨question, answer, ha⟩ := h
  obtain ⟨q, hq⟩ := (hs.answers _ _ ha).2
  exact List.ne_nil_of_mem ((mem_answersOf hs.distinct.1).2 ⟨question, answer, q, ha, hq, rfl⟩)

end Memory

end RiskReport

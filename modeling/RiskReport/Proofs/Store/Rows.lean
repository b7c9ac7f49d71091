import RiskReport.Proofs.Table
import RiskReport.Store.Memory

/-!
# The rows of a scored report

A store makes the rows of a report in two passes: it goes through the risks and makes a row of each,
unless the question has one already, and then through the hedges that apply and puts each into the
row of its question. `ScoredReport.rows` gives the rows one by one instead, each with the hedge that
is written for its question.

**Theorem (`resultRows_eq_ok`).** Rows are made exactly if no question has two risks, and then they
are these. So the hedges may be gone through in any order (`resultRows_of_perm`).
-/

namespace RiskReport

/-! ## Row by row -/

namespace ScoredReport

/-- The row in which a risk is kept, at its position. -/
def rowAt (p : ScoredReport) (supply : Supply) (i : Nat) (r : ScoredRisk) : RiskResult :=
  { r.row (supply.row i) p.report with aiHedge := p.hedge? r.questionId }

/-- The rows in which the risks of a report are kept. -/
def rows (p : ScoredReport) (supply : Supply) : List RiskResult :=
  p.risks.zipIdx.map fun (r, i) => p.rowAt supply i r

variable {p : ScoredReport} {supply : Supply}

@[simp] theorem rowAt_aiHedge (i : Nat) (r : ScoredRisk) :
    (p.rowAt supply i r).aiHedge = p.hedge? r.questionId := rfl

/-- What the rows have in common with the risks, position by position. -/
theorem map_rows {α : Type} {f : RiskResult → α} {g : ScoredRisk → α}
    (h : ∀ i r, f (p.rowAt supply i r) = g r) : (p.rows supply).map f = p.risks.map g := by
  unfold rows
  rw [List.map_map]
  conv_rhs => rw [← List.zipIdx_map_fst 0 p.risks, List.map_map]
  exact List.map_congr_left fun x _ => h x.2 x.1

theorem exists_of_mem_rows {row : RiskResult} (h : row ∈ p.rows supply) :
    ∃ i, ∃ r ∈ p.risks, row = p.rowAt supply i r := by
  simp only [rows, List.mem_map, Prod.exists] at h
  obtain ⟨r, i, hr, rfl⟩ := h
  exact ⟨i, r, List.fst_mem_of_mem_zipIdx hr, rfl⟩

theorem length_rows : (p.rows supply).length = p.risks.length := by
  simp [rows]

/-- The hedges that apply are those that are written for questions that are known. -/
theorem mem_applicableHedges {known : String → Bool} {question text : String} :
    (question, text) ∈ p.applicableHedges known ↔
      p.hedge? question = some text ∧ known question = true := by
  simp only [applicableHedges, List.mem_filter, Table.mem_pairs, hedge?, Option.filter_eq_some_iff,
    Bool.and_eq_true, and_assoc]

/-- What is written for a question does not depend on the order of the hedges. -/
theorem hedge?_of_perm {hedges : Table String String} (keys : p.hedges.Distinct)
    (order : hedges.entries.Perm p.hedges.entries) (question : String) :
    { p with hedges := hedges : ScoredReport }.hedge? question = p.hedge? question := by
  rw [hedge?, hedge?, keys.get?_perm order]

end ScoredReport

namespace Memory

open ScoredReport

/-! ## Going through the risks -/

section

variable {supply : Supply} {report : ReportId} {rows : List RiskResult}

theorem plainRows_cons {r : ScoredRisk} (risks : List ScoredRisk)
    (h : ∀ row ∈ rows, row.questionId ≠ r.questionId) :
    plainRows supply report rows (r :: risks) =
      plainRows supply report (rows ++ [r.row (supply.row rows.length) report]) risks := by
  have hr : rows.any (·.questionId == r.questionId) = false := by simpa using h
  simp only [plainRows, hr]
  rfl

/-- Rows are made exactly if no question has two, and then there is one for each risk. -/
theorem plainRows_eq_ok (risks : List ScoredRisk) (rows out : List RiskResult) :
    plainRows supply report rows risks = .ok out ↔
      (risks.map (·.questionId)).Nodup ∧
        (∀ r ∈ risks, ∀ row ∈ rows, row.questionId ≠ r.questionId) ∧
        out = rows ++ (risks.zipIdx rows.length).map fun (r, i) =>
          r.row (supply.row i) report := by
  induction risks generalizing rows with
  | nil => simp [plainRows, eq_comm]
  | cons r risks ih =>
    by_cases hne : ∀ row ∈ rows, row.questionId ≠ r.questionId
    · rw [plainRows_cons risks hne, ih]
      simp only [List.map_cons, List.nodup_cons, List.mem_map, not_exists, not_and,
        List.mem_append, List.mem_cons, List.not_mem_nil, or_false, List.zipIdx_cons,
        List.length_append, List.length_cons, List.length_nil, List.append_assoc]
      constructor
      · rintro ⟨hd, hd', rfl⟩
        refine ⟨⟨fun s hs hsr => hd' s hs _ (Or.inr rfl) hsr.symm, hd⟩, ?_, rfl⟩
        rintro s (rfl | hs) row hrow
        · exact hne row hrow
        · exact hd' s hs row (Or.inl hrow)
      · rintro ⟨⟨hn, hd⟩, hd', rfl⟩
        refine ⟨hd, ?_, rfl⟩
        rintro s hs row (hrow | rfl)
        · exact hd' s (Or.inr hs) row hrow
        · exact fun hsr => hn s hs hsr.symm
    · -- A question with two rows is refused, and the list of questions says so as well.
      obtain ⟨row, hrow, hq⟩ : ∃ row ∈ rows, row.questionId = r.questionId := by
        simpa using hne
      have hr : rows.any (·.questionId == r.questionId) = true :=
        List.any_eq_true.2 ⟨row, hrow, by simpa using hq⟩
      simp only [plainRows, hr, if_true, reduceCtorEq, false_iff, not_and]
      intro _ hall
      exact absurd hq (hall r List.mem_cons_self row hrow)

/-- Whether rows are made, and what is said if not, is a matter of the questions. -/
theorem plainRows_error_congr {supply' : Supply} {report' : ReportId} {risks : List ScoredRisk}
    {rows' : List RiskResult} {e : StoreError}
    (questions : rows.map (·.questionId) = rows'.map (·.questionId))
    (h : plainRows supply report rows risks = .error e) :
    plainRows supply' report' rows' risks = .error e := by
  induction risks generalizing rows rows' with
  | nil => cases h
  | cons risk risks ih =>
    have clash : rows.any (·.questionId == risk.questionId) =
        rows'.any (·.questionId == risk.questionId) := by
      have hany := congrArg (List.any · (· == risk.questionId)) questions
      simpa only [List.any_map, Function.comp_def] using hany
    unfold plainRows at h ⊢
    rw [← clash]
    by_cases hclash : rows.any (·.questionId == risk.questionId) = true
    · rw [if_pos hclash] at h ⊢
      exact h
    · rw [if_neg hclash] at h ⊢
      refine ih ?_ h
      rw [List.map_append, List.map_append, questions]
      rfl

end

/-! ## Going through the hedges -/

section

variable {rows : List RiskResult}

/-- Where no question has two rows, a hedge is put into the row of its question. -/
theorem setHedge_eq {question text : String} (distinct : (rows.map (·.questionId)).Nodup) :
    setHedge rows (question, text) = rows.map fun row =>
      if row.questionId = question then { row with aiHedge := some text } else row := by
  induction rows with
  | nil => rfl
  | cons row rows ih =>
    rw [List.map_cons, List.nodup_cons] at distinct
    by_cases hq : row.questionId = question
    · -- The other rows have other questions, so that they stay as they are.
      have others (r : RiskResult) (hr : r ∈ rows) :
          (if r.questionId = question then { r with aiHedge := some text } else r) = r := by
        refine if_neg fun hrq => distinct.1 ?_
        exact List.mem_map.2 ⟨r, hr, hrq.trans hq.symm⟩
      rw [setHedge, if_pos hq, List.map_cons, if_pos hq, List.map_congr_left others, List.map_id']
    · rw [setHedge, if_neg hq, List.map_cons, if_neg hq, ih distinct.2]

/-- Putting a hedge into a row does not change the questions. -/
theorem map_questionId_setHedge (rows : List RiskResult) (hedge : String × String) :
    (setHedge rows hedge).map (·.questionId) = rows.map (·.questionId) := by
  obtain ⟨question, text⟩ := hedge
  induction rows with
  | nil => rfl
  | cons row rows ih =>
    by_cases hq : row.questionId = question
    · rw [setHedge, if_pos hq]
      rfl
    · rw [setHedge, if_neg hq, List.map_cons, ih]
      rfl

variable {p : ScoredReport}

/-- Hedges that are put in one after the other are found in the rows of their questions. -/
theorem foldl_setHedge {hedges : List (String × String)}
    (distinct : (rows.map (·.questionId)).Nodup)
    (written : ∀ hedge ∈ hedges, p.hedge? hedge.1 = some hedge.2) :
    hedges.foldl setHedge rows = rows.map fun row =>
      if row.questionId ∈ hedges.map (·.1) then { row with aiHedge := p.hedge? row.questionId }
      else row := by
  induction hedges generalizing rows with
  | nil => simp
  | cons hedge hedges ih =>
    obtain ⟨question, text⟩ := hedge
    obtain ⟨hfirst, hrest⟩ := List.forall_mem_cons.1 written
    have distinct' : ((setHedge rows (question, text)).map (·.questionId)).Nodup := by
      rwa [map_questionId_setHedge]
    rw [List.foldl_cons, ih distinct' hrest, setHedge_eq distinct, List.map_map]
    refine List.map_congr_left fun row _ => ?_
    by_cases hq : row.questionId = question
    · subst hq
      simp [← hfirst]
    · rw [Function.comp_apply, if_neg hq, List.map_cons]
      simp only [List.mem_cons, hq, false_or]

/-- Where no question has two rows, going through the hedges that apply gives each row what is
written for its question. -/
theorem foldl_applicableHedges (distinct : (rows.map (·.questionId)).Nodup)
    (plain : ∀ row ∈ rows, row.aiHedge = none) :
    (p.applicableHedges fun question => rows.any (·.questionId == question)).foldl setHedge rows =
      rows.map fun row => { row with aiHedge := p.hedge? row.questionId } := by
  rw [foldl_setHedge distinct fun hedge h => (mem_applicableHedges.1 h).1]
  refine List.map_congr_left fun row hrow => ?_
  split_ifs with hmem
  · rfl
  · -- Nothing is written for the question, since it is known.
    have hnone : p.hedge? row.questionId = none := by
      refine Option.eq_none_iff_forall_ne_some.2 fun text htext => hmem ?_
      have known : rows.any (·.questionId == row.questionId) = true :=
        List.any_eq_true.2 ⟨row, hrow, beq_self_eq_true _⟩
      exact List.mem_map.2 ⟨(_, text), mem_applicableHedges.2 ⟨htext, known⟩, rfl⟩
    rw [hnone, ← plain row hrow]

end

/-! ## Both -/

section

variable {supply : Supply} {p : ScoredReport}

/-- Rows are made exactly if no question has two risks, and then each risk has a row, with the hedge
that is written for its question. -/
theorem resultRows_eq_ok (out : List RiskResult) :
    resultRows supply p = .ok out ↔
      (p.risks.map (·.questionId)).Nodup ∧ out = p.rows supply := by
  have hplain := fun rows => @plainRows_eq_ok supply p.report p.risks [] rows
  unfold resultRows
  cases hrows : plainRows supply p.report [] p.risks with
  | error e =>
    refine iff_of_false nofun fun h => ?_
    cases hrows.symm.trans ((hplain _).2 ⟨h.1, by simp, rfl⟩)
  | ok rows =>
    obtain ⟨distinct, -, hmade⟩ := (hplain rows).1 hrows
    rw [List.nil_append, List.length_nil] at hmade
    have questions : rows.map (·.questionId) = p.risks.map (·.questionId) := by
      rw [hmade, List.map_map]
      conv_rhs => rw [← List.zipIdx_map_fst 0 p.risks, List.map_map]
      rfl
    have plain : ∀ row ∈ rows, row.aiHedge = none := by
      rw [hmade, List.forall_mem_map]
      exact fun _ _ => rfl
    have hedged : rows.map (fun row => { row with aiHedge := p.hedge? row.questionId }) =
        p.rows supply := by
      rw [hmade, List.map_map]
      rfl
    change Except.ok (List.foldl _ _ _) = Except.ok out ↔ _
    rw [foldl_applicableHedges (questions ▸ distinct) plain, hedged, Except.ok.injEq, eq_comm,
      and_iff_right distinct]

/-- Whether the results of a report are refused, and what is said of it, is a matter of its
risks. -/
theorem resultRows_error_congr {supply' : Supply} {p' : ScoredReport} {e : StoreError}
    (risks : p.risks = p'.risks) (h : resultRows supply p = .error e) :
    resultRows supply' p' = .error e := by
  unfold resultRows at h ⊢
  cases hrows : plainRows supply p.report [] p.risks with
  | ok rows =>
    rw [hrows] at h
    cases h
  | error e' =>
    rw [hrows] at h
    obtain rfl : e' = e := Except.error.inj h
    rw [← risks, plainRows_error_congr rfl hrows]
    rfl

/-- The hedges may be gone through in any order. -/
theorem resultRows_of_perm {hedges : Table String String} (keys : p.hedges.Distinct)
    (order : hedges.entries.Perm p.hedges.entries) :
    resultRows supply { p with hedges := hedges } = resultRows supply p := by
  have hrows : { p with hedges := hedges : ScoredReport }.rows supply = p.rows supply := by
    simp only [ScoredReport.rows, rowAt, hedge?_of_perm keys order]
  cases h : resultRows supply p with
  | error e => exact resultRows_error_congr (p := p) rfl h
  | ok out =>
    rw [resultRows_eq_ok] at h ⊢
    exact ⟨h.1, h.2.trans hrows.symm⟩

end

end Memory

end RiskReport

import RiskReport.Proofs.Database.Discipline
import RiskReport.Proofs.Store.Atomic

/-!
# Both stores keep the same report

The store in memory makes the rows of a report in one go and looks up the hedge of each. The
database is told row by row, by insertions, and then hedge by hedge, by updates of the rows with
some identifiers. `queries` is what was sent in a transcript, and `resultTable` is what the table of
result rows comes to by it, from the parameters alone.

**Theorem (`stores_agree`).** If every statement succeeds, then the rows that the database is left
with are read as the rows that the store in memory keeps for the same results, up to the identifiers
of rows, whatever the order of the hedges; and the last update carries the totals, the texts and the
snapshot of the report in memory.
-/

namespace RiskReport.Database

open Program

/-! ## What was sent -/

/-- The query that an exchange is about. -/
def query? : Exchange interface → Option Query
  | ⟨.send (.query q), _⟩ => some q
  | _ => none

/-- The queries of a transcript, in order. -/
def queries (xs : Transcript) : List Query :=
  xs.filterMap query?

/-- The identifier that was minted in an exchange. -/
def minted? : Exchange interface → Option Uuid
  | ⟨.mintId, id⟩ => some id
  | _ => none

/-- The identifiers that were minted, in order. -/
def minted (xs : Transcript) : List Uuid :=
  xs.filterMap minted?

/-- Every statement succeeded. -/
def Succeeded (xs : Transcript) : Prop :=
  ∀ s reply, said s reply ∈ xs → ∃ rows, reply = .ok rows

/-! ## The table of result rows -/

/-- The columns into which the parameters of an inserted row go. -/
def resultNames : List String :=
  ["id", "report_id", "question_id", "rank", "risk_name", "risk_desc", "probability", "impact",
    "score", "tier", "hedge", "section"]

/-- Put a value into a column of a row. -/
def Row.set (r : Row) (name : String) (value : SqlValue) : Row :=
  ⟨r.columns.map fun (n, v) => (n, if n = name then value else v)⟩

/-- What a query does to the table of result rows. -/
def execute (rows : List Row) (q : Query) : List Row :=
  match q with
  | .insertResult _ => rows ++ [⟨resultNames.zip q.parameters ++ [("ai_hedge", .null)]⟩]
  | .setHedge .. =>
    rows.map fun row =>
      if row.column? "id" = q.parameters[0]? then row.set "ai_hedge" (q.parameters.getD 1 .null)
      else row
  | _ => rows

/-- The result rows that some queries leave behind. -/
def resultTable (qs : List Query) : List Row :=
  qs.foldl execute []

/-- A result as a row of the table. -/
def rowOf (r : RiskResult) : Row :=
  ⟨resultNames.zip (Query.resultParameters r) ++ [("ai_hedge", .ofText? r.aiHedge)]⟩

/-- A result with a hedge, if it is the one that is meant. -/
def hedged (r : RiskResult) (hedge : RiskResultId × String) : RiskResult :=
  if r.id = hedge.1 then { r with aiHedge := some hedge.2 } else r

theorem resultOfRow_rowOf (r : RiskResult) : resultOfRow (rowOf r) = .ok r := by
  obtain ⟨id, reportId, questionId, rank, riskName, riskDesc, probability, impact, score, tier,
    hedge, aiHedge, sectionTitle⟩ := r
  cases tier <;> cases aiHedge <;> rfl

theorem column?_rowOf (r : RiskResult) : (rowOf r).column? "id" = some (.uuid r.id.uuid) := rfl

theorem set_rowOf (r : RiskResult) (text : String) :
    (rowOf r).set "ai_hedge" (.text text) = rowOf { r with aiHedge := some text } := rfl

theorem execute_insertResult {rows : List Row} {r : RiskResult} (h : r.aiHedge = none) :
    execute rows (.insertResult r) = rows ++ [rowOf r] := by
  rw [rowOf, h]
  rfl

theorem execute_setHedge (rs : List RiskResult) (hedge : RiskResultId × String) :
    execute (rs.map rowOf) (.setHedge hedge.1 hedge.2) = (rs.map (hedged · hedge)).map rowOf := by
  simp only [execute, List.map_map]
  refine List.map_congr_left fun r _ => ?_
  have hid : (rowOf r).column? "id" = (Query.setHedge hedge.1 hedge.2).parameters[0]? ↔
      r.id = hedge.1 := by
    obtain ⟨⟨id⟩, text⟩ := hedge
    obtain ⟨⟨id'⟩, _⟩ := r
    simp [column?_rowOf, Query.parameters]
  simp only [Function.comp_apply, hid, hedged]
  split_ifs
  · exact set_rowOf r hedge.2
  · rfl

/-- The rows that are left after insertions and updates. -/
theorem resultTable_eq {stored : List RiskResult} (hedges : List (RiskResultId × String))
    (h : ∀ r ∈ stored, r.aiHedge = none) :
    resultTable (stored.map .insertResult ++ hedges.map fun x => .setHedge x.1 x.2) =
      (stored.map fun r => hedges.foldl hedged r).map rowOf := by
  have hinsert (rows : List Row) :
      (stored.map Query.insertResult).foldl execute rows = rows ++ stored.map rowOf := by
    induction stored generalizing rows with
    | nil => simp
    | cons r stored ih =>
      rw [List.map_cons, List.foldl_cons, execute_insertResult (h r List.mem_cons_self),
        ih fun r' hr' => h r' (List.mem_cons_of_mem _ hr')]
      simp
  have hupdate (rs : List RiskResult) :
      (hedges.map fun x => Query.setHedge x.1 x.2).foldl execute (rs.map rowOf) =
        (rs.map fun r => hedges.foldl hedged r).map rowOf := by
    induction hedges generalizing rs with
    | nil => simp
    | cons x hedges ih =>
      rw [List.map_cons, List.foldl_cons, execute_setHedge, ih]
      simp only [List.map_map, Function.comp_def, List.foldl_cons]
  rw [resultTable, List.foldl_append, hinsert, List.nil_append, hupdate]

/-- Of several hedges for one result, all the same, one is as good as all. -/
theorem foldl_hedged_of_same {hedges : List (RiskResultId × String)} {r : RiskResult}
    (text : String) (same : ∀ t, (r.id, t) ∈ hedges → t = text) :
    hedges.foldl hedged r =
      if (r.id, text) ∈ hedges then { r with aiHedge := some text } else r := by
  induction hedges generalizing r with
  | nil => simp
  | cons x hedges ih =>
    obtain ⟨id, t⟩ := x
    rw [List.foldl_cons]
    by_cases hid : r.id = id
    · subst hid
      obtain rfl : t = text := same t List.mem_cons_self
      have htail := ih (r := { r with aiHedge := some t })
        fun t' ht' => same t' (List.mem_cons_of_mem _ ht')
      rw [hedged, if_pos rfl, htail, ite_self, if_pos List.mem_cons_self]
    · have hne : (r.id, text) ≠ (id, t) := fun h => hid (Prod.mk.inj h).1
      rw [hedged, if_neg hid, ih fun t' ht' => same t' (List.mem_cons_of_mem _ ht')]
      simp only [List.mem_cons, hne, false_or]

/-- A result ends up with the hedge that is meant for it, if there is one. -/
theorem foldl_hedged {hedges : List (RiskResultId × String)} {hedge : Option String}
    {r : RiskResult} (bare : r.aiHedge = none)
    (meant : ∀ text, (r.id, text) ∈ hedges ↔ hedge = some text) :
    hedges.foldl hedged r = { r with aiHedge := hedge } := by
  cases hedge with
  | none =>
    have hnone (text : String) : (r.id, text) ∉ hedges := by simp [meant]
    rw [foldl_hedged_of_same "" fun t ht => absurd ht (hnone t), if_neg (hnone ""), ← bare]
  | some text =>
    have hsame (t : String) (ht : (r.id, t) ∈ hedges) : t = text :=
      (Option.some.inj ((meant t).1 ht)).symm
    rw [foldl_hedged_of_same text hsame, if_pos ((meant text).2 rfl)]

/-! ## What the work of keeping results sends -/

variable {xs ys : Transcript} {r : Except StoreError Report}

@[simp] theorem queries_append : queries (xs ++ ys) = queries xs ++ queries ys :=
  List.filterMap_append

@[simp] theorem minted_append : minted (xs ++ ys) = minted xs ++ minted ys :=
  List.filterMap_append

@[simp] theorem queries_said {q : Query} {reply : Except Failure Reply} :
    queries (said (.query q) reply :: xs) = q :: queries xs := rfl

@[simp] theorem minted_said {s : Statement} {reply : Except Failure Reply} :
    minted (said s reply :: xs) = minted xs := rfl

theorem Succeeded.mono (h : Succeeded xs) (hs : ys ⊆ xs) : Succeeded ys :=
  fun s reply hmem => h s reply (hs hmem)

theorem Succeeded.of_append {zs : Transcript} (h : Succeeded (ys ++ zs)) :
    Succeeded ys ∧ Succeeded zs :=
  ⟨h.mono (List.subset_append_left _ _), h.mono (List.subset_append_right _ _)⟩

/-- The dialogue has a value if every statement succeeds. -/
def Sure {α : Type} (d : Dialogue α) : Prop :=
  ∀ xs r, Succeeded xs → d.run.Ran xs r → ∃ a, r = .ok a

theorem Sure.ran_bind {α β : Type} {d : Dialogue α} {f : α → Dialogue β} {r : Except StoreError β}
    (hd : Sure d) (ok : Succeeded xs) (h : (d >>= f).run.Ran xs r) :
    ∃ a ys zs, xs = ys ++ zs ∧ Succeeded zs ∧ d.run.Ran ys (.ok a) ∧ (f a).run.Ran zs r := by
  rcases ran_dialogue_bind.1 h with ⟨e, he, rfl⟩ | ⟨a, ys, zs, rfl, ha, hr⟩
  · obtain ⟨a, ha⟩ := hd _ _ ok he
    cases ha
  · exact ⟨a, ys, zs, rfl, ok.of_append.2, ha, hr⟩

theorem sure_bind {α β : Type} {d : Dialogue α} {f : α → Dialogue β} (hd : Sure d)
    (hf : ∀ a, Sure (f a)) : Sure (d >>= f) := by
  intro xs r ok h
  obtain ⟨a, ys, zs, -, hzs, -, hr⟩ := hd.ran_bind ok h
  exact hf a zs r hzs hr

theorem sure_pure {α : Type} (a : α) : Sure (pure a) :=
  fun _ _ _ h => ⟨a, (ran_pure.1 h).2⟩

theorem sure_mintId : Sure mintId := by
  intro xs r _ h
  obtain ⟨id, -, rfl⟩ := ran_mintId.1 h
  exact ⟨id, rfl⟩

theorem sure_askOr {q : Query} {refusal : Failure → StoreError} : Sure (askOr refusal q) := by
  intro xs r ok h
  obtain ⟨reply, rfl, rfl⟩ := ran_askOr.1 h
  obtain ⟨rows, rfl⟩ := ok _ _ (List.mem_singleton_self _)
  exact ⟨rows, rfl⟩

theorem sure_insertResults (report : ReportId) (rows : Table String RiskResultId)
    (risks : List ScoredRisk) : Sure (insertResults report rows risks) := by
  induction risks generalizing rows with
  | nil => exact sure_pure rows
  | cons risk risks ih => exact sure_bind sure_mintId fun _ => sure_bind sure_askOr fun _ => ih _

theorem sure_setHedges (hedges : List (RiskResultId × String)) : Sure (setHedges hedges) := by
  induction hedges with
  | nil => exact sure_pure ()
  | cons hedge hedges ih => exact sure_bind sure_askOr fun _ => ih

theorem ran_askOr_ok {q : Query} {refusal : Failure → StoreError} {reply : Reply}
    (h : (askOr refusal q).run.Ran xs (.ok reply)) : queries xs = [q] ∧ minted xs = [] := by
  obtain ⟨reply', rfl, -⟩ := ran_askOr.1 h
  exact ⟨rfl, rfl⟩

theorem ran_mintId_ok {id : Uuid} (h : mintId.run.Ran xs (.ok id)) :
    queries xs = [] ∧ minted xs = [id] := by
  obtain ⟨id', rfl, ⟨⟩⟩ := ran_mintId.1 h
  exact ⟨rfl, rfl⟩

/-- The row was made of a risk, under some identifier. -/
def MadeOf (report : ReportId) (row : RiskResult) (risk : ScoredRisk) : Prop :=
  ∃ id, row = risk.row id report

/-- One row is inserted for each risk, under an identifier of its own. -/
theorem ran_insertResults_ok {report : ReportId} {risks : List ScoredRisk}
    {rows rows' : Table String RiskResultId}
    (h : (insertResults report rows risks).run.Ran xs (.ok rows')) :
    ∃ stored : List RiskResult,
      List.Forall₂ (MadeOf report) stored risks ∧
        queries xs = stored.map .insertResult ∧ minted xs = stored.map (·.id.uuid) ∧
        rows' = stored.foldl (fun t row => t.insert row.questionId row.id) rows := by
  induction risks generalizing rows xs with
  | nil =>
    obtain ⟨rfl, ⟨⟩⟩ := ran_pure.1 h
    exact ⟨[], .nil, rfl, rfl, rfl⟩
  | cons risk risks ih =>
    obtain ⟨id, us, zs, rfl, hid, hrest⟩ := ran_dialogue_bind_ok.1 h
    obtain ⟨reply, vs, ws, rfl, hreply, hrest⟩ := ran_dialogue_bind_ok.1 hrest
    obtain ⟨stored, hstored, hqueries, hminted, hrows⟩ := ih hrest
    obtain ⟨hq₁, hm₁⟩ := ran_mintId_ok hid
    obtain ⟨hq₂, hm₂⟩ := ran_askOr_ok hreply
    refine ⟨risk.row ⟨id⟩ report :: stored, .cons ⟨_, rfl⟩ hstored, ?_, ?_, hrows⟩
    · rw [queries_append, queries_append, hq₁, hq₂, hqueries]
      rfl
    · rw [minted_append, minted_append, hm₁, hm₂, hminted]
      rfl

theorem ran_setHedges_ok {hedges : List (RiskResultId × String)} {u : Unit}
    (h : (setHedges hedges).run.Ran xs (.ok u)) :
    queries xs = hedges.map (fun x => .setHedge x.1 x.2) ∧ minted xs = [] := by
  induction hedges generalizing xs with
  | nil =>
    obtain ⟨rfl, -⟩ := ran_pure.1 h
    exact ⟨rfl, rfl⟩
  | cons hedge hedges ih =>
    obtain ⟨reply, ys, zs, rfl, hreply, hrest⟩ := ran_dialogue_bind_ok.1 h
    obtain ⟨hq, hm⟩ := ran_askOr_ok hreply
    obtain ⟨hqueries, hminted⟩ := ih hrest
    rw [queries_append, minted_append, hq, hm, hqueries, hminted]
    exact ⟨rfl, rfl⟩

/-- The query that makes a report ready with its results. -/
def finishing (p : ScoredReport) : Query :=
  .finishReport p.report p.overall p.critical p.executiveSummary p.topPriorityHtml p.snapshot

/-- What is sent to keep the results of an unfinished report. -/
theorem ran_persistWork {p : ScoredReport} {r : Except StoreError (Ending Report)}
    (ok : Succeeded xs) (h : (persistWork p).run.Ran xs r)
    (unfinished : ∀ reply, said (.query (.selectReport p.report)) (.ok reply) ∈ xs →
      ∃ current, reply.first? reportOfRow = .ok (some current) ∧
        current.status.isTerminal = false) :
    ∃ stored : List RiskResult,
      List.Forall₂ (MadeOf p.report) stored p.risks ∧
        minted xs = stored.map (·.id.uuid) ∧
        queries xs = [.selectReport p.report, .startProcessing p.report] ++
          (stored.map .insertResult ++
            (hedgesToSet (stored.foldl (fun t row => t.insert row.questionId row.id) .empty) p).map
              fun x => .setHedge x.1 x.2) ++
          [finishing p] := by
  unfold persistWork at h
  obtain ⟨reply, zs, rfl, hrest⟩ := ran_find_bind h
  obtain ⟨rows, rfl⟩ := ok _ reply List.mem_cons_self
  obtain ⟨current, hfirst, hstatus⟩ := unfinished rows List.mem_cons_self
  have hselected : ((Except.ok rows).mapError (Failure.storeError "select_report")).bind
      (fun reply => reply.first? reportOfRow) = .ok (some current) := hfirst
  rw [hselected] at hrest
  dsimp only at hrest
  rw [if_neg (by simp [hstatus])] at hrest
  have ok₀ : Succeeded zs := ok.mono (List.subset_cons_self _ _)
  obtain ⟨_, starts, zs, rfl, ok₁, hstart, h₁⟩ := sure_askOr.ran_bind ok₀ hrest
  obtain ⟨rows', inserts, zs, rfl, ok₂, hinserts, h₂⟩ :=
    (sure_insertResults _ _ _).ran_bind ok₁ h₁
  obtain ⟨_, updates, zs, rfl, -, hupdates, h₃⟩ := (sure_setHedges _).ran_bind ok₂ h₂
  obtain ⟨stored, hstored, hq₂, hm₂, rfl⟩ := ran_insertResults_ok hinserts
  obtain ⟨hq₁, hm₁⟩ := ran_askOr_ok hstart
  obtain ⟨hq₃, hm₃⟩ := ran_setHedges_ok hupdates
  obtain ⟨hq₄, hm₄⟩ : queries zs = [finishing p] ∧ minted zs = [] := by
    rcases ran_dialogue_bind.1 h₃ with ⟨e, he, -⟩ | ⟨report, vs, ws, rfl, hreport, hdone⟩
    · obtain ⟨reply, rfl, -⟩ := ran_findOneOr.1 he
      exact ⟨rfl, rfl⟩
    · obtain ⟨reply, rfl, -⟩ := ran_findOneOr.1 hreport
      obtain ⟨rfl, -⟩ := ran_pure.1 hdone
      exact ⟨rfl, rfl⟩
  refine ⟨stored, hstored, ?_, ?_⟩
  · simp only [minted_said, minted_append, hm₁, hm₂, hm₃, hm₄, List.append_nil, List.nil_append]
  · simp only [queries_said, queries_append, hq₁, hq₂, hq₃, hq₄, List.append_assoc]
    rfl

section

variable {α : Type} {operation : String} {work : Dialogue (Ending α)}

/-- The ends of a transaction add nothing to what its work sends. -/
theorem worked_of_opening {opened isolated : Reply} {ws : Transcript}
    {r' : Except StoreError (Ending α)} {s : Statement} {reply : Except Failure Reply}
    (worked : work.run.Ran ws r') (ending : ∀ q, s ≠ .query q)
    (hxs : xs = opening opened isolated ws ++ [said s reply]) :
    ∃ ws r', ws ⊆ xs ∧ queries xs = queries ws ∧ minted xs = minted ws ∧ work.run.Ran ws r' := by
  have hended : queries [said s reply] = [] := by
    cases s with
    | query q => exact absurd rfl (ending q)
    | begin | isolate | commit | rollback => rfl
  subst hxs
  refine ⟨ws, r', subset_opening _, ?_, ?_, worked⟩
  · rw [queries_append, hended]
    exact List.append_nil _
  · rw [minted_append]
    exact List.append_nil _

/-- A transaction in which every statement succeeds sends what its work sends. -/
theorem Way.worked {r : Except StoreError α} (h : Way operation work xs r) (ok : Succeeded xs) :
    ∃ ws r', ws ⊆ xs ∧ queries xs = queries ws ∧ minted xs = minted ws ∧ work.run.Ran ws r' := by
  cases h with
  | refused opened isolated worked => exact worked_of_opening worked (by simp) rfl
  | kept opened isolated worked => exact worked_of_opening worked (by simp) rfl
  | discarded opened isolated worked => exact worked_of_opening worked (by simp) rfl
  | unopened f => obtain ⟨rows, ⟨⟩⟩ := ok .begin (.error f) (by simp)
  | unisolated opened f => obtain ⟨rows, ⟨⟩⟩ := ok .isolate (.error f) (by simp)
  | unkept opened isolated worked f => obtain ⟨rows, ⟨⟩⟩ := ok .commit (.error f) (by simp)
  | undiscarded opened isolated worked f => obtain ⟨rows, ⟨⟩⟩ := ok .rollback (.error f) (by simp)

end

/-- If every statement succeeds, one attempt is all there is. -/
theorem ran_persist_of_succeeded {p : ScoredReport} {r : Except StoreError Report}
    (ok : Succeeded xs) (h : (serve (.persistReport p)).Ran xs r) :
    ∃ ws r', ws ⊆ xs ∧ queries xs = queries ws ∧ minted xs = minted ws ∧
      (persistWork p).run.Ran ws r' := by
  have hrun : (retrying "persist_scored_report" (persistWork p)).Ran xs r := ran_traced.1 h
  obtain ⟨earlier, last, rfl, -, -, hearlier, -, hran⟩ := ran_replay hrun
  have hway (a : Attempt Report) (ha : a ∈ earlier ++ [last]) := ran_transaction (hran a ha)
  cases earlier with
  | nil =>
    have hxs : ([] ++ [last]).flatMap Attempt.transcript = last.transcript := by simp
    rw [hxs] at ok ⊢
    exact (hway last (by simp)).worked ok
  | cons a earlier =>
    -- A first attempt would have been repeated because a statement failed.
    have hdisciplined : Disciplined "persist_scored_report" (.persistReport p) a :=
      (hway a (by simp)).disciplined (careful_persistWork p) fun _ _ => persistWork_concludes
    obtain ⟨ys, s, f, zs, hclash, -, -⟩ :=
      hdisciplined.collided_iff.1 (hearlier a List.mem_cons_self)
    obtain ⟨rows, ⟨⟩⟩ := ok s (.error f) (by simp [hclash])

/-! ## The hedges that are set -/

theorem mem_hedgesToSet {rows : Table String RiskResultId} {p : ScoredReport}
    {row : RiskResultId} {text : String} :
    (row, text) ∈ hedgesToSet rows p ↔
      ∃ question, p.hedge? question = some text ∧ rows.get? question = some row := by
  unfold hedgesToSet
  simp only [List.mem_filterMap, Prod.exists, ScoredReport.mem_applicableHedges,
    Option.map_eq_some_iff, Prod.mk.injEq]
  constructor
  · rintro ⟨question, text, ⟨htext, -⟩, row, hrow, rfl, rfl⟩
    exact ⟨question, htext, hrow⟩
  · rintro ⟨question, htext, hrow⟩
    exact ⟨question, text, ⟨htext, Table.contains_iff.2 ⟨row, hrow⟩⟩, row, hrow, rfl, rfl⟩

/-- The row of each question, if no question has two. -/
theorem get?_foldl_insert {stored : List RiskResult} {rows : Table String RiskResultId}
    (single : (stored.map (·.questionId)).Nodup) {question : String} {id : RiskResultId} :
    (stored.foldl (fun t row => t.insert row.questionId row.id) rows).get? question = some id ↔
      (∃ row ∈ stored, row.questionId = question ∧ row.id = id) ∨
        (∀ row ∈ stored, row.questionId ≠ question) ∧ rows.get? question = some id := by
  induction stored generalizing rows with
  | nil => simp
  | cons row stored ih =>
    rw [List.map_cons, List.nodup_cons] at single
    rw [List.foldl_cons, ih single.2, Table.get?_insert]
    by_cases hq : row.questionId = question
    · subst hq
      have hnone : ∀ r ∈ stored, r.questionId ≠ row.questionId := by
        intro r hr h
        exact single.1 (h ▸ List.mem_map_of_mem hr)
      rw [if_pos rfl]
      constructor
      · rintro (⟨r, hr, h, -⟩ | ⟨-, h⟩)
        · exact absurd h (hnone r hr)
        · exact .inl ⟨row, List.mem_cons_self, rfl, Option.some.inj h⟩
      · rintro (⟨r, hr, h, rfl⟩ | ⟨h, -⟩)
        · rcases List.mem_cons.1 hr with rfl | hr
          · exact .inr ⟨hnone, rfl⟩
          · exact absurd h (hnone r hr)
        · exact absurd rfl (h row List.mem_cons_self)
    · rw [if_neg (Ne.symm hq)]
      simp [hq]

/-- The rows have the hedges of their questions set. -/
theorem mem_hedgesToSet_stored {stored : List RiskResult} {p : ScoredReport}
    (single : (stored.map (·.questionId)).Nodup) (fresh : (stored.map (·.id.uuid)).Nodup)
    {row : RiskResult} (hrow : row ∈ stored) (text : String) :
    (row.id, text) ∈
        hedgesToSet (stored.foldl (fun t row => t.insert row.questionId row.id) .empty) p ↔
      p.hedge? row.questionId = some text := by
  simp only [mem_hedgesToSet, get?_foldl_insert single, Table.get?_empty, reduceCtorEq, and_false,
    or_false]
  constructor
  · rintro ⟨question, htext, row', hrow', rfl, hid⟩
    obtain rfl : row' = row := List.inj_on_of_nodup_map fresh hrow' hrow (congrArg _ hid)
    exact htext
  · intro htext
    exact ⟨row.questionId, htext, row, hrow, rfl, rfl⟩

/-! ## Agreement -/

theorem map_questionId_of_madeOf {report : ReportId} {stored : List RiskResult}
    {risks : List ScoredRisk} (h : List.Forall₂ (MadeOf report) stored risks) :
    stored.map (·.questionId) = risks.map (·.questionId) := by
  induction h with
  | nil => rfl
  | cons hrow _ ih =>
    obtain ⟨id, rfl⟩ := hrow
    rw [List.map_cons, List.map_cons, ih]
    rfl

theorem aiHedge_of_madeOf {report : ReportId} {stored : List RiskResult}
    {risks : List ScoredRisk} (h : List.Forall₂ (MadeOf report) stored risks) :
    ∀ row ∈ stored, row.aiHedge = none := by
  induction h with
  | nil => simp
  | cons hrow _ ih =>
    obtain ⟨id, rfl⟩ := hrow
    exact List.forall_mem_cons.2 ⟨rfl, ih⟩

/-- A row of the table is read as a result, up to its identifier. -/
def ReadAs (row : Row) (result : RiskResult) : Prop :=
  ∃ id, resultOfRow row = .ok { result with id := id }

theorem readAs_of_madeOf {p : ScoredReport} {supply : Supply} {stored : List RiskResult}
    {risks : List ScoredRisk} (h : List.Forall₂ (MadeOf p.report) stored risks) (n : Nat) :
    List.Forall₂ ReadAs
      (stored.map fun row => rowOf { row with aiHedge := p.hedge? row.questionId })
      ((risks.zipIdx n).map fun (risk, i) => p.rowAt supply i risk) := by
  induction h generalizing n with
  | nil => exact .nil
  | @cons row risk _ _ hrow _ ih =>
    obtain ⟨id, rfl⟩ := hrow
    refine .cons ⟨id, ?_⟩ (ih (n + 1))
    rw [resultOfRow_rowOf]
    simp only [ScoredReport.rowAt, ScoredRisk.row]

/-- What the database is left with if every statement succeeds. -/
theorem ran_persist_table {p : ScoredReport} {r : Except StoreError Report}
    (distinct : (p.risks.map (·.questionId)).Nodup) (ok : Succeeded xs)
    (h : (serve (.persistReport p)).Ran xs r)
    (unfinished : ∀ reply, said (.query (.selectReport p.report)) (.ok reply) ∈ xs →
      ∃ current, reply.first? reportOfRow = .ok (some current) ∧
        current.status.isTerminal = false)
    (fresh : (minted xs).Nodup) :
    (∃ stored, List.Forall₂ (MadeOf p.report) stored p.risks ∧
      resultTable (queries xs) =
        stored.map fun row => rowOf { row with aiHedge := p.hedge? row.questionId }) ∧
      (queries xs).getLast? = some (finishing p) := by
  obtain ⟨ws, r', hsub, hqueries, hminted, hran⟩ := ran_persist_of_succeeded ok h
  obtain ⟨stored, hstored, hids, hsent⟩ :=
    ran_persistWork (ok.mono hsub) hran fun reply hmem => unfinished reply (hsub hmem)
  rw [hminted, hids] at fresh
  have single : (stored.map (·.questionId)).Nodup := by
    rw [map_questionId_of_madeOf hstored]
    exact distinct
  rw [hqueries, hsent]
  refine ⟨⟨stored, hstored, ?_⟩, List.getLast?_concat⟩
  have hends (qs : List Query) :
      resultTable ([.selectReport p.report, .startProcessing p.report] ++ qs ++ [finishing p]) =
        resultTable qs := by
    rw [resultTable, List.foldl_append, List.foldl_append]
    rfl
  rw [hends, resultTable_eq _ (aiHedge_of_madeOf hstored), List.map_map]
  refine List.map_congr_left fun row hrow => ?_
  exact congrArg rowOf (foldl_hedged (aiHedge_of_madeOf hstored row hrow)
    (mem_hedgesToSet_stored single fresh hrow))

/-- What the store in memory answers and keeps. -/
theorem answer_persistReport_of_unfinished {m : Memory} {p : ScoredReport} {r : Report}
    (supply : Supply) (filed : m.reports.Keyed (·.id)) (found : m.reports.get? p.report = some r)
    (unfinished : r.status.isTerminal = false) (distinct : (p.risks.map (·.questionId)).Nodup) :
    let ready := Memory.finished r p supply.now
    (m.answer supply (.persistReport p)).1 = .ok ready ∧
      (m.answer supply (.persistReport p)).2.reports.get? p.report = some ready ∧
      (m.answer supply (.persistReport p)).2.results.get? p.report = some (p.rows supply) := by
  intro ready
  have hid : r.id = p.report := filed.key _ _ found
  have hrows : Memory.resultRows supply p = .ok (p.rows supply) :=
    (Memory.resultRows_eq_ok _).2 ⟨distinct, rfl⟩
  have hpersist : m.persistReport supply p = .ok (ready,
      { m.insertReport ready with results := m.results.insert r.id (p.rows supply) }) := by
    rw [Memory.persistReport_of_unfinished found unfinished, hrows]
    rfl
  have hanswer : m.answer supply (.persistReport p) = (.ok ready,
      { m.insertReport ready with results := m.results.insert r.id (p.rows supply) }) :=
    Memory.answer_of_ok hpersist
  rw [hanswer, ← hid]
  exact ⟨rfl, Table.get?_insert_self, Table.get?_insert_self⟩

/-- **Agreement of the stores.** The results of a report are kept, no question twice, while the
report is unfinished; the database is given the same hedges in any order, every statement succeeds,
and all identifiers that are minted are different. Then the rows that the database is left with by
the parameters of the insertions and of the later updates are read, in order, as the rows that the
store in memory keeps, up to their identifiers; and the parameters of the last update are the
totals, the texts and the snapshot of the report in memory, where a text that is empty stands for
none. -/
theorem stores_agree {m : Memory} (supply : Supply) {p : ScoredReport} {r : Report}
    (distinct : (p.risks.map (·.questionId)).Nodup)
    (filed : m.reports.Keyed (·.id)) (found : m.reports.get? p.report = some r)
    (unfinished : r.status.isTerminal = false)
    {hedges : Table String String} (keys : p.hedges.Distinct)
    (order : hedges.entries.Perm p.hedges.entries)
    {xs : Transcript} {result : Except StoreError Report}
    (h : (serve (.persistReport { p with hedges := hedges })).Ran xs result)
    (succeeded : Succeeded xs) (fresh : (minted xs).Nodup)
    (selected : ∀ reply, said (.query (.selectReport p.report)) (.ok reply) ∈ xs →
      ∃ current, reply.first? reportOfRow = .ok (some current) ∧
        current.status.isTerminal = false) :
    ∃ ready rows,
      (m.answer supply (.persistReport p)).1 = .ok ready ∧
      (m.answer supply (.persistReport p)).2.reports.get? p.report = some ready ∧
      (m.answer supply (.persistReport p)).2.results.get? p.report = some rows ∧
      List.Forall₂ ReadAs (resultTable (queries xs)) rows ∧
      ∃ finish summary topPriority snapshot,
        (queries xs).getLast? = some finish ∧
        finish.parameters = [.uuid p.report.uuid, .ofInt? ready.overallScore,
          .ofInt? ready.criticalCount, .text summary, .text topPriority, .json snapshot] ∧
        ready.executiveSummary = Text.nonEmpty? summary ∧
        ready.topPriorityHtml = Text.nonEmpty? topPriority ∧
        ready.risksSnapshot = some snapshot := by
  obtain ⟨hanswer, hready, hrows⟩ :=
    answer_persistReport_of_unfinished supply filed found unfinished distinct
  obtain ⟨⟨stored, hstored, htable⟩, hlast⟩ :=
    ran_persist_table (p := { p with hedges := hedges }) distinct succeeded h selected fresh
  refine ⟨_, _, hanswer, hready, hrows, ?_, _, _, _, _, hlast, rfl, rfl, rfl, rfl⟩
  simp only [ScoredReport.hedge?_of_perm keys order] at htable
  have hmade : List.Forall₂ (MadeOf p.report) stored p.risks := hstored
  rw [htable]
  exact readAs_of_madeOf hmade 0

namespace Sample

/-- The row of the report to be made. -/
def reportRow : Row where
  columns := [("id", .uuid ⟨4⟩), ("session_id", .uuid ⟨1⟩), ("status", .text "draft"),
    ("overall_score", .null), ("critical_count", .null), ("executive_summary", .null),
    ("top_priority_html", .null), ("risks_snapshot", .null), ("access_token", .text "token"),
    ("generated_at", .null), ("error_message", .null), ("created_at", .time ⟨4, 0⟩),
    ("updated_at", .time ⟨4, 0⟩)]

/-- The report in the row. -/
def report : Report :=
  Report.draft ⟨⟨4⟩⟩ ⟨"token"⟩ ⟨⟨1⟩⟩ ⟨4, 0⟩

/-- A risk to be kept. -/
def risk (question : String) (rank probability impact : Nat) (tier : RiskTier) : ScoredRisk :=
  ⟨question, rank, "Loss", "Something is lost.", "As advised.", "Continuity", probability, impact,
    probability * impact, tier⟩

/-- Three risks. Of the texts for them one is blank, and one is for a question that is not among
them. -/
def threefold : ScoredReport where
  report := ⟨⟨4⟩⟩
  risks := [risk "backups" 1 9 8 .watch, risk "access" 2 3 9 .red, risk "devices" 3 7 2 .manage]
  hedges := ⟨[("devices", "Lock them up."), ("access", "  "), ("unknown", "Ask."),
    ("backups", "Copy it tonight.")]⟩
  executiveSummary := "Three risks."
  topPriorityHtml := ""

/-- The order in which the database is given the texts. -/
def turned : Table String String :=
  ⟨threefold.hedges.entries.reverse⟩

/-- A row is inserted. -/
def inserted (n : Nat) (r : ScoredRisk) : Transcript :=
  [⟨.mintId, (⟨n⟩ : Uuid)⟩, said (.query (.insertResult (r.row ⟨⟨n⟩⟩ ⟨⟨4⟩⟩))) (.ok ⟨[], 1⟩)]

/-- The results are kept without any trouble. -/
def kept : Transcript :=
  [said .begin (.ok {}), said .isolate (.ok {}),
    said (.query (.selectReport ⟨⟨4⟩⟩)) (.ok ⟨[reportRow], 1⟩),
    said (.query (.startProcessing ⟨⟨4⟩⟩)) (.ok ⟨[], 1⟩)] ++
  inserted 9 (risk "backups" 1 9 8 .watch) ++ inserted 10 (risk "access" 2 3 9 .red) ++
    inserted 11 (risk "devices" 3 7 2 .manage) ++
  [said (.query (.setHedge ⟨⟨9⟩⟩ "Copy it tonight.")) (.ok ⟨[], 1⟩),
    said (.query (.setHedge ⟨⟨11⟩⟩ "Lock them up.")) (.ok ⟨[], 1⟩),
    said (.query (finishing threefold)) (.ok ⟨[reportRow], 1⟩), said .commit (.ok {})]

theorem ran_kept :
    (serve (.persistReport { threefold with hedges := turned })).Ran kept (.ok report) := by
  refine ran_traced.2 ?_
  refine .asked (.asked (.asked (.asked ?_)))
  refine .asked (.asked (.asked (.asked (.asked (.asked ?_)))))
  refine .asked (.asked (.asked (.asked ?_)))
  exact .done _

theorem succeeded_kept : Succeeded kept := by
  intro s reply h
  simp only [kept, inserted, List.cons_append, List.nil_append, List.mem_cons, List.not_mem_nil,
    or_false] at h
  rcases h with h | h | h | h | h | h | h | h | h | h | h | h | h | h <;> cases h <;>
    exact ⟨_, rfl⟩

/-- The report that the database finds is unfinished. -/
theorem selected_kept {reply : Reply}
    (h : said (.query (.selectReport ⟨⟨4⟩⟩)) (.ok reply) ∈ kept) :
    ∃ current, reply.first? reportOfRow = .ok (some current) ∧
      current.status.isTerminal = false := by
  simp only [kept, inserted, List.cons_append, List.nil_append, List.mem_cons, List.not_mem_nil,
    or_false] at h
  rcases h with h | h | h | h | h | h | h | h | h | h | h | h | h | h <;> cases h
  exact ⟨report, rfl, rfl⟩

end Sample

/-- The results of the sample make the same rows in memory and in the database, though the texts
come in different orders: two of the rows have the text that was written for them, and the blank one
is left out. -/
theorem stores_agree_sample :
    let m := (RiskReport.Sample.paid.answer (RiskReport.Sample.supply 5)
      (.persistReport Sample.threefold)).2
    ∃ rows, m.results.get? ⟨⟨4⟩⟩ = some rows ∧
      List.Forall₂ ReadAs (resultTable (queries Sample.kept)) rows ∧
      rows.map (fun row => (row.questionId, row.aiHedge)) =
        [("backups", some "Copy it tonight."), ("access", none),
          ("devices", some "Lock them up.")] := by
  have hdistinct : (Sample.threefold.risks.map (·.questionId)).Nodup := by
    show ["backups", "access", "devices"].Nodup
    decide
  have hkeys : Sample.threefold.hedges.Distinct := by
    show ["devices", "access", "unknown", "backups"].Nodup
    decide
  obtain ⟨r, hfound, hdraft⟩ : ∃ r, RiskReport.Sample.paid.reports.get?
      Sample.threefold.report = some r ∧ r.status.isTerminal = false := ⟨_, rfl, rfl⟩
  have hminted : minted Sample.kept = [⟨9⟩, ⟨10⟩, ⟨11⟩] := rfl
  obtain ⟨ready, rows, -, -, hrows, hread, -⟩ :=
    stores_agree (RiskReport.Sample.supply 5) hdistinct
      RiskReport.Sample.reachable_paid.filed.reports hfound hdraft hkeys (List.reverse_perm _)
      Sample.ran_kept Sample.succeeded_kept (by simp [hminted]) fun _ h => Sample.selected_kept h
  refine ⟨rows, hrows, hread, ?_⟩
  obtain rfl := Option.some.inj (hrows.symm.trans rfl)
  rfl

end RiskReport.Database

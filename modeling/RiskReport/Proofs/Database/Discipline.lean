import Mathlib.Tactic.SplitIfs
import RiskReport.Proofs.Database.Transaction

/-!
# The discipline of transactions

Three requests of a store are transactions in the database: to attach a payment intent, to begin a
report and to keep its results. Each says dozens of things to the database in the worst case, and
the database may fail at any of them, with any code, or reply with rows that cannot be read.

`Disciplined` says what holds of every attempt at such a request: a commit is sent once at most, and
only if everything before it went well; what was written is told only if the commit was
acknowledged, and what was found to be done before is told only if the attempt was rolled back;
otherwise the request is refused with the first trouble that there was. An attempt has `Clashed` if
that first trouble is the failure of a statement, with a code by which the database says that
transactions got into each other's way, or with the code of a duplicate if a report was inserted.

**Theorem (`transactions_disciplined`).** Whatever the database replies, there are three attempts at
most, each but the last has clashed, the last one has clashed only if it is the third, its result is
the result of the request, and every attempt is disciplined.
-/

namespace RiskReport.Database

open Program

variable {α : Type} {xs ys : Transcript} {operation : String} {q : Query}
  {read : Row → Except StoreError α} {refusal : Failure → StoreError}

/-! ## The work of the transactions is careful -/

theorem careful_attachWork (p : NewIntent) : Careful operation (attachWork p) := by
  unfold attachWork
  refine careful_expect (fun _ => rfl) (fun _ => rfl) rfl fun session => ?_
  dsimp only
  split_ifs
  · exact careful_pure _
  · exact careful_bind (careful_findOneOr (fun _ => rfl) fun _ => rfl) fun _ => careful_pure _

theorem careful_initialiseWork (intent : String) : Careful operation (initialiseWork intent) := by
  unfold initialiseWork
  refine careful_expect (fun _ => rfl) (fun _ => rfl) rfl fun session => ?_
  refine careful_bind (careful_find (fun _ => rfl) fun _ => rfl) fun found => ?_
  cases found with
  | some report => exact careful_pure _
  | none =>
    refine careful_bind careful_mintId fun id => careful_bind careful_mintToken fun token => ?_
    exact careful_bind (careful_findOneOr (fun _ => rfl) fun _ => rfl) fun _ => careful_pure _

theorem careful_insertResults (report : ReportId) (risks : List ScoredRisk)
    (rows : Table String RiskResultId) : Careful operation (insertResults report rows risks) := by
  induction risks generalizing rows with
  | nil => exact careful_pure _
  | cons risk risks ih =>
    refine careful_bind careful_mintId fun id => ?_
    exact careful_bind (careful_askOr (fun _ => rfl) fun _ => rfl) fun _ => ih _

theorem careful_setHedges (hedges : List (RiskResultId × String)) :
    Careful operation (setHedges hedges) := by
  induction hedges with
  | nil => exact careful_pure _
  | cons hedge hedges ih =>
    exact careful_bind (careful_askOr (fun _ => rfl) fun _ => rfl) fun _ => ih

theorem careful_persistWork (p : ScoredReport) : Careful operation (persistWork p) := by
  unfold persistWork
  refine careful_expect (fun _ => rfl) (fun _ => rfl) rfl fun current => ?_
  dsimp only
  split_ifs
  · exact careful_pure _
  · refine careful_bind (careful_askOr (fun _ => rfl) fun _ => rfl) fun _ => ?_
    refine careful_bind (careful_insertResults _ _ _) fun rows => ?_
    refine careful_bind (careful_setHedges _) fun _ => ?_
    exact careful_bind (careful_findOneOr (fun _ => rfl) fun _ => rfl) fun _ => careful_pure _

/-! ## What is written and what is found -/

/-- A query was answered with a first row that was read as a value. -/
def Returned (read : Row → Except StoreError α) (q : Query) (a : α) (xs : Transcript) : Prop :=
  ∃ reply, said (.query q) (.ok reply) ∈ xs ∧ reply.first? read = .ok (some a)

/-- The refusal of results for a report that was given up. -/
def givenUp (id : ReportId) : StoreError :=
  .conflict ("report " ++ id.write ++ " is already in error status")

/-- The value tells of something that was written, as the database returned it. -/
inductive Wrote (xs : Transcript) : (call : StoreCall) → call.Value → Prop
  | attached {p : NewIntent} {s : Session} (h : Returned sessionOfRow (.attachIntent p) s xs) :
      Wrote xs (.attachIntent p) (Attachment.attached s)
  | created {intent : String} {id : ReportId} {session : SessionId} {token : AccessToken}
      {r : Report} (h : Returned reportOfRow (.insertReport id session token) r xs) :
      Wrote xs (.initialiseReport intent) (ReportInit.created r)
  | finished {p : ScoredReport} {r : Report}
      (h : Returned reportOfRow
        (.finishReport p.report p.overall p.critical p.executiveSummary p.topPriorityHtml
          p.snapshot) r xs) :
      Wrote xs (.persistReport p) r

/-- The result tells of something that had been done before, as the database returned it. -/
inductive Found (xs : Transcript) : (call : StoreCall) → Except StoreError call.Value → Prop
  | alreadyAttached {p : NewIntent} {s : Session} (attached : s.attachedIntent?.isSome)
      (h : Returned sessionOfRow (.selectSession p.session) s xs) :
      Found xs (.attachIntent p) (.ok (Attachment.alreadyAttached s))
  | alreadyExists {intent : String} {session : SessionId} {r : Report}
      (h : Returned reportOfRow (.selectReportOfSession session) r xs) :
      Found xs (.initialiseReport intent) (.ok (ReportInit.alreadyExists r))
  | ready {p : ScoredReport} {r : Report} (ready : r.status = .ready)
      (h : Returned reportOfRow (.selectReport p.report) r xs) :
      Found xs (.persistReport p) (.ok r)
  | givenUp {p : ScoredReport} {r : Report} (failed : r.status = .error)
      (h : Returned reportOfRow (.selectReport p.report) r xs) :
      Found xs (.persistReport p) (.error (givenUp r.id))

/-- What the end of a work means. -/
def Concludes (xs : Transcript) (call : StoreCall) : Ending call.Value → Prop
  | .keep value => Wrote xs call value
  | .discard outcome => Found xs call outcome

theorem Returned.mono {a : α} (h : Returned read q a ys) (hs : ys ⊆ xs) : Returned read q a xs := by
  obtain ⟨reply, hmem, hfirst⟩ := h
  exact ⟨reply, hs hmem, hfirst⟩

theorem Wrote.mono {call : StoreCall} {value : call.Value} (h : Wrote ys call value)
    (hs : ys ⊆ xs) : Wrote xs call value := by
  cases h with
  | attached h => exact .attached (h.mono hs)
  | created h => exact .created (h.mono hs)
  | finished h => exact .finished (h.mono hs)

theorem Found.mono {call : StoreCall} {outcome : Except StoreError call.Value}
    (h : Found ys call outcome) (hs : ys ⊆ xs) : Found xs call outcome := by
  cases h with
  | alreadyAttached attached h => exact .alreadyAttached attached (h.mono hs)
  | alreadyExists h => exact .alreadyExists (h.mono hs)
  | ready ready h => exact .ready ready (h.mono hs)
  | givenUp failed h => exact .givenUp failed (h.mono hs)

theorem returned_of_find {name : String} {a : α}
    (h : (find? name q read).run.Ran xs (.ok (some a))) : Returned read q a xs := by
  obtain ⟨reply, rfl, hreply⟩ := ran_find.1 h
  cases reply with
  | error f => cases hreply
  | ok reply => exact ⟨reply, List.mem_singleton_self _, hreply.symm⟩

theorem returned_of_findOneOr {a : α} (h : (findOneOr refusal q read).run.Ran xs (.ok a)) :
    Returned read q a xs := by
  obtain ⟨reply, rfl, hreply⟩ := ran_findOneOr.1 h
  cases reply with
  | error f => cases hreply
  | ok reply =>
    refine ⟨reply, List.mem_singleton_self _, ?_⟩
    change Except.ok a = (reply.first? read).bind _ at hreply
    cases hfirst : reply.first? read with
    | error e =>
      rw [hfirst] at hreply
      cases hreply
    | ok found =>
      rw [hfirst] at hreply
      cases found <;> cases hreply
      rfl

theorem attachWork_concludes {p : NewIntent} {ending : Ending Attachment}
    (h : (attachWork p).run.Ran xs (.ok ending)) : Concludes xs (.attachIntent p) ending := by
  unfold attachWork at h
  obtain ⟨found, ys, zs, rfl, hfound, hrest⟩ := ran_dialogue_bind_ok.1 h
  cases found with
  | none => cases (ran_throw.1 hrest).2
  | some s =>
    dsimp only at hrest
    split_ifs at hrest with attached
    · obtain ⟨rfl, ⟨⟩⟩ := ran_pure.1 hrest
      refine .alreadyAttached attached ?_
      exact (returned_of_find hfound).mono (List.subset_append_left _ _)
    · obtain ⟨s', us, vs, rfl, hs, hdone⟩ := ran_dialogue_bind_ok.1 hrest
      obtain ⟨rfl, ⟨⟩⟩ := ran_pure.1 hdone
      exact .attached ((returned_of_findOneOr hs).mono fun x hx => by simp [hx])

theorem initialiseWork_concludes {intent : String} {ending : Ending ReportInit}
    (h : (initialiseWork intent).run.Ran xs (.ok ending)) :
    Concludes xs (.initialiseReport intent) ending := by
  unfold initialiseWork at h
  obtain ⟨session?, ys, zs, rfl, hsession, hrest⟩ := ran_dialogue_bind_ok.1 h
  cases session? with
  | none => cases (ran_throw.1 hrest).2
  | some session =>
    obtain ⟨found, us, vs, rfl, hfound, hrest⟩ := ran_dialogue_bind_ok.1 hrest
    cases found with
    | some r =>
      obtain ⟨rfl, ⟨⟩⟩ := ran_pure.1 hrest
      exact .alreadyExists ((returned_of_find hfound).mono fun x hx => by simp [hx])
    | none =>
      obtain ⟨id, ids, rest, rfl, hid, hrest⟩ := ran_dialogue_bind_ok.1 hrest
      obtain ⟨token, tokens, rest, rfl, htoken, hrest⟩ := ran_dialogue_bind_ok.1 hrest
      obtain ⟨r, rows, rest, rfl, hr, hdone⟩ := ran_dialogue_bind_ok.1 hrest
      obtain ⟨rfl, ⟨⟩⟩ := ran_pure.1 hdone
      exact .created ((returned_of_findOneOr hr).mono fun x hx => by simp [hx])

theorem finishedBefore_of_ready {r : Report} (h : r.status = .ready) :
    finishedBefore r = .ok r := by
  rw [finishedBefore, if_pos h]

theorem finishedBefore_of_error {r : Report} (h : r.status = .error) :
    finishedBefore r = .error (givenUp r.id) := by
  have htext : " is already in " ++ ReportStatus.error.text ++ " status" =
      " is already in error status" := by decide
  rw [finishedBefore, if_neg (by simp [h]), h, givenUp, ← htext]
  simp only [String.append_assoc]

theorem finishedBefore_found {p : ScoredReport} {r : Report} (terminal : r.status.isTerminal = true)
    (h : Returned reportOfRow (.selectReport p.report) r xs) :
    Found xs (.persistReport p) (finishedBefore r) := by
  cases hs : r.status with
  | draft | processing => simp [hs, ReportStatus.isTerminal] at terminal
  | ready =>
    rw [finishedBefore_of_ready hs]
    exact .ready hs h
  | error =>
    rw [finishedBefore_of_error hs]
    exact .givenUp hs h

theorem persistWork_concludes {p : ScoredReport} {ending : Ending Report}
    (h : (persistWork p).run.Ran xs (.ok ending)) : Concludes xs (.persistReport p) ending := by
  unfold persistWork at h
  obtain ⟨found, ys, zs, rfl, hfound, hrest⟩ := ran_dialogue_bind_ok.1 h
  cases found with
  | none => cases (ran_throw.1 hrest).2
  | some current =>
    dsimp only at hrest
    split_ifs at hrest with terminal
    · obtain ⟨rfl, ⟨⟩⟩ := ran_pure.1 hrest
      refine finishedBefore_found terminal ?_
      exact (returned_of_find hfound).mono (List.subset_append_left _ _)
    · obtain ⟨_, us, rest, rfl, -, hrest⟩ := ran_dialogue_bind_ok.1 hrest
      obtain ⟨rows, inserts, rest, rfl, -, hrest⟩ := ran_dialogue_bind_ok.1 hrest
      obtain ⟨_, updates, rest, rfl, -, hrest⟩ := ran_dialogue_bind_ok.1 hrest
      obtain ⟨r, finish, rest, rfl, hr, hdone⟩ := ran_dialogue_bind_ok.1 hrest
      obtain ⟨rfl, ⟨⟩⟩ := ran_pure.1 hdone
      exact .finished ((returned_of_findOneOr hr).mono fun x hx => by simp [hx])

/-! ## Attempts -/

/-- What was asked in an exchange. -/
def asked (x : Exchange interface) : Request :=
  x.1

@[simp] theorem asked_said (s : Statement) (reply : Except Failure Reply) :
    asked (said s reply) = .send s := rfl

/-- A statement was not sent. -/
def Without (s : Statement) (xs : Transcript) : Prop :=
  ∀ x ∈ xs, asked x ≠ .send s

/-- Everything went well: every statement succeeded, and every row that was to be read was there
and was read. -/
def Smooth (operation : String) (xs : Transcript) : Prop :=
  ∀ x ∈ xs, trouble operation x = none

/-- In the end a commit was acknowledged. -/
def Committed (xs : Transcript) : Prop :=
  ∃ ys reply, xs = ys ++ [said .commit (.ok reply)]

/-- In the end a rollback was acknowledged, and no commit was sent. -/
def RolledBack (xs : Transcript) : Prop :=
  ∃ ys reply, xs = ys ++ [said .rollback (.ok reply)] ∧ Without .commit ys

/-- What came of an attempt: it wrote something, or it found something to be done before, or there
was trouble. -/
inductive Outcome (operation : String) (call : StoreCall) (xs : Transcript) :
    Except StoreError call.Value → Prop
  | written {value : call.Value} (smooth : Smooth operation xs) (committed : Committed xs)
      (wrote : Wrote xs call value) : Outcome operation call xs (.ok value)
  | found {outcome : Except StoreError call.Value} (smooth : Smooth operation xs)
      (rolledBack : RolledBack xs) (found : Found xs call outcome) :
      Outcome operation call xs outcome
  | refused {e : StoreError} (first : xs.findSome? (trouble operation) = some e)
      (uncommitted : ∀ reply, said .commit (.ok reply) ∉ xs) (other : ∀ id, e ≠ givenUp id) :
      Outcome operation call xs (.error e)

/-- What holds of every attempt: it begins once; it commits once at most, and only if everything
before the commit went well; and what comes of it agrees with how it ended. -/
structure Disciplined (operation : String) (call : StoreCall) (a : Attempt call.Value) : Prop where
  begins : ∃ reply ys, a.transcript = said .begin reply :: ys ∧ Without .begin ys
  commits : ∀ ys reply zs, a.transcript = ys ++ said .commit reply :: zs →
    Smooth operation ys ∧ Without .commit zs
  outcome : Outcome operation call a.transcript a.result

theorem Without.append {s : Statement} (h : Without s xs) (h' : Without s ys) :
    Without s (xs ++ ys) := by
  intro x hx
  rcases List.mem_append.1 hx with hx | hx
  · exact h x hx
  · exact h' x hx

/-- What is asked for inside a transaction is none of its ends. -/
theorem without_of_inner {s : Statement} (hs : ∀ q, s ≠ .query q)
    (h : ∀ x ∈ xs, Request.Inner x.1) : Without s xs := by
  intro x hx hsend
  have hinner : (asked x).Inner := h x hx
  rw [hsend] at hinner
  cases s with
  | query q => exact hs q rfl
  | begin | isolate | commit | rollback => exact hinner

theorem smooth_iff : Smooth operation xs ↔ xs.findSome? (trouble operation) = none :=
  List.findSome?_eq_none_iff.symm

/-- There is only one place for the only commit. -/
theorem commit_unique {front back ys zs : Transcript} {reply reply' : Except Failure Reply}
    (hfront : Without .commit front) (hback : Without .commit back)
    (h : front ++ said .commit reply :: back = ys ++ said .commit reply' :: zs) :
    ys = front ∧ reply' = reply ∧ zs = back := by
  have hreply (h : said .commit reply = said .commit reply') : reply' = reply := by
    cases h
    rfl
  rcases List.append_eq_append_iff.1 h with ⟨as, rfl, has⟩ | ⟨as, rfl, has⟩
  · cases as with
    | nil =>
      obtain ⟨hsaid, rfl⟩ := List.cons.inj has
      exact ⟨List.append_nil _, hreply hsaid, rfl⟩
    | cons a as =>
      obtain ⟨-, rfl⟩ := List.cons.inj has
      exact absurd rfl (hback (said .commit reply') (by simp))
  · cases as with
    | nil =>
      obtain ⟨hsaid, rfl⟩ := List.cons.inj has
      exact ⟨(List.append_nil _).symm, hreply hsaid.symm, rfl⟩
    | cons a as =>
      obtain ⟨rfl, -⟩ := List.cons.inj has
      exact absurd rfl (hfront (said .commit reply') (by simp))

/-! ## Kinds of trouble -/

/-- The failure of a statement says that transactions got into each other's way. -/
def Clash (s : Statement) : Failure → Prop
  | .refused code _ =>
    code = "40001" ∨ code = "40P01" ∨
      code = "23505" ∧ ∃ id session token, s = .query (.insertReport id session token)
  | _ => False

/-- An attempt ended because a statement clashed: before it, everything went well. -/
def Clashed (operation : String) (xs : Transcript) : Prop :=
  ∃ ys s f zs, xs = ys ++ said s (.error f) :: zs ∧ Smooth operation ys ∧ Clash s f

variable {name : String} {f : Failure} {e : StoreError} {reply : Except Failure Reply}
  {s : Statement}

theorem storeError_serialization_iff :
    (∃ detail, f.storeError name = .serialization detail) ↔
      ∃ code message, f = .refused code message ∧ (code = "40001" ∨ code = "40P01") := by
  cases f with
  | refused code message =>
    by_cases hcode : Failure.conflictCodes.contains code = true
    · have hcodes : code = "40001" ∨ code = "40P01" := by
        simpa [Failure.conflictCodes] using hcode
      simp only [Failure.storeError, hcode, if_true]
      exact iff_of_true ⟨_, rfl⟩ ⟨_, _, rfl, hcodes⟩
    · have hcodes : ¬(code = "40001" ∨ code = "40P01") := by
        simpa [Failure.conflictCodes] using hcode
      refine iff_of_false ?_ ?_
      · rintro ⟨detail, h⟩
        dsimp only [Failure.storeError] at h
        rw [if_neg hcode] at h
        split_ifs at h
      · rintro ⟨_, _, ⟨⟩, h⟩
        exact hcodes h
  | noRow | poolClosed | lost =>
    refine iff_of_false ?_ ?_
    · rintro ⟨detail, h⟩
      cases h
    · rintro ⟨_, _, h, -⟩
      cases h

/-- A message that does not begin like the refusal of results for a report that was given up. -/
theorem storeError_conflict {detail : String} (h : f.storeError name = .conflict detail) :
    detail.toList.head? = some 'd' := by
  cases f with
  | refused code message =>
    simp only [Failure.storeError] at h
    split_ifs at h
    cases h
    simp
  | noRow | poolClosed | lost => cases h

/-- Without the insertion of a report, it is the code alone that says so. -/
theorem clash_iff (hs : ∀ id session token, s ≠ .query (.insertReport id session token)) :
    Clash s f ↔ ∃ code message, f = .refused code message ∧ (code = "40001" ∨ code = "40P01") := by
  cases f with
  | refused code message => simp [Clash, hs]
  | noRow | poolClosed | lost => simp [Clash]

theorem isDuplicate_iff : f.isDuplicate = true ↔ ∃ message, f = .refused "23505" message := by
  cases f with
  | refused code message => simp [Failure.isDuplicate, Failure.duplicateCode]
  | noRow | poolClosed | lost => simp [Failure.isDuplicate]

theorem refusal_serialization_iff :
    (∃ detail, q.refusal f = .serialization detail) ↔ Clash (.query q) f := by
  cases q with
  | insertReport id session token =>
    simp only [Query.refusal, insertRefusal]
    by_cases hdup : f.isDuplicate = true
    · obtain ⟨message, rfl⟩ := isDuplicate_iff.1 hdup
      rw [if_pos hdup]
      exact iff_of_true ⟨_, rfl⟩ (.inr (.inr ⟨rfl, _, _, _, rfl⟩))
    · rw [if_neg hdup, storeError_serialization_iff]
      rw [isDuplicate_iff] at hdup
      cases f with
      | refused code message =>
        have hcode : code ≠ "23505" := fun h => hdup ⟨message, h ▸ rfl⟩
        simp [Clash, hcode]
      | noRow | poolClosed | lost => simp [Clash]
  | insertResult row =>
    rw [clash_iff (by simp)]
    simp only [Query.refusal, resultRefusal]
    by_cases hdup : f.isDuplicate = true
    · obtain ⟨message, rfl⟩ := isDuplicate_iff.1 hdup
      simp [hdup]
    · rw [if_neg hdup, storeError_serialization_iff]
  | _ =>
    rw [clash_iff (by simp)]
    exact storeError_serialization_iff

theorem refusal_conflict {detail : String} (h : q.refusal f = .conflict detail) :
    detail.toList.head? = some 'd' := by
  cases q with
  | insertReport id session token =>
    simp only [Query.refusal, insertRefusal] at h
    split_ifs at h
    exact storeError_conflict h
  | insertResult row =>
    simp only [Query.refusal, resultRefusal] at h
    split_ifs at h
    · cases h
      simp
    · exact storeError_conflict h
  | _ => exact storeError_conflict h

/-- A row that carries a status is refused as corrupt. -/
theorem readWithStatus_error {σ : Type} {kind : String} {parse : String → Except UnknownStatus σ}
    {columns : Except ColumnError (String × (σ → α))}
    (h : readWithStatus kind parse columns = .error e) : ∃ detail, e = .corrupt detail := by
  unfold readWithStatus at h
  cases columns with
  | error c =>
    cases h
    exact ⟨_, rfl⟩
  | ok x =>
    obtain ⟨spelling, make⟩ := x
    change ((parse spelling).mapError _).bind _ = _ at h
    cases hp : parse spelling with
    | error u =>
      rw [hp] at h
      cases h
      exact ⟨_, rfl⟩
    | ok status =>
      rw [hp] at h
      cases h

theorem unread_of_corrupt {reply : Reply} {absent : Option StoreError}
    (corrupt : ∀ row e, read row = .error e → ∃ detail, e = .corrupt detail)
    (h : reply.unread absent read = some e) : absent = some e ∨ ∃ detail, e = .corrupt detail := by
  unfold Reply.unread Reply.first? at h
  cases hrows : reply.rows with
  | nil =>
    rw [hrows] at h
    exact .inl h
  | cons row rows =>
    simp only [hrows] at h
    cases hread : read row with
    | error e' =>
      rw [hread] at h
      cases h
      exact .inr (corrupt row _ hread)
    | ok a =>
      rw [hread] at h
      cases h

/-- What is wrong with a reply is that a row is missing or corrupt. -/
theorem unread_eq_some {reply : Reply} (h : q.unread reply = some e) :
    (∃ detail, e = .notFound detail) ∨ ∃ detail, e = .corrupt detail := by
  have session row e (h : sessionOfRow row = .error e) : ∃ detail, e = .corrupt detail :=
    readWithStatus_error h
  have report row e (h : reportOfRow row = .error e) : ∃ detail, e = .corrupt detail :=
    readWithStatus_error h
  have sessionId row e (h : sessionIdOfRow row = .error e) : ∃ detail, e = .corrupt detail := by
    unfold sessionIdOfRow idOfRow at h
    cases hid : row.uuid "id" with
    | error c =>
      rw [hid] at h
      cases h
      exact ⟨_, rfl⟩
    | ok id =>
      rw [hid] at h
      cases h
  have missing {d : String} (h : some (.notFound d) = some e) : ∃ detail, e = .notFound detail :=
    ⟨d, (Option.some.inj h).symm⟩
  cases q with
  | selectSession | attachIntent => exact (unread_of_corrupt session h).imp_left missing
  | markPaid => exact (unread_of_corrupt sessionId h).imp_left missing
  | selectReport | insertReport | finishReport =>
    exact (unread_of_corrupt report h).imp_left missing
  | selectReportOfSession => exact (unread_of_corrupt report h).imp_left fun h => nomatch h
  | _ => cases h

/-- A statement means that transactions got into each other's way exactly if it clashed. -/
theorem trouble_serialization_iff :
    (∃ detail, s.trouble operation reply = some (.serialization detail)) ↔
      ∃ f, reply = .error f ∧ Clash s f := by
  cases reply with
  | ok reply =>
    refine iff_of_false ?_ (by simp)
    rintro ⟨detail, h⟩
    cases s with
    | query q =>
      rcases unread_eq_some (q := q) h with ⟨d, hd⟩ | ⟨d, hd⟩
      · cases hd
      · cases hd
    | begin | isolate | commit | rollback => cases h
  | error f =>
    simp only [Except.error.injEq, exists_eq_left']
    cases s with
    | query q => simpa [Statement.trouble] using refusal_serialization_iff
    | begin | isolate | commit | rollback =>
      rw [clash_iff (by simp)]
      simpa [Statement.trouble] using storeError_serialization_iff

theorem trouble_conflict {detail : String}
    (h : s.trouble operation reply = some (.conflict detail)) : detail.toList.head? = some 'd' := by
  cases reply with
  | ok reply =>
    cases s with
    | query q =>
      rcases unread_eq_some (q := q) h with ⟨d, hd⟩ | ⟨d, hd⟩
      · cases hd
      · cases hd
    | begin | isolate | commit | rollback => cases h
  | error f =>
    cases s with
    | query q => exact refusal_conflict (Option.some.inj h)
    | begin | isolate | commit | rollback => exact storeError_conflict (Option.some.inj h)

/-- No trouble is worded like the refusal of results for a report that was given up. -/
theorem trouble_ne_givenUp {x : Exchange interface} (h : trouble operation x = some e)
    (id : ReportId) : e ≠ givenUp id := by
  rintro rfl
  obtain ⟨call, reply⟩ := x
  cases call with
  | mintId | mintToken => cases h
  | send s =>
    have hhead := trouble_conflict h
    simp at hhead

/-! ## Every attempt is disciplined -/

variable {call : StoreCall} {work : Dialogue (Ending call.Value)}
  {r : Except StoreError call.Value}

/-- The attempt is refused with the first trouble there was. -/
theorem outcome_refused (first : xs.findSome? (trouble operation) = some e)
    (uncommitted : ∀ reply, said .commit (.ok reply) ∉ xs) :
    Outcome operation call xs (.error e) := by
  refine .refused first uncommitted fun id => ?_
  obtain ⟨x, -, hx⟩ := List.exists_of_findSome?_eq_some first
  exact trouble_ne_givenUp hx id

theorem findSome?_opening {opened isolated : Reply} (tail : Transcript) :
    (opening opened isolated xs ++ tail).findSome? (trouble operation) =
      (xs.findSome? (trouble operation)).or (tail.findSome? (trouble operation)) := by
  rw [List.findSome?_append]
  rfl

theorem smooth_opening {opened isolated : Reply} (h : xs.findSome? (trouble operation) = none) :
    Smooth operation (opening opened isolated xs) :=
  smooth_iff.2 h

theorem subset_opening {opened isolated : Reply} (tail : Transcript) :
    xs ⊆ opening opened isolated xs ++ tail := by
  intro x hx
  simp [opening, hx]

theorem without_commit_opening {opened isolated : Reply} (inner : ∀ x ∈ xs, Request.Inner x.1) :
    Without .commit (opening opened isolated xs) := by
  have hxs : Without .commit xs := without_of_inner (by simp) inner
  intro x hx
  simp only [opening, List.mem_cons] at hx
  rcases hx with rfl | rfl | hx
  · simp
  · simp
  · exact hxs x hx

theorem begins_opening {opened isolated : Reply} {tail : Transcript}
    (inner : ∀ x ∈ xs, Request.Inner x.1) (htail : Without .begin tail) :
    ∃ reply ys, opening opened isolated xs ++ tail = said .begin reply :: ys ∧
      Without .begin ys := by
  have hxs : Without .begin xs := without_of_inner (by simp) inner
  refine ⟨.ok opened, said .isolate (.ok isolated) :: (xs ++ tail), rfl, ?_⟩
  intro x hx
  rcases List.mem_cons.1 hx with rfl | hx
  · simp
  · exact hxs.append htail x hx

/-- An attempt without a commit has none to answer for. -/
theorem commits_of_without (h : Without .commit xs) (ys : Transcript)
    (reply : Except Failure Reply) (zs : Transcript) (hxs : xs = ys ++ said .commit reply :: zs) :
    Smooth operation ys ∧ Without .commit zs :=
  absurd rfl (h (said .commit reply) (by simp [hxs]))

/-- Without a commit, an attempt that met trouble is disciplined if it is refused with it. -/
theorem disciplined_of_uncommitted
    (begins : ∃ reply ys, xs = said .begin reply :: ys ∧ Without .begin ys)
    (uncommitted : Without .commit xs) (first : xs.findSome? (trouble operation) = some e) :
    Disciplined operation call ⟨xs, .error e⟩ where
  begins := begins
  commits := commits_of_without uncommitted
  outcome := outcome_refused first fun _ hmem => uncommitted _ hmem rfl

/-- The commit after work without trouble comes after everything went well, and it is the only
one. -/
theorem commits_opening {opened isolated : Reply} {reply : Except Failure Reply}
    {tail : Transcript} (inner : ∀ x ∈ xs, Request.Inner x.1)
    (first : xs.findSome? (trouble operation) = none) (htail : Without .commit tail)
    (ys : Transcript) (reply' : Except Failure Reply) (zs : Transcript)
    (h : opening opened isolated xs ++ said .commit reply :: tail =
      ys ++ said .commit reply' :: zs) :
    reply' = reply ∧ Smooth operation ys ∧ Without .commit zs := by
  obtain ⟨rfl, hreply, rfl⟩ := commit_unique (without_commit_opening inner) htail h
  exact ⟨hreply, smooth_opening first, htail⟩

/-- However an attempt goes, it is disciplined. -/
theorem Way.disciplined (careful : Careful operation work)
    (concludes : ∀ xs ending, work.run.Ran xs (.ok ending) → Concludes xs call ending)
    (h : Way operation work xs r) : Disciplined operation call ⟨xs, r⟩ := by
  have hrollback (reply : Except Failure Reply) : Without .commit [said .rollback reply] := by
    simp [Without]
  cases h with
  | unopened f =>
    exact disciplined_of_uncommitted ⟨_, _, rfl, by simp [Without]⟩ (by simp [Without]) rfl
  | unisolated opened f cleared =>
    exact disciplined_of_uncommitted ⟨_, _, rfl, by simp [Without]⟩ (by simp [Without]) rfl
  | refused opened isolated worked cleared =>
    obtain ⟨inner, first⟩ := careful _ _ worked
    refine disciplined_of_uncommitted (begins_opening inner (by simp [Without]))
      ((without_commit_opening inner).append (hrollback cleared)) ?_
    rw [findSome?_opening, first]
    rfl
  | kept opened isolated worked committed =>
    obtain ⟨inner, first⟩ := careful _ _ worked
    refine ⟨begins_opening inner (by simp [Without]), fun ys reply zs h =>
      (commits_opening inner first (by simp [Without]) ys reply zs h).2, ?_⟩
    refine .written ?_ ⟨_, _, rfl⟩ ((concludes _ _ worked).mono (subset_opening _))
    rw [smooth_iff, findSome?_opening, first]
    rfl
  | unkept opened isolated worked f cleared =>
    obtain ⟨inner, first⟩ := careful _ _ worked
    refine ⟨begins_opening inner (by simp [Without]), fun ys reply zs h =>
      (commits_opening inner first (hrollback cleared) ys reply zs h).2,
      outcome_refused ?_ fun reply hmem => ?_⟩
    · rw [findSome?_opening, first]
      rfl
    · obtain ⟨ys, zs, h⟩ := List.append_of_mem hmem
      obtain ⟨⟨⟩, -⟩ := commits_opening inner first (hrollback cleared) ys _ zs h
  | discarded opened isolated worked rolledBack =>
    obtain ⟨inner, first⟩ := careful _ _ worked
    have hcommit : Without .commit (opening opened isolated _) := without_commit_opening inner
    refine ⟨begins_opening inner (by simp [Without]),
      commits_of_without (hcommit.append (hrollback _)), ?_⟩
    refine .found ?_ ⟨_, _, rfl, hcommit⟩ ((concludes _ _ worked).mono (subset_opening _))
    rw [smooth_iff, findSome?_opening, first]
    rfl
  | undiscarded opened isolated worked f cleared =>
    obtain ⟨inner, first⟩ := careful _ _ worked
    refine disciplined_of_uncommitted (begins_opening inner (by simp [Without]))
      ((without_commit_opening inner).append (by simp [Without])) ?_
    rw [findSome?_opening, first]
    rfl

/-! ## Attempts that clash -/

theorem clashed_iff :
    Clashed operation xs ↔
      ∃ detail, xs.findSome? (trouble operation) = some (.serialization detail) := by
  constructor
  · rintro ⟨ys, s, f, zs, rfl, hys, hclash⟩
    have htrouble :
        ∃ detail, trouble operation (said s (.error f)) = some (.serialization detail) :=
      trouble_serialization_iff.2 ⟨f, rfl, hclash⟩
    obtain ⟨detail, hd⟩ := htrouble
    exact ⟨detail, List.findSome?_eq_some_iff.2 ⟨ys, _, zs, rfl, hd, hys⟩⟩
  · rintro ⟨detail, h⟩
    obtain ⟨ys, ⟨call, reply⟩, zs, rfl, hd, hys⟩ := List.findSome?_eq_some_iff.1 h
    cases call with
    | mintId | mintToken => cases hd
    | send s =>
      obtain ⟨f, rfl, hclash⟩ := trouble_serialization_iff.1 ⟨detail, hd⟩
      exact ⟨ys, s, f, zs, rfl, hys, hclash⟩

/-- An attempt is worth another one exactly if it clashed. -/
theorem Disciplined.collided_iff {a : Attempt call.Value} (h : Disciplined operation call a) :
    a.Collided ↔ Clashed operation a.transcript := by
  obtain ⟨xs, r⟩ := a
  rw [clashed_iff]
  cases h.outcome with
  | written smooth =>
    rw [smooth_iff.1 smooth]
    simp [Attempt.Collided]
  | found smooth _ hfound =>
    rw [smooth_iff.1 smooth]
    refine iff_of_false ?_ (by simp)
    rintro ⟨detail, rfl⟩
    cases hfound
  | refused first =>
    rw [first]
    simp [Attempt.Collided]

/-- The request is a transaction of a name. -/
inductive Transacts : StoreCall → String → Prop
  | attachIntent (p : NewIntent) : Transacts (.attachIntent p) "attach_payment_intent"
  | initialiseReport (intent : String) : Transacts (.initialiseReport intent) "initialise_report"
  | persistReport (p : ScoredReport) : Transacts (.persistReport p) "persist_scored_report"

/-- Attempts that were made one after another: each but the last clashed, and the last one clashed
only if it is the third. -/
structure Successive (operation : String) (call : StoreCall) (earlier : List (Attempt call.Value))
    (last : Attempt call.Value) : Prop where
  few : earlier.length + 1 ≤ 3
  repeated : ∀ a ∈ earlier, Clashed operation a.transcript
  ended : Clashed operation last.transcript → earlier.length + 1 = 3
  disciplined : ∀ a ∈ earlier ++ [last], Disciplined operation call a

theorem ran_retrying (careful : Careful operation work)
    (concludes : ∀ xs ending, work.run.Ran xs (.ok ending) → Concludes xs call ending)
    (h : (retrying operation work).Ran xs r) :
    ∃ (earlier : List (Attempt call.Value)) (last : Attempt call.Value),
      xs = (earlier ++ [last]).flatMap (·.transcript) ∧ r = last.result ∧
      Successive operation call earlier last := by
  obtain ⟨earlier, last, hxs, hr, hfew, hearlier, hlast, hran⟩ := ran_replay h
  have disciplined (a : Attempt call.Value) (ha : a ∈ earlier ++ [last]) :
      Disciplined operation call a :=
    (ran_transaction (hran a ha)).disciplined careful concludes
  refine ⟨earlier, last, hxs, hr, ?_, ?_, ?_, disciplined⟩
  · exact Nat.succ_le_succ hfew
  · intro a ha
    exact (disciplined a (List.mem_append_left _ ha)).collided_iff.1 (hearlier a ha)
  · intro hclashed
    have hlength := hlast ((disciplined last (by simp)).collided_iff.2 hclashed)
    rw [hlength]
    rfl

/-- **Discipline of transactions.** Whatever the database replies to a request that is a
transaction, and however it fails: there are three attempts at most; another one is made exactly if
the one before clashed and was not the third; each commits once at most, and only if every statement
before succeeded and every row that it read could be read; what was written is told only if the last
attempt's commit was acknowledged, and what was found to be done before only if it was rolled back
without a commit; and otherwise the request is refused with the first trouble of the last
attempt. -/
theorem transactions_disciplined {operation : String} {call : StoreCall}
    (ht : Transacts call operation) {xs : Transcript} {r : Except StoreError call.Value}
    (h : (serve call).Ran xs r) :
    ∃ (earlier : List (Attempt call.Value)) (last : Attempt call.Value),
      xs = (earlier ++ [last]).flatMap (·.transcript) ∧ r = last.result ∧
      Successive operation call earlier last := by
  have hrun := ran_traced.1 h
  cases ht with
  | attachIntent p =>
    exact ran_retrying (careful_attachWork p) (fun _ _ => attachWork_concludes) hrun
  | initialiseReport intent =>
    exact ran_retrying (careful_initialiseWork intent) (fun _ _ => initialiseWork_concludes) hrun
  | persistReport p =>
    exact ran_retrying (careful_persistWork p) (fun _ _ => persistWork_concludes) hrun

namespace Sample

/-- The row of a session with an intent. -/
def sessionRow : Row where
  columns := [("id", .uuid ⟨1⟩), ("anon_token", .text "visitor"),
    ("payment_status", .text "pending"), ("customer_ref", .null),
    ("payment_intent_ref", .text "first"), ("email", .null), ("business_name", .null),
    ("business_context", .null), ("paid_at", .null), ("created_at", .time ⟨1, 0⟩),
    ("updated_at", .time ⟨2, 0⟩)]

/-- The session in the row. -/
def session : Session :=
  { Session.opened ⟨⟨1⟩⟩ "visitor" ⟨1, 0⟩ with intentRef := some "first", updatedAt := ⟨2, 0⟩ }

/-- The database is busy at first, and then it has the session. -/
def busy : Transcript :=
  [said .begin (.error (.refused "40001" "busy")), said .begin (.ok {}), said .isolate (.ok {}),
    said (.query (.selectSession ⟨⟨1⟩⟩)) (.ok ⟨[sessionRow], 1⟩), said .rollback (.ok {})]

end Sample

/-- A visitor who comes second is told of the intent that the session has. -/
theorem transactions_disciplined_sample :
    let second : NewIntent := ⟨⟨⟨1⟩⟩, none, "second", none⟩
    let result : Except StoreError Attachment := .ok (.alreadyAttached Sample.session)
    (serve (.attachIntent second)).Ran Sample.busy result ∧
      ∃ (earlier : List (Attempt Attachment)) (last : Attempt Attachment),
        Sample.busy = (earlier ++ [last]).flatMap (·.transcript) ∧ result = last.result ∧
          Successive "attach_payment_intent" (.attachIntent second) earlier last := by
  intro second result
  have hran : (serve (.attachIntent second)).Ran Sample.busy result := by
    refine ran_traced.2 ?_
    refine .asked (.logged (.asked (.asked (.asked (.asked ?_)))))
    exact .done _
  exact ⟨hran, transactions_disciplined (.attachIntent second) hran⟩

end RiskReport.Database

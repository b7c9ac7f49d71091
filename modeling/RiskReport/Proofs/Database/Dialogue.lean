import RiskReport.Database.Store
import RiskReport.Proofs.Transcript

/-!
# What a dialogue is told

A dialogue with the database goes on as long as all is well: a statement that fails ends it, and so
does a row that cannot be read or that is missing. `Statement.trouble` is what a reply to a
statement means in a transaction, if it means trouble: the refusal that whoever asked the store is
given. A dialogue that is `Careful` sends nothing but queries, goes on exactly as long as there is
no trouble, and is refused with the first trouble that there is.

The lemmas `ran_…` say which transcripts and results the parts of dialogues have; `Careful`
dialogues are put together by `careful_query` and `careful_bind`.
-/

namespace RiskReport.Database

open Program

/-- What was said to the database in a dialogue, and what it replied. -/
abbrev Transcript := List (Exchange interface)

/-- A statement with the reply to it. -/
abbrev said (s : Statement) (reply : Except Failure Reply) : Exchange interface := ⟨.send s, reply⟩

/-! ## Trouble -/

/-- The name under which a transaction sends a query; other queries have none. -/
def Query.operation : Query → String
  | .selectSession _ => "select_session"
  | .attachIntent _ => "attach_payment_intent"
  | .markPaid _ => "mark_session_paid"
  | .selectReport _ | .selectReportOfSession _ => "select_report"
  | .startProcessing _ => "set_report_processing"
  | .setHedge .. => "set_ai_hedge"
  | .finishReport .. => "finalize_report"
  | _ => ""

/-- What the failure of a query means in a transaction. -/
def Query.refusal (q : Query) (f : Failure) : StoreError :=
  match q with
  | .insertReport _ session _ => insertRefusal session f
  | .insertResult row => resultRefusal row.questionId f
  | q => f.storeError q.operation

/-- What the first row of a reply is read as, if there is one. -/
def Reply.first? {α : Type} (reply : Reply) (read : Row → Except StoreError α) :
    Except StoreError (Option α) :=
  match reply.rows with
  | [] => .ok none
  | row :: _ => (read row).map some

/-- What keeps the first row of a reply from being read, or what it means that there is none. -/
def Reply.unread {α : Type} (reply : Reply) (absent : Option StoreError)
    (read : Row → Except StoreError α) : Option StoreError :=
  match reply.first? read with
  | .error e => some e
  | .ok none => absent
  | .ok (some _) => none

/-- What is wrong with the reply to a query in a transaction. Only the first row is ever read, and
only the search for the report of a session may find none. -/
def Query.unread (q : Query) (reply : Reply) : Option StoreError :=
  match q with
  | .selectSession id => reply.unread (some (.notFound ("session " ++ id.write))) sessionOfRow
  | .attachIntent _ => reply.unread (some (q.refusal .noRow)) sessionOfRow
  | .markPaid intent =>
    reply.unread (some (.notFound ("session for payment intent " ++ intent))) sessionIdOfRow
  | .selectReport id => reply.unread (some (.notFound ("report " ++ id.write))) reportOfRow
  | .selectReportOfSession _ => reply.unread none reportOfRow
  | .insertReport .. | .finishReport .. => reply.unread (some (q.refusal .noRow)) reportOfRow
  | _ => none

/-- What the reply to a statement means in a transaction, if it means trouble. -/
def Statement.trouble (operation : String) : Statement → Except Failure Reply → Option StoreError
  | .query q, .ok reply => q.unread reply
  | .query q, .error f => some (q.refusal f)
  | .commit, .error f => some (f.storeError "commit_transaction")
  | .rollback, .error f => some (f.storeError "rollback")
  | .begin, .error f | .isolate, .error f => some (f.storeError operation)
  | .begin, .ok _ | .isolate, .ok _ | .commit, .ok _ | .rollback, .ok _ => none

/-- The trouble that a dialogue is told of. -/
def trouble (operation : String) : Exchange interface → Option StoreError
  | ⟨.send s, reply⟩ => s.trouble operation reply
  | ⟨.mintId, _⟩ | ⟨.mintToken, _⟩ => none

/-- The refusal that a result is. -/
def refusal? {α : Type} : Except StoreError α → Option StoreError
  | .ok _ => none
  | .error e => some e

/-! ## The transcripts of dialogues -/

variable {α β : Type} {xs : Transcript} {operation : String} {q : Query}
  {read : Row → Except StoreError α} {refusal : Failure → StoreError}

theorem ran_pure {a : α} {r : Except StoreError α} :
    (pure a : Dialogue α).run.Ran xs r ↔ xs = [] ∧ r = .ok a :=
  ran_done

theorem ran_throw {e : StoreError} {r : Except StoreError α} :
    (throw e : Dialogue α).run.Ran xs r ↔ xs = [] ∧ r = .error e :=
  ran_done

theorem run_bind {d : Dialogue α} {f : α → Dialogue β} :
    (d >>= f).run = d.run.bind fun
      | .ok a => (f a).run
      | .error e => .done (.error e) := by
  rw [ExceptT.run_bind]
  refine congrArg d.run.bind (funext fun r => ?_)
  cases r <;> rfl

theorem ran_dialogue_bind {d : Dialogue α} {f : α → Dialogue β} {r : Except StoreError β} :
    (d >>= f).run.Ran xs r ↔
      (∃ e, d.run.Ran xs (.error e) ∧ r = .error e) ∨
        ∃ a ys zs, xs = ys ++ zs ∧ d.run.Ran ys (.ok a) ∧ (f a).run.Ran zs r := by
  rw [run_bind, ran_bind]
  constructor
  · rintro ⟨r', ys, zs, rfl, hd, hf⟩
    cases r' with
    | error e =>
      obtain ⟨rfl, rfl⟩ := ran_done.1 hf
      exact .inl ⟨e, by rwa [List.append_nil], rfl⟩
    | ok a => exact .inr ⟨a, ys, zs, rfl, hd, hf⟩
  · rintro (⟨e, hd, rfl⟩ | ⟨a, ys, zs, rfl, hd, hf⟩)
    · exact ⟨.error e, xs, [], (List.append_nil xs).symm, hd, .done _⟩
    · exact ⟨.ok a, ys, zs, rfl, hd, hf⟩

/-- A dialogue with a value has one at each of its parts. -/
theorem ran_dialogue_bind_ok {d : Dialogue α} {f : α → Dialogue β} {b : β} :
    (d >>= f).run.Ran xs (.ok b) ↔
      ∃ a ys zs, xs = ys ++ zs ∧ d.run.Ran ys (.ok a) ∧ (f a).run.Ran zs (.ok b) := by
  rw [ran_dialogue_bind]
  simp

theorem ran_lift {p : Asking α} {r : Except StoreError α} :
    (ExceptT.lift p : Dialogue α).run.Ran xs r ↔ ∃ a, p.Ran xs a ∧ r = .ok a := by
  have hrun : (ExceptT.lift p : Dialogue α).run = p.bind fun a => .done (.ok a) := rfl
  rw [hrun, ran_bind]
  constructor
  · rintro ⟨a, ys, zs, rfl, hp, hr⟩
    obtain ⟨rfl, rfl⟩ := ran_done.1 hr
    exact ⟨a, by rwa [List.append_nil], rfl⟩
  · rintro ⟨a, hp, rfl⟩
    exact ⟨a, xs, [], (List.append_nil xs).symm, hp, .done _⟩

theorem ran_mintId {r : Except StoreError Uuid} :
    mintId.run.Ran xs r ↔ ∃ id : Uuid, xs = [⟨.mintId, id⟩] ∧ r = .ok id :=
  ran_lift.trans (exists_congr fun _ => and_congr_left fun _ => ran_request)

theorem ran_mintToken {r : Except StoreError AccessToken} :
    mintToken.run.Ran xs r ↔ ∃ token : AccessToken, xs = [⟨.mintToken, token⟩] ∧ r = .ok token :=
  ran_lift.trans (exists_congr fun _ => and_congr_left fun _ => ran_request)

theorem ran_askOr {r : Except StoreError Reply} :
    (askOr refusal q).run.Ran xs r ↔
      ∃ reply, xs = [said (.query q) reply] ∧ r = reply.mapError refusal := by
  have hrun : (askOr refusal q).run =
      (send (.query q)).bind fun reply => .done (reply.mapError refusal) := by
    unfold askOr
    rw [run_bind]
    refine congrArg (Program.ask _ _) (funext fun reply => ?_)
    cases reply <;> rfl
  rw [hrun, ran_bind]
  constructor
  · rintro ⟨reply, ys, zs, rfl, hs, hr⟩
    obtain rfl := ran_request.1 hs
    obtain ⟨rfl, rfl⟩ := ran_done.1 hr
    exact ⟨reply, rfl, rfl⟩
  · rintro ⟨reply, rfl, rfl⟩
    exact ⟨reply, _, [], rfl, ran_request.2 rfl, .done _⟩

/-- A query whose reply is all that the value is made of. -/
theorem ran_askOr_bind {f : Reply → Dialogue α} {g : Reply → Except StoreError α}
    (hf : ∀ reply, (f reply).run = .done (g reply)) {r : Except StoreError α} :
    (askOr refusal q >>= f).run.Ran xs r ↔
      ∃ reply, xs = [said (.query q) reply] ∧ r = (reply.mapError refusal).bind g := by
  rw [ran_dialogue_bind]
  constructor
  · rintro (⟨e, h, rfl⟩ | ⟨a, ys, zs, rfl, h, hr⟩)
    · obtain ⟨reply, rfl, he⟩ := ran_askOr.1 h
      exact ⟨reply, rfl, by rw [← he]; rfl⟩
    · obtain ⟨reply, rfl, ha⟩ := ran_askOr.1 h
      rw [hf] at hr
      obtain ⟨rfl, rfl⟩ := ran_done.1 hr
      exact ⟨reply, rfl, by rw [← ha]; rfl⟩
  · rintro ⟨reply, rfl, rfl⟩
    cases reply with
    | error e => exact .inl ⟨refusal e, ran_askOr.2 ⟨_, rfl, rfl⟩, rfl⟩
    | ok reply =>
      refine .inr ⟨reply, _, [], rfl, ran_askOr.2 ⟨_, rfl, rfl⟩, ?_⟩
      rw [hf]
      exact .done _

theorem ran_find {name : String} {r : Except StoreError (Option α)} :
    (find? name q read).run.Ran xs r ↔
      ∃ reply, xs = [said (.query q) reply] ∧
        r = (reply.mapError (Failure.storeError name)).bind fun reply => reply.first? read := by
  refine ran_askOr_bind fun reply => ?_
  unfold Reply.first?
  cases reply.rows with
  | nil => rfl
  | cons row rows =>
    dsimp only
    cases read row <;> rfl

theorem ran_findOneOr {r : Except StoreError α} :
    (findOneOr refusal q read).run.Ran xs r ↔
      ∃ reply, xs = [said (.query q) reply] ∧
        r = (reply.mapError refusal).bind fun reply => (reply.first? read).bind fun
          | none => .error (refusal .noRow)
          | some a => .ok a := by
  refine ran_askOr_bind fun reply => ?_
  unfold Reply.first?
  cases reply.rows with
  | nil => rfl
  | cons row rows =>
    dsimp only
    cases read row <;> rfl

/-- A search fails or comes to a row that cannot be read, or it goes on with what was found. -/
theorem ran_find_bind {name : String} {f : Option α → Dialogue β} {r : Except StoreError β}
    (h : (find? name q read >>= f).run.Ran xs r) :
    ∃ reply zs, xs = said (.query q) reply :: zs ∧
      match (reply.mapError (Failure.storeError name)).bind fun reply => reply.first? read with
      | .error e => zs = [] ∧ r = .error e
      | .ok found => (f found).run.Ran zs r := by
  rcases ran_dialogue_bind.1 h with ⟨e, he, rfl⟩ | ⟨found, ys, zs, rfl, hfound, hr⟩
  · obtain ⟨reply, rfl, hreply⟩ := ran_find.1 he
    refine ⟨reply, [], rfl, ?_⟩
    rw [← hreply]
    exact ⟨rfl, rfl⟩
  · obtain ⟨reply, rfl, hreply⟩ := ran_find.1 hfound
    refine ⟨reply, zs, rfl, ?_⟩
    rw [← hreply]
    exact hr

/-! ## Careful dialogues -/

/-- What is asked for inside a transaction, not at its ends. -/
def Request.Inner : Request → Prop
  | .send (.query _) | .mintId | .mintToken => True
  | .send _ => False

/-- The dialogue sends nothing but queries, and it is refused with the first trouble, if there is
any. -/
def Careful (operation : String) (d : Dialogue α) : Prop :=
  ∀ xs r, d.run.Ran xs r →
    (∀ x ∈ xs, Request.Inner x.1) ∧ xs.findSome? (trouble operation) = refusal? r

theorem careful_pure (a : α) : Careful operation (pure a) := by
  intro xs r h
  obtain ⟨rfl, rfl⟩ := ran_pure.1 h
  exact ⟨by simp, rfl⟩

theorem careful_mintId : Careful operation mintId := by
  intro xs r h
  obtain ⟨id, rfl, rfl⟩ := ran_mintId.1 h
  exact ⟨by simp [Request.Inner], rfl⟩

theorem careful_mintToken : Careful operation mintToken := by
  intro xs r h
  obtain ⟨token, rfl, rfl⟩ := ran_mintToken.1 h
  exact ⟨by simp [Request.Inner], rfl⟩

/-- A dialogue that is one query with a value made of the reply. -/
theorem careful_query {d : Dialogue α} {g : Reply → Except StoreError α}
    (ran : ∀ xs r, d.run.Ran xs r →
      ∃ reply, xs = [said (.query q) reply] ∧ r = (reply.mapError refusal).bind g)
    (named : ∀ f, q.refusal f = refusal f)
    (unread : ∀ reply, q.unread reply = refusal? (g reply)) : Careful operation d := by
  intro xs r h
  obtain ⟨reply, rfl, rfl⟩ := ran xs r h
  refine ⟨by simp [Request.Inner], ?_⟩
  rw [List.findSome?_singleton]
  cases reply with
  | error f => exact congrArg some (named f)
  | ok reply => exact unread reply

theorem careful_askOr (named : ∀ f, q.refusal f = refusal f)
    (unread : ∀ reply, q.unread reply = none) : Careful operation (askOr refusal q) := by
  refine careful_query (g := Except.ok) (fun xs r h => ?_) named unread
  obtain ⟨reply, hxs, rfl⟩ := ran_askOr.1 h
  refine ⟨reply, hxs, ?_⟩
  cases reply <;> rfl

theorem careful_findOneOr (named : ∀ f, q.refusal f = refusal f)
    (unread : ∀ reply, q.unread reply = reply.unread (some (refusal .noRow)) read) :
    Careful operation (findOneOr refusal q read) := by
  refine careful_query (fun _ _ => ran_findOneOr.1) named fun reply => ?_
  rw [unread, Reply.unread]
  rcases reply.first? read with e | (_ | a) <;> rfl

/-- A query that may find nothing. -/
theorem careful_find {name : String} (named : ∀ f, q.refusal f = f.storeError name)
    (unread : ∀ reply, q.unread reply = reply.unread none read) :
    Careful operation (find? name q read) := by
  refine careful_query (fun _ _ => ran_find.1) named fun reply => ?_
  rw [unread, Reply.unread]
  rcases reply.first? read with e | (_ | a) <;> rfl

theorem careful_bind {d : Dialogue α} {f : α → Dialogue β} (hd : Careful operation d)
    (hf : ∀ a, Careful operation (f a)) : Careful operation (d >>= f) := by
  intro xs r h
  rcases ran_dialogue_bind.1 h with ⟨e, he, rfl⟩ | ⟨a, ys, zs, rfl, ha, hr⟩
  · exact hd xs _ he
  · obtain ⟨hys, hn⟩ := hd ys _ ha
    obtain ⟨hzs, hr⟩ := hf a zs r hr
    refine ⟨?_, ?_⟩
    · intro x hx
      rcases List.mem_append.1 hx with hx | hx
      · exact hys x hx
      · exact hzs x hx
    · rw [List.findSome?_append, hn, hr]
      rfl

/-- A query that must find something. -/
theorem careful_expect {name : String} {e : StoreError} {f : Option α → Dialogue β}
    (named : ∀ f, q.refusal f = f.storeError name)
    (unread : ∀ reply, q.unread reply = reply.unread (some e) read) (nothing : f none = throw e)
    (something : ∀ a, Careful operation (f (some a))) :
    Careful operation (find? name q read >>= f) := by
  intro xs r h
  obtain ⟨reply, zs, rfl, hrest⟩ := ran_find_bind h
  have head : Request.Inner (said (.query q) reply).1 := trivial
  rw [List.forall_mem_cons, List.findSome?_cons]
  cases reply with
  | error f =>
    obtain ⟨rfl, rfl⟩ := hrest
    exact ⟨⟨head, by simp⟩, congrArg some (named f)⟩
  | ok reply =>
    have told : trouble operation (said (.query q) (.ok reply)) = reply.unread (some e) read :=
      unread reply
    change match reply.first? read with
      | .error e => zs = [] ∧ r = .error e
      | .ok found => (f found).run.Ran zs r at hrest
    rw [told, Reply.unread]
    rcases hfirst : reply.first? read with e' | (_ | a)
    · rw [hfirst] at hrest
      obtain ⟨rfl, rfl⟩ := hrest
      exact ⟨⟨head, by simp⟩, rfl⟩
    · rw [hfirst] at hrest
      dsimp only at hrest
      rw [nothing] at hrest
      obtain ⟨rfl, rfl⟩ := ran_throw.1 hrest
      exact ⟨⟨head, by simp⟩, rfl⟩
    · rw [hfirst] at hrest
      obtain ⟨inner, first⟩ := something a zs r hrest
      exact ⟨⟨head, inner⟩, first⟩

end RiskReport.Database

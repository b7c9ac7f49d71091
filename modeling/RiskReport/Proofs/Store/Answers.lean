import Mathlib.Logic.Relation
import RiskReport.Proofs.Store.Atomic
import RiskReport.Proofs.Store.Lookup

/-!
# Answers as they were written last

Sessions, questions and answers are put into an empty store in any order, and some of them are
refused. `written?` and `current?` read off from what was put in which text a session has written
last for a question, and how a question was worded last; all that is asked of the store for this is
which answers succeeded. The tables of the store hold just that (`holds_filled`), so the answers of
a session are one row for each question that it has answered, in the order of the questionnaire
(`Holds.shows`). Such a list of rows is determined by `written?` and `current?` (`Shows.unique`);
nothing else can matter to it.

What does not matter is spelled out by `Rearranges`: answers to different questions change places,
an accepted answer is given later, the score that the visitor was shown is another one, an answer
in another session is left out. None of it changes what the session has written
(`Rearranges.alike`).

**Theorem (`answers_last_written`).** After every history the answers of a session are the rows that
it has written last, and they are the same rows however the history is rearranged and in whatever
order the tables list their entries.
-/

namespace RiskReport

/-- Something that is put into a store, with what its request takes from outside. -/
inductive Submission where
  | session (supply : Supply) (anonToken : String)
  | question (q : Question)
  | answer (supply : Supply) (a : NewAnswer)

namespace Memory

/-! ## Filling a store -/

/-- The store after something was put in. A refusal leaves it as it is. -/
def submit (m : Memory) : Submission → Memory
  | .session supply anonToken => (m.answer supply (.createSession anonToken)).2
  | .question q => m.insertQuestion q
  | .answer supply a => (m.answer supply (.upsertAnswer a)).2

/-- An empty store after some submissions, the latest first. -/
def filled : List Submission → Memory
  | [] => .empty
  | x :: earlier => (filled earlier).submit x

/-- Whether an answer succeeds. -/
def accepts (m : Memory) (a : NewAnswer) : Bool :=
  (m.upsertAnswer a).isOk

/-- The text that a session has written last for a question, among the answers that succeeded. -/
def written? : List Submission → SessionId → String → Option String
  | [], _, _ => none
  | .answer _ a :: earlier, session, question =>
    if (a.session, a.question) = (session, question) ∧ (filled earlier).accepts a then some a.text
    else written? earlier session question
  | .session .. :: earlier, session, question | .question _ :: earlier, session, question =>
    written? earlier session question

/-- A question as it was put in last. -/
def current? : List Submission → String → Option Question
  | [], _ => none
  | .question q :: earlier, id => if q.id = id then some q else current? earlier id
  | .session .. :: earlier, id | .answer .. :: earlier, id => current? earlier id

variable {m m' : Memory} {history history' : List Submission} {session : SessionId}

theorem accepts_eq (a : NewAnswer) :
    m.accepts a = (m.sessions.contains a.session && m.questions.contains a.question) := by
  unfold accepts upsertAnswer
  cases m.sessions.contains a.session with
  | false => rfl
  | true => cases m.questions.contains a.question <;> rfl

theorem accepts_congr (hs : m.sessions = m'.sessions) (hq : m.questions = m'.questions)
    (a : NewAnswer) : m.accepts a = m'.accepts a := by
  rw [accepts_eq, accepts_eq, hs, hq]

theorem submit_answer (supply : Supply) (a : NewAnswer) :
    m.submit (.answer supply a) = if m.accepts a then m.insertAnswer a else m := by
  rw [accepts_eq]
  simp only [submit, answer, respond, upsertAnswer]
  cases m.sessions.contains a.session with
  | false => rfl
  | true => cases m.questions.contains a.question <;> rfl

theorem sessions_submit_answer (supply : Supply) (a : NewAnswer) :
    (m.submit (.answer supply a)).sessions = m.sessions := by
  rw [submit_answer]
  split_ifs <;> rfl

theorem questions_submit_answer (supply : Supply) (a : NewAnswer) :
    (m.submit (.answer supply a)).questions = m.questions := by
  rw [submit_answer]
  split_ifs <;> rfl

/-- An answer does not matter to whether another one succeeds. -/
theorem accepts_submit_answer (supply : Supply) (a b : NewAnswer) :
    (m.submit (.answer supply a)).accepts b = m.accepts b :=
  accepts_congr (sessions_submit_answer supply a) (questions_submit_answer supply a) b

/-- A session that is begun is another row of the table of sessions, or nothing. -/
theorem submit_session (supply : Supply) (anonToken : String) :
    m.submit (.session supply anonToken) =
      if m.sessions.rows.any (·.anonToken == anonToken) then m
      else m.insertSession (.opened supply.session anonToken supply.now) := by
  simp only [submit, answer, respond, createSession]
  split_ifs <;> rfl

/-- What becomes of the sessions does not depend on the other tables. -/
theorem sessions_submit (h : m.sessions = m'.sessions) (x : Submission) :
    (m.submit x).sessions = (m'.submit x).sessions := by
  cases x with
  | session supply anonToken =>
    rw [submit_session, submit_session, h]
    split_ifs
    · exact h
    · exact congrArg (Table.insert · _ _) h
  | question q => exact h
  | answer supply a => rw [sessions_submit_answer, sessions_submit_answer, h]

/-- What becomes of the questions does not depend on the other tables. -/
theorem questions_submit (h : m.questions = m'.questions) (x : Submission) :
    (m.submit x).questions = (m'.submit x).questions := by
  cases x with
  | session supply anonToken =>
    rw [submit_session, submit_session]
    split_ifs <;> exact h
  | question q => exact congrArg (Table.insert · _ _) h
  | answer supply a => rw [questions_submit_answer, questions_submit_answer, h]

/-- A session or a question that is put in does not take away the success of an answer. -/
theorem accepts_submit {a : NewAnswer} {x : Submission} (h : m.accepts a = true)
    (hx : ∀ supply b, x ≠ .answer supply b) : (m.submit x).accepts a = true := by
  rw [accepts_eq, Bool.and_eq_true, Table.contains_iff, Table.contains_iff] at h ⊢
  cases x with
  | session supply anonToken =>
    rw [submit_session]
    split_ifs
    · exact h
    · exact ⟨Table.exists_get?_insert h.1, h.2⟩
  | question q => exact ⟨h.1, Table.exists_get?_insert h.2⟩
  | answer supply b => exact absurd rfl (hx supply b)

/-- An answer to another question, or in another session, is passed over. -/
theorem written?_answer_of_ne {supply : Supply} {a : NewAnswer} {question : String}
    (h : (a.session, a.question) ≠ (session, question)) :
    written? (.answer supply a :: history) session question = written? history session question :=
  if_neg fun both => h both.1

/-! ## What a filled store holds -/

/-- A store holds the texts and the questions of a history, as they were put in last. -/
structure Holds (m : Memory) (history : List Submission) : Prop where
  distinct : m.answers.Distinct
  keyed : m.questions.Keyed (·.id)
  written : ∀ session question,
    (m.answers.get? (session, question)).map (·.text) = written? history session question
  current : ∀ id, m.questions.get? id = current? history id

theorem Holds.submit_session (h : Holds (filled history) history) (supply : Supply)
    (anonToken : String) :
    Holds (filled (.session supply anonToken :: history))
      (.session supply anonToken :: history) := by
  rw [filled, Memory.submit_session]
  split_ifs
  · exact ⟨h.distinct, h.keyed, h.written, h.current⟩
  · exact ⟨h.distinct, h.keyed, h.written, h.current⟩

theorem Holds.submit_question (h : Holds (filled history) history) (q : Question) :
    Holds (filled (.question q :: history)) (.question q :: history) := by
  refine ⟨h.distinct, h.keyed.insert, h.written, fun id => ?_⟩
  simp only [filled, submit, insertQuestion, Table.get?_insert, current?, h.current,
    eq_comm (a := id)]

theorem Holds.submit_answer (h : Holds (filled history) history) (supply : Supply)
    (a : NewAnswer) :
    Holds (filled (.answer supply a :: history)) (.answer supply a :: history) := by
  rw [filled, Memory.submit_answer]
  by_cases accepted : (filled history).accepts a = true
  · rw [if_pos accepted]
    refine ⟨h.distinct.insert, h.keyed, fun session question => ?_, h.current⟩
    by_cases same : (a.session, a.question) = (session, question)
    · rw [written?, if_pos ⟨same, accepted⟩, ← same]
      exact congrArg (Option.map StoredAnswer.text) Table.get?_insert_self
    · rw [written?, if_neg fun both => same both.1, ← h.written]
      exact congrArg (Option.map StoredAnswer.text) (Table.get?_insert_of_ne (Ne.symm same))
  · rw [if_neg accepted]
    refine ⟨h.distinct, h.keyed, fun session question => ?_, h.current⟩
    rw [written?, if_neg fun both => accepted both.2]
    exact h.written session question

/-- Whatever is put in, the store holds it. -/
theorem holds_filled (history : List Submission) : Holds (filled history) history := by
  induction history with
  | nil => exact ⟨Table.distinct_empty, Table.keyed_empty, fun _ _ => rfl, fun _ => rfl⟩
  | cons x earlier ih =>
    cases x with
    | session supply anonToken => exact ih.submit_session supply anonToken
    | question q => exact ih.submit_question q
    | answer supply a => exact ih.submit_answer supply a

/-- The order in which the tables list their entries does not matter. -/
theorem Holds.perm (h : Holds m history) (answers : m'.answers.entries.Perm m.answers.entries)
    (questions : m'.questions.entries.Perm m.questions.entries) : Holds m' history where
  distinct := h.distinct.perm answers
  keyed := h.keyed.perm questions
  written session question := by
    rw [h.distinct.get?_perm answers]
    exact h.written session question
  current id := by
    rw [h.keyed.distinct.get?_perm questions]
    exact h.current id

/-- A question that was answered was put in before. -/
theorem exists_current {question text : String}
    (h : written? history session question = some text) :
    ∃ q, current? history question = some q := by
  induction history with
  | nil => cases h
  | cons x earlier ih =>
    cases x with
    | session => exact ih h
    | question q =>
      rw [current?]
      split_ifs
      · exact ⟨q, rfl⟩
      · exact ih h
    | answer supply a =>
      rw [written?] at h
      split_ifs at h with now
      · -- The answer succeeded, so its question was in the store then, and it stays there.
        obtain ⟨key, accepted⟩ := now
        obtain ⟨rfl, rfl⟩ := Prod.mk.inj key
        rw [accepts_eq, Bool.and_eq_true] at accepted
        obtain ⟨q, hq⟩ := Table.contains_iff.1 accepted.2
        exact ⟨q, ((holds_filled earlier).current _).symm.trans hq⟩
      · exact ih h

/-! ## Rows in the order of the questionnaire -/

section Rows

variable {written : String → Option String} {current : String → Option Question}
  {rows rows' : List AnswerRow}

/-- The question of one row comes before the question of another one. -/
def Precedes (current : String → Option Question) (row row' : AnswerRow) : Prop :=
  ∃ q q', current row.questionId = some q ∧ current row'.questionId = some q' ∧
    (q.sortOrder < q'.sortOrder ∨ q.sortOrder = q'.sortOrder ∧ row.questionId < row'.questionId)

/-- Rows that show what is written for the questions as they are now. -/
structure Shows (written : String → Option String) (current : String → Option Question)
    (rows : List AnswerRow) : Prop where
  /-- Exactly the questions for which something is written have rows. -/
  answered : ∀ question,
    question ∈ rows.map (·.questionId) ↔ ∃ text, written question = some text
  /-- No question has two rows. -/
  nodup : (rows.map (·.questionId)).Nodup
  row : ∀ row ∈ rows, ∃ q text, current row.questionId = some q ∧
    written row.questionId = some text ∧ row = q.answered text
  sorted : rows.Pairwise (Precedes current)

theorem Precedes.asymm {row row' : AnswerRow} (h : Precedes current row row') :
    ¬ Precedes current row' row := by
  intro h'
  obtain ⟨q, q', hq, hq', hlt⟩ := h
  obtain ⟨p', p, hp', hp, hlt'⟩ := h'
  obtain rfl := Option.some.inj (hq.symm.trans hp)
  obtain rfl := Option.some.inj (hq'.symm.trans hp')
  rcases hlt with hlt | ⟨heq, hlt⟩
  · omega
  · rcases hlt' with hlt' | ⟨-, hlt'⟩
    · omega
    · exact String.lt_asymm hlt hlt'

theorem Shows.subset (h : Shows written current rows) (h' : Shows written current rows') :
    rows ⊆ rows' := by
  intro row hrow
  have hanswered := (h.answered _).1 (List.mem_map_of_mem (f := (·.questionId)) hrow)
  obtain ⟨row', hrow', hid⟩ := List.mem_map.1 ((h'.answered _).2 hanswered)
  obtain ⟨q, text, hq, htext, heq⟩ := h.row row hrow
  obtain ⟨q', text', hq', htext', heq'⟩ := h'.row row' hrow'
  rw [hid] at hq' htext'
  obtain rfl := Option.some.inj (hq.symm.trans hq')
  obtain rfl := Option.some.inj (htext.symm.trans htext')
  rw [heq, ← heq']
  exact hrow'

/-- What is written, and the questions, determine the rows and their order. -/
theorem Shows.unique (h : Shows written current rows) (h' : Shows written current rows') :
    rows = rows' := by
  have hperm : rows.Perm rows' :=
    (List.perm_ext_iff_of_nodup h.nodup.of_map h'.nodup.of_map).2 fun row =>
      ⟨fun hrow => h.subset h' hrow, fun hrow => h'.subset h hrow⟩
  -- Rows that are sorted strictly have no other order.
  refine hperm.eq_of_pairwise (fun row row' _ _ hlt hlt' => ?_) h.sorted h'.sorted
  exact absurd hlt' hlt.asymm

end Rows

theorem Holds.found (h : Holds m history) {question : String} {answer : StoredAnswer}
    {q : Question} (ha : m.answers.get? (session, question) = some answer)
    (hq : m.questions.get? question = some q) :
    current? history q.id = some q ∧ written? history session q.id = some answer.text := by
  have hid : q.id = question := h.keyed.key _ _ hq
  rw [hid, ← h.current, ← h.written, ha]
  exact ⟨hq, rfl⟩

/-- A store shows the answers that it holds. -/
theorem Holds.shows (h : Holds m history) (session : SessionId) :
    Shows (written? history session) (current? history) (m.answersOf session) where
  answered question := by
    simp only [List.mem_map, mem_answersOf h.distinct]
    constructor
    · intro h'
      obtain ⟨row, ⟨_, answer, q, ha, hq, rfl⟩, rfl⟩ := h'
      exact ⟨answer.text, (h.found ha hq).2⟩
    · intro h'
      obtain ⟨text, htext⟩ := h'
      obtain ⟨q, hq⟩ := exists_current htext
      rw [← h.current] at hq
      rw [← h.written] at htext
      obtain ⟨answer, ha, -⟩ := Option.map_eq_some_iff.1 htext
      exact ⟨_, ⟨question, answer, q, ha, hq, rfl⟩, h.keyed.key _ _ hq⟩
  nodup := nodup_answersOf h.distinct h.keyed
  row row hrow := by
    obtain ⟨question, answer, q, ha, hq, rfl⟩ := (mem_answersOf h.distinct).1 hrow
    exact ⟨q, answer.text, (h.found ha hq).1, (h.found ha hq).2, rfl⟩
  sorted := by
    rw [answersOf_eq, List.pairwise_map]
    refine (pairwise_placed h.distinct h.keyed).imp_of_mem fun hx hy hlt => ?_
    rw [List.mem_mergeSort, mem_placed h.distinct] at hx hy
    obtain ⟨_, answer, q, ha, hq, rfl⟩ := hx
    obtain ⟨_, answer', q', ha', hq', rfl⟩ := hy
    exact ⟨q, q', (h.found ha hq).1, (h.found ha' hq').1, hlt⟩

/-! ## What does not matter -/

/-- Two histories, the latest first, that differ in something that does not matter to the answers
of a session. -/
inductive Rearranges (session : SessionId) : List Submission → List Submission → Prop
  /-- Two answers change places, unless they are for one question of one session. -/
  | swapped {supply supply' : Supply} {a b : NewAnswer} {history : List Submission}
      (h : (a.session, a.question) ≠ (b.session, b.question)) :
      Rearranges session (.answer supply a :: .answer supply' b :: history)
        (.answer supply' b :: .answer supply a :: history)
  /-- An answer that succeeds is given after the next session or question instead of before. -/
  | delayed {supply : Supply} {a : NewAnswer} {x : Submission} {history : List Submission}
      (h : (filled history).accepts a = true) (hx : ∀ supply' b, x ≠ .answer supply' b) :
      Rearranges session (x :: .answer supply a :: history) (.answer supply a :: x :: history)
  /-- The score that the visitor was shown is another one. -/
  | previewed {supply supply' : Supply} {a : NewAnswer} {history : List Submission}
      (preview : Option RiskScore) :
      Rearranges session (.answer supply a :: history)
        (.answer supply' { a with preview := preview } :: history)
  /-- An answer in another session is left out. -/
  | omitted {supply : Supply} {a : NewAnswer} {history : List Submission}
      (h : a.session ≠ session) : Rearranges session (.answer supply a :: history) history
  /-- The difference is further in the past. -/
  | later {history history' : List Submission} (x : Submission)
      (h : Rearranges session history history') :
      Rearranges session (x :: history) (x :: history')

/-- Histories with the same sessions and questions in which a session has written the same. -/
structure Alike (session : SessionId) (history history' : List Submission) : Prop where
  sessions : (filled history).sessions = (filled history').sessions
  questions : (filled history).questions = (filled history').questions
  written : written? history session = written? history' session

namespace Alike

theorem refl (history : List Submission) : Alike session history history :=
  ⟨rfl, rfl, rfl⟩

theorem symm (h : Alike session history history') : Alike session history' history :=
  ⟨h.sessions.symm, h.questions.symm, h.written.symm⟩

theorem trans {history'' : List Submission} (h : Alike session history history')
    (h' : Alike session history' history'') : Alike session history history'' :=
  ⟨h.sessions.trans h'.sessions, h.questions.trans h'.questions, h.written.trans h'.written⟩

theorem accepts_eq (h : Alike session history history') (a : NewAnswer) :
    (filled history).accepts a = (filled history').accepts a :=
  accepts_congr h.sessions h.questions a

theorem current_eq (h : Alike session history history') : current? history = current? history' := by
  funext id
  rw [← (holds_filled history).current, ← (holds_filled history').current, h.questions]

theorem later (h : Alike session history history') (x : Submission) :
    Alike session (x :: history) (x :: history') := by
  refine ⟨sessions_submit h.sessions x, questions_submit h.questions x, ?_⟩
  cases x with
  | session | question => exact h.written
  | answer supply a =>
    funext question
    rw [written?, written?, h.accepts_eq, h.written]

theorem swapped {supply supply' : Supply} {a b : NewAnswer}
    (h : (a.session, a.question) ≠ (b.session, b.question)) :
    Alike session (.answer supply a :: .answer supply' b :: history)
      (.answer supply' b :: .answer supply a :: history) := by
  refine ⟨?_, ?_, ?_⟩
  · simp only [filled, sessions_submit_answer]
  · simp only [filled, questions_submit_answer]
  · funext question
    by_cases ha : (a.session, a.question) = (session, question)
    · have hb : (b.session, b.question) ≠ (session, question) := fun hb => h (ha.trans hb.symm)
      rw [written?_answer_of_ne hb, written?, written?_answer_of_ne hb, filled,
        accepts_submit_answer, written?]
    · rw [written?_answer_of_ne ha, written?, written?, written?_answer_of_ne ha, filled,
        accepts_submit_answer]

theorem delayed {supply : Supply} {a : NewAnswer} {x : Submission}
    (h : (filled history).accepts a = true) (hx : ∀ supply' b, x ≠ .answer supply' b) :
    Alike session (x :: .answer supply a :: history) (.answer supply a :: x :: history) := by
  refine ⟨?_, ?_, ?_⟩
  · simp only [filled, sessions_submit_answer]
    exact sessions_submit (sessions_submit_answer supply a) x
  · simp only [filled, questions_submit_answer]
    exact questions_submit (questions_submit_answer supply a) x
  · funext question
    have haccepts : (filled (x :: history)).accepts a = true := accepts_submit h hx
    cases x with
    | session | question => simp only [written?, h, haccepts]
    | answer supply' b => exact absurd rfl (hx supply' b)

theorem previewed {supply supply' : Supply} {a : NewAnswer} (preview : Option RiskScore) :
    Alike session (.answer supply a :: history)
      (.answer supply' { a with preview := preview } :: history) := by
  refine ⟨?_, ?_, ?_⟩
  · simp only [filled, sessions_submit_answer]
  · simp only [filled, questions_submit_answer]
  · funext question
    rw [written?, written?, Memory.accepts_eq, Memory.accepts_eq]

theorem omitted {supply : Supply} {a : NewAnswer} (h : a.session ≠ session) :
    Alike session (.answer supply a :: history) history := by
  refine ⟨sessions_submit_answer supply a, questions_submit_answer supply a, ?_⟩
  funext question
  exact written?_answer_of_ne fun key => h (Prod.mk.inj key).1

end Alike

/-- What is rearranged leaves the answers of the session as they are written. -/
theorem Rearranges.alike (h : Rearranges session history history') :
    Alike session history history' := by
  induction h with
  | swapped h => exact .swapped h
  | delayed h hx => exact .delayed h hx
  | previewed preview => exact .previewed preview
  | omitted h => exact .omitted h
  | later x _ ih => exact ih.later x

/-- So do rearrangements one after the other, there and back. -/
theorem alike_of_eqvGen (h : Relation.EqvGen (Rearranges session) history history') :
    Alike session history history' := by
  induction h with
  | rel _ _ h => exact h.alike
  | refl history => exact .refl history
  | symm _ _ _ ih => exact ih.symm
  | trans _ _ _ _ _ ih ih' => exact ih.trans ih'

/-! ## The answers of a session -/

/-- **Answers as they were written last.** After every history of sessions, questions and answers,
refused ones among them, a session has one row for each question that it has answered, with the
text of its last answer that succeeded and with the question as it is now, sorted by the places of
the questions and then by their identifiers, and no question has two rows. No other list of rows
is like this. A store gives these rows also after a history in which answers to different questions
change places, an answer that succeeds is given later, other scores are shown or other sessions'
answers are left out, one after the other and there and back; and it gives them in whatever order
its tables list their entries. -/
theorem answers_last_written (history : List Submission) (session : SessionId) :
    ∃ rows, Shows (written? history session) (current? history) rows ∧
      (∀ rows', Shows (written? history session) (current? history) rows' → rows' = rows) ∧
      ∀ history', Relation.EqvGen (Rearranges session) history history' →
        ∀ m : Memory, m.answers.entries.Perm (filled history').answers.entries →
          m.questions.entries.Perm (filled history').questions.entries →
            ∀ supply, m.answer supply (.answers session) = (.ok rows, m) := by
  have hshows := (holds_filled history).shows session
  refine ⟨_, hshows, fun rows' h => h.unique hshows, ?_⟩
  intro history' hr m answers questions supply
  have halike := alike_of_eqvGen hr
  have hm := ((holds_filled history').perm answers questions).shows session
  rw [← halike.written, ← halike.current_eq] at hm
  rw [← hm.unique hshows]
  rfl

end Memory

namespace Sample

/-- A second question, in some place. -/
def access (place : Int) : Question :=
  { question with id := "access", sortOrder := place }

/-- An answer in the session of the visitor. -/
def given (question text : String) : NewAnswer :=
  ⟨⟨⟨1⟩⟩, question, text, none⟩

/-- The visitor has answered the second question, which comes after the first one. -/
def asked : List Submission :=
  [.answer (supply 2) (given "access" "No"), .session (supply 1) "visitor",
    .question (access 2), .question question]

/-- The visitor answers the first question and changes the answer to the second one, and the
second one is moved up to the place of the first one. -/
def revised : List Submission :=
  .question (access 1) :: .answer (supply 4) (given "access" "Yes") ::
    .answer (supply 3) (given "backups" "No") :: asked

/-- The visitor changes the answer to the second question before answering the first one. -/
def hurried : List Submission :=
  .question (access 1) :: .answer (supply 3) (given "backups" "No") ::
    .answer (supply 4) (given "access" "Yes") :: asked

end Sample

namespace Memory

/-- Both orders of the sample yield the changed answer, and it comes first: the places are equal
now, and the identifiers decide. -/
theorem answers_last_written_sample :
    (filled Sample.hurried).answer (Sample.supply 5) (.answers ⟨⟨1⟩⟩) =
      (.ok [(Sample.access 1).answered "Yes", Sample.question.answered "No"],
        filled Sample.hurried) := by
  obtain ⟨rows, -, -, same⟩ := answers_last_written Sample.revised ⟨⟨1⟩⟩
  have hrows : rows = [(Sample.access 1).answered "Yes", Sample.question.answered "No"] := by
    have hanswer := same _ (.refl _) _ (.refl _) (.refl _) (Sample.supply 5)
    have hsorted : (filled Sample.revised).answersOf ⟨⟨1⟩⟩ = rows :=
      Except.ok.inj (Prod.mk.inj hanswer).1
    rw [← hsorted, answersOf_eq, List.mergeSort_of_pairwise (by decide)]
    rfl
  rw [← hrows]
  exact same _ (.rel _ _ (.later _ (.swapped (by decide)))) _ (.refl _) (.refl _) _

end Memory

end RiskReport

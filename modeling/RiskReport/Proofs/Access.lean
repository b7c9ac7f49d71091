import RiskReport.Proofs.Job.Making

/-!
# What the holder of a token sees in the course of time

Before a report has been begun its token opens nothing. Then it shows a draft, and then either the
finished report or that the report was given up; and that is what it shows from then on, whatever
else is asked of the store. `ReportAccess.Follows` is one step of this course, and `access_follows`
says that every request takes what a token shows by such a step.

**Theorem (`access_course`).** What a token shows while requests follow one another is nothing for
some time, a draft for some time, and then one and the same finished report, or a report that was
given up, for ever.
-/

namespace RiskReport

open Memory

/-! ## The course of a report -/

namespace ReportAccess

/-- What a token may show after what it has shown. -/
inductive Follows : ReportAccess → ReportAccess → Prop
  | same (a : ReportAccess) : Follows a a
  | begun : Follows .notFound (.pending .draft)
  | finished (view : ReportView) : Follows (.pending .draft) (.ready view)
  | givenUp : Follows (.pending .draft) (.pending .error)

/-- Nothing follows but the same: the report is ready, or it was given up. -/
def Settled (a : ReportAccess) : Prop :=
  a = .pending .error ∨ ∃ view, a = .ready view

theorem Follows.eq_of_settled {a b : ReportAccess} (h : a.Follows b) (ha : a.Settled) : b = a := by
  rcases ha with rfl | ⟨view, rfl⟩ <;> cases h <;> rfl

variable {as : List ReportAccess}

theorem course_of_settled {a : ReportAccess} (h : List.IsChain Follows (a :: as))
    (ha : a.Settled) : as = List.replicate as.length a := by
  induction as with
  | nil => rfl
  | cons b as ih =>
    obtain ⟨hab, hbs⟩ := List.isChain_cons_cons.1 h
    obtain rfl := hab.eq_of_settled ha
    exact congrArg (b :: ·) (ih hbs)

theorem course_of_draft (h : List.IsChain Follows (.pending .draft :: as)) :
    ∃ drafted settled last, last.Settled ∧
      as = List.replicate drafted (.pending .draft) ++ List.replicate settled last := by
  induction as with
  | nil => exact ⟨0, 0, .pending .error, .inl rfl, rfl⟩
  | cons b as ih =>
    obtain ⟨hab, hbs⟩ := List.isChain_cons_cons.1 h
    -- Whatever is not a draft any more stays what it is.
    have settled (hb : b.Settled) : ∃ drafted settled last, last.Settled ∧ b :: as =
        List.replicate drafted (.pending .draft) ++ List.replicate settled last :=
      ⟨0, as.length + 1, b, hb, congrArg (b :: ·) (course_of_settled hbs hb)⟩
    cases hab with
    | same =>
      obtain ⟨drafted, count, last, hlast, rfl⟩ := ih hbs
      exact ⟨drafted + 1, count, last, hlast, rfl⟩
    | finished view => exact settled (.inr ⟨view, rfl⟩)
    | givenUp => exact settled (.inl rfl)

theorem course_of_notFound (h : List.IsChain Follows (.notFound :: as)) :
    ∃ hidden drafted settled last, last.Settled ∧
      as = List.replicate hidden .notFound ++ List.replicate drafted (.pending .draft) ++
        List.replicate settled last := by
  induction as with
  | nil => exact ⟨0, 0, 0, .pending .error, .inl rfl, rfl⟩
  | cons b as ih =>
    obtain ⟨hab, hbs⟩ := List.isChain_cons_cons.1 h
    cases hab with
    | same =>
      obtain ⟨hidden, drafted, settled, last, hlast, rfl⟩ := ih hbs
      exact ⟨hidden + 1, drafted, settled, last, hlast, rfl⟩
    | begun =>
      obtain ⟨drafted, settled, last, hlast, rfl⟩ := course_of_draft hbs
      exact ⟨0, drafted + 1, settled, last, hlast, rfl⟩

end ReportAccess

/-! ## One request -/

section

variable {m m' : Memory} {supply : Supply} {call : StoreCall} {r r' : Report}

/-- A reader of a report sees how far the report has got. -/
theorem shown_follows (hs : m.Sound) (fresh : supply.Fresh m) (he : Effect m supply call m')
    (found : m.reports.get? r.id = some r) (ht : r.Turns r') :
    (m.shown r).Follows (m'.shown r') := by
  have hc : r.Coherent (m.results.get? r.id) := hs.coherent _ _ found
  generalize m.results.get? r.id = rows at hc
  cases hc with
  | draft status =>
    rw [shown, if_neg (by simp [status]), status]
    cases ht with
    | same =>
      rw [shown, if_neg (by simp [status]), status]
      exact .same _
    | finished => exact .finished _
    | givenUp => exact .givenUp
  | error status =>
    rw [shown, if_neg (by simp [status]), shown, if_neg (by simp [ht.status_of_error status]),
      ht.status_of_error status, status]
    exact .same _
  | ready status =>
    obtain rfl := ht.eq_of_ready status
    obtain ⟨s, hsession, -⟩ := hs.paidFor _ _ found
    have hname := hs.businessName_lasts fresh he hsession
    have hview : r'.view (m'.riskResults r'.id) (m'.sessions.get? r'.sessionId) =
        r'.view (m.riskResults r'.id) (m.sessions.get? r'.sessionId) := by
      rw [Report.view, Report.view, hs.rows_last he found status, hname, hsession]
      rfl
    rw [shown, if_pos status, shown, if_pos status, hview]
    exact .same _

/-- A request takes what a token shows one step further, or leaves it. -/
theorem access_follows (hs : m.Sound) (ht : m.reports.Apart (·.accessToken)) (new : supply.New m)
    (he : Effect m supply call m') (token : String) :
    (m.access token).Follows (m'.access token) := by
  unfold access opened?
  split_ifs with hblank
  · exact .same _
  · have hs' := hs.effect new.toFresh he
    have ht' := hs.tokens_apart new ht he
    cases hr : m.reportByToken (Text.trim token) with
    | none =>
      cases hr' : m'.reportByToken (Text.trim token) with
      | none => exact .same _
      | some r' =>
        obtain ⟨found', htoken⟩ := reportByToken_eq_some hs'.reports hr'
        rcases hs.origin new.toFresh he found' with ⟨r, found, hturns⟩ | ⟨session, rfl⟩
        · rw [hturns.accessToken_eq] at htoken
          exact absurd htoken (reportByToken_eq_none hr found)
        · exact .begun
    | some r =>
      obtain ⟨found, htoken⟩ := reportByToken_eq_some hs.reports hr
      obtain ⟨r', found', hturns⟩ := hs.turns new.toFresh he found
      have hr' := reportByToken_eq hs'.reports ht' found'
      rw [hturns.accessToken_eq, htoken] at hr'
      rw [hr']
      exact shown_follows hs new.toFresh he found hturns

/-- The order in which a store lists its entries does not matter to what a token shows. -/
theorem access_rearranged (hs : m.Sound) (ht : m.reports.Apart (·.accessToken))
    (hr : m.Rearranged m') (token : String) : m'.access token = m.access token := by
  have hopened : m'.opened? token = m.opened? token := by
    unfold opened?
    rw [reportByToken_rearranged hs ht hr]
  have hshown : m'.shown = m.shown := by
    funext r
    unfold shown
    rw [hs.riskResults_rearranged hr, hs.sessions.distinct.get?_perm hr.sessions]
  rw [access, access, hopened, hshown]

/-- What a token shows over some states that follow one another. -/
theorem isChain_access {states : List Memory} (hs : m.Sound)
    (ht : m.reports.Apart (·.accessToken)) (h : List.IsChain (Step Supply.New) (m :: states))
    (token : String) : List.IsChain ReportAccess.Follows ((m :: states).map (·.access token)) := by
  induction states generalizing m with
  | nil => exact .singleton _
  | cons m' states ih =>
    obtain ⟨hstep, hrest⟩ := List.isChain_cons_cons.1 h
    cases hstep with
    | @request supply call new =>
      have he := answer_effect m supply call
      have hchain := ih (hs.effect new.toFresh he) (hs.tokens_apart new ht he) hrest
      exact .cons_cons (access_follows hs ht new he token) hchain
    | question q => exact .cons_cons (.same _) (ih (hs.insertQuestion q) ht hrest)
    | rearranged hr =>
      have hchain := ih (hs.rearranged hr) (ht.perm hs.reports.distinct hr.reports) hrest
      refine .cons_cons ?_ hchain
      dsimp only
      rw [access_rearranged hs ht hr token]
      exact .same _

end

/-! ## The course of time -/

/-- **The course of a report.** A store begins empty and takes some requests and questions, with new
identifiers and tokens from outside, and what it keeps may change places. What a token shows in the
states of the store, one after the other, is nothing for some time, then a draft for some time, and
then a report that was given up or one and the same view of a finished report; and looking at it
never changes the store. -/
theorem access_course {states : List Memory}
    (h : List.IsChain (Step Supply.New) (.empty :: states)) (token : String) :
    (∃ (hidden drafted settled : Nat) (last : ReportAccess),
      (last = .pending .error ∨ ∃ view, last = .ready view) ∧
      ∀ c : Surroundings,
        (Memory.empty :: states).map (fun m => ((fetchReport token).outcome c.answer m).1) =
          (List.replicate hidden ReportAccess.notFound ++
            List.replicate drafted (ReportAccess.pending .draft) ++
            List.replicate settled last).map .ok) ∧
      ∀ (c : Surroundings) (m : Memory), ((fetchReport token).outcome c.answer m).2 = m := by
  have hchain := isChain_access sound_empty Table.apart_empty h token
  have hempty : Memory.empty.access token = .notFound := by
    unfold access opened?
    split_ifs <;> rfl
  rw [List.map_cons, hempty] at hchain
  obtain ⟨hidden, drafted, settled, last, hlast, hcourse⟩ :=
    ReportAccess.course_of_notFound hchain
  refine ⟨⟨hidden + 1, drafted, settled, last, hlast, fun c => ?_⟩, fun c m => ?_⟩
  · have hshown : (Memory.empty :: states).map (·.access token) =
        List.replicate (hidden + 1) .notFound ++ List.replicate drafted (.pending .draft) ++
          List.replicate settled last := by
      rw [List.map_cons, hempty, hcourse]
      rfl
    rw [← hshown, List.map_map]
    exact List.map_congr_left fun m _ => congrArg Prod.fst (fetchReport_access token)
  · exact congrArg Prod.snd (fetchReport_access token)

namespace Sample

/-- A visitor opens a session and pays, the report is made, and then somebody gives it up. -/
def visits : List Memory :=
  let opened := (Memory.empty.answer (supply 1) (.createSession "visitor")).2
  let attached := (opened.answer (supply 2) (.attachIntent ⟨⟨⟨1⟩⟩, none, "intent", none⟩)).2
  let begun := (attached.answer (supply 3) (.initialiseReport "intent")).2
  let made := (begun.answer (supply 4) (.persistReport { results with report := ⟨⟨3⟩⟩ })).2
  let late := (made.answer (supply 5) (.markReportFailed ⟨⟨3⟩⟩ "too late")).2
  [opened, attached, begun, made, late]

theorem isChain_visits : List.IsChain (Step Supply.New) (.empty :: visits) := by
  refine .cons_cons (.request _ ⟨⟨rfl, rfl⟩, ?_⟩) <| .cons_cons (.request _ ⟨⟨rfl, rfl⟩, ?_⟩) <|
    .cons_cons (.request _ ⟨⟨rfl, rfl⟩, ?_⟩) <| .cons_cons (.request _ ⟨⟨rfl, rfl⟩, ?_⟩) <|
    .cons_cons (.request _ ⟨⟨rfl, rfl⟩, ?_⟩) <| .singleton _
  all_goals decide +kernel

end Sample

/-- In the sample the token ends up showing the report that was made. -/
theorem access_course_sample :
    (∃ view, Sample.visits.map (·.access (AccessToken.ofBits 3).text) =
      [.notFound, .notFound, .pending .draft, .ready view, .ready view]) ∧
    ∃ (hidden drafted settled : Nat) (last : ReportAccess),
      (last = .pending .error ∨ ∃ view, last = .ready view) ∧
      ∀ c : Surroundings, (Memory.empty :: Sample.visits).map (fun m =>
          ((fetchReport (AccessToken.ofBits 3).text).outcome c.answer m).1) =
        (List.replicate hidden ReportAccess.notFound ++
          List.replicate drafted (ReportAccess.pending .draft) ++
          List.replicate settled last).map .ok :=
  ⟨⟨_, rfl⟩, (access_course Sample.isChain_visits _).1⟩

end RiskReport

import Mathlib.Tactic.SplitIfs
import RiskReport.Rehearsal.Progress

/-!
# Programs break down only with a collaborator

A program that is run in a world stops where it waits, and it breaks down only where a collaborator
does. The one collaborator of the stand-ins that can is the hedger. A world is `Sturdy` if its
hedger never breaks down; in such a world no program does, neither where it starts nor after a wait,
since what is left to do for a request that waits is sturdy as well (`runs_runWork`, `runs_poll`).

Whatever is run, the world goes on in a way that all programs share (`World.LeadsTo`): it keeps its
settings, it does not take a stop back, and what was asked stays in the journal.
-/

namespace RiskReport.Rehearsal

/-! ## How a world goes on -/

namespace World

/-- The hedger never breaks down. -/
def Sturdy (w : World) : Prop :=
  ∀ turn ∈ w.hedger, turn.panics = false

/-- A world goes on to another while programs are at work in it. -/
structure LeadsTo (w w' : World) : Prop where
  config : w'.config = w.config
  requested : w.shutdown.isRequested = true → w'.shutdown.isRequested = true
  sturdy : w.Sturdy → w'.Sturdy
  journal : w.journal <:+ w'.journal

variable {w w' w'' : World}

/-- A world goes on to one that differs in nothing that counts. -/
theorem leadsTo_of_eq (config : w'.config = w.config) (shutdown : w'.shutdown = w.shutdown)
    (hedger : w'.hedger = w.hedger) (journal : w'.journal = w.journal) : w.LeadsTo w' where
  config := config
  requested h := shutdown ▸ h
  sturdy h := by
    unfold Sturdy
    exact hedger ▸ h
  journal := journal ▸ List.suffix_rfl

theorem leadsTo_refl (w : World) : w.LeadsTo w :=
  leadsTo_of_eq rfl rfl rfl rfl

theorem LeadsTo.trans (h : w.LeadsTo w') (h' : w'.LeadsTo w'') : w.LeadsTo w'' where
  config := h'.config.trans h.config
  requested hw := h'.requested (h.requested hw)
  sturdy hw := h'.sturdy (h.sturdy hw)
  journal := h.journal.trans h'.journal

/-! ## Requests -/

/-- What is left to do for a request that waits does not break down. -/
def AfterWait.Sturdy : {call : ServiceCall} → AfterWait call → Prop
  | _, .store .. => True
  | _, .hedge _ turn => turn.panics = false

/-- A request goes on, and does not break down later. -/
def Begun.Sturdy {call : ServiceCall} : Option (Begun call) → Prop
  | none => False
  | some (.answered _) => True
  | some (.waits _ rest) => rest.Sturdy

end World

open World

/-- A run that begins in a world goes on to another world, and if the world is sturdy what the run
comes to is sturdy. -/
structure Runs {α : Type} (w : World) (sturdy : α → Prop) (r : α × World) : Prop where
  leadsTo : w.LeadsTo r.2
  sturdy : w.Sturdy → sturdy r.1

variable {α : Type} {w w' : World} {call : ServiceCall}

theorem Runs.after {sturdy : α → Prop} {r : α × World} (h : w.LeadsTo w')
    (hr : Runs w' sturdy r) : Runs w sturdy r :=
  ⟨h.trans hr.leadsTo, fun hw => hr.sturdy (h.sturdy hw)⟩

theorem Runs.assuming {sturdy : α → Prop} {r : α × World} {p : Prop} (hr : Runs w sturdy r) :
    Runs w (fun a => p → sturdy a) r :=
  ⟨hr.leadsTo, fun hw _ => hr.sturdy hw⟩

namespace World

theorem leadsTo_askStore (w : World) (call : StoreCall) : w.LeadsTo (w.askStore call).2 := by
  unfold askStore
  split_ifs
  · exact leadsTo_refl w
  · exact leadsTo_of_eq rfl rfl rfl rfl

theorem leadsTo_askDisturbed (w : World) (d : Disturbance) (call : StoreCall) :
    w.LeadsTo (w.askDisturbed d call).2 := by
  obtain ⟨e | e, alteration⟩ := d
  · cases alteration with
    | none => exact leadsTo_askStore w call
    | some a =>
      cases a with
      | blankIntent =>
        cases call with
        | attachIntent p => exact leadsTo_refl w
        | _ => exact leadsTo_askStore w _
      | _ => exact leadsTo_askStore w call
  · exact leadsTo_refl w

/-- A request that was sturdy when it began to wait is answered in the end. -/
theorem leadsTo_complete (w : World) (rest : AfterWait call) : w.LeadsTo (w.complete rest).2 := by
  cases rest with
  | store call d => exact leadsTo_askDisturbed w d call
  | hedge risks turn => exact leadsTo_refl w

theorem complete_of_sturdy {rest : AfterWait call} (h : rest.Sturdy) (w : World) :
    ∃ r, (w.complete rest).1 = some r := by
  cases rest with
  | store call d => exact ⟨_, rfl⟩
  | hedge risks turn =>
    have calm : turn.panics = false := h
    exact ⟨turn.stub.answer risks, by simp [complete, calm]⟩

theorem leadsTo_start (w : World) (delay : Nat) (rest : AfterWait call) :
    w.LeadsTo (w.start delay rest).2 := by
  unfold start
  split_ifs
  · exact leadsTo_complete w rest
  · exact leadsTo_refl w

theorem start_sturdy (w : World) (delay : Nat) (rest : AfterWait call) (h : rest.Sturdy) :
    Begun.Sturdy (w.start delay rest).1 := by
  unfold start
  split_ifs
  · obtain ⟨r, hr⟩ := complete_of_sturdy h w
    dsimp only
    rw [hr]
    trivial
  · exact h

theorem leadsTo_race (w : World) (session : SessionId) : w.LeadsTo (w.race session) := by
  unfold race
  split
  · exact leadsTo_refl w
  · dsimp only
    split_ifs
    · exact (leadsTo_askStore w _).trans (leadsTo_of_eq rfl rfl rfl rfl)
    · exact leadsTo_askStore w _

theorem leadsTo_createPayment (w : World) (p : NewPayment) :
    w.LeadsTo (w.createPayment p).2 := by
  unfold createPayment
  split
  · exact leadsTo_refl w
  · exact (leadsTo_race w _).trans (leadsTo_of_eq rfl rfl rfl rfl)

theorem leadsTo_handOff (w : World) (spans : List Log.Span) (r : ReportId) :
    w.LeadsTo (w.handOff spans r).2 := by
  unfold handOff
  split
  · exact leadsTo_refl w
  · exact leadsTo_refl w
  · split_ifs
    · unfold enqueueLogged enqueue
      rcases w.queue.enqueue r with ⟨e | queued, q⟩ <;> exact leadsTo_of_eq rfl rfl rfl rfl
    · exact leadsTo_refl w

/-- A hedger takes its turns in order and repeats the last one. -/
theorem runs_nextTurn (w : World) : Runs w (fun turn => turn.panics = false) w.nextTurn := by
  unfold nextTurn
  split
  · exact ⟨leadsTo_refl w, fun _ => rfl⟩
  · next turn hedger => exact ⟨leadsTo_refl w, fun h => h turn (by simp [hedger])⟩
  · next turn rest _ hedger =>
    refine ⟨⟨rfl, id, fun h t ht => ?_, List.suffix_rfl⟩, fun h => h turn (by simp [hedger])⟩
    exact h t (by
      rw [hedger]
      exact List.mem_cons_of_mem _ ht)

theorem runs_beginRehearsed (w : World) (spans : List Log.Span) (call : ServiceCall) :
    Runs w Begun.Sturdy (w.beginRehearsed spans call) := by
  cases call with
  | store call =>
    have hfaults (faults : List Fault) : w.LeadsTo { w with faults } :=
      leadsTo_of_eq rfl rfl rfl rfl
    simp only [beginRehearsed]
    split
    · exact ⟨(hfaults _).trans (leadsTo_askStore _ call), fun _ => trivial⟩
    · next f faults _ =>
      exact ⟨(hfaults faults).trans (leadsTo_start _ _ _),
        fun _ => start_sturdy _ _ (.store call f.disturbance) trivial⟩
  | hedge risks =>
    have hturn := runs_nextTurn w
    exact ⟨hturn.leadsTo.trans (leadsTo_start _ _ _),
      fun h => start_sturdy _ _ (.hedge risks w.nextTurn.1) (hturn.sturdy h)⟩
  | mail message => exact ⟨leadsTo_refl w, fun _ => trivial⟩
  | enqueue r => exact ⟨leadsTo_handOff w spans r, fun _ => trivial⟩
  | createPayment p => exact ⟨leadsTo_createPayment w p, fun _ => trivial⟩
  | clientSecret intent => exact ⟨leadsTo_refl w, fun _ => trivial⟩

/-- A world in which a request has been asked. -/
def asked (w : World) (call : ServiceCall) : World :=
  { w with journal := (w.now, call) :: w.journal }

theorem leadsTo_asked (w : World) (call : ServiceCall) : w.LeadsTo (w.asked call) where
  config := rfl
  requested := id
  sturdy := id
  journal := List.suffix_cons _ _

/-- A request is put on record before anything is done for it, and it does not break down. -/
theorem runs_begin (w : World) (spans : List Log.Span) (call : ServiceCall) :
    Runs (w.asked call) Begun.Sturdy (w.begin spans call) := by
  unfold begin
  dsimp only
  split
  · next r w' h =>
    obtain ⟨live, -, h⟩ := Option.bind_eq_some_iff.1 h
    obtain ⟨p, -, h⟩ := Option.bind_eq_some_iff.1 h
    cases h
    exact ⟨leadsTo_of_eq rfl rfl rfl rfl, fun _ => trivial⟩
  · exact runs_beginRehearsed _ spans call

end World

/-! ## Services -/

/-- A service that waits does not break down later. -/
def Suspended.Sturdy (s : Suspended α) : Prop := s.rest.Sturdy

/-- A service has not broken down, and will not if it waits. -/
def Progress.Sturdy : Progress α → Prop
  | .done _ => True
  | .waiting s => s.Sturdy
  | .crashed => False

theorem World.leadsTo_note (w : World) (spans : List Log.Span) (event : Log.Event) :
    w.LeadsTo (w.note spans event) :=
  leadsTo_of_eq rfl rfl rfl rfl

/-- The first request of a service is put on record before anything else happens. -/
theorem runs_ask {spans : List Log.Span} {next : call.Answer → Service α}
    (hnext : ∀ r w, Runs w Progress.Sturdy (runService (next r) w)) (w : World) :
    Runs (w.asked call) Progress.Sturdy (runService (.ask spans call next) w) := by
  have hbegin := runs_begin w spans call
  unfold runService
  rcases hb : w.begin spans call with ⟨_ | r | ⟨delay, rest⟩, w'⟩ <;> rw [hb] at hbegin
  · exact ⟨hbegin.leadsTo, hbegin.sturdy⟩
  · exact (hnext r w').after hbegin.leadsTo
  · exact ⟨hbegin.leadsTo.trans (leadsTo_of_eq rfl rfl rfl rfl), hbegin.sturdy⟩

/-- In a sturdy world a service does not break down. -/
theorem runs_runService (p : Service α) (w : World) : Runs w Progress.Sturdy (runService p w) := by
  induction p generalizing w with
  | done a => exact ⟨leadsTo_refl w, fun _ => trivial⟩
  | log spans event next ih => exact (ih _).after (leadsTo_note w spans event)
  | ask spans call next ih => exact (runs_ask ih w).after (leadsTo_asked w call)

/-- A service that was sturdy when it began to wait does not break down when it goes on. -/
theorem runs_resume (s : Suspended α) (w : World) :
    Runs w (fun progress => s.Sturdy → progress.Sturdy) (s.resume w) := by
  have hcomplete := leadsTo_complete w s.rest
  unfold Suspended.resume
  rcases hc : w.complete s.rest with ⟨_ | r, w'⟩ <;> rw [hc] at hcomplete
  · refine ⟨hcomplete, fun _ hs => ?_⟩
    obtain ⟨r, hr⟩ := complete_of_sturdy hs w
    rw [hc] at hr
    cases hr
  · exact ((runs_runService _ w').after hcomplete).assuming

/-! ## Programs of the runner -/

/-- A program of the runner has not broken down, and will not if it waits. -/
def WorkProgress.Sturdy : WorkProgress α → Prop
  | .done _ | .receiving _ | .pausing .. => True
  | .attempting _ job _ => job.Sturdy
  | .insisting _ job _ => job.Sturdy
  | .scanning job _ => job.Sturdy
  | .crashed => False

theorem World.leadsTo_timer (w : World) (delay : Nat) : w.LeadsTo (w.timer delay).2 :=
  leadsTo_of_eq rfl rfl rfl rfl

/-- In a sturdy world a program of the runner does not break down. -/
theorem runs_runWork (p : Work α) (w : World) : Runs w WorkProgress.Sturdy (runWork p w) := by
  induction p generalizing w with
  | done a => exact ⟨leadsTo_refl w, fun _ => trivial⟩
  | log spans event next ih => exact (ih _).after (leadsTo_note w spans event)
  | ask spans call next ih =>
    unfold runWork
    -- A job is done, or the program waits with it, or both break down.
    cases call with
    | receive => exact ⟨leadsTo_refl w, fun _ => trivial⟩
    | attempt timeout job =>
      dsimp only
      split
      · exact ih _ w
      · have hjob := runs_runService (job.within spans) w
        rcases hr : runService (job.within spans) w with ⟨r | s | _, w'⟩ <;> rw [hr] at hjob
        · exact (ih _ w').after hjob.leadsTo
        · dsimp only
          split
          · exact (ih _ w').after hjob.leadsTo
          · exact ⟨hjob.leadsTo.trans (leadsTo_timer w' timeout.ticks), hjob.sturdy⟩
        · exact ⟨hjob.leadsTo, hjob.sturdy⟩
    | pause delay =>
      dsimp only
      split_ifs
      · exact ih _ w
      · exact ih _ w
      · exact ⟨leadsTo_timer w delay.ticks, fun _ => trivial⟩
    | insist timeout job =>
      have hjob := runs_runService (job.within spans) w
      dsimp only
      rcases hr : runService (job.within spans) w with ⟨r | s | _, w'⟩ <;> rw [hr] at hjob
      · exact (ih _ w').after hjob.leadsTo
      · dsimp only
        split
        · exact (ih _ w').after hjob.leadsTo
        · exact ⟨hjob.leadsTo.trans (leadsTo_timer w' timeout.ticks), hjob.sturdy⟩
      · exact ⟨hjob.leadsTo, hjob.sturdy⟩
    | scan job =>
      have hjob := runs_runService (job.within spans) w
      dsimp only
      rcases hr : runService (job.within spans) w with ⟨r | s | _, w'⟩ <;> rw [hr] at hjob
      · exact (ih r w').after hjob.leadsTo
      · exact ⟨hjob.leadsTo, hjob.sturdy⟩
      · exact ⟨hjob.leadsTo, hjob.sturdy⟩
    | enqueue r =>
      have hw : w.LeadsTo (w.enqueue r).2 := leadsTo_of_eq rfl rfl rfl rfl
      exact (ih (w.enqueue r).1 _).after hw
    | release r =>
      have hw : w.LeadsTo { w with queue := w.queue.release r } := leadsTo_of_eq rfl rfl rfl rfl
      exact (ih () _).after hw
    | count c =>
      have hw : w.LeadsTo { w with queue := { w.queue with stats := w.queue.stats.count c } } :=
        leadsTo_of_eq rfl rfl rfl rfl
      exact (ih () _).after hw
    | now =>
      have hw : w.LeadsTo w.readClock.2 := leadsTo_of_eq rfl rfl rfl rfl
      exact (ih w.readClock.1 _).after hw

/-- A program that was sturdy when it began to wait does not break down when it goes on. -/
theorem runs_poll (p : WorkProgress α) (w : World) :
    Runs w (fun progress => p.Sturdy → progress.Sturdy) (p.poll w) := by
  -- A job whose wait is over goes on; the others wait on.
  have resumed {β : Type} (s : Suspended β) :
      Runs w (fun progress => s.Sturdy → progress.Sturdy)
        (if s.timer.due ≤ w.now then s.resume w else (.waiting s, w)) := by
    split
    · exact runs_resume s w
    · exact ⟨leadsTo_refl w, fun _ h => h⟩
  unfold WorkProgress.poll
  cases p with
  | done | receiving | crashed => exact ⟨leadsTo_refl w, fun _ h => h⟩
  | attempting t s next =>
    dsimp only
    split
    · exact (runs_runWork _ w).assuming
    · have hjob := resumed s
      rcases hr : (if s.timer.due ≤ w.now then s.resume w else (.waiting s, w)) with
        ⟨r | s' | _, w'⟩ <;> rw [hr] at hjob
      · exact ((runs_runWork _ w').after hjob.leadsTo).assuming
      · dsimp only
        split
        · exact ((runs_runWork _ w').after hjob.leadsTo).assuming
        · exact ⟨hjob.leadsTo, hjob.sturdy⟩
      · exact ⟨hjob.leadsTo, hjob.sturdy⟩
  | pausing t next =>
    dsimp only
    split_ifs
    · exact (runs_runWork _ w).assuming
    · exact (runs_runWork _ w).assuming
    · exact ⟨leadsTo_refl w, fun _ h => h⟩
  | insisting t s next =>
    have hjob := resumed s
    dsimp only
    rcases hr : (if s.timer.due ≤ w.now then s.resume w else (.waiting s, w)) with
      ⟨r | s' | _, w'⟩ <;> rw [hr] at hjob
    · exact ((runs_runWork _ w').after hjob.leadsTo).assuming
    · dsimp only
      split
      · exact ((runs_runWork _ w').after hjob.leadsTo).assuming
      · exact ⟨hjob.leadsTo, hjob.sturdy⟩
    · exact ⟨hjob.leadsTo, hjob.sturdy⟩
  | scanning s next =>
    dsimp only
    split
    · have hjob := runs_resume s w
      rcases hr : s.resume w with ⟨r | s' | _, w'⟩ <;> rw [hr] at hjob
      · exact ((runs_runWork _ w').after hjob.leadsTo).assuming
      · exact ⟨hjob.leadsTo, hjob.sturdy⟩
      · exact ⟨hjob.leadsTo, hjob.sturdy⟩
    · exact ⟨leadsTo_refl w, fun _ h => h⟩

end RiskReport.Rehearsal

import RiskReport.Proofs.Rehearsal.Endurance
import RiskReport.Rehearsal.Stage

/-!
# One task goes on

When a task of a runner is polled, the other tasks stay what they are, and those that had something
to go on with still have (`Stage.Turn`). Besides, no task ever breaks down on a stage that is
`Sound`: where time passes between two scans, the collaborators do not break down, and no task has
broken down yet. Every part of a poll is such a turn, and so is the whole (`Stage.turn_poll`).
-/

namespace RiskReport.Rehearsal

open World

/-- A task has not broken down, and will not while its collaborators do not. -/
def Task.Sturdy : Task → Prop
  | .worker _ (.working p) => p.Sturdy
  | .scanner (.scanning p _ _) => p.Sturdy
  | .ended crashed => crashed = false
  | _ => True

namespace Stage

/-- No task breaks down from now on. -/
structure Sound (s : Stage) : Prop where
  pollInterval : s.world.config.pollInterval.total ≠ 0
  world : s.world.Sturdy
  tasks : ∀ t ∈ s.tasks, t.Sturdy

/-- What a stage turns into when a task goes on: the other tasks are left alone. -/
structure Turn (id : Nat) (s s' : Stage) : Prop where
  world : s.world.LeadsTo s'.world
  tasks : ∀ j t, j ≠ id → s.tasks[j]? = some t → s'.tasks[j]? = some t
  ready : ∀ j ∈ s.ready, j ∈ s'.ready
  sound : s.Sound → s'.Sound

variable {s s' s'' : Stage} {id : Nat}

theorem turn_refl (id : Nat) (s : Stage) : Turn id s s :=
  ⟨leadsTo_refl _, fun _ _ _ h => h, fun _ h => h, fun h => h⟩

theorem Turn.trans (h : Turn id s s') (h' : Turn id s' s'') : Turn id s s'' where
  world := h.world.trans h'.world
  tasks j t hj ht := h'.tasks j t hj (h.tasks j t hj ht)
  ready j hj := h'.ready j (h.ready j hj)
  sound hs := h'.sound (h.sound hs)

@[simp] theorem world_wake (s : Stage) (j : Nat) : (s.wake j).world = s.world := by
  unfold wake
  split_ifs <;> rfl

@[simp] theorem tasks_wake (s : Stage) (j : Nat) : (s.wake j).tasks = s.tasks := by
  unfold wake
  split_ifs <;> rfl

/-- To wake tasks changes neither the world nor the tasks. -/
theorem wakeAll_eq {α : Type} (ids : List (α × Nat)) (s : Stage) :
    (ids.foldl (fun s (_, j) => s.wake j) s).world = s.world ∧
      (ids.foldl (fun s (_, j) => s.wake j) s).tasks = s.tasks := by
  induction ids generalizing s with
  | nil => exact ⟨rfl, rfl⟩
  | cons x ids ih =>
    obtain ⟨hworld, htasks⟩ := ih (s.wake x.2)
    exact ⟨hworld.trans (s.world_wake x.2), htasks.trans (s.tasks_wake x.2)⟩

@[simp] theorem world_wakeWhere (s : Stage) (test : Task → Bool) :
    (s.wakeWhere test).world = s.world :=
  (wakeAll_eq _ s).1

@[simp] theorem tasks_wakeWhere (s : Stage) (test : Task → Bool) :
    (s.wakeWhere test).tasks = s.tasks :=
  (wakeAll_eq _ s).2

@[simp] theorem world_leaveQueue (s : Stage) : s.leaveQueue.world = s.world := by
  unfold leaveQueue
  split <;> simp

/-! ## The parts of a turn -/

/-- A stage on which only more tasks have something to go on with. -/
theorem turn_of_eq (world : s'.world = s.world) (tasks : s'.tasks = s.tasks)
    (ready : ∀ j ∈ s.ready, j ∈ s'.ready) : Turn id s s' where
  world := world ▸ leadsTo_refl _
  tasks _ _ _ ht := tasks ▸ ht
  ready := ready
  sound h := ⟨world ▸ h.pollInterval, world ▸ h.world, tasks ▸ h.tasks⟩

namespace Turn

theorem withWorld {w : World} (h : Turn id s s') (hw : s'.world.LeadsTo w) :
    Turn id s (s'.withWorld w) :=
  h.trans {
    world := hw
    tasks := fun _ _ _ ht => ht
    ready := fun _ hj => hj
    sound := fun hs => ⟨hw.config ▸ hs.pollInterval, hw.sturdy hs.world, hs.tasks⟩ }

theorem wake (h : Turn id s s') (j : Nat) : Turn id s (s'.wake j) := by
  unfold Stage.wake
  split_ifs
  · exact h
  · exact h.trans (turn_of_eq rfl rfl fun k hk => List.mem_append_left _ hk)

theorem wakeAll {α : Type} (h : Turn id s s') (ids : List (α × Nat)) :
    Turn id s (ids.foldl (fun s (_, j) => s.wake j) s') := by
  induction ids generalizing s' with
  | nil => exact h
  | cons x ids ih => exact ih (h.wake x.2)

theorem wakeWhere (h : Turn id s s') (test : Task → Bool) : Turn id s (s'.wakeWhere test) :=
  h.wakeAll _

theorem continueWith (h : Turn id s s') (j : Nat) : Turn id s (s'.continueWith j) := by
  refine h.trans (turn_of_eq rfl rfl fun k hk => ?_)
  by_cases hkj : k = j
  · exact hkj ▸ List.mem_cons_self
  · exact List.mem_cons_of_mem _ (List.mem_filter.2 ⟨hk, by simpa using hkj⟩)

theorem setTask {t : Task} (h : Turn id s s') (ht : s.Sound → t.Sturdy) :
    Turn id s (s'.setTask id t) where
  world := h.world
  tasks j u hj hu := by
    rw [Stage.setTask, List.getElem?_set_ne (Ne.symm hj)]
    exact h.tasks j u hj hu
  ready := h.ready
  sound hs := by
    refine ⟨(h.sound hs).pollInterval, (h.sound hs).world, fun u hu => ?_⟩
    rcases List.mem_or_eq_of_mem_set hu with hu | rfl
    · exact (h.sound hs).tasks u hu
    · exact ht hs

theorem spawn {t : Task} (h : Turn id s s') (ht : t.Sturdy) : Turn id s (s'.spawn t) where
  world := h.world
  tasks j u hj hu := by
    have hu := h.tasks j u hj hu
    rw [Stage.spawn, List.getElem?_append_left (List.getElem?_eq_some_iff.1 hu).1]
    exact hu
  ready j hj := List.mem_append_left _ (h.ready j hj)
  sound hs := by
    refine ⟨(h.sound hs).pollInterval, (h.sound hs).world, fun u hu => ?_⟩
    rcases List.mem_append.1 hu with hu | hu
    · exact (h.sound hs).tasks u hu
    · exact List.mem_singleton.1 hu ▸ ht

theorem finish {crashed : Bool} (h : Turn id s s') (hc : s.Sound → crashed = false) :
    Turn id s (s'.finish id crashed) := by
  unfold Stage.finish
  exact (h.setTask (t := .ended crashed) hc).wakeWhere _

theorem goToQueue (h : Turn id s s') (j : Nat) : Turn id s (s'.goToQueue j) := by
  unfold Stage.goToQueue
  split
  · have hq : Turn id s { s' with atQueue := some j } :=
      h.trans (turn_of_eq rfl rfl fun _ hk => hk)
    exact hq.continueWith j
  · exact h.trans (turn_of_eq rfl rfl fun _ hk => hk)

theorem leaveQueue (h : Turn id s s') : Turn id s s'.leaveQueue := by
  unfold Stage.leaveQueue
  split
  · exact h.trans (turn_of_eq rfl rfl fun _ hk => hk)
  · next j rest _ =>
    have hq : Turn id s { s' with atQueue := some j, inLine := rest } :=
      h.trans (turn_of_eq rfl rfl fun _ hk => hk)
    exact hq.wake j

/-! ## Workers -/

/-- A worker is placed by how far it has got. -/
theorem placeWorker {r : WorkProgress Bool × World} (h : Turn id s s') (index : Nat)
    (hw : s'.world.LeadsTo r.2) (hp : s.Sound → r.1.Sturdy) :
    Turn id s (s'.placeWorker id index r) := by
  obtain ⟨p, w⟩ := r
  have hplaced := h.withWorld hw
  unfold Stage.placeWorker
  cases p with
  | receiving next =>
    exact (hplaced.setTask (t := .worker index (.inLine next)) fun _ => trivial).goToQueue id
  | done again =>
    cases again with
    | true => exact (hplaced.setTask (t := .worker index .turning) fun _ => trivial).continueWith id
    | false => exact hplaced.finish fun _ => rfl
  | crashed => exact hplaced.finish fun hs => (hp hs).elim
  | pausing => exact hplaced.setTask fun _ => trivial
  | attempting | insisting | scanning => exact hplaced.setTask hp

/-- A worker runs on. -/
theorem runWorker {p : Work Bool} {w : World} (h : Turn id s s') (index : Nat)
    (hw : s'.world.LeadsTo w) : Turn id s (s'.placeWorker id index (runWork p w)) :=
  have hrun := (runs_runWork p w).after hw
  h.placeWorker index hrun.leadsTo fun hs => hrun.sturdy (h.sound hs).world

/-- A worker at the queue goes on with what it finds there. -/
theorem receive (h : Turn id s s') (index : Nat) (next : Option ReportId → Work Bool) :
    Turn id s (s'.receive id index next) := by
  unfold Stage.receive
  split
  · exact h.leaveQueue.runWorker index (s'.world_leaveQueue ▸ leadsTo_refl _)
  · split
    · exact h.leaveQueue.runWorker index (s'.world_leaveQueue ▸ leadsTo_of_eq rfl rfl rfl rfl)
    · split
      · exact h.leaveQueue.runWorker index (s'.world_leaveQueue ▸ leadsTo_refl _)
      · exact h.setTask fun _ => trivial

end Turn

theorem turn_pollWorker {index : Nat} {state : WorkerState}
    (h : s.Sound → (Task.worker index state).Sturdy) :
    Turn id s (s.pollWorker id index state) := by
  have hs := turn_refl id s
  unfold pollWorker
  cases state with
  | fresh => exact hs.runWorker index (leadsTo_refl _)
  | turning => exact hs.runWorker index (leadsTo_refl _)
  | inLine next =>
    dsimp only
    split
    · exact hs.receive index next
    · exact hs
  | working p =>
    have polled : Turn id s (s.placeWorker id index (p.poll s.world)) :=
      hs.placeWorker index (runs_poll p s.world).leadsTo
        fun sound => (runs_poll p s.world).sturdy sound.world (h sound)
    cases p with
    | receiving next => exact hs.receive index next
    | done | attempting | pausing | insisting | scanning | crashed => exact polled

/-! ## The scanner -/

namespace Turn

/-- The scanner is placed by how far its scan has got. -/
theorem placeScanner {r : WorkProgress Nat × World} (h : Turn id s s') (due : Nat) (timer : Timer)
    (hw : s'.world.LeadsTo r.2) (hp : s.Sound → r.1.Sturdy) :
    Turn id s (s'.placeScanner id due timer r) := by
  obtain ⟨p, w⟩ := r
  have hplaced := h.withWorld hw
  unfold Stage.placeScanner
  cases p with
  | done =>
    exact (hplaced.setTask (t := .scanner (.idle due timer)) fun _ => trivial).continueWith id
  | crashed => exact hplaced.finish fun hs => (hp hs).elim
  | receiving | pausing => exact hplaced.setTask fun _ => trivial
  | attempting | insisting | scanning => exact hplaced.setTask hp

theorem scan (h : Turn id s s') (due : Nat) : Turn id s (s'.scan id due) := by
  have hrun : Runs s'.world WorkProgress.Sturdy
      (runWork (scanOnce s'.world.config) (s'.scanTimer (s'.dueAfter due)).2) :=
    (runs_runWork _ _).after (leadsTo_timer _ _)
  exact h.placeScanner _ _ hrun.leadsTo fun hs => hrun.sturdy (h.sound hs).world

end Turn

/-- The scanner breaks down only if no time passes between scans. -/
theorem turn_pollScanner {state : ScannerState} (h : s.Sound → (Task.scanner state).Sturdy) :
    Turn id s (s.pollScanner id state) := by
  have hs := turn_refl id s
  unfold pollScanner
  cases state with
  | fresh =>
    dsimp only
    split_ifs with hpoll
    · exact hs.finish fun sound => absurd hpoll sound.pollInterval
    · exact hs.finish fun _ => rfl
    · exact hs.scan _
  | idle due timer =>
    dsimp only
    split_ifs
    · exact hs.finish fun _ => rfl
    · exact hs.scan _
    · exact hs.setTask fun _ => trivial
  | scanning p due timer =>
    exact hs.placeScanner due timer (runs_poll p s.world).leadsTo
      fun sound => (runs_poll p s.world).sturdy sound.world (h sound)

/-! ## Overseers -/

theorem Turn.spawnWorkers (h : Turn id s s') (indices : List Nat) :
    Turn id s (indices.foldl (fun s i => s.spawn (.worker i .fresh)) s') := by
  induction indices generalizing s' with
  | nil => exact h
  | cons i indices ih => exact ih (h.spawn trivial)

theorem turn_startTasks (s : Stage) : Turn id s (s.startTasks id) := by
  have hnote := (turn_refl id s).withWorld (leadsTo_note _ [] (runnerStarting s.world.config))
  exact ((hnote.spawnWorkers _).spawn (t := .scanner .fresh) trivial).setTask fun _ => trivial

theorem leadsTo_notes {α : Type} (spans : List Log.Span) (event : α → Log.Event) (l : List α)
    (w : World) : w.LeadsTo (l.foldl (fun w m => w.note spans (event m)) w) := by
  induction l generalizing w with
  | nil => exact leadsTo_refl w
  | cons m l ih => exact (leadsTo_note w spans (event m)).trans (ih _)

theorem turn_reap (s : Stage) (members : List Nat) : Turn id s (s.reap id members) := by
  have hs := turn_refl id s
  unfold reap
  dsimp only
  split
  · exact ((hs.withWorld (leadsTo_notes [] taskCrashed _ _)).setTask
      (t := .overseer .inLine) fun _ => trivial).goToQueue id
  · exact (hs.withWorld (leadsTo_notes [] taskCrashed _ _)).setTask fun _ => trivial

theorem turn_closeQueue (s : Stage) : Turn id s (s.closeQueue id) := by
  refine ((turn_refl id s).leaveQueue.withWorld ?_).finish fun _ => rfl
  rw [world_leaveQueue]
  exact leadsTo_of_eq rfl rfl rfl rfl

theorem turn_pollOverseer (s : Stage) (state : OverseerState) :
    Turn id s (s.pollOverseer id state) := by
  unfold pollOverseer
  cases state with
  | fresh => exact turn_startTasks s
  | waiting members => exact turn_reap s members
  | inLine =>
    dsimp only
    split
    · exact turn_closeQueue s
    · exact turn_refl id s

/-- When a task is polled the others are left alone, and on a sound stage none breaks down. -/
theorem turn_poll (s : Stage) (id : Nat) : Turn id s (s.poll id) := by
  unfold poll
  split
  · next index state ht => exact turn_pollWorker fun hs => hs.tasks _ (List.mem_of_getElem? ht)
  · next state ht => exact turn_pollScanner fun hs => hs.tasks _ (List.mem_of_getElem? ht)
  · next state ht => exact turn_pollOverseer s state
  · exact turn_refl id s

end Stage

end RiskReport.Rehearsal

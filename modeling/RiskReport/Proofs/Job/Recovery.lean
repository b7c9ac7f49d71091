import RiskReport.Proofs.Job.Exclusion
import RiskReport.Proofs.Table
import RiskReport.Proofs.Time.Instant
import RiskReport.Proofs.Transcript
import RiskReport.Store.Memory

/-!
# What a recovery scan queues

A recovery scan asks the time, asks the store for the unfinished reports of the recovery window, and
queues one after the other until the queue refuses one. `ServesScan` is how a scan is served that
nothing comes between: by one queue, one store and one time. The scan then has one outcome, which is
told by the reports that the queue admits (`JobQueue.admits`, `yields_scanOnce`): a report in flight
is passed over without a place in the queue being needed, so it never stops the scan.

The window is read off the clock with care, since it may reach back further than the calendar does.
Every report is recent then (`Instant.recent_iff`).

**Theorem (`scan_complete`).** The backlog is the list of the unfinished reports of the window that
are not in flight, the oldest first. A scan queues as much of it as the queue has places for, and
afterwards every unfinished report of the window is in flight, or the queue is full. If the queue is
closed or the store refuses, the scan changes nothing.
-/

namespace RiskReport

open Program

/-! ## The window -/

/-- The instant does not lie before a window of time that ends now. If there is no instant at the
start of the window, every instant is recent. -/
def Instant.Recent (t now : Instant) (window : Duration) : Prop :=
  ∀ since : Instant, since.Regular → since.total = now.total - window.total → since.le t = true

/-- What a recovery scan looks for is what is recent. -/
theorem Instant.recent_iff {t now : Instant} {window : Duration} (clock : now.Regular)
    (dated : inRange t.second = true) :
    (recoveryCutoff now window).le t = true ↔ t.Recent now window := by
  unfold recoveryCutoff shiftOf?
  split_ifs with hwindow
  · rw [Option.bind_some]
    cases hs : now.shift? (-(window.total : Int)) with
    | some since =>
      obtain ⟨regular, htotal⟩ := shift?_eq_some_iff.1 hs
      constructor
      · intro hle u hu hutotal
        -- There is only one instant at the start of the window.
        have hsu : now.shift? (-(window.total : Int)) = some u :=
          shift?_eq_some_iff.2 ⟨hu, hutotal⟩
        rw [hs] at hsu
        exact Option.some.inj hsu ▸ hle
      · exact fun h => h since regular htotal
    | none =>
      refine iff_of_true (earliest_le dated) fun u hu hutotal => ?_
      have hsu : now.shift? (-(window.total : Int)) = some u := shift?_eq_some_iff.2 ⟨hu, hutotal⟩
      rw [hs] at hsu
      cases hsu
  · refine iff_of_true (earliest_le dated) fun u hu hutotal => ?_
    have hspan := total_sub_total_le clock hu
    omega

/-! ## Unfinished reports -/

/-- One report was begun before another, or at the same time with a lower identifier. -/
def Report.Older (a b : Report) : Prop :=
  a.createdAt.lt b.createdAt = true ∨ a.createdAt = b.createdAt ∧ a.id.uuid.value < b.id.uuid.value

namespace Memory

variable {m : Memory} {now : Instant} {window : Duration} {q : JobQueue}

/-- A report of the store is unfinished and was begun in the recovery window. -/
structure Unfinished (m : Memory) (now : Instant) (window : Duration) (r : Report) : Prop where
  kept : m.reports.get? r.id = some r
  status : r.status = .draft ∨ r.status = .processing
  recent : r.createdAt.Recent now window

/-- The unfinished reports of the window that are not in flight, the oldest first. -/
structure Backlog (m : Memory) (now : Instant) (window : Duration) (q : JobQueue)
    (backlog : List Report) : Prop where
  mem_iff : ∀ r, r ∈ backlog ↔ m.Unfinished now window r ∧ r.id ∉ q.inFlight
  ordered : backlog.Pairwise Report.Older

/-! ### The order of the reports that a store lists -/

section

variable {a b : Report}

theorem older_iff :
    older a b = true ↔ a.createdAt.second < b.createdAt.second ∨
      a.createdAt.second = b.createdAt.second ∧ (a.createdAt.nano < b.createdAt.nano ∨
        a.createdAt.nano = b.createdAt.nano ∧ a.id.uuid.value ≤ b.id.uuid.value) := by
  have heq : a.createdAt = b.createdAt ↔
      a.createdAt.second = b.createdAt.second ∧ a.createdAt.nano = b.createdAt.nano := by
    cases a.createdAt
    cases b.createdAt
    rw [Instant.mk.injEq]
  simp only [older, Instant.lt, Bool.or_eq_true, Bool.and_eq_true, decide_eq_true_eq, beq_iff_eq,
    heq]
  omega

theorem older_trans (a b c : Report) (hab : older a b = true) (hbc : older b c = true) :
    older a c = true := by
  rw [older_iff] at hab hbc ⊢
  omega

theorem older_total (a b : Report) : (older a b || older b a) = true := by
  rw [Bool.or_eq_true, older_iff, older_iff]
  omega

/-- Of two reports that are listed one after the other the first is the older one. -/
theorem older_of_older (h : older a b = true) (hne : a.id ≠ b.id) : a.Older b := by
  unfold older at h
  rw [Bool.or_eq_true, Bool.and_eq_true, beq_iff_eq, decide_eq_true_eq] at h
  refine h.imp_right fun ⟨hcreated, hid⟩ => ⟨hcreated, lt_of_le_of_ne hid fun hvalue => hne ?_⟩
  exact congrArg (fun v => ReportId.mk ⟨v⟩) hvalue

end

/-- The reports of a store have identifiers of their own. -/
theorem nodup_ids_rows (keyed : m.reports.Keyed (·.id)) : (m.reports.rows.map (·.id)).Nodup := by
  have hkeys : m.reports.rows.map (·.id) = m.reports.entries.map (·.1) := by
    rw [Table.rows, List.map_map]
    exact List.map_congr_left fun x hx => keyed.key _ _ (keyed.distinct.mem_entries.1 hx)
  exact hkeys ▸ keyed.distinct

/-- A store lists its unfinished reports of the window, the oldest first. -/
theorem exists_pending (keyed : m.reports.Keyed (·.id))
    (dated : m.reports.Every fun _ r => Instant.inRange r.createdAt.second = true)
    (clock : now.Regular) :
    ∃ pending : List Report, m.pendingReports (recoveryCutoff now window) = pending.map (·.id) ∧
      (pending.map (·.id)).Nodup ∧ (∀ r, r ∈ pending ↔ m.Unfinished now window r) ∧
      pending.Pairwise Report.Older := by
  let found := m.reports.rows.filter fun r =>
    !r.status.isTerminal && (recoveryCutoff now window).le r.createdAt
  have hperm : (found.mergeSort older).Perm found := List.mergeSort_perm _ _
  have hnodup : ((found.mergeSort older).map (·.id)).Nodup :=
    (hperm.map _).nodup_iff.2 ((nodup_ids_rows keyed).sublist (List.filter_sublist.map _))
  refine ⟨found.mergeSort older, rfl, hnodup, fun r => ?_, ?_⟩
  · rw [hperm.mem_iff, List.mem_filter, keyed.mem_rows, Bool.and_eq_true, Bool.not_eq_true']
    have hstatus : r.status.isTerminal = false ↔ r.status = .draft ∨ r.status = .processing := by
      cases r.status <;> decide
    constructor
    · rintro ⟨kept, status, recent⟩
      exact ⟨kept, hstatus.1 status, (Instant.recent_iff clock (dated _ r kept)).1 recent⟩
    · rintro ⟨kept, status, recent⟩
      exact ⟨kept, hstatus.2 status, (Instant.recent_iff clock (dated _ r kept)).2 recent⟩
  · have hsorted := List.pairwise_mergeSort older_trans older_total found
    exact hsorted.imp₂ (fun a b => older_of_older) (List.pairwise_map.1 hnodup)

end Memory

/-! ## What a queue admits -/

namespace JobQueue

/-- How many places are free. -/
def free (q : JobQueue) : Nat := q.capacity - q.waiting.length

/-- The queue once some reports have been let in, one after the other. -/
def letIn (q : JobQueue) (rs : List ReportId) : JobQueue :=
  { q with
    waiting := q.waiting ++ rs
    inFlight := rs.reverse ++ q.inFlight
    stats := { q.stats with enqueued := q.stats.enqueued + rs.length } }

/-- Of some reports in order the first that are not in flight, as many as there are places. -/
def admits (q : JobQueue) (rs : List ReportId) : List ReportId :=
  if q.closed then [] else (rs.filter fun r => r ∉ q.inFlight).take q.free

variable {q : JobQueue} {r : ReportId} {rs : List ReportId}

@[simp] theorem letIn_nil (q : JobQueue) : q.letIn [] = q := by
  simp [letIn]

theorem letIn_letIn (q : JobQueue) (r : ReportId) (rs : List ReportId) :
    (q.letIn [r]).letIn rs = q.letIn (r :: rs) := by
  simp [letIn, Nat.add_assoc, Nat.add_comm 1]

theorem enqueue_of_mem (h : r ∈ q.inFlight) : q.enqueue r = (.ok false, q) :=
  if_pos h

theorem enqueue_of_closed (new : r ∉ q.inFlight) (h : q.closed = true) :
    q.enqueue r = (.error (.closed r), q) := by
  rw [enqueue, if_neg new, if_pos h]

theorem enqueue_of_full (new : r ∉ q.inFlight) (hopen : q.closed = false) (h : q.free = 0) :
    q.enqueue r = (.error (.full r), q) := by
  unfold free at h
  rw [enqueue, if_neg new, if_neg (by simp [hopen]), if_pos (by omega)]

theorem enqueue_of_free (new : r ∉ q.inFlight) (hopen : q.closed = false) (h : q.free ≠ 0) :
    q.enqueue r = (.ok true, q.letIn [r]) := by
  unfold free at h
  rw [enqueue, if_neg new, if_neg (by simp [hopen]), if_neg (by omega)]
  rfl

@[simp] theorem admits_nil (q : JobQueue) : q.admits [] = [] := by
  simp [admits]

theorem admits_of_closed (h : q.closed = true) : q.admits rs = [] :=
  if_pos h

theorem admits_of_full (h : q.free = 0) : q.admits rs = [] := by
  simp [admits, h]

/-- A report in flight does not count. -/
theorem admits_cons_of_mem (h : r ∈ q.inFlight) : q.admits (r :: rs) = q.admits rs := by
  unfold admits
  rw [List.filter_cons_of_neg (by simpa using h)]

theorem admits_cons_of_free (new : r ∉ q.inFlight) (hopen : q.closed = false) (h : q.free ≠ 0)
    (hrs : r ∉ rs) : q.admits (r :: rs) = r :: (q.letIn [r]).admits rs := by
  have hfree : q.free = (q.letIn [r]).free + 1 := by
    simp only [free, letIn, List.length_append, List.length_singleton] at h ⊢
    omega
  have hsame : (rs.filter fun s => s ∉ (q.letIn [r]).inFlight) =
      rs.filter fun s => s ∉ q.inFlight := by
    refine List.filter_congr fun s hs => ?_
    have hne : s ≠ r := fun h => hrs (h ▸ hs)
    simp [letIn, hne]
  have hopen' : (q.letIn [r]).closed = false := hopen
  unfold admits
  rw [hsame, hopen, hopen', List.filter_cons_of_pos (by simpa using new), hfree]
  rfl

end JobQueue

/-! ## A scan that has everything to itself -/

/-- How a store in memory serves a request of a service, unless it refuses. -/
def Memory.ServesUnless (refusal : Option StoreError) (m : Memory) :
    (call : ServiceCall) → call.Answer → Memory → Prop
  | .store call, answer, m' =>
    match refusal with
    | none => ∃ supply, m.answer supply call = (answer, m')
    | some e => answer = .error e ∧ m' = m
  | .hedge _, _, m' | .mail _, _, m' | .enqueue _, _, m' => m' = m
  | .createPayment _, _, m' | .clientSecret _, _, m' => m' = m

/-- How a queue and a store serve a recovery scan that nothing comes between, at some time. -/
def ServesScan (now : Instant) (refusal : Option StoreError) :
    JobQueue × Memory → (call : RunnerCall) → call.Answer → JobQueue × Memory → Prop
  | s, .now, t, s' => t = now ∧ s' = s
  | s, .scan job, answer, s' =>
    s'.1 = s.1 ∧ job.Yields (Memory.ServesUnless refusal) s.2 answer s'.2
  | s, call, answer, s' => s.1.Serves call answer s'.1 ∧ s'.2 = s.2

section

variable {m m' : Memory} {now since : Instant} {q : JobQueue} {refusal : Option StoreError}
  {config : RunnerConfig} {s' : JobQueue × Memory} {β : Type} {b : β} {n : Nat}

theorem yields_pendingReports {answer : Except StoreError (List ReportId)} :
    (Service.store (.pendingReports since)).Yields (Memory.ServesUnless refusal) m answer m' ↔
      answer = refusal.elim (.ok (m.pendingReports since)) .error ∧ m' = m := by
  refine yields_request.trans ?_
  cases refusal with
  | some e => exact Iff.rfl
  | none =>
    constructor
    · rintro ⟨supply, h⟩
      exact ⟨(congrArg Prod.fst h).symm, (congrArg Prod.snd h).symm⟩
    · rintro ⟨rfl, rfl⟩
      exact ⟨⟨default, default, default, default, default⟩, rfl⟩

theorem yields_now_bind {f : Instant → Work β} :
    ((Work.request .now).bind f).Yields (ServesScan now refusal) (q, m) b s' ↔
      (f now).Yields (ServesScan now refusal) (q, m) b s' := by
  refine yields_bind.trans ?_
  constructor
  · rintro ⟨t, s, h, hf⟩
    obtain ⟨rfl, rfl⟩ := yields_request.1 h
    exact hf
  · exact fun hf => ⟨now, (q, m), yields_request.2 ⟨rfl, rfl⟩, hf⟩

theorem yields_scan_bind {f : Except StoreError (List ReportId) → Work β} :
    ((Work.request (.scan (Service.store (.pendingReports since)))).bind f).Yields
        (ServesScan now refusal) (q, m) b s' ↔
      (f (refusal.elim (.ok (m.pendingReports since)) .error)).Yields (ServesScan now refusal)
        (q, m) b s' := by
  refine yields_bind.trans ?_
  constructor
  · rintro ⟨answer, ⟨q', m'⟩, h, hf⟩
    obtain ⟨hq, hm⟩ := yields_request.1 h
    obtain ⟨rfl, rfl⟩ : answer = _ ∧ m' = m := yields_pendingReports.1 hm
    obtain rfl : q' = q := hq
    exact hf
  · exact fun hf =>
      ⟨_, (q, m), yields_request.2 ⟨rfl, yields_pendingReports.2 ⟨rfl, rfl⟩⟩, hf⟩

theorem yields_enqueue_bind {r : ReportId} {f : Except EnqueueError Bool → Work β} :
    ((Work.request (.enqueue r)).bind f).Yields (ServesScan now refusal) (q, m) b s' ↔
      (f (q.enqueue r).1).Yields (ServesScan now refusal) ((q.enqueue r).2, m) b s' := by
  refine yields_bind.trans ?_
  constructor
  · rintro ⟨answer, ⟨q', m'⟩, h, hf⟩
    obtain ⟨hq, hm⟩ := yields_request.1 h
    have hq : q.enqueue r = (answer, q') := hq
    obtain rfl : m' = m := hm
    rwa [hq]
  · exact fun hf => ⟨_, (_, m), yields_request.2 ⟨rfl, rfl⟩, hf⟩

/-- Reports that are all different are queued as far as the queue admits them. -/
theorem yields_queuePending {queued : Nat} {rs : List ReportId} (hrs : rs.Nodup) :
    (queuePending queued rs).Yields (ServesScan now refusal) (q, m) n s' ↔
      n = queued + (q.admits rs).length ∧ s' = (q.letIn (q.admits rs), m) := by
  induction rs generalizing q queued with
  | nil =>
    rw [JobQueue.admits_nil, JobQueue.letIn_nil]
    exact yields_done
  | cons r rs ih =>
    obtain ⟨hr, hrs⟩ := List.nodup_cons.1 hrs
    refine yields_enqueue_bind.trans ?_
    -- A report that the queue refuses ends the scan with what has been queued.
    have stopped {e : EnqueueError} {queued : Nat} :
        ((Work.note .debug "recovery scan stopped early" [("error", .shown e.message)]).bind
          fun _ => .done queued).Yields (ServesScan now refusal) (q, m) n s' ↔
            n = queued + ([] : List ReportId).length ∧ s' = (q.letIn [], m) := by
      rw [JobQueue.letIn_nil]
      exact yields_report_bind.trans yields_done
    by_cases hmem : r ∈ q.inFlight
    · rw [JobQueue.enqueue_of_mem hmem, JobQueue.admits_cons_of_mem hmem]
      exact ih hrs
    · cases hclosed : q.closed with
      | true =>
        rw [JobQueue.enqueue_of_closed hmem hclosed, JobQueue.admits_of_closed hclosed]
        exact stopped
      | false =>
        by_cases hfree : q.free = 0
        · rw [JobQueue.enqueue_of_full hmem hclosed hfree, JobQueue.admits_of_full hfree]
          exact stopped
        · rw [JobQueue.enqueue_of_free hmem hclosed hfree,
            JobQueue.admits_cons_of_free hmem hclosed hfree hr, List.length_cons,
            ← JobQueue.letIn_letIn q r (JobQueue.admits _ rs)]
          refine yields_report_bind.trans ((ih hrs).trans (and_congr_left fun _ => ?_))
          show n = queued + 1 + ((q.letIn [r]).admits rs).length ↔ _
          omega

/-- A scan queues what the queue admits of the reports that the store lists. -/
theorem yields_scanOnce
    (hn : (m.pendingReports (recoveryCutoff now config.recoveryWindow)).Nodup) :
    (scanOnce config).Yields (ServesScan now none) (q, m) n s' ↔
      n = (q.admits (m.pendingReports (recoveryCutoff now config.recoveryWindow))).length ∧
        s' = (q.letIn (q.admits (m.pendingReports (recoveryCutoff now config.recoveryWindow))),
          m) := by
  refine yields_now_bind.trans (yields_scan_bind.trans ((yields_queuePending hn).trans ?_))
  rw [Nat.zero_add]

/-- A scan that the store refuses changes nothing. -/
theorem yields_scanOnce_of_refused {e : StoreError} :
    (scanOnce config).Yields (ServesScan now (some e)) (q, m) n s' ↔ n = 0 ∧ s' = (q, m) :=
  yields_now_bind.trans (yields_scan_bind.trans (yields_report_bind.trans yields_done))

end

/-! ## Completeness -/

/-- What a queue admits of the reports that a store lists is the start of the backlog. -/
theorem Memory.exists_backlog {m : Memory} {now : Instant} {window : Duration} (q : JobQueue)
    (keyed : m.reports.Keyed (·.id))
    (dated : m.reports.Every fun _ r => Instant.inRange r.createdAt.second = true)
    (clock : now.Regular) :
    ∃ backlog, m.Backlog now window q backlog ∧
      (m.pendingReports (recoveryCutoff now window)).Nodup ∧
      (q.closed = false → q.admits (m.pendingReports (recoveryCutoff now window)) =
        (backlog.take q.free).map (·.id)) := by
  obtain ⟨pending, hpending, hnodup, hmem, hordered⟩ := exists_pending keyed dated clock
  refine ⟨pending.filter fun r => r.id ∉ q.inFlight, ⟨fun r => ?_, hordered.filter _⟩,
    hpending ▸ hnodup, fun hopen => ?_⟩
  · rw [List.mem_filter, hmem, decide_eq_true_eq]
  · rw [JobQueue.admits, if_neg (by simp [hopen]), hpending, List.filter_map, List.map_take]
    rfl

/-- Once the start of the backlog is queued, everything unfinished is in flight or the queue is
full. -/
theorem Memory.Backlog.inFlight_or_full {m : Memory} {now : Instant} {window : Duration}
    {q : JobQueue} {backlog : List Report} (h : m.Backlog now window q backlog) :
    (∀ r, m.Unfinished now window r →
        r.id ∈ (q.letIn ((backlog.take q.free).map (·.id))).inFlight) ∨
      (q.letIn ((backlog.take q.free).map (·.id))).free = 0 := by
  rcases Nat.le_total backlog.length q.free with hle | hle
  · refine .inl fun r hr => ?_
    rw [List.take_of_length_le hle, JobQueue.letIn, List.mem_append, List.mem_reverse]
    by_cases hmem : r.id ∈ q.inFlight
    · exact .inr hmem
    · exact .inl (List.mem_map_of_mem ((h.mem_iff r).2 ⟨hr, hmem⟩))
  · right
    simp only [JobQueue.free, JobQueue.letIn, List.length_append, List.length_map,
      List.length_take] at hle ⊢
    omega

/-- **A recovery scan is complete.** With nothing in between, a scan of an open queue queues the
oldest reports of the backlog, one for each free place, and says how many they are; afterwards every
unfinished report of the window is in flight, or the queue is full. On a closed queue, and when the
store refuses, it changes nothing. -/
theorem scan_complete {m : Memory} {now : Instant} (config : RunnerConfig) (q : JobQueue)
    (keyed : m.reports.Keyed (·.id))
    (dated : m.reports.Every fun _ r => Instant.inRange r.createdAt.second = true)
    (clock : now.Regular) :
    ∃ backlog, m.Backlog now config.recoveryWindow q backlog ∧
      (q.closed = false →
        (∀ n s', (scanOnce config).Yields (ServesScan now none) (q, m) n s' ↔
          n = min q.free backlog.length ∧
            s' = (q.letIn ((backlog.take q.free).map (·.id)), m)) ∧
        ((∀ r, m.Unfinished now config.recoveryWindow r →
            r.id ∈ (q.letIn ((backlog.take q.free).map (·.id))).inFlight) ∨
          (q.letIn ((backlog.take q.free).map (·.id))).free = 0)) ∧
      ∀ refusal, q.closed = true ∨ refusal.isSome → ∀ n s',
        (scanOnce config).Yields (ServesScan now refusal) (q, m) n s' ↔ n = 0 ∧ s' = (q, m) := by
  obtain ⟨backlog, hbacklog, hnodup, hadmits⟩ := Memory.exists_backlog q keyed dated clock
  refine ⟨backlog, hbacklog, fun hopen => ⟨fun n s' => ?_, hbacklog.inFlight_or_full⟩, ?_⟩
  · rw [yields_scanOnce hnodup, hadmits hopen, List.length_map, List.length_take]
  · intro refusal hrefused n s'
    cases refusal with
    | some e => exact yields_scanOnce_of_refused
    | none =>
      have hclosed : q.closed = true := by simpa using hrefused
      rw [yields_scanOnce hnodup, JobQueue.admits_of_closed hclosed, JobQueue.letIn_nil]
      rfl

/-- Reports of one day, of which the first is in flight, the second is unfinished and so is the
third, and the fourth is given up. -/
def Sample.reports : Memory :=
  let report (id second : Nat) (status : ReportStatus) : Report :=
    { Report.draft ⟨⟨id⟩⟩ ⟨"token"⟩ ⟨⟨id⟩⟩ ⟨1000000 + second, 0⟩ with status }
  (((Memory.empty.insertReport (report 4 0 .processing)).insertReport (report 3 20 .draft))
    |>.insertReport (report 2 10 .processing)).insertReport (report 1 5 .error)

/-- A queue with two places, one of them taken, and the first report of the sample in work. -/
def Sample.nearlyFull : JobQueue where
  capacity := 2
  waiting := [⟨⟨9⟩⟩]
  inFlight := [⟨⟨9⟩⟩, ⟨⟨4⟩⟩]

/-- A scan of the sample passes over the report in work and queues one other report, so that the
queue is full. -/
theorem scan_complete_sample :
    (Sample.reports.reports.Keyed (·.id) ∧
      (Sample.reports.reports.Every fun _ r => Instant.inRange r.createdAt.second = true) ∧
      (Instant.mk 1000100 0).Regular) ∧
    ∃ r, r ∉ Sample.nearlyFull.inFlight ∧ (Sample.nearlyFull.letIn [r]).free = 0 ∧
      (scanOnce .standard).Yields (ServesScan ⟨1000100, 0⟩ none)
        (Sample.nearlyFull, Sample.reports) 1 (Sample.nearlyFull.letIn [r], Sample.reports) := by
  have keyed : Sample.reports.reports.Keyed (·.id) :=
    Table.keyed_empty.insert.insert.insert.insert
  have dated : Sample.reports.reports.Every fun _ r => Instant.inRange r.createdAt.second = true :=
    Table.every_empty.insert (by decide) |>.insert (by decide) |>.insert (by decide)
      |>.insert (by decide)
  have clock : (Instant.mk 1000100 0).Regular := ⟨by decide, by decide⟩
  refine ⟨⟨keyed, dated, clock⟩, ?_⟩
  obtain ⟨backlog, hbacklog, hopen, -⟩ :=
    scan_complete .standard Sample.nearlyFull keyed dated clock
  obtain ⟨r, found, hr⟩ : ∃ r, Sample.reports.reports.get? ⟨⟨2⟩⟩ = some r ∧ r ∈ backlog := by
    refine ⟨_, rfl, (hbacklog.mem_iff _).2 ⟨⟨rfl, .inr rfl, ?_⟩, by decide⟩⟩
    exact (Instant.recent_iff clock (by decide)).1 (by decide)
  cases backlog with
  | nil => cases hr
  | cons first rest =>
    refine ⟨first.id, ((hbacklog.mem_iff first).1 List.mem_cons_self).2, rfl, ?_⟩
    refine ((hopen rfl).1 _ _).2 ⟨?_, rfl⟩
    have free : Sample.nearlyFull.free = 1 := rfl
    rw [free, List.length_cons]
    omega

end RiskReport

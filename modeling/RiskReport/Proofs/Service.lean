import RiskReport.Proofs.Store.Lasting
import RiskReport.Service

/-!
# Services that share a store in memory

Several services work on one store in memory. `Memory.Serves` is how a request of one of them is
served: the store answers it in one step, and whatever is not for the store may turn out in any way.
`Memory.ServesFresh` asks for new identifiers as well. A service that is abandoned while it waits is
one that is not let go on any more, so nothing has to be said about it.

The requests that the services rely on are the one that begins the report of a session, which it
does once (`Sound.begun_of_created`), and the one that keeps the results of a report, after which
the report is ready (`Sound.ready_of_persisted`).
-/

namespace RiskReport

namespace Memory

variable {m m' : Memory} {supply : Supply}

/-- How a store in memory serves a request of a service. Other requests have any outcome. -/
def Serves (m : Memory) : (call : ServiceCall) → call.Answer → Memory → Prop
  | .store call, answer, m' => ∃ supply, m.answer supply call = (answer, m')
  | .hedge _, _, m' | .mail _, _, m' | .enqueue _, _, m' => m' = m
  | .createPayment _, _, m' | .clientSecret _, _, m' => m' = m

/-- How a store in memory serves a request of a service when what it takes from outside is new.
Other requests have any outcome. -/
def ServesFresh (m : Memory) : (call : ServiceCall) → call.Answer → Memory → Prop
  | .store call, answer, m' => ∃ supply, supply.Fresh m ∧ m.answer supply call = (answer, m')
  | .hedge _, _, m' | .mail _, _, m' | .enqueue _, _, m' => m' = m
  | .createPayment _, _, m' | .clientSecret _, _, m' => m' = m

theorem ServesFresh.evolves {call : ServiceCall} {answer : call.Answer}
    (h : m.ServesFresh call answer m') : m.Evolves m' := by
  cases call with
  | store call =>
    obtain ⟨supply, fresh, hanswer⟩ := h
    have hm : (m.answer supply call).2 = m' := congrArg Prod.snd hanswer
    exact hm ▸ evolves_answer fresh call
  | hedge | mail | enqueue | createPayment | clientSecret =>
    obtain rfl : m' = m := h
    exact .same

/-! ## The report of a session -/

/-- The report of a session was begun. -/
def Begun (m : Memory) (session : SessionId) : Prop :=
  ∃ id r, m.reports.get? id = some r ∧ r.sessionId = session

/-- A report that was begun stays. -/
theorem Evolves.begun {session : SessionId} (he : m.Evolves m') (h : m.Sound)
    (hb : m.Begun session) : m'.Begun session := by
  obtain ⟨id, r, found, rfl⟩ := hb
  obtain ⟨r', found', ht⟩ := he.turns h found
  exact ⟨id, r', found', ht.sessionId_eq⟩

/-- A report is begun for a session that has none, and then it has one. -/
theorem begun_of_created {intent : String} {r : Report}
    (h : m.answer supply (.initialiseReport intent) = (.ok (.created r), m')) :
    ¬ m.Begun r.sessionId ∧ m'.Begun r.sessionId := by
  obtain ⟨s, -, ⟨r, -, -, ⟨⟩, -⟩ | ⟨first, r, paid, hinit, hr, -, rfl⟩⟩ :=
    initialiseReport_eq_ok (respond_of_answer h)
  obtain rfl := ReportInit.created.inj hinit
  have hs : r.sessionId = s.id := by rw [hr, Report.draft]
  refine ⟨?_, ⟨_, _, Table.get?_insert_self, rfl⟩⟩
  rintro ⟨id, q, found, hq⟩
  exact first q (Table.mem_rows_of_get? found) (hq.trans hs)

/-- When the report of a session has been asked for, the session has that report and no other; if it
is new, it is a draft. -/
theorem Sound.initialised {intent : String} {init : ReportInit} (h : m.Sound)
    (fresh : supply.Fresh m)
    (ha : m.answer supply (.initialiseReport intent) = (.ok init, m')) :
    ∃ s, m.sessionOfIntent intent = .ok s ∧
      m'.reports.get? init.report.id = some init.report ∧ init.report.sessionId = s.id ∧
      (∀ id q, m'.reports.get? id = some q → q.sessionId = s.id → id = init.report.id) ∧
      ∀ r, init = .created r → r.status = .draft := by
  have h' : m'.Sound := by
    have he := (evolves_answer fresh (.initialiseReport intent)).sound h
    rwa [ha] at he
  obtain ⟨s, hs, hinit⟩ := initialiseReport_eq_ok (respond_of_answer ha)
  have single {r : Report} (found : m'.reports.get? r.id = some r) (owner : r.sessionId = s.id) :
      ∀ id q, m'.reports.get? id = some q → q.sessionId = s.id → id = r.id :=
    fun id q hq hsession => h'.single id q hq r.id r found (hsession.trans owner.symm)
  refine ⟨s, hs, ?_⟩
  rcases hinit with ⟨r, hr, owner, rfl, rfl⟩ | ⟨-, r, paid, rfl, hr, -, hm⟩
  · have found := h.reports.mem_rows.1 hr
    refine ⟨found, owner, single found owner, ?_⟩
    rintro _ ⟨⟩
  · have owner : r.sessionId = s.id := by rw [hr, Report.draft]
    have found : m'.reports.get? r.id = some r := by
      rw [hm]
      exact Table.get?_insert_self
    refine ⟨found, owner, single found owner, ?_⟩
    rintro _ ⟨⟩
    rw [hr, Report.draft]

/-! ## The results of a report -/

/-- A report whose results were kept is ready, whether they were kept now or before. -/
theorem Sound.ready_of_persisted {p : ScoredReport} {r : Report} (h : m.Sound)
    (ha : m.answer supply (.persistReport p) = (.ok r, m')) :
    m'.reports.get? p.report = some r ∧ r.status = .ready := by
  simp only [answer, respond] at ha
  cases found : m.reports.get? p.report with
  | none =>
    simp only [persistReport, found] at ha
    cases ha
  | some q =>
    cases status : q.status with
    | ready =>
      simp only [persistReport, found, status] at ha
      cases ha
      exact ⟨found, status⟩
    | error =>
      simp only [persistReport, found, status] at ha
      cases ha
    | draft | processing =>
      have unfinished : q.status.isTerminal = false := by rw [status]; rfl
      rw [persistReport_of_unfinished found unfinished] at ha
      cases hrows : resultRows supply p with
      | error e =>
        rw [hrows] at ha
        cases ha
      | ok rows =>
        rw [hrows] at ha
        cases ha
        have key : (finished q p supply.now).id = p.report := h.reports.key _ q found
        exact ⟨key ▸ Table.get?_insert_self, rfl⟩

end Memory

end RiskReport

import RiskReport.Proofs.Store.Sound

/-!
# What lasts in a store

A report is never removed. One request can finish it, give it up, or leave it as it is
(`Report.Turns`), and it keeps its identifier, its session and its access token; a ready report does
not turn into anything else, and neither do its rows. `Sound.fate` says this of all reports of a
store at once, the new ones included, and is what the proofs about several requests in a row use.
A session is never removed either (`Session.Turns`). It keeps the name of its business, and once an
intent is attached to it, it keeps that, with the customer and the address.
-/

namespace RiskReport

/-! ## Reports -/

/-- What one request may make of a report. -/
inductive Report.Turns (r : Report) : Report → Prop
  | same : Turns r r
  | finished (p : ScoredReport) (now : Instant) (unfinished : r.status.isTerminal = false) :
      Turns r (Memory.finished r p now)
  | givenUp (reason : String) (now : Instant) (unready : r.status ≠ .ready) :
      Turns r { r with status := .error, errorMessage := some reason, updatedAt := now }

namespace Report.Turns

variable {r r' : Report}

theorem sessionId_eq (h : r.Turns r') : r'.sessionId = r.sessionId := by
  cases h <;> rfl

theorem accessToken_eq (h : r.Turns r') : r'.accessToken = r.accessToken := by
  cases h <;> rfl

/-- A ready report stays as it is. -/
theorem eq_of_ready (h : r.Turns r') (ready : r.status = .ready) : r' = r := by
  cases h with
  | same => rfl
  | finished p now unfinished => simp [ready, ReportStatus.isTerminal] at unfinished
  | givenUp reason now unready => exact absurd ready unready

/-- A report that was given up stays given up. -/
theorem status_of_error (h : r.Turns r') (error : r.status = .error) : r'.status = .error := by
  cases h with
  | same => exact error
  | finished p now unfinished => simp [error, ReportStatus.isTerminal] at unfinished
  | givenUp => rfl

end Report.Turns

/-- What one request may make of the report with some identifier, if there is one. -/
inductive Report.Fate (supply : Supply) : Option Report → Option Report → Prop
  | absent : Fate supply none none
  | begun (session : SessionId) :
      Fate supply none (some (.draft supply.report supply.token session supply.now))
  | turned {r r' : Report} (h : r.Turns r') : Fate supply (some r) (some r')

/-! ## Sessions and what is attached to them -/

/-- What one request may make of a session. -/
inductive Session.Turns (s : Session) : Session → Prop
  | same : Turns s s
  | attached (p : NewIntent) (now : Instant) (free : s.attachedIntent? = none) :
      Turns s { s with
        customerRef := p.customerRef.bind Text.nonEmpty?
        intentRef := some p.intent
        email := (p.email.bind Text.nonEmpty?).or s.email
        updatedAt := now }
  | settled (status : PaymentStatus) (paidAt : Option Instant) (now : Instant) :
      Turns s { s with paymentStatus := status, paidAt := paidAt, updatedAt := now }

namespace Session.Turns

variable {s s' : Session}

theorem businessName?_eq (h : s.Turns s') : s'.businessName? = s.businessName? := by
  cases h <;> rfl

/-- A session that has an intent keeps it, with the customer and the address. -/
theorem intent_lasts (h : s.Turns s') (attached : s.attachedIntent?.isSome) :
    s'.intentRef = s.intentRef ∧ s'.customerRef = s.customerRef ∧ s'.email = s.email := by
  cases h with
  | same => exact ⟨rfl, rfl, rfl⟩
  | attached p now free => simp [free] at attached
  | settled status paidAt now => exact ⟨rfl, rfl, rfl⟩

end Session.Turns

namespace Memory

variable {m m' : Memory} {supply : Supply} {call : StoreCall}

theorem fate_refl (before : Option Report) : Report.Fate supply before before := by
  cases before with
  | none => exact .absent
  | some r => exact .turned .same

/-- What a request makes of any report. -/
theorem Sound.fate (h : m.Sound) (fresh : supply.Fresh m) (he : Effect m supply call m')
    (id : ReportId) : Report.Fate supply (m.reports.get? id) (m'.reports.get? id) := by
  -- A report is replaced by what it turns into, and the others stay as they are.
  have replaced {r r' : Report} (found : m.reports.get? r.id = some r) (hid : r'.id = r.id)
      (ht : r.Turns r') :
      Report.Fate supply (m.reports.get? id) ((m.insertReport r').reports.get? id) := by
    simp only [insertReport, Table.get?_insert]
    split_ifs with heq
    · rw [heq, hid, found]
      exact .turned ht
    · exact fate_refl _
  cases he with
  | none | opened | answered | attached | paymentFailed | refunded | claimed | reclaimed
    | completed => exact fate_refl _
  | @begun intent s =>
    simp only [insertReport, Table.get?_insert]
    split_ifs with heq
    · rw [heq, Report.draft, fresh.report]
      exact .begun s.id
    · exact fate_refl _
  | @finished p r found unfinished =>
    have found' : m.reports.get? r.id = some r := (h.reports.key _ _ found).symm ▸ found
    exact replaced found' rfl (.finished p supply.now unfinished)
  | @givenUp id' reason r found unready =>
    have found' : m.reports.get? r.id = some r := (h.reports.key _ _ found).symm ▸ found
    exact replaced found' rfl (.givenUp reason supply.now unready)

/-- A report that is there is there afterwards, as what it has turned into. -/
theorem Sound.turns (h : m.Sound) (fresh : supply.Fresh m) (he : Effect m supply call m')
    {id : ReportId} {r : Report} (found : m.reports.get? id = some r) :
    ∃ r', m'.reports.get? id = some r' ∧ r.Turns r' := by
  have hf := h.fate fresh he id
  rw [found] at hf
  generalize m'.reports.get? id = after at hf
  cases hf with
  | turned ht => exact ⟨_, rfl, ht⟩

/-- A report that is there afterwards has turned into what it is, or was begun. -/
theorem Sound.origin (h : m.Sound) (fresh : supply.Fresh m) (he : Effect m supply call m')
    {id : ReportId} {r' : Report} (found : m'.reports.get? id = some r') :
    (∃ r, m.reports.get? id = some r ∧ r.Turns r') ∨
      ∃ session, r' = .draft supply.report supply.token session supply.now := by
  have hf := h.fate fresh he id
  rw [found] at hf
  generalize m.reports.get? id = before at hf
  cases hf with
  | begun session => exact .inr ⟨session, rfl⟩
  | turned ht => exact .inl ⟨_, rfl, ht⟩

/-- The rows of a ready report stay as they are. -/
theorem Sound.rows_last (h : m.Sound) (he : Effect m supply call m') {id : ReportId} {r : Report}
    (found : m.reports.get? id = some r) (ready : r.status = .ready) :
    m'.riskResults id = m.riskResults id := by
  cases he with
  | none | opened | answered | attached | paymentFailed | refunded | begun | givenUp | claimed
    | reclaimed | completed => rfl
  | @finished p q found' unfinished =>
    -- The report that is finished now is another one, since this one is ready.
    have hne : id ≠ q.id := by
      intro heq
      have hq : m.reports.get? q.id = some q := (h.reports.key _ _ found').symm ▸ found'
      obtain rfl := Option.some.inj (hq.symm.trans (heq ▸ found))
      simp [ready, ReportStatus.isTerminal] at unfinished
    have hrows : (m.results.insert q.id (p.rows supply)).get? id = m.results.get? id :=
      Table.get?_insert_of_ne hne
    simp only [riskResults, hrows]

/-! ## Sessions -/

/-- What a request makes of any session that is there. -/
theorem Sound.session_turns (h : m.Sound) (fresh : supply.Fresh m) (he : Effect m supply call m')
    {id : SessionId} {s : Session} (found : m.sessions.get? id = some s) :
    ∃ s', m'.sessions.get? id = some s' ∧ s.Turns s' := by
  -- A session is replaced by what it turns into, and the others stay as they are.
  have replaced {t t' : Session} (here : m.sessions.get? t.id = some t) (key : t'.id = t.id)
      (ht : t.Turns t') :
      ∃ s', (m.insertSession t').sessions.get? id = some s' ∧ s.Turns s' := by
    simp only [Memory.insertSession, Table.get?_insert]
    split_ifs with heq
    · rw [heq, key, here] at found
      obtain rfl := Option.some.inj found
      exact ⟨t', rfl, ht⟩
    · exact ⟨s, found, .same⟩
  cases he with
  | none | answered | finished | givenUp | claimed | reclaimed | completed =>
    exact ⟨s, found, .same⟩
  | @opened token =>
    have hne : id ≠ supply.session := by
      rintro rfl
      simp [fresh.session] at found
    exact ⟨s, (Table.get?_insert_of_ne hne).trans found, .same⟩
  | @attached p t here free =>
    have here' : m.sessions.get? t.id = some t := (h.sessions.key _ _ here).symm ▸ here
    exact replaced here' rfl (.attached p supply.now free)
  | paymentFailed here | refunded here | begun here =>
    exact replaced (h.get?_sessionOfIntent here) rfl (.settled _ _ _)

/-- A session that is there is there afterwards, with the same name of the business. -/
theorem Sound.businessName_lasts (h : m.Sound) (fresh : supply.Fresh m)
    (he : Effect m supply call m') {id : SessionId} {s : Session}
    (found : m.sessions.get? id = some s) :
    (m'.sessions.get? id).bind Session.businessName? = s.businessName? := by
  obtain ⟨s', found', ht⟩ := h.session_turns fresh he found
  rw [found', Option.bind_some, ht.businessName?_eq]

/-! ## Several requests -/

/-- A store goes on by nothing, by one request, by a question, or by another order of what it
keeps. -/
inductive Evolves (m : Memory) : Memory → Prop
  | same : Evolves m m
  | served {m' : Memory} {supply : Supply} {call : StoreCall} (fresh : supply.Fresh m)
      (effect : Effect m supply call m') : Evolves m m'
  | question (q : Question) : Evolves m (m.insertQuestion q)
  | rearranged {m' : Memory} (h : m.Rearranged m') : Evolves m m'

theorem evolves_answer (fresh : supply.Fresh m) (call : StoreCall) :
    m.Evolves (m.answer supply call).2 :=
  .served fresh (answer_effect m supply call)

theorem Step.evolves (hs : Step Supply.Fresh m m') : m.Evolves m' := by
  cases hs with
  | request call fresh => exact evolves_answer fresh call
  | question q => exact .question q
  | rearranged h => exact .rearranged h

theorem Evolves.sound (he : m.Evolves m') (h : m.Sound) : m'.Sound := by
  cases he with
  | same => exact h
  | served fresh effect => exact h.effect fresh effect
  | question q => exact h.insertQuestion q
  | rearranged hr => exact h.rearranged hr

/-- A report that is there stays there, with its session and its token. -/
theorem Evolves.turns (he : m.Evolves m') (h : m.Sound) {id : ReportId} {r : Report}
    (found : m.reports.get? id = some r) : ∃ r', m'.reports.get? id = some r' ∧ r.Turns r' := by
  cases he with
  | same | question => exact ⟨r, found, .same⟩
  | served fresh effect => exact h.turns fresh effect found
  | rearranged hr => exact ⟨r, (h.reports.distinct.get?_perm hr.reports).trans found, .same⟩

/-- A session that is there stays there. -/
theorem Evolves.session_turns (he : m.Evolves m') (h : m.Sound) {id : SessionId} {s : Session}
    (found : m.sessions.get? id = some s) :
    ∃ s', m'.sessions.get? id = some s' ∧ s.Turns s' := by
  cases he with
  | same | question => exact ⟨s, found, .same⟩
  | served fresh effect => exact h.session_turns fresh effect found
  | rearranged hr => exact ⟨s, (h.sessions.distinct.get?_perm hr.sessions).trans found, .same⟩

/-- A ready report stays as it is. -/
theorem Evolves.ready_lasts (he : m.Evolves m') (h : m.Sound) {id : ReportId} {r : Report}
    (found : m.reports.get? id = some r) (ready : r.status = .ready) :
    m'.reports.get? id = some r := by
  obtain ⟨r', found', ht⟩ := he.turns h found
  rw [found', ht.eq_of_ready ready]

/-- The order of the entries does not matter to the rows of a report. -/
theorem Sound.riskResults_rearranged (h : m.Sound) (hr : m.Rearranged m') (id : ReportId) :
    m'.riskResults id = m.riskResults id := by
  unfold riskResults
  rw [h.distinct.2.1.get?_perm hr.results]

/-- The rows of a ready report stay as they are. -/
theorem Evolves.rows_last (he : m.Evolves m') (h : m.Sound) {id : ReportId} {r : Report}
    (found : m.reports.get? id = some r) (ready : r.status = .ready) :
    m'.riskResults id = m.riskResults id := by
  cases he with
  | same | question => rfl
  | served fresh effect => exact h.rows_last effect found ready
  | rearranged hr => exact h.riskResults_rearranged hr id

/-- What a sound store has, and single steps leave to it, it has after any number of them. -/
theorem Sound.lasting {P : Memory → Prop} (sound : m.Sound)
    (hs : Relation.ReflTransGen (Step Supply.Fresh) m m') (start : P m)
    (evolves : ∀ {n n'}, n.Sound → P n → n.Evolves n' → P n') : m'.Sound ∧ P m' := by
  induction hs with
  | refl => exact ⟨sound, start⟩
  | tail _ hstep ih =>
    obtain ⟨sound, hp⟩ := ih
    exact ⟨hstep.evolves.sound sound, evolves sound hp hstep.evolves⟩

end Memory

end RiskReport

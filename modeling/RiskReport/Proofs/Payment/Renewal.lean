import RiskReport.Proofs.Payment.Agreement
import RiskReport.Proofs.Transcript

/-!
# An intent whose secret is lost

A session may have an intent whose secret the payment service does not tell any more. A checkout
then goes on as if there was no intent: it has a new one prepared and attaches it
(`exists_attaching`). The store however attaches one intent to a session and no other, so it hands
back the old one, whose secret is still not told.

A `Setting` is a store in memory together with a payment service of any kind: how requests are
answered may depend on all that happened before.

**Theorem (`checkout_renewed_iff`).** A checkout that is told no secret, and for which a new intent
is prepared, ends with the secret of the new intent exactly if the session had no intent, and
exactly then the new intent is attached. Otherwise it fails and leaves the store as it was, and so
does every later checkout of the session as long as the secret is not told, whatever else the store
is asked.
-/

namespace RiskReport

open Program

/-- A store in memory with whatever else answers the requests of services. -/
structure Setting (σ : Type) where
  answer : (call : services.Call) → σ → services.Answer call × σ
  /-- The store as it is in a state. -/
  memory : σ → Memory
  serves : ∀ call t, (memory t).Serves call (answer call t).1 (memory (answer call t).2)

/-- The intent that was prepared in an exchange, if there was one. -/
def preparedIn? : Exchange services → Option PaymentIntent
  | ⟨.createPayment _, .ok intent⟩ => some intent
  | _ => none

namespace Setting

variable {σ : Type} {c : Setting σ} {t u : σ} {id : SessionId} {s : Session} {old : String}

/-- The intents that a service has prepared, in order. -/
def prepared {α : Type} (c : Setting σ) (p : Service α) (t : σ) : List PaymentIntent :=
  (p.transcript c.answer t).filterMap preparedIn?

/-- The secret of an intent is not told, whenever it is asked for. -/
def Withholds (c : Setting σ) (intent : String) : Prop :=
  ∀ t, ∃ e u, c.answer (.clientSecret intent) t = (.error e, u)

/-! ## Requests of a checkout -/

theorem exists_getSession (c : Setting σ) (t : σ) (id : SessionId) :
    ∃ u, c.answer (.store (.getSession id)) t = (.ok ((c.memory t).sessions.get? id), u) ∧
      c.memory u = c.memory t := by
  obtain ⟨supply, hserves⟩ := c.serves (.store (.getSession id)) t
  obtain ⟨hanswer, hmemory⟩ := Prod.mk.inj hserves
  exact ⟨_, Prod.ext hanswer.symm rfl, hmemory.symm⟩

theorem memory_createPayment {payment : NewPayment} {a : Except PaymentError PaymentIntent}
    (h : c.answer (.createPayment payment) t = (a, u)) : c.memory u = c.memory t := by
  have hserves := c.serves (.createPayment payment) t
  rw [h] at hserves
  exact hserves

theorem memory_clientSecret {intent : String} {a : Except PaymentError String}
    (h : c.answer (.clientSecret intent) t = (a, u)) : c.memory u = c.memory t := by
  have hserves := c.serves (.clientSecret intent) t
  rw [h] at hserves
  exact hserves

/-- A session that has an intent is handed back as it is. -/
theorem exists_alreadyAttached {p : NewIntent}
    (found : (c.memory t).sessions.get? p.session = some s)
    (taken : s.attachedIntent? = some old) :
    ∃ u, c.answer (.store (.attachIntent p)) t = (.ok (.alreadyAttached s), u) ∧
      c.memory u = c.memory t := by
  obtain ⟨supply, hserves⟩ := c.serves (.store (.attachIntent p)) t
  have hanswer : (c.memory t).answer supply (.attachIntent p) =
      (.ok (.alreadyAttached s), c.memory t) :=
    Memory.answer_of_ok (by simp only [Memory.respond, Memory.attachIntent, found, taken]; rfl)
  obtain ⟨hfirst, hmemory⟩ := Prod.mk.inj (hserves.symm.trans hanswer)
  exact ⟨_, Prod.ext hfirst rfl, hmemory⟩

/-- A session without an intent is given one that has a name. -/
theorem exists_attached {p : NewIntent} (sound : (c.memory t).Sound)
    (found : (c.memory t).sessions.get? p.session = some s) (free : s.attachedIntent? = none)
    (named : p.intent ≠ "") :
    ∃ s' u, c.answer (.store (.attachIntent p)) t = (.ok (.attached s'), u) ∧
      (c.memory u).Attached p.session p.intent := by
  obtain ⟨supply, hserves⟩ := c.serves (.store (.attachIntent p)) t
  obtain ⟨s', m, hanswer⟩ : ∃ s' m,
      (c.memory t).answer supply (.attachIntent p) = (.ok (.attached s'), m) :=
    ⟨_, _, Memory.answer_of_ok (by
      simp only [Memory.respond, Memory.attachIntent, found, free]; rfl)⟩
  obtain ⟨hfirst, hmemory⟩ := Prod.mk.inj (hserves.symm.trans hanswer)
  refine ⟨s', _, Prod.ext hfirst rfl, ?_⟩
  rw [hmemory]
  exact (sound.attached_of_answer named hanswer).2

/-! ## Attaching a new intent -/

@[simp] theorem outcome_store (call : StoreCall) :
    (Service.store call).outcome c.answer t = c.answer (.store call) t :=
  outcome_request _ t

@[simp] theorem outcome_createPayment (payment : NewPayment) :
    (Service.createPayment payment).outcome c.answer t = c.answer (.createPayment payment) t :=
  outcome_request _ t

@[simp] theorem outcome_clientSecret (intent : String) :
    (Service.clientSecret intent).outcome c.answer t = c.answer (.clientSecret intent) t :=
  outcome_request _ t

@[simp] theorem prepared_bind {α β : Type} (p : Service α) (f : α → Service β) :
    c.prepared (p.bind f) t =
      c.prepared p t ++
        c.prepared (f (p.outcome c.answer t).1) (p.outcome c.answer t).2 := by
  rw [prepared, transcript_bind, List.filterMap_append, ← prepared, ← prepared]

@[simp] theorem prepared_done {α : Type} (a : α) : c.prepared (done a) t = [] := rfl

@[simp] theorem prepared_report (event : Log.Event) : c.prepared (report event) t = [] := rfl

@[simp] theorem prepared_store (call : StoreCall) : c.prepared (Service.store call) t = [] := rfl

@[simp] theorem prepared_clientSecret (intent : String) :
    c.prepared (Service.clientSecret intent) t = [] := rfl

@[simp] theorem prepared_traced {α ε : Type} (span : Log.Span) (wording : ε → String)
    (p : Service (Except ε α)) : c.prepared (p.traced span wording) t = c.prepared p t := by
  rw [prepared, transcript_traced, ← prepared]

theorem prepared_createPayment {payment : NewPayment} {new : PaymentIntent}
    (h : c.answer (.createPayment payment) t = (.ok new, u)) :
    c.prepared (Service.createPayment payment) t = [new] := by
  show [(⟨.createPayment payment, (c.answer (.createPayment payment) t).1⟩ :
    Exchange services)].filterMap preparedIn? = [new]
  rw [h]
  rfl

variable {payment : NewPayment} {new : PaymentIntent}

/-- Nothing is attached if nothing is prepared. -/
theorem attachNewPayment_unprepared {e : PaymentError}
    (h : c.answer (.createPayment payment) t = (.error e, u)) :
    (attachNewPayment payment).outcome c.answer t = (.error e, u) := by
  unfold attachNewPayment
  simp only [bind_eq, outcome_bind, outcome_createPayment, h, pure_eq, outcome_done]

/-- A session that has an intent keeps it. If its secret is not told the new intent is of no use. -/
theorem attachNewPayment_taken
    (found : (c.memory t).sessions.get? payment.session = some s)
    (taken : s.attachedIntent? = some old) (withheld : c.Withholds old)
    (h : c.answer (.createPayment payment) t = (.ok new, u)) :
    ∃ e v, (attachNewPayment payment).outcome c.answer t = (.error e, v) ∧
      c.memory v = c.memory t ∧ c.prepared (attachNewPayment payment) t = [new] := by
  have hu := memory_createPayment h
  rw [← hu] at found
  obtain ⟨v, hattach, hv⟩ := exists_alreadyAttached
    (p := ⟨payment.session, new.customerRef, new.id, some payment.email⟩) found taken
  obtain ⟨e, w, hsecret⟩ := withheld v
  have hmemory : c.memory w = c.memory t := (memory_clientSecret hsecret).trans (hv.trans hu)
  refine ⟨e, w, ?_, hmemory, ?_⟩
  · unfold attachNewPayment winningSecret
    simp only [bind_eq, outcome_bind, outcome_createPayment, h, outcome_store, hattach,
      outcome_report, taken, outcome_clientSecret, hsecret, pure_eq, outcome_done]
  · unfold attachNewPayment winningSecret
    simp only [bind_eq, prepared_bind, prepared_createPayment h, outcome_createPayment, h,
      prepared_store, outcome_store, hattach, prepared_report, outcome_report, taken,
      prepared_clientSecret, outcome_clientSecret, hsecret, pure_eq, prepared_done,
      List.append_nil]

/-- A session without an intent is given the new one. -/
theorem attachNewPayment_free (sound : (c.memory t).Sound)
    (found : (c.memory t).sessions.get? payment.session = some s)
    (free : s.attachedIntent? = none) (named : new.id ≠ "")
    (h : c.answer (.createPayment payment) t = (.ok new, u)) :
    ∃ v, (attachNewPayment payment).outcome c.answer t = (.ok ⟨new.clientSecret, false⟩, v) ∧
      (c.memory v).Attached payment.session new.id ∧
      c.prepared (attachNewPayment payment) t = [new] := by
  rw [← memory_createPayment h] at found sound
  obtain ⟨s', v, hattach, attached⟩ := exists_attached
    (p := ⟨payment.session, new.customerRef, new.id, some payment.email⟩) sound found free named
  refine ⟨v, ?_, attached, ?_⟩
  · unfold attachNewPayment
    simp only [bind_eq, outcome_bind, outcome_createPayment, h, outcome_store, hattach, pure_eq,
      outcome_done]
  · unfold attachNewPayment
    simp only [bind_eq, prepared_bind, prepared_createPayment h, outcome_createPayment, h,
      prepared_store, outcome_store, hattach, pure_eq, prepared_done, List.append_nil]

/-! ## Checkouts that are told no secret -/

/-- A checkout that is told no secret of the session's intent attaches a new one. -/
theorem exists_attaching (price : Price) {email address : String}
    (found : (c.memory t).sessions.get? id = some s)
    (withheld : ∀ intent, s.attachedIntent? = some intent → c.Withholds intent)
    (haddress : Text.trimmed? email = some address) :
    ∃ u, c.memory u = c.memory t ∧
      (beginCheckout price id email).outcome c.answer t =
        (attachNewPayment ⟨price, address, id⟩).outcome c.answer u ∧
      c.prepared (beginCheckout price id email) t =
        c.prepared (attachNewPayment ⟨price, address, id⟩) u := by
  obtain ⟨u, hget, hu⟩ := c.exists_getSession t id
  rw [found] at hget
  unfold beginCheckout existingSecret?
  rw [haddress]
  cases hs : s.attachedIntent? with
  | none =>
    refine ⟨u, hu, ?_, ?_⟩
    · simp only [outcome_traced, bind_eq, outcome_bind, outcome_store, hget, hs, pure_eq,
        outcome_done]
    · simp only [prepared_traced, bind_eq, prepared_bind, prepared_store, outcome_store, hget, hs,
        pure_eq, prepared_done, outcome_done, List.nil_append]
  | some intent =>
    obtain ⟨e, v, hsecret⟩ := withheld intent hs u
    refine ⟨v, (memory_clientSecret hsecret).trans hu, ?_, ?_⟩
    · simp only [outcome_traced, bind_eq, outcome_bind, outcome_store, hget, hs,
        outcome_clientSecret, hsecret, outcome_report, pure_eq, outcome_done]
    · simp only [prepared_traced, bind_eq, prepared_bind, prepared_store, outcome_store, hget, hs,
        prepared_clientSecret, outcome_bind, outcome_clientSecret, hsecret, prepared_report,
        outcome_report, pure_eq, prepared_done, outcome_done, List.nil_append]

/-- A checkout of a session whose intent's secret is not told fails, and leaves the store as it
was. -/
theorem checkout_fails (attached : (c.memory t).Attached id old) (withheld : c.Withholds old)
    (price : Price) (email : String) :
    ∃ e u, (beginCheckout price id email).outcome c.answer t = (.error e, u) ∧
      c.memory u = c.memory t := by
  obtain ⟨s, found, taken⟩ := attached
  cases haddress : Text.trimmed? email with
  | none =>
    refine ⟨.validation "email is required", t, ?_, rfl⟩
    unfold beginCheckout
    rw [haddress, outcome_traced]
    rfl
  | some address =>
    obtain ⟨u, hu, hbegin, -⟩ := exists_attaching price found
      (fun intent h => Option.some.inj (taken.symm.trans h) ▸ withheld) haddress
    rw [hbegin]
    rw [← hu] at found
    rcases hcreate : c.answer (.createPayment ⟨price, address, id⟩) u with ⟨e | new, v⟩
    · exact ⟨e, v, attachNewPayment_unprepared hcreate, (memory_createPayment hcreate).trans hu⟩
    · obtain ⟨e, w, hattach, hw, -⟩ := attachNewPayment_taken found taken withheld hcreate
      exact ⟨e, w, hattach, hw.trans hu⟩

end Setting

/-- Whatever a store is asked, an intent that is attached stays attached. -/
theorem Memory.attached_lasts {m m' : Memory} {id : SessionId} {intent : String}
    (hs : Relation.ReflTransGen (Step Supply.Fresh) m m') (sound : m.Sound)
    (attached : m.Attached id intent) : m'.Sound ∧ m'.Attached id intent :=
  sound.lasting hs attached fun sound attached he => he.attached sound attached

namespace Sample

/-- A payment service that prepares intents and does not know the secret of any. -/
def forgetful : Setting Memory where
  answer
    | .store call, m => m.answer (supply 9) call
    | .createPayment _, m => (.ok ⟨"renewed", some "customer", "renewed secret"⟩, m)
    | .clientSecret intent, m => (.error (.gateway ("no such intent " ++ intent)), m)
    | .hedge _, m => (.ok .nothing, m)
    | .mail _, m | .enqueue _, m => (.ok (), m)
  memory := id
  serves call m := by
    cases call with
    | store call => exact ⟨supply 9, rfl⟩
    | hedge | mail | enqueue | createPayment | clientSecret => rfl

theorem forgetful_withholds (intent : String) : forgetful.Withholds intent :=
  fun m => ⟨_, m, rfl⟩

end Sample

namespace Setting

variable {σ : Type} {c : Setting σ} {t : σ} {id : SessionId} {s : Session}

/-- **Renewed intents.** The secret of the session's intent, if it has one, is not told, and the
payment service prepares whatever is asked for. Then a checkout with an address has one intent
prepared. It ends with the secret of this intent exactly if the session had none, and exactly then
is this the session's intent afterwards. If the session had one, the checkout fails, the intent it
had prepared is attached to nothing, and all later checkouts of the session fail in the same way,
with the store left as it is. -/
theorem checkout_renewed_iff (price : Price) {email : String} (sound : (c.memory t).Sound)
    (found : (c.memory t).sessions.get? id = some s) (address : (Text.trimmed? email).isSome)
    (withheld : ∀ old, s.attachedIntent? = some old → c.Withholds old)
    (prepares : ∀ payment u, ∃ new v, c.answer (.createPayment payment) u = (.ok new, v) ∧
      new.id ≠ "" ∧ s.attachedIntent? ≠ some new.id) :
    ∃ new r u, (beginCheckout price id email).outcome c.answer t = (r, u) ∧
      c.prepared (beginCheckout price id email) t = [new] ∧
      (r = .ok ⟨new.clientSecret, false⟩ ↔ s.attachedIntent? = none) ∧
      ((c.memory u).Attached id new.id ↔ s.attachedIntent? = none) ∧
      (s.attachedIntent?.isSome → (∃ e, r = .error e) ∧ c.memory u = c.memory t ∧
        ∀ later, Relation.ReflTransGen (Memory.Step Supply.Fresh) (c.memory t) (c.memory later) →
          ∀ price' email', ∃ e v,
            (beginCheckout price' id email').outcome c.answer later = (.error e, v) ∧
              c.memory v = c.memory later) := by
  obtain ⟨address, haddress⟩ := Option.isSome_iff_exists.1 address
  obtain ⟨t', hmemory, hbegin, hprepared⟩ := exists_attaching price found withheld haddress
  obtain ⟨new, u, hcreate, named, different⟩ := prepares ⟨price, address, id⟩ t'
  rw [hbegin, hprepared]
  rw [← hmemory] at sound found ⊢
  cases hs : s.attachedIntent? with
  | none =>
    obtain ⟨v, houtcome, attached, hnew⟩ := attachNewPayment_free sound found hs named hcreate
    refine ⟨new, _, v, houtcome, hnew, ⟨fun _ => rfl, fun _ => rfl⟩, ?_, nofun⟩
    exact ⟨fun _ => rfl, fun _ => attached⟩
  | some old =>
    obtain ⟨e, v, houtcome, hv, hnew⟩ := attachNewPayment_taken found hs (withheld old hs) hcreate
    have attached : (c.memory t').Attached id old := ⟨s, found, hs⟩
    refine ⟨new, _, v, houtcome, hnew, ⟨nofun, nofun⟩, ⟨fun h => ?_, nofun⟩, fun _ => ?_⟩
    · rw [hv] at h
      exact absurd (hs.trans (congrArg some (attached.unique h))) different
    · refine ⟨⟨e, rfl⟩, hv, fun later hsteps price' email' => ?_⟩
      exact checkout_fails (Memory.attached_lasts hsteps sound attached).2 (withheld old hs) price'
        email'

/-- Of a payment service that has forgotten all secrets, a checkout gets a new intent for the
session that had none, and fails for the one that had. -/
theorem checkout_renewed_iff_sample :
    (∃ m, (beginCheckout .standard ⟨⟨1⟩⟩ "owner@example.com").outcome Sample.forgetful.answer
        Sample.answered = (.ok ⟨"renewed secret", false⟩, m) ∧ m.Attached ⟨⟨1⟩⟩ "renewed") ∧
      ∃ e, (beginCheckout .standard ⟨⟨1⟩⟩ "owner@example.com").outcome Sample.forgetful.answer
        Sample.addressed = (.error e, Sample.addressed) := by
  have address : (Text.trimmed? "owner@example.com").isSome := by decide +kernel
  have prepares (s : Session) (hs : s.attachedIntent? ≠ some "renewed") payment m :
      ∃ new m', Sample.forgetful.answer (.createPayment payment) m = (.ok new, m') ∧
        new.id ≠ "" ∧ s.attachedIntent? ≠ some new.id :=
    ⟨_, m, rfl, by decide, hs⟩
  constructor
  · have sound := Memory.Reachable.sound (Sample.reachable_answered.mono fun _ _ h => h.toFresh)
    obtain ⟨s, found, free⟩ : ∃ s, Sample.answered.sessions.get? ⟨⟨1⟩⟩ = some s ∧
        s.attachedIntent? = none := ⟨_, rfl, rfl⟩
    obtain ⟨new, r, m, houtcome, hnew, hr, hattached, -⟩ :=
      checkout_renewed_iff (c := Sample.forgetful) (t := Sample.answered) .standard sound found
        address (fun old _ => Sample.forgetful_withholds old) (prepares s (by rw [free]; nofun))
    obtain rfl : new = ⟨"renewed", some "customer", "renewed secret"⟩ :=
      (List.singleton_inj.1 hnew).symm
    exact ⟨m, by rw [houtcome, hr.2 free], hattached.2 free⟩
  · obtain ⟨s, found, taken⟩ : ∃ s, Sample.addressed.sessions.get? ⟨⟨1⟩⟩ = some s ∧
        s.attachedIntent? = some "intent" := ⟨_, rfl, rfl⟩
    obtain ⟨new, r, m, houtcome, -, -, -, fails⟩ :=
      checkout_renewed_iff (c := Sample.forgetful) (t := Sample.addressed) .standard
        Sample.reachable_addressed.sound found address
        (fun old _ => Sample.forgetful_withholds old) (prepares s (by rw [taken]; decide))
    obtain ⟨⟨e, rfl⟩, hm, -⟩ := fails (by rw [taken]; rfl)
    exact ⟨e, houtcome.trans (congrArg (Prod.mk _) hm)⟩

/-- An intent is prepared for a session with an intent that is lost. The checkout ends with what is
said of the lost one all the same, and the new one is attached to nothing. -/
theorem checkout_blocked :
    Sample.addressed.Attached ⟨⟨1⟩⟩ "intent" ∧ Sample.forgetful.Withholds "intent" ∧
      Sample.forgetful.prepared (beginCheckout .standard ⟨⟨1⟩⟩ "owner@example.com")
        Sample.addressed = [⟨"renewed", some "customer", "renewed secret"⟩] ∧
      (beginCheckout .standard ⟨⟨1⟩⟩ "owner@example.com").outcome Sample.forgetful.answer
        Sample.addressed = (.error (.gateway "no such intent intent"), Sample.addressed) ∧
      ¬ Sample.addressed.Attached ⟨⟨1⟩⟩ "renewed" := by
  have attached : Sample.addressed.Attached ⟨⟨1⟩⟩ "intent" := ⟨_, rfl, rfl⟩
  refine ⟨attached, Sample.forgetful_withholds _, rfl, rfl, fun renewed => ?_⟩
  exact absurd (attached.unique renewed) (by decide)

end Setting

end RiskReport

import RiskReport.Proofs.Payment.Agreement
import RiskReport.Proofs.Payment.Claim

/-!
# The session of an intent

A payment event names an intent, and the store looks for the session that has it. It takes the first
one that it comes across, and a table has no order that one could rely on. So an event tells whose
payment it is about only if no two sessions have the same intent (`Memory.IntentsApart`).

A store attaches an intent to a session that has none and does not look at the other sessions. It
does so as well when one of them has the intent already: the request `Clashes`, and it is not
refused.

**Theorem (`intents_apart_iff`).** After any requests to an empty store no two sessions have the
same intent exactly if none of the requests clashed, and exactly then every intent has the same
session in whatever order the sessions are kept. In `Sample.shared` two sessions have one intent.
-/

namespace RiskReport

namespace Memory

/-! ## Intents that are apart -/

/-- No two sessions have the same intent. -/
def IntentsApart (m : Memory) : Prop :=
  ∀ i j intent, m.Attached i intent → m.Attached j intent → i = j

/-- An intent is to be attached to a session that has none, while another session has the intent. -/
inductive Clashes (m : Memory) : StoreCall → Prop
  | attached {p : NewIntent} {s : Session} {other : SessionId}
      (found : m.sessions.get? p.session = some s) (free : s.attachedIntent? = none)
      (elsewhere : other ≠ p.session) (taken : m.Attached other p.intent) :
      Clashes m (.attachIntent p)

/-- Each of some requests, the latest first, took new identifiers from outside. -/
def Minted (m : Memory) : List (Supply × StoreCall) → Prop
  | [] => True
  | (supply, _) :: earlier => supply.Fresh (m.after earlier) ∧ m.Minted earlier

/-- None of some requests, the latest first, clashed. -/
def Undisputed (m : Memory) : List (Supply × StoreCall) → Prop
  | [] => True
  | (_, call) :: earlier => ¬ (m.after earlier).Clashes call ∧ m.Undisputed earlier

variable {m n : Memory} {supply : Supply} {call : StoreCall} {i : SessionId} {intent : String}

/-- An intent that is attached has a name. -/
theorem Attached.named (h : m.Attached i intent) : intent ≠ "" := by
  obtain ⟨s, -, hs⟩ := h
  rintro rfl
  obtain ⟨ref, -, href⟩ := Option.bind_eq_some_iff.1 hs
  exact nonEmpty?_ne_some_empty ref href

/-- A request for an intent that no session has does not clash. -/
theorem not_clashes {p : NewIntent} {e : StoreError}
    (unknown : m.sessionOfIntent p.intent = .error e) : ¬ m.Clashes (.attachIntent p) := by
  rintro ⟨-, -, -, ⟨s, found, hs⟩⟩
  unfold sessionOfIntent at unknown
  split at unknown
  · cases unknown
  · next hnone =>
    have hne := List.find?_eq_none.1 hnone s (Table.mem_rows_of_get? found)
    simp [hs] at hne

/-! ## One request -/

theorem attached_insertSession {s : Session} :
    (m.insertSession s).Attached i intent ↔
      if i = s.id then s.attachedIntent? = some intent else m.Attached i intent := by
  unfold Attached insertSession
  split_ifs with hi
  · simp [hi]
  · simp [Table.get?_insert_of_ne hi]

/-- Putting in a session whose intent is the one that it had attaches nothing. -/
theorem attached_of_insertSession {s t : Session} (ha : (m.insertSession t).Attached i intent)
    (found : m.sessions.get? s.id = some s) (key : t.id = s.id)
    (same : t.attachedIntent? = s.attachedIntent?) : m.Attached i intent := by
  rw [attached_insertSession] at ha
  split_ifs at ha with hi
  · exact ⟨s, hi ▸ key ▸ found, same ▸ ha⟩
  · exact ha

/-- Whatever is attached after a request was attached before, or the request has attached it to a
session that had no intent. -/
theorem Sound.attached_origin {m' : Memory} (h : m.Sound) (he : Effect m supply call m')
    (ha : m'.Attached i intent) :
    m.Attached i intent ∨ ∃ p s, call = .attachIntent p ∧ p.session = i ∧ p.intent = intent ∧
      m.sessions.get? i = some s ∧ s.attachedIntent? = none := by
  cases he with
  | none | answered | finished | givenUp | claimed | reclaimed | completed => exact .inl ha
  | opened =>
    rw [attached_insertSession] at ha
    split_ifs at ha with hi
    · cases ha
    · exact .inl ha
  | @attached p s found free =>
    rw [attached_insertSession] at ha
    split_ifs at ha with hi
    · have hid : s.id = p.session := h.sessions.key _ _ found
      have hintent : p.intent = intent := by
        simp only [Session.attachedIntent?, Option.bind_some, Text.nonEmpty?] at ha
        split_ifs at ha
        exact Option.some.inj ha
      obtain rfl : i = p.session := hi.trans hid
      exact .inr ⟨p, s, rfl, rfl, hintent, found, free⟩
    · exact .inl ha
  | paymentFailed found | refunded found =>
    exact .inl (attached_of_insertSession ha (h.get?_sessionOfIntent found) rfl rfl)
  | @begun _ s found =>
    have ha : (m.insertSession { s with
        paymentStatus := .paid
        paidAt := s.paidAt.or (some supply.now)
        updatedAt := supply.now }).Attached i intent := ha
    exact .inl (attached_of_insertSession ha (h.get?_sessionOfIntent found) rfl rfl)

/-- A request that clashes is not refused: afterwards both sessions have the intent. -/
theorem Clashes.shared (hc : m.Clashes call) (h : m.Sound) (fresh : supply.Fresh m) :
    ∃ i j intent, i ≠ j ∧ (m.answer supply call).2.Attached i intent ∧
      (m.answer supply call).2.Attached j intent := by
  cases hc with
  | @attached p s other found free elsewhere taken =>
    obtain ⟨t, hgranted⟩ : ∃ t, m.answer supply (.attachIntent p) =
        (.ok (.attached t), (m.answer supply (.attachIntent p)).2) := by
      simp only [answer, respond, attachIntent, found, free]
      exact ⟨_, rfl⟩
    have lasts := (evolves_answer fresh (.attachIntent p)).attached h taken
    exact ⟨other, p.session, p.intent, elsewhere, lasts,
      (h.attached_of_answer taken.named hgranted).2⟩

/-- The intents are apart after a request exactly if they were before and the request does not
clash. -/
theorem Sound.intentsApart_answer (h : m.Sound) (fresh : supply.Fresh m) :
    (m.answer supply call).2.IntentsApart ↔ m.IntentsApart ∧ ¬ m.Clashes call := by
  have lasts {i : SessionId} {intent : String} (ha : m.Attached i intent) :=
    (evolves_answer fresh call).attached h ha
  constructor
  · intro apart
    refine ⟨fun i j intent hi hj => apart i j intent (lasts hi) (lasts hj), fun hc => ?_⟩
    obtain ⟨i, j, intent, hij, hi, hj⟩ := hc.shared h fresh
    exact hij (apart i j intent hi hj)
  · rintro ⟨apart, hc⟩ i j intent hi hj
    have he := answer_effect m supply call
    -- Where one of the two intents is attached now, the other one would be a clash.
    rcases h.attached_origin he hi with hi | ⟨p, s, hp, rfl, rfl, found, free⟩ <;>
      rcases h.attached_origin he hj with hj | ⟨q, t, hq, rfl, hintent, found', free'⟩
    · exact apart i j intent hi hj
    · by_contra hij
      subst hintent
      exact hc (hq ▸ .attached found' free' hij hi)
    · by_contra hij
      exact hc (hp ▸ .attached found free (Ne.symm hij) hj)
    · obtain rfl := StoreCall.attachIntent.inj (hp.symm.trans hq)
      rfl

/-! ## Many requests -/

theorem Minted.sound {requests : List (Supply × StoreCall)} (h : m.Sound)
    (minted : m.Minted requests) : (m.after requests).Sound := by
  induction requests with
  | nil => exact h
  | cons request earlier ih => exact (evolves_answer minted.1 request.2).sound (ih minted.2)

/-- The intents stay apart exactly as long as no request clashes. -/
theorem Minted.intentsApart_iff {requests : List (Supply × StoreCall)} (h : m.Sound)
    (minted : m.Minted requests) (apart : m.IntentsApart) :
    (m.after requests).IntentsApart ↔ m.Undisputed requests := by
  induction requests with
  | nil => exact iff_of_true apart trivial
  | cons request earlier ih =>
    obtain ⟨supply, call⟩ := request
    obtain ⟨fresh, minted⟩ := minted
    rw [after, (minted.sound h).intentsApart_answer fresh, ih minted, Undisputed, and_comm]

theorem intentsApart_empty : Memory.empty.IntentsApart := by
  rintro i j intent ⟨s, found, -⟩
  cases found

/-! ## The order of the sessions -/

/-- Sessions with the same intent are the same if the intents are apart. -/
theorem IntentsApart.single (apart : m.IntentsApart) (h : m.Sound) {s t : Session}
    (hs : s ∈ m.sessions.rows) (ht : t ∈ m.sessions.rows)
    (intent_s : s.attachedIntent? = some intent) (intent_t : t.attachedIntent? = some intent) :
    s = t := by
  rw [h.sessions.mem_rows] at hs ht
  have hid : s.id = t.id := apart _ _ intent ⟨s, hs, intent_s⟩ ⟨t, ht, intent_t⟩
  exact Option.some.inj (hs.symm.trans (hid ▸ ht))

/-- An intent has the same session in every order if the intents are apart. -/
theorem IntentsApart.sessionOfIntent_eq (apart : m.IntentsApart) (h : m.Sound)
    (hp : n.sessions.entries.Perm m.sessions.entries) (intent : String) :
    n.sessionOfIntent intent = m.sessionOfIntent intent := by
  unfold sessionOfIntent
  have hfind : n.sessions.rows.find? (·.attachedIntent? == some intent) =
      m.sessions.rows.find? (·.attachedIntent? == some intent) := by
    refine Table.find?_rows_perm hp fun s hs t ht hs' ht' => ?_
    exact apart.single h hs ht (by simpa using hs') (by simpa using ht')
  rw [hfind]

/-- Any session with an intent is the first one with it in some order. -/
theorem Sound.exists_order (h : m.Sound) {s : Session} (found : m.sessions.get? i = some s)
    (attached : s.attachedIntent? = some intent) :
    ∃ n : Memory, n.sessions.entries.Perm m.sessions.entries ∧
      n.sessionOfIntent intent = .ok s := by
  refine ⟨{ m with sessions := ⟨(i, s) :: m.sessions.entries.erase (i, s)⟩ }, ?_, ?_⟩
  · exact (List.perm_cons_erase (h.sessions.distinct.mem_entries.2 found)).symm
  · simp [sessionOfIntent, Table.rows, attached]

/-- If an intent has the same session in every order, no two sessions have the same intent. -/
theorem Sound.intentsApart_of_orders (h : m.Sound)
    (same : ∀ n : Memory, n.sessions.entries.Perm m.sessions.entries →
      ∀ intent, n.sessionOfIntent intent = m.sessionOfIntent intent) : m.IntentsApart := by
  rintro i j intent ⟨s, found, hs⟩ ⟨t, found', ht⟩
  obtain ⟨n, hn, hfirst⟩ := h.exists_order found hs
  obtain ⟨n', hn', hfirst'⟩ := h.exists_order found' ht
  have hst : s = t := by
    have hboth := hfirst.symm.trans ((same n hn intent).trans (same n' hn' intent).symm)
    exact Except.ok.inj (hboth.trans hfirst')
  rw [← h.sessions.key i s found, ← h.sessions.key j t found', hst]

/-! ## Whose payment an event is about -/

/-- **Intents and sessions.** An empty store serves any requests, each with new identifiers.
Afterwards no two sessions have the same intent exactly if no intent was attached to a session while
another one had it; and exactly then the session that is found for an intent, to be marked as failed
or refunded or to have its report begun, does not depend on the order in which the sessions are
kept. -/
theorem intents_apart_iff {requests : List (Supply × StoreCall)}
    (minted : Memory.empty.Minted requests) :
    ((Memory.empty.after requests).IntentsApart ↔ Memory.empty.Undisputed requests) ∧
      ((Memory.empty.after requests).IntentsApart ↔
        ∀ n : Memory, n.sessions.entries.Perm (Memory.empty.after requests).sessions.entries →
          ∀ intent, n.sessionOfIntent intent =
            (Memory.empty.after requests).sessionOfIntent intent) := by
  have hsound : (Memory.empty.after requests).Sound := minted.sound sound_empty
  refine ⟨minted.intentsApart_iff sound_empty intentsApart_empty, fun apart n hn intent => ?_,
    hsound.intentsApart_of_orders⟩
  exact apart.sessionOfIntent_eq hsound hn intent

end Memory

namespace Sample

/-- Two visitors come, and to the session of each an intent is attached. -/
def attachments (first second : String) : List (Supply × StoreCall) :=
  [(supply 4, .attachIntent ⟨⟨⟨2⟩⟩, none, second, none⟩),
    (supply 3, .attachIntent ⟨⟨⟨1⟩⟩, none, first, none⟩),
    (supply 2, .createSession "second"), (supply 1, .createSession "first")]

/-- The same intent is attached to both sessions. -/
def shared : Memory :=
  Memory.empty.after (attachments "intent" "intent")

end Sample

namespace Memory

theorem minted_attachments (first second : String) :
    Memory.empty.Minted (Sample.attachments first second) :=
  ⟨⟨rfl, rfl⟩, ⟨rfl, rfl⟩, ⟨rfl, rfl⟩, ⟨rfl, rfl⟩, trivial⟩

/-- If the intents of the sample are different, the payments are kept apart. -/
theorem intents_apart_iff_sample :
    (Memory.empty.after (Sample.attachments "first" "second")).IntentsApart := by
  have hiff := (intents_apart_iff (minted_attachments "first" "second")).1
  exact hiff.2 ⟨not_clashes rfl, not_clashes rfl, nofun, nofun, trivial⟩

/-- If the intents of the sample are the same, both sessions have the intent, and which one is
found for it depends on the order. -/
theorem intent_shared :
    Memory.empty.Minted (Sample.attachments "intent" "intent") ∧ ¬ Sample.shared.IntentsApart ∧
      ∃ n : Memory, n.sessions.entries.Perm Sample.shared.sessions.entries ∧
        n.sessionOfIntent "intent" ≠ Sample.shared.sessionOfIntent "intent" := by
  refine ⟨minted_attachments "intent" "intent", fun apart => ?_, ?_⟩
  · have hij := apart ⟨⟨1⟩⟩ ⟨⟨2⟩⟩ "intent" ⟨_, rfl, rfl⟩ ⟨_, rfl, rfl⟩
    cases hij
  · refine ⟨{ Sample.shared with sessions := ⟨Sample.shared.sessions.entries.reverse⟩ },
      List.reverse_perm _, ?_⟩
    decide

end Memory

end RiskReport

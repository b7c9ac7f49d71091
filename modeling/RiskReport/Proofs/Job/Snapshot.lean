import RiskReport.Proofs.Job.Attempt
import RiskReport.Proofs.Job.Delivery
import RiskReport.Proofs.Json.Decoding
import RiskReport.Proofs.Scoring.Standing

/-!
# Results that are kept twice

A report that becomes ready keeps its risks in two forms: as JSON with the report, its snapshot, and
as rows in a table of their own, in which positions have 32 bits and scores 16. What is written to
the snapshot of a risk with numbers that fit is read back to the risk (`ScoredRisk.reads_toJson`),
and the numbers of a ranking fit unless it has too many risks for its positions
(`TierThresholds.Ranked.fits`). The rows are sorted by their positions when they are listed, which
are those of the ranking, so they come in its order.

**Theorem (`stored_forms_agree`).** The snapshot is read back to the very risks that were kept, and
the rows that are listed have the same risks in the same order, then and ever after.
-/

namespace RiskReport

open Json

variable {depth : Nat}

/-! ## The snapshot -/

theorem RiskTier.reads_toJson (tier : RiskTier) : decoder.Reads depth tier.toJson (· = tier) := by
  refine Decoder.reads_enumeration ?_
  cases tier <;> rfl

namespace ScoredRisk

variable {r : ScoredRisk}

/-- The numbers of a risk fit into the bits that a decoder allows them. -/
structure Fits (r : ScoredRisk) : Prop where
  rank : r.rank < Nat.pow 2 32
  probability : r.probability < Nat.pow 2 8
  impact : r.impact < Nat.pow 2 8
  score : r.score < Nat.pow 2 16

/-- The fields of a risk as JSON. -/
def jsonFields (r : ScoredRisk) : List (String × Json) :=
  [("question_id", .string r.questionId), ("rank", .ofNat r.rank),
    ("risk_name", .string r.riskName), ("risk_desc", .string r.riskDesc),
    ("hedge", .string r.hedge), ("section", .string r.sectionTitle),
    ("probability", .ofNat r.probability), ("impact", .ofNat r.impact),
    ("score", .ofNat r.score), ("tier", r.tier.toJson)]

theorem toJson_eq (r : ScoredRisk) : r.toJson = .record r.jsonFields := rfl

theorem keys_distinct (r : ScoredRisk) : (r.jsonFields.map (·.1)).Nodup := by
  show ["question_id", "rank", "risk_name", "risk_desc", "hedge", "section", "probability",
    "impact", "score", "tier"].Nodup
  decide

/-- A risk whose numbers fit is read back from its JSON. -/
theorem reads_toJson (h : r.Fits) (hdepth : depth + 1 < depthLimit) :
    decoder.Reads depth r.toJson (· = r) := by
  obtain ⟨obj, hobj, hperm⟩ := record_eq_object r.keys_distinct
  rw [toJson_eq, hobj]
  refine Decoder.reads_struct hdepth fun distinct => ?_
  have text (name s : String) (hmem : (name, .string s) ∈ r.jsonFields) :
      (Fields.required name .string).Reads (depth + 1) obj (· = s) :=
    Fields.reads_of_mem distinct (hperm.mem_iff.2 hmem) Decoder.reads_string
  have number (name : String) {bits i : Nat} (hi : i < Nat.pow 2 bits)
      (hmem : (name, .ofNat i) ∈ r.jsonFields) :
      (Fields.required name (.unsigned bits)).Reads (depth + 1) obj (· = i) :=
    Fields.reads_of_mem distinct (hperm.mem_iff.2 hmem) (Decoder.reads_unsigned hi)
  have tier : (Fields.required "tier" RiskTier.decoder).Reads (depth + 1) obj (· = r.tier) :=
    Fields.reads_of_mem distinct (hperm.mem_iff.2 (by simp [jsonFields])) r.tier.reads_toJson
  have question := (text "question_id" r.questionId (by simp [jsonFields])).map_eq ScoredRisk.mk
  have rank := question.and_eq (number "rank" h.rank (by simp [jsonFields])) (by decide)
  have name := rank.and_eq (text "risk_name" r.riskName (by simp [jsonFields])) (by decide)
  have desc := name.and_eq (text "risk_desc" r.riskDesc (by simp [jsonFields])) (by decide)
  have hedge := desc.and_eq (text "hedge" r.hedge (by simp [jsonFields])) (by decide)
  have title := hedge.and_eq (text "section" r.sectionTitle (by simp [jsonFields])) (by decide)
  have probability :=
    title.and_eq (number "probability" h.probability (by simp [jsonFields])) (by decide)
  have impact := probability.and_eq (number "impact" h.impact (by simp [jsonFields])) (by decide)
  have score := impact.and_eq (number "score" h.score (by simp [jsonFields])) (by decide)
  exact score.and_eq tier (by decide)

theorem toJson_shown : Shows depth (Node.ofJson r.toJson) r.toJson := by
  have number (i : Nat) : Shows (depth + 1) (Node.ofJson (.ofNat i)) (.ofNat i) := rfl
  have text (s : String) : Shows (depth + 1) (Node.ofJson (.string s)) (.string s) := rfl
  have tier (t : RiskTier) : Shows (depth + 1) (Node.ofJson t.toJson) t.toJson := rfl
  refine shows_ofJson_record r.keys_distinct ?_
  simp [number, text, tier]

end ScoredRisk

namespace ScoredReport

variable {p : ScoredReport}

/-- The risks of a snapshot. -/
def snapshotDecoder : Decoder (List ScoredRisk) := .list ScoredRisk.decoder

theorem reads_snapshot (h : ∀ r ∈ p.risks, r.Fits) :
    snapshotDecoder.Reads 0 p.snapshot (· = p.risks) :=
  Decoder.Reads.list_map (by decide) fun r hr => ScoredRisk.reads_toJson (h r hr) (by decide)

theorem snapshot_shown : Shows 0 (Node.ofJson p.snapshot) p.snapshot := by
  refine shows_ofJson_array ?_
  intro v hv
  obtain ⟨r, -, rfl⟩ := List.mem_map.1 hv
  exact ScoredRisk.toJson_shown

end ScoredReport

namespace TierThresholds

variable {t : TierThresholds} {rows : List AnswerRow} {risks : List ScoredRisk}

/-- The numbers of a ranking fit, if its positions do. -/
theorem Ranked.fits (h : t.Ranked rows risks) (few : risks.length < 2 ^ 31) {s : ScoredRisk}
    (hs : s ∈ risks) : s.Fits := by
  have hrank : s.rank < 2147483648 := Nat.lt_of_le_of_lt (h.rank_le hs) few
  have hscore : s.score ≤ 100 := h.score_le hs
  have hvalues : s.probability ≤ 10 ∧ s.impact ≤ 10 := by
    obtain ⟨row, -, -, config, -, i, rfl⟩ := h.scored s hs
    have hbounded := config.score_bounded row.answerText
    exact ⟨hbounded.probability.2, hbounded.impact.2⟩
  exact {
    rank := by
      show s.rank < 4294967296
      omega
    probability := by
      show s.probability < 256
      omega
    impact := by
      show s.impact < 256
      omega
    score := by
      show s.score < 65536
      omega }

end TierThresholds

/-! ## The rows -/

/-- A row shows a risk: it has the same question, the same texts, the same tier, and the same
numbers. -/
structure RiskResult.Shows (row : RiskResult) (s : ScoredRisk) : Prop where
  questionId : row.questionId = s.questionId
  rank : row.rank = s.rank
  riskName : row.riskName = s.riskName
  riskDesc : row.riskDesc = s.riskDesc
  hedge : row.hedge = s.hedge
  sectionTitle : row.sectionTitle = s.sectionTitle
  probability : row.probability = s.probability
  impact : row.impact = s.impact
  score : row.score = s.score
  tier : row.tier = s.tier

/-- A row that keeps a risk shows it, if narrowing changes none of its numbers. -/
theorem RiskResult.Keeps.shows {row : RiskResult} {id : ReportId} {s : ScoredRisk}
    (h : row.Keeps id s) (rank : narrow 32 s.rank = s.rank) (score : narrow 16 s.score = s.score) :
    row.Shows s := by
  obtain ⟨_, _, rfl⟩ := h
  constructor <;> simp only [ScoredRisk.row, rank, score]

/-- The rows of a ranking show its risks, one each. -/
theorem TierThresholds.Ranked.shows_rows {t : TierThresholds} {answers : List AnswerRow}
    {p : ScoredReport} (h : t.Ranked answers p.risks) (few : p.risks.length < 2 ^ 31)
    (supply : Supply) : List.Forall₂ RiskResult.Shows (p.rows supply) p.risks := by
  have kept : List.Forall₂ (fun s row => s ∈ p.risks ∧ row.Keeps p.report s) p.risks
      (p.rows supply) :=
    (List.forall₂_and_left _ _).2 ⟨fun _ hs => hs, (p.keeps_rows supply).flip⟩
  refine (kept.imp fun s row hrow => ?_).flip
  obtain ⟨hs, hkeeps⟩ := hrow
  have hrank : s.rank < 2147483648 := Nat.lt_of_le_of_lt (h.rank_le hs) few
  have hscore : s.score ≤ 100 := h.score_le hs
  refine hkeeps.shows (narrow_of_lt ?_) (narrow_of_lt ?_)
  · show 2 * s.rank < 4294967296
    omega
  · show 2 * s.score < 65536
    omega

/-! ## Both forms -/

namespace Memory

variable {m m' : Memory} {id : ReportId} {risks : List ScoredRisk}

/-- A store has the risks of a report that is ready in both forms: its snapshot is read back to
them, also from a text of it, and its rows are listed in their order and show them. -/
structure KeepsTwice (m : Memory) (id : ReportId) (risks : List ScoredRisk) : Prop where
  snapshot : ∃ r v, m.reports.get? id = some r ∧ r.status = .ready ∧ r.risksSnapshot = some v ∧
    ScoredReport.snapshotDecoder.ofJson v = .ok risks ∧
    ∀ s, v.WrittenAs s → ScoredReport.snapshotDecoder.ofText s = .ok risks
  rows : List.Forall₂ RiskResult.Shows (m.riskResults id) risks

theorem KeepsTwice.lasts (h : m.KeepsTwice id risks) (sound : m.Sound)
    (hs : Relation.ReflTransGen (Step Supply.Fresh) m m') : m'.KeepsTwice id risks := by
  have evolves {n n' : Memory} (sound : n.Sound) (hn : n.KeepsTwice id risks)
      (he : n.Evolves n') : n'.KeepsTwice id risks := by
    obtain ⟨⟨r, v, found, ready, hv⟩, rows⟩ := hn
    refine ⟨⟨r, v, he.ready_lasts sound found ready, ready, hv⟩, ?_⟩
    rwa [he.rows_last sound found ready]
  exact (sound.lasting hs h evolves).2

/-- Results that were kept with a ranking are there in both forms. -/
theorem keepsTwice_withResults {t : TierThresholds} {answers : List AnswerRow} {r : Report}
    {p : ScoredReport} (ranked : t.Ranked answers p.risks) (few : p.risks.length < 2 ^ 31)
    (supply : Supply) : (m.withResults supply r p).KeepsTwice r.id p.risks where
  snapshot := by
    have hreads := ScoredReport.reads_snapshot fun s hs => ranked.fits few hs
    obtain ⟨_, hread, rfl⟩ := hreads _ ScoredReport.snapshot_shown
    refine ⟨finished r p supply.now, p.snapshot, Table.get?_insert_self, rfl, rfl, hread, ?_⟩
    intro s hs
    obtain ⟨_, htext, rfl⟩ := hreads.ofText hs
    exact htext
  rows := by
    have found : (m.withResults supply r p).results.get? r.id = some (p.rows supply) :=
      Table.get?_insert_self
    rw [riskResults_of_ranked ranked few found]
    exact ranked.shows_rows few supply

/-- **Results kept twice.** The answers to some questions were ranked, with fewer than `2 ^ 31`
risks and no question twice, and the results are kept for a draft, whatever was written for them.
This succeeds, and afterwards the store has the risks in both forms: the snapshot of the report is
read back to the very risks, and the rows that are listed show them one by one, in their order and
with all their numbers. Whatever else a sound store is asked, that stays so. -/
theorem stored_forms_agree {t : TierThresholds} {answers : List AnswerRow} {r : Report}
    (p : ScoredReport) (supply : Supply) (ranked : t.rank answers = .ok p.risks)
    (few : p.risks.length < 2 ^ 31) (distinct : (p.risks.map (·.questionId)).Nodup)
    (found : m.reports.get? p.report = some r) (key : r.id = p.report)
    (draft : r.status = .draft) :
    ∃ ready m', m.answer supply (.persistReport p) = (.ok ready, m') ∧
      m'.reports.get? p.report = some ready ∧ m'.KeepsTwice p.report p.risks ∧
      (m'.Sound → ∀ later, Relation.ReflTransGen (Step Supply.Fresh) m' later →
        later.KeepsTwice p.report p.risks) := by
  have unfinished : r.status.isTerminal = false := by
    rw [draft]
    rfl
  have twice : (m.withResults supply r p).KeepsTwice p.report p.risks :=
    key ▸ keepsTwice_withResults (TierThresholds.ranked_of_rank ranked) few supply
  refine ⟨finished r p supply.now, m.withResults supply r p,
    answer_persistReport found unfinished distinct, ?_, twice,
    fun sound later hs => twice.lasts sound hs⟩
  rw [← key]
  exact Table.get?_insert_self

end Memory

/-- The results of two answers, to the question of the sample and to one like it. -/
def Sample.graded : ScoredReport :=
  { Sample.results with
    risks := [⟨"backups", 1, "Data loss", "Nothing is kept elsewhere.", "Keep a copy elsewhere.",
        "Continuity", 9, 8, 72, .watch⟩,
      ⟨"access", 2, "Data loss", "Nothing is kept elsewhere.", "Keep a copy elsewhere.",
        "Continuity", 2, 1, 2, .ignore⟩] }

namespace Memory

/-- Two risks are kept in both forms, and still are when the payment is processed once more. -/
theorem stored_forms_agree_sample :
    let m := (Sample.paid.answer (Sample.supply 5) (.persistReport Sample.graded)).2
    m.KeepsTwice ⟨⟨4⟩⟩ Sample.graded.risks ∧
      (m.answer (Sample.supply 6) (.initialiseReport "intent")).2.KeepsTwice ⟨⟨4⟩⟩
        Sample.graded.risks := by
  intro m
  have scored : List.Forall₂ (fun row s => TierThresholds.published.scoreRow row = .ok s)
      [Sample.question.answered "No", { Sample.question with id := "access" }.answered "Yes"]
      (Sample.graded.risks.map fun s => { s with rank := 0 }) :=
    .cons rfl (.cons rfl .nil)
  have ranked : TierThresholds.published.rank [Sample.question.answered "No",
      { Sample.question with id := "access" }.answered "Yes"] = .ok Sample.graded.risks := by
    refine TierThresholds.rank_eq_ok_iff.2 ⟨_, scored, ?_⟩
    rw [List.mergeSort_of_pairwise (by decide)]
    rfl
  obtain ⟨ready, m', hanswer, -, twice, lasts⟩ :=
    stored_forms_agree Sample.graded (Sample.supply 5) ranked (by decide) (by decide)
      (show Sample.paid.reports.get? ⟨⟨4⟩⟩ = some _ from rfl) rfl rfl
  obtain rfl : m = m' := congrArg Prod.snd hanswer
  have reachable : m.Reachable Supply.Fresh :=
    (Sample.reachable_paid.mono fun _ _ h => h.toFresh).request _ ⟨rfl, rfl⟩
  exact ⟨twice, lasts reachable.sound _ (.single (.request _ ⟨rfl, rfl⟩))⟩

end Memory

end RiskReport

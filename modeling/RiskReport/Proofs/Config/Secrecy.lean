import RiskReport.Proofs.Config.Agreement

/-!
# Secrets

Two sets of variables that differ only in what their secrets are, not in whether these are set, look
the same once every secret is replaced by one and the same text (`Variables.concealed`). So loading
from either of them goes as loading from the concealed variables does, and what is loaded differs in
the secrets only. Neither the settings in one line nor what the runner is told have a secret in them
(`AppConfig.describe_mapSecrets`, `AppConfig.runnerConfig?_mapSecrets`), and no refusal quotes one.

**Theorem (`load_keeps_secrets`).** Loading from variables that differ in their secrets only ends
with the same refusal, or with settings that read the same in one line and tell the runner the same.
-/

namespace RiskReport

/-! ## Variables that differ in their secrets -/

namespace Variables

variable {vars vars' : Variables} {key : String}

/-- Two sets of variables have the same texts, but for the secrets that are set in both of them. -/
structure AlikeButSecrets (vars vars' : Variables) : Prop where
  others : ∀ key, key ∉ secrets → vars key = vars' key
  secret : ∀ key ∈ secrets, (vars.get? key).isSome = (vars'.get? key).isSome

/-- What stands in place of a secret. -/
def placeholder : String := "hidden"

/-- The variables with every secret that is set hidden. -/
def concealed (vars : Variables) : Variables := fun key =>
  if key ∈ secrets then (vars.get? key).map fun _ => placeholder else vars key

theorem get?_concealed_of_secret (h : key ∈ secrets) :
    vars.concealed.get? key = (vars.get? key).map fun _ => placeholder := by
  have htrimmed : Text.trimmed? placeholder = some placeholder := by decide
  show (vars.concealed key).bind Text.trimmed? = _
  rw [concealed, if_pos h]
  cases vars.get? key with
  | none => rfl
  | some s =>
    rw [Option.map_some, Option.bind_some]
    exact htrimmed

theorem get?_concealed_of_not_secret (h : key ∉ secrets) :
    vars.concealed.get? key = vars.get? key := by
  show (vars.concealed key).bind Text.trimmed? = _
  rw [concealed, if_neg h]
  rfl

theorem not_secret_of_public (h : key ∈ publicNames) : key ∉ secrets := by
  simpa using (List.mem_filter.1 h).2

/-- Variables that differ in their secrets are the same once the secrets are hidden. -/
theorem AlikeButSecrets.concealed_eq (h : vars.AlikeButSecrets vars') :
    vars.concealed = vars'.concealed := by
  funext key
  unfold concealed
  by_cases hkey : key ∈ secrets
  · have hset := h.secret key hkey
    rw [if_pos hkey, if_pos hkey]
    cases hvars : vars.get? key <;> cases hvars' : vars'.get? key <;>
      simp [hvars, hvars'] at hset ⊢
  · rw [if_neg hkey, if_neg hkey]
    exact h.others key hkey

end Variables

namespace AppConfig

open Variables

variable {c d : AppConfig} {f g : String → String}

/-- Loading from concealed variables is loading, with the secrets hidden afterwards. -/
theorem load_concealed (vars : Variables) :
    load vars.concealed = (load vars).map (mapSecrets fun _ => placeholder) := by
  apply load_mapSecrets
  · intro key hkey
    exact get?_concealed_of_not_secret (not_secret_of_public hkey)
  · intro key hkey
    exact get?_concealed_of_secret hkey

/-! ## What shows no secret -/

/-- The settings in one line have no secret in them. -/
theorem describe_mapSecrets (f : String → String) (c : AppConfig) :
    (c.mapSecrets f).describe = c.describe := by
  unfold describe mapSecrets
  cases c.anthropic <;> cases c.deepseek <;> rfl

/-- The runner is told no secret. -/
theorem runnerConfig?_mapSecrets (f : String → String) (c : AppConfig) :
    (c.mapSecrets f).runnerConfig? = c.runnerConfig? := rfl

end AppConfig

/-! ## The theorem -/

/-- **Secrets.** Two sets of variables have the same texts, but for the address of the database and
the keys, of which the same are set. Then loading ends with the same refusal for both, and so with
the same wording; or with settings for both, which read the same in one line and tell the runner the
same. The one refusal that is an overflow is due to a number of workers that cannot be counted
twice. -/
theorem load_keeps_secrets {vars vars' : Variables} (alike : vars.AlikeButSecrets vars') :
    (∃ e, AppConfig.load vars = .error e ∧ AppConfig.load vars' = .error e ∧
        (e = .workersOverflow →
          ∃ s n, vars.get? "WORKER_COUNT" = some s ∧ Denotes s n ∧ largest 64 < n * 2)) ∨
      ∃ c c' r, AppConfig.load vars = .ok c ∧ AppConfig.load vars' = .ok c' ∧
        c.describe = c'.describe ∧ c.runnerConfig? = some r ∧ c'.runnerConfig? = some r := by
  have hload := AppConfig.load_concealed vars
  rw [alike.concealed_eq, AppConfig.load_concealed vars'] at hload
  cases h : AppConfig.load vars with
  | error e =>
    cases h' : AppConfig.load vars' with
    | ok c' =>
      rw [h, h'] at hload
      cases hload
    | error e' =>
      rw [h, h'] at hload
      obtain rfl := Except.error.inj hload
      refine .inl ⟨e', rfl, rfl, ?_⟩
      intro hoverflow
      subst hoverflow
      obtain ⟨-, -, hworkers⟩ := AppConfig.load_eq_overflow_iff.1 h
      obtain ⟨s, n, hs, hn, -, hmany⟩ := Variables.exists_uncountable_iff.1 hworkers
      exact ⟨s, n, hs, hn, hmany⟩
  | ok c =>
    cases h' : AppConfig.load vars' with
    | error e' =>
      rw [h, h'] at hload
      cases hload
    | ok c' =>
      rw [h, h'] at hload
      have hsecrets := Except.ok.inj hload
      have hrunner := (AppConfig.accepted_of_load h).runnerConfig?_eq
      refine .inr ⟨c, c', _, rfl, rfl, ?_, hrunner, ?_⟩
      · rw [← AppConfig.describe_mapSecrets _ c, ← hsecrets, AppConfig.describe_mapSecrets]
      · rw [← hrunner, ← AppConfig.runnerConfig?_mapSecrets _ c, ← hsecrets,
          AppConfig.runnerConfig?_mapSecrets]

/-- Variables with some address of the database and some key. -/
def Sample.keyed (address key : String) : Variables
  | "ENV" => some "prod"
  | "DATABASE_URL" => some address
  | "DEEPSEEK_API_KEY" => some key
  | "RESEND_API_KEY" => some key
  | _ => none

/-- Two servers with different addresses and keys, one of them with blanks around it. -/
theorem load_keeps_secrets_sample :
    (Sample.keyed "postgres://one/riskmap" " sk-1 ").AlikeButSecrets
        (Sample.keyed "postgres://two/riskmap" "sk-2") ∧
      ∃ c c', AppConfig.load (Sample.keyed "postgres://one/riskmap" " sk-1 ") = .ok c ∧
        AppConfig.load (Sample.keyed "postgres://two/riskmap" "sk-2") = .ok c' ∧
        c.describe = c'.describe ∧ c.runnerConfig? = c'.runnerConfig? := by
  have alike : (Sample.keyed "postgres://one/riskmap" " sk-1 ").AlikeButSecrets
      (Sample.keyed "postgres://two/riskmap" "sk-2") := by
    constructor
    · intro key hkey
      unfold Sample.keyed
      split
      · rfl
      · exact absurd (by decide) hkey
      · exact absurd (by decide) hkey
      · exact absurd (by decide) hkey
      · rfl
    · decide +kernel
  have loaded : (AppConfig.load (Sample.keyed "postgres://one/riskmap" " sk-1 ")).toBool := by
    decide +kernel
  refine ⟨alike, ?_⟩
  rcases load_keeps_secrets alike with ⟨e, he, -⟩ | ⟨c, c', r, hc, hc', hdescribe, hr, hr'⟩
  · rw [he] at loaded
    cases loaded
  · exact ⟨c, c', hc, hc', hdescribe, hr.trans hr'.symm⟩

end RiskReport

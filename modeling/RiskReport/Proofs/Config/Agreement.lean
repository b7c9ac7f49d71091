import RiskReport.Proofs.Config.Overflow

/-!
# Variables that agree

Settings are read from variables by name, and each read depends on nothing but the trimmed text of
its variable. Four of the variables are secret: the address of the database, which has its password
in it, and the keys of the mail service and of the providers. A secret is never read as anything but
a text, and no check looks at more than whether it is set. So if the secrets of some variables are
replaced by others, with everything else as it was, loading goes the same way and ends with the same
refusal, or with the same settings but for the secrets (`AppConfig.load_mapSecrets`).
-/

namespace RiskReport

/-! ## Runs whose results are changed -/

namespace Except

variable {α β γ ε : Type} {x y : Except ε α} {g : α → Except ε β} {h : β → γ}

/-- Two runs begin in the same way, and the results of one are those of the other, changed. -/
theorem bind_eq_map_bind {f : α → Except ε γ} (hx : y = x) (hf : ∀ a, f a = (g a).map h) :
    y >>= f = (x >>= g).map h := by
  subst hx
  cases y with
  | error e => rfl
  | ok a => exact hf a

/-- One of two runs begins with a changed result of the other's beginning. -/
theorem map_bind_eq_map_bind {f : α → Except ε γ} {k : α → α} (hx : y = x.map k)
    (hf : ∀ a, f (k a) = (g a).map h) : y >>= f = (x >>= g).map h := by
  subst hx
  cases x with
  | error e => rfl
  | ok a => exact hf a

end Except

/-! ## Single variables -/

namespace Variables

variable {vars vars' : Variables} {names : List String} {key : String} {bits default : Nat}

theorem getOr_congr (agree : ∀ key ∈ names, vars'.get? key = vars.get? key) (hkey : key ∈ names)
    (default : String) : vars'.getOr key default = vars.getOr key default := by
  rw [getOr, getOr, agree key hkey]

theorem parseOr_congr {α ε : Type} (agree : ∀ key ∈ names, vars'.get? key = vars.get? key)
    (hkey : key ∈ names) (parse : String → Except ε α) (wording : ε → String) (default : α) :
    vars'.parseOr key parse wording default = vars.parseOr key parse wording default := by
  rw [parseOr, parseOr, agree key hkey]

theorem unsignedOr_congr (agree : ∀ key ∈ names, vars'.get? key = vars.get? key)
    (hkey : key ∈ names) : vars'.unsignedOr key bits default = vars.unsignedOr key bits default :=
  parseOr_congr agree hkey _ _ _

theorem positiveOr_congr (agree : ∀ key ∈ names, vars'.get? key = vars.get? key)
    (hkey : key ∈ names) :
    vars'.positiveOr key bits default = vars.positiveOr key bits default := by
  rw [positiveOr, positiveOr, unsignedOr_congr agree hkey, getOr_congr agree hkey]

theorem secondsOr_congr (agree : ∀ key ∈ names, vars'.get? key = vars.get? key)
    (hkey : key ∈ names) : vars'.secondsOr key default = vars.secondsOr key default := by
  rw [secondsOr, secondsOr, unsignedOr_congr agree hkey]

theorem loadThresholds_congr (agree : ∀ key ∈ names, vars'.get? key = vars.get? key)
    (himpact : "TIER_HIGH_IMPACT" ∈ names) (hprobability : "TIER_HIGH_PROBABILITY" ∈ names) :
    AppConfig.loadThresholds vars' = AppConfig.loadThresholds vars := by
  unfold AppConfig.loadThresholds
  rw [unsignedOr_congr agree himpact, unsignedOr_congr agree hprobability]

/-! ## Secrets -/

/-- The variables that are secret. -/
def secrets : List String :=
  ["DATABASE_URL", "RESEND_API_KEY", "ANTHROPIC_API_KEY", "DEEPSEEK_API_KEY"]

/-- The variables that are not. -/
def publicNames : List String :=
  AppConfig.variableNames.filter fun key => key ∉ secrets

variable {f : String → String}

theorem require_map (replaced : vars'.get? key = (vars.get? key).map f) :
    vars'.require key = (vars.require key).map f := by
  unfold require
  rw [replaced]
  cases vars.get? key with
  | none => rfl
  | some s => rfl

end Variables

/-- The provider with another key. -/
def ProviderConfig.mapKey (f : String → String) (p : ProviderConfig) : ProviderConfig :=
  { p with apiKey := f p.apiKey }

/-- The settings with other secrets. -/
def AppConfig.mapSecrets (f : String → String) (c : AppConfig) : AppConfig :=
  { c with
    databaseUrl := f c.databaseUrl
    resendApiKey := f c.resendApiKey
    anthropic := c.anthropic.map (ProviderConfig.mapKey f)
    deepseek := c.deepseek.map (ProviderConfig.mapKey f) }

variable {vars vars' : Variables} {f : String → String}

theorem Variables.provider?_map {names : List String} {key modelVar : String}
    (agree : ∀ key ∈ names, vars'.get? key = vars.get? key) (hmodel : modelVar ∈ names)
    (replaced : vars'.get? key = (vars.get? key).map f) (vendor : Vendor) :
    vars'.provider? key modelVar vendor =
      (vars.provider? key modelVar vendor).map (ProviderConfig.mapKey f) := by
  unfold provider?
  rw [replaced, getOr_congr agree hmodel]
  cases vars.get? key with
  | none => rfl
  | some s => rfl

namespace AppConfig

open Variables

/-- With other secrets loading ends with the same refusal, or with the same settings but for the
secrets. -/
theorem load_mapSecrets (agree : ∀ key ∈ publicNames, vars'.get? key = vars.get? key)
    (replaced : ∀ key ∈ secrets, vars'.get? key = (vars.get? key).map f) :
    load vars' = (load vars).map (mapSecrets f) := by
  have anthropic : vars'.provider? "ANTHROPIC_API_KEY" "ANTHROPIC_MODEL" .anthropic = _ :=
    provider?_map agree (by decide) (replaced _ (by decide)) .anthropic
  have deepseek : vars'.provider? "DEEPSEEK_API_KEY" "DEEPSEEK_MODEL" .deepseek = _ :=
    provider?_map agree (by decide) (replaced _ (by decide)) .deepseek
  unfold load
  rw [anthropic, deepseek, getOr_congr agree (by decide), getOr_congr agree (by decide),
    getOr_congr agree (by decide), getOr_congr agree (by decide)]
  refine Except.bind_eq_map_bind (parseOr_congr agree (by decide) _ _ _) fun environment => ?_
  dsimp only
  rw [Option.isNone_map, Option.isNone_map]
  by_cases provided : ((vars.provider? "ANTHROPIC_API_KEY" "ANTHROPIC_MODEL" .anthropic).isNone &&
    (vars.provider? "DEEPSEEK_API_KEY" "DEEPSEEK_MODEL" .deepseek).isNone) = true
  · rw [if_pos provided, if_pos provided]
    rfl
  rw [if_neg provided, if_neg provided]
  refine Except.bind_eq_map_bind (positiveOr_congr agree (by decide)) fun workerCount => ?_
  by_cases countable : RunnerConfig.maxWorkers < workerCount
  · rw [if_pos countable, if_pos countable]
    rfl
  rw [if_neg countable, if_neg countable]
  refine Except.bind_eq_map_bind (positiveOr_congr agree (by decide)) fun queueCapacity => ?_
  refine Except.bind_eq_map_bind (positiveOr_congr agree (by decide)) fun maxAttempts => ?_
  refine Except.bind_eq_map_bind (loadThresholds_congr agree (by decide) (by decide))
    fun tierThresholds => ?_
  refine Except.map_bind_eq_map_bind (require_map (replaced _ (by decide))) fun databaseUrl => ?_
  refine Except.bind_eq_map_bind (unsignedOr_congr agree (by decide)) fun connections => ?_
  refine Except.map_bind_eq_map_bind (require_map (replaced _ (by decide))) fun resendApiKey => ?_
  refine Except.bind_eq_map_bind (secondsOr_congr agree (by decide)) fun pollInterval => ?_
  refine Except.bind_eq_map_bind (secondsOr_congr agree (by decide)) fun jobTimeout => ?_
  refine Except.bind_eq_map_bind (secondsOr_congr agree (by decide)) fun retryBaseDelay => ?_
  refine Except.bind_eq_map_bind (unsignedOr_congr agree (by decide)) fun recoveryHours => ?_
  refine Except.bind_eq_map_bind (parseOr_congr agree (by decide) _ _ _) fun amountCents => ?_
  rfl

theorem mapSecrets_id (c : AppConfig) : c.mapSecrets id = c := by
  have hkey : ProviderConfig.mapKey id = id := rfl
  unfold mapSecrets
  rw [hkey, Option.map_id_fun]
  rfl

/-- Whatever else is set, settings depend on the trimmed texts of their own variables. -/
theorem load_congr (agree : ∀ key ∈ variableNames, vars'.get? key = vars.get? key) :
    load vars' = load vars := by
  have hpublic : ∀ key ∈ publicNames, vars'.get? key = vars.get? key := by
    intro key hkey
    exact agree key (List.mem_filter.1 hkey).1
  have hsecret : ∀ key ∈ secrets, vars'.get? key = (vars.get? key).map id := by
    intro key hkey
    have hnames : ∀ key ∈ secrets, key ∈ variableNames := by decide
    rw [agree key (hnames key hkey), Option.map_id_fun]
    rfl
  rw [load_mapSecrets hpublic hsecret]
  cases load vars with
  | error e => rfl
  | ok c => exact congrArg Except.ok (mapSecrets_id c)

end AppConfig

end RiskReport

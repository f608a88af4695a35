import VaultwardenOperator.DurationMeaning
import VaultwardenOperator.Reconciler

/-!
# Intervals from users

Two places read durations that people write: `main` reads two environment variables, each
with a default, and a reconcile reads the interval of its resource. Both refuse zero, since
a zero interval panics in `time::interval` or requeues without a pause.

A setting that cannot be parsed is replaced by its default. A setting on which the parser
panics is not: then the process ends.
-/

namespace VaultwardenOperator.Intervals

open Rust Duration DurationGrammar DurationMeaning Machine VaultClient Crd Status Controller Reconciler

/-! ## Settings -/

/-- The environment variables that are set to Unicode texts. -/
abbrev Environment := String → Option String

/-- `DEFAULT_VAULT_CACHE_REFRESH_INTERVAL`. -/
def defaultVaultCacheRefreshInterval : Nat := 5 * 60 * secondNs

/-- `DEFAULT_VAULT_CACHE_MIN_REFRESH_INTERVAL`. -/
def defaultVaultCacheMinRefreshInterval : Nat := 30 * secondNs

section
variable (unicode : UnicodeTables) (environment : Environment)

/-- `env_duration`. -/
def envDuration (key : String) (default : Nat) : Call String Nat :=
  match environment key with
  | some v =>
    if v = "" then .ok default
    else match parseDuration unicode v with
      | .ok d => if d = 0 then .ok default else .ok d
      | .error (.err _) => .ok default
      | .error .panic => .error .panic
  | none => .ok default

/-- `required_env`, whose error ends the process. -/
def requiredEnv (key : String) : Call String String :=
  okOr s!"FATAL: required env var {key} is not set" (environment key)

/-- `optional_env`. -/
def optionalEnv (key : String) : Option String := (environment key).filter (· ≠ "")

/-- What `main` reads from the environment once it leads. -/
structure Settings where
  vaultUrl : String
  vaultEmail : String
  vaultPassword : String
  clientId : Option String
  clientSecret : Option String
  cacheRefreshInterval : Nat
  cacheMinRefreshInterval : Nat
deriving DecidableEq

/-- The part of `main` that reads the environment. -/
def readSettings : Call String Settings := do
  let vaultUrl ← requiredEnv environment "VAULTWARDEN_URL"
  let vaultEmail ← requiredEnv environment "VAULTWARDEN_EMAIL"
  let vaultPassword ← requiredEnv environment "VAULTWARDEN_PASSWORD"
  let clientId := optionalEnv environment "VAULTWARDEN_CLIENT_ID"
  let clientSecret := optionalEnv environment "VAULTWARDEN_CLIENT_SECRET"
  let cacheRefreshInterval ←
    envDuration unicode environment "VAULT_CACHE_REFRESH_INTERVAL" defaultVaultCacheRefreshInterval
  let cacheMinRefreshInterval ←
    envDuration unicode environment "VAULT_CACHE_MIN_REFRESH_INTERVAL"
      defaultVaultCacheMinRefreshInterval
  pure { vaultUrl, vaultEmail, vaultPassword, clientId, clientSecret, cacheRefreshInterval,
         cacheMinRefreshInterval }

/-- The variables that must be set, in the order in which they are read. -/
def requiredKeys : List String := ["VAULTWARDEN_URL", "VAULTWARDEN_EMAIL", "VAULTWARDEN_PASSWORD"]

/-- The first required variable that is not set. -/
def firstMissing : Option String := requiredKeys.find? (fun key => (environment key).isNone)

/-- The variables that hold durations. -/
def durationKeys : List String := ["VAULT_CACHE_REFRESH_INTERVAL", "VAULT_CACHE_MIN_REFRESH_INTERVAL"]

/-- The variable holds a text on which the duration parser panics. -/
def Cuts (key : String) : Prop := ∃ v, environment key = some v ∧ CutsCharacter v

/-- What the parser counts of terms: the whole seconds of each, modulo 2^64 and none below
the second, up to a total of 2^64 - 1. -/
def counted (terms : List Term) : Nat :=
  min ((terms.map (fun term => wholeSeconds term % 2 ^ 64)).sum) (2 ^ 64 - 1) * secondNs

/-- The interval that is read where a text may be set: what its terms count, which is what
they mean when they are whole seconds that fit 64 bits, and the default when nothing
counts. -/
structure Chosen (text : Option String) (default interval : Nat) : Prop where
  counts : ∀ v terms, text = some v → Spells v terms → counted terms ≠ 0 →
    interval = counted terms
  means : ∀ v terms, text = some v → Spells v terms → WholeTerms terms → meaning terms ≠ 0 →
    interval = meaning terms
  defaults : (∀ v terms, text = some v → Spells v terms → counted terms = 0) →
    interval = default

/-! ## One text -/

theorem parse_counted (v : String) (terms : List Term) (spelled : Spells v terms) :
    parseDuration unicode v = .ok (counted terms) := by
  have seconds : terms.map termSeconds = terms.map (fun term => wholeSeconds term % 2 ^ 64) :=
    List.map_congr_left (fun term _ => term_seconds_mod term)
  have second : secondNs = 10 ^ 9 := rfl
  rw [duration_spelled unicode v terms spelled, accumulate_min 0 terms (Nat.zero_le _), seconds,
    Nat.zero_add, counted, second]

include unicode in
/-- Terms of whole seconds count what they mean. -/
theorem counted_whole (v : String) (terms : List Term) (spelled : Spells v terms)
    (whole : WholeTerms terms) : counted terms = meaning terms := by
  have value := whole_value unicode v terms spelled whole
  rw [parse_counted unicode v terms spelled] at value
  exact Except.ok.inj value

/-- What counts at all is a second or more. -/
theorem counted_second (terms : List Term) (counts : counted terms ≠ 0) :
    secondNs ≤ counted terms := by
  have positive := Nat.pos_of_ne_zero (Nat.ne_zero_of_mul_ne_zero_left counts)
  exact Nat.le_mul_of_pos_left secondNs positive

/-- What is chosen is a second or more when the default is. -/
theorem chosen_second (text : Option String) (default interval : Nat) (long : secondNs ≤ default)
    (chosen : Chosen text default interval) : secondNs ≤ interval := by
  by_cases counting : ∃ v terms, text = some v ∧ Spells v terms ∧ counted terms ≠ 0
  · obtain ⟨v, terms, held, spelled, counts⟩ := counting
    rw [chosen.counts v terms held spelled counts]
    exact counted_second terms counts
  · have unset : ∀ v terms, text = some v → Spells v terms → counted terms = 0 := by
      intro v terms held spelled
      by_contra counts
      exact counting ⟨v, terms, held, spelled, counts⟩
    rw [chosen.defaults unset]
    exact long

/-- The parser's value when it is not zero, and else the default, is chosen. -/
theorem chosen_parsed (v : String) (default interval : Nat)
    (picked : (parseDuration unicode v = .ok interval ∧ interval ≠ 0) ∨
      (∀ value, parseDuration unicode v = .ok value → value = 0) ∧ interval = default) :
    Chosen (some v) default interval := by
  have counts : ∀ terms, Spells v terms → counted terms ≠ 0 → interval = counted terms := by
    intro terms spelled counts
    have parsed := parse_counted unicode v terms spelled
    rcases picked with ⟨accepted, -⟩ | ⟨rejected, -⟩
    · rw [accepted] at parsed
      exact Except.ok.inj parsed
    · exact absurd (rejected _ parsed) counts
  refine ⟨?_, ?_, ?_⟩
  · rintro v terms ⟨⟩ spelled counting
    exact counts terms spelled counting
  · rintro v terms ⟨⟩ spelled whole long
    rw [← counted_whole unicode v terms spelled whole] at long ⊢
    exact counts terms spelled long
  · intro uncounted
    rcases picked with ⟨accepted, positive⟩ | ⟨-, same⟩
    · obtain ⟨terms, spelled⟩ := duration_inv unicode v interval accepted
      rw [parse_counted unicode v terms spelled, uncounted v terms rfl spelled] at accepted
      exact absurd (Except.ok.inj accepted).symm positive
    · exact same

/-! ## One variable -/

theorem env_duration_panic_iff (key : String) (default : Nat) :
    envDuration unicode environment key default = .error .panic ↔ Cuts environment key := by
  cases held : environment key with
  | none =>
    simp [envDuration, Cuts, held]
  | some v =>
    have panics := parse_duration_panic_iff unicode v
    have cuts : Cuts environment key ↔ CutsCharacter v := by simp [Cuts, held]
    rw [cuts, ← panics]
    by_cases vacant : v = ""
    · subst vacant
      simp [envDuration, held, parseDuration, trim]
    · simp only [envDuration, held, if_neg vacant]
      rcases parseDuration unicode v with (error | panic) | d
      · simp
      · simp
      · by_cases zero : d = 0 <;> simp [zero]

/-- A variable that is read without a panic gives what it counts, or the default. -/
theorem env_duration_chosen (key : String) (default interval : Nat)
    (read : envDuration unicode environment key default = .ok interval) :
    Chosen (environment key) default interval := by
  cases held : environment key with
  | none =>
    simp only [envDuration, held] at read
    cases read
    refine ⟨?_, ?_, fun _ => rfl⟩
    · rintro v terms ⟨⟩
    · rintro v terms ⟨⟩
  | some v =>
    apply chosen_parsed unicode v default interval
    simp only [envDuration, held] at read
    by_cases vacant : v = ""
    · subst vacant
      refine .inr ⟨fun value parsed => ?_, (Except.ok.inj read).symm⟩
      simp [parseDuration, trim] at parsed
    · rw [if_neg vacant] at read
      cases parsed : parseDuration unicode v with
      | error halt =>
        rw [parsed] at read
        cases halt with
        | err error =>
          refine .inr ⟨fun value accepted => ?_, (Except.ok.inj read).symm⟩
          cases accepted
        | panic => cases read
      | ok d =>
        simp only [parsed] at read
        by_cases zero : d = 0
        · rw [if_pos zero] at read
          exact .inr ⟨fun value same => by rw [← Except.ok.inj same, zero],
            (Except.ok.inj read).symm⟩
        · rw [if_neg zero] at read
          cases read
          exact .inl ⟨rfl, zero⟩

/-! ## All settings -/

/-- A setting is never an error; it is a value unless the parser panics. -/
theorem env_duration_cases (key : String) (default : Nat) :
    (envDuration unicode environment key default = .error .panic ∧ Cuts environment key) ∨
      ∃ interval, envDuration unicode environment key default = .ok interval ∧
        ¬ Cuts environment key ∧ Chosen (environment key) default interval := by
  have panics := env_duration_panic_iff unicode environment key default
  cases read : envDuration unicode environment key default with
  | ok interval =>
    refine .inr ⟨interval, rfl, ?_, env_duration_chosen unicode environment key default interval read⟩
    rw [← panics, read]
    intro panicked
    cases panicked
  | error halt =>
    cases halt with
    | panic => exact .inl ⟨rfl, panics.mp read⟩
    | err error =>
      unfold envDuration at read
      split at read
      · split_ifs at read
        split at read
        · split_ifs at read
        · cases read
        · cases read
      · cases read

/-- The settings once the required variables have been read. -/
def readIntervals (vaultUrl vaultEmail vaultPassword : String) : Call String Settings := do
  let cacheRefreshInterval ←
    envDuration unicode environment "VAULT_CACHE_REFRESH_INTERVAL" defaultVaultCacheRefreshInterval
  let cacheMinRefreshInterval ←
    envDuration unicode environment "VAULT_CACHE_MIN_REFRESH_INTERVAL"
      defaultVaultCacheMinRefreshInterval
  pure { vaultUrl, vaultEmail, vaultPassword
         clientId := optionalEnv environment "VAULTWARDEN_CLIENT_ID"
         clientSecret := optionalEnv environment "VAULTWARDEN_CLIENT_SECRET"
         cacheRefreshInterval, cacheMinRefreshInterval }

/-- The required variables are read first: one is missing, or the durations are read. -/
theorem read_settings_cases :
    (∃ key, firstMissing environment = some key ∧ readSettings unicode environment =
        .error (.err s!"FATAL: required env var {key} is not set")) ∨
      firstMissing environment = none ∧ ∃ vaultUrl vaultEmail vaultPassword,
        readSettings unicode environment =
          readIntervals unicode environment vaultUrl vaultEmail vaultPassword := by
  cases url : environment "VAULTWARDEN_URL" with
  | none =>
    exact .inl ⟨"VAULTWARDEN_URL", by simp [firstMissing, requiredKeys, url],
      by simp only [readSettings, requiredEnv, url]; rfl⟩
  | some vaultUrl =>
    cases email : environment "VAULTWARDEN_EMAIL" with
    | none =>
      exact .inl ⟨"VAULTWARDEN_EMAIL", by simp [firstMissing, requiredKeys, url, email],
        by simp only [readSettings, requiredEnv, url, email]; rfl⟩
    | some vaultEmail =>
      cases password : environment "VAULTWARDEN_PASSWORD" with
      | none =>
        exact .inl ⟨"VAULTWARDEN_PASSWORD",
          by simp [firstMissing, requiredKeys, url, email, password],
          by simp only [readSettings, requiredEnv, url, email, password]; rfl⟩
      | some vaultPassword =>
        exact .inr ⟨by simp [firstMissing, requiredKeys, url, email, password], vaultUrl, vaultEmail,
          vaultPassword, by simp only [readSettings, requiredEnv, url, email, password]; rfl⟩

/-- Both intervals are what the environment asks for, and at least a second. -/
structure Configured (settings : Settings) : Prop where
  refresh : Chosen (environment "VAULT_CACHE_REFRESH_INTERVAL")
    defaultVaultCacheRefreshInterval settings.cacheRefreshInterval
  minRefresh : Chosen (environment "VAULT_CACHE_MIN_REFRESH_INTERVAL")
    defaultVaultCacheMinRefreshInterval settings.cacheMinRefreshInterval
  refreshSecond : secondNs ≤ settings.cacheRefreshInterval
  minRefreshSecond : secondNs ≤ settings.cacheMinRefreshInterval

/-- The durations panic, or are configured. -/
theorem read_intervals_cases (vaultUrl vaultEmail vaultPassword : String) :
    (readIntervals unicode environment vaultUrl vaultEmail vaultPassword = .error .panic ∧
        ∃ key ∈ durationKeys, Cuts environment key) ∨
      (∃ settings, readIntervals unicode environment vaultUrl vaultEmail vaultPassword =
        .ok settings ∧ Configured environment settings) ∧
        ∀ key ∈ durationKeys, ¬ Cuts environment key := by
  rcases env_duration_cases unicode environment "VAULT_CACHE_REFRESH_INTERVAL"
    defaultVaultCacheRefreshInterval with ⟨read, cuts⟩ | ⟨interval, read, plain, chosen⟩
  · refine .inl ⟨?_, _, List.mem_cons_self, cuts⟩
    simp only [readIntervals, read]
    rfl
  · rcases env_duration_cases unicode environment "VAULT_CACHE_MIN_REFRESH_INTERVAL"
      defaultVaultCacheMinRefreshInterval with
      ⟨minRead, cuts⟩ | ⟨minInterval, minRead, minPlain, minChosen⟩
    · refine .inl ⟨?_, _, List.mem_cons_of_mem _ List.mem_cons_self, cuts⟩
      simp only [readIntervals, read, minRead]
      rfl
    · refine .inr ⟨⟨_, by simp only [readIntervals, read, minRead]; rfl, chosen, minChosen, ?_, ?_⟩, ?_⟩
      · exact chosen_second _ _ interval (by decide) chosen
      · exact chosen_second _ _ minInterval (by decide) minChosen
      · exact List.forall_mem_cons.mpr ⟨plain, List.forall_mem_singleton.mpr minPlain⟩

/-- What `main` makes of an environment, whatever it holds. The process ends with an error
exactly when a required variable is missing, and names the first one; it panics exactly
when none is missing and a duration variable holds a text on which the parser panics;
and else it starts with intervals of at least a second, each what the terms of its variable
count, which is what they mean when they are whole seconds that fit 64 bits, and the default
when nothing counts. -/
theorem settings_exact :
    (∀ error, readSettings unicode environment = .error (.err error) ↔
      ∃ key, firstMissing environment = some key ∧
        error = s!"FATAL: required env var {key} is not set") ∧
    (readSettings unicode environment = .error .panic ↔
      firstMissing environment = none ∧ ∃ key ∈ durationKeys, Cuts environment key) ∧
    ((∃ settings, readSettings unicode environment = .ok settings) ↔
      firstMissing environment = none ∧ ∀ key ∈ durationKeys, ¬ Cuts environment key) ∧
    ∀ settings, readSettings unicode environment = .ok settings →
      Configured environment settings := by
  rcases read_settings_cases unicode environment with
    ⟨key, missing, ended⟩ | ⟨present, url, email, password, goesOn⟩
  · simp [ended, missing, eq_comm]
  · rw [goesOn]
    rcases read_intervals_cases unicode environment url email password with
      ⟨panicked, cuts⟩ | ⟨⟨settings, read, configured⟩, plain⟩
    · obtain ⟨key, member, cut⟩ := cuts
      refine ⟨by simp [panicked, present], ?_, ?_, by simp [panicked]⟩
      · exact ⟨fun _ => ⟨present, key, member, cut⟩, fun _ => panicked⟩
      · constructor
        · rintro ⟨settings, read⟩
          rw [panicked] at read
          cases read
        · rintro ⟨-, plain⟩
          exact absurd cut (plain key member)
    · refine ⟨by simp [read, present], ?_, ⟨fun _ => ⟨present, plain⟩, fun _ => ⟨settings, read⟩⟩, ?_⟩
      · constructor
        · intro panicked
          rw [read] at panicked
          cases panicked
        · rintro ⟨-, key, member, cut⟩
          exact absurd cut (plain key member)
      · intro other readToo
        rw [read] at readToo
        cases readToo
        exact configured

end

/-! ## Reconciles -/

/-- The interval is what the resource asks for, or else the default. -/
def Due (vws : VaultwardenSecret) (interval : Nat) : Prop :=
  Chosen (some vws.spec.syncInterval) defaultSyncInterval interval

section
variable (unicode : UnicodeTables)

/-- An interval that is accepted is due, and so is the default when one is refused. -/
theorem sync_interval_due (vws : VaultwardenSecret) (interval : Nat)
    (parsed : parseSyncInterval unicode vws.spec.syncInterval = .ok interval ∨
      (∃ msg, parseSyncInterval unicode vws.spec.syncInterval = .error (.err msg)) ∧
        interval = defaultSyncInterval) : Due vws interval := by
  apply chosen_parsed unicode
  by_cases vacant : vws.spec.syncInterval = ""
  · have rejected (value : Nat)
        (accepted : parseDuration unicode vws.spec.syncInterval = .ok value) : value = 0 := by
      rw [vacant] at accepted
      simp [parseDuration, trim] at accepted
    refine .inr ⟨rejected, ?_⟩
    rcases parsed with accepted | ⟨-, default⟩
    · rw [parseSyncInterval, if_pos vacant] at accepted
      exact (Except.ok.inj accepted).symm
    · exact default
  · rw [parseSyncInterval, if_neg vacant] at parsed
    cases duration : parseDuration unicode vws.spec.syncInterval with
    | error halt =>
      rw [duration] at parsed
      refine .inr ⟨fun value accepted => ?_, ?_⟩
      · cases accepted
      · rcases parsed with accepted | ⟨-, default⟩
        · cases accepted
        · exact default
    | ok d =>
      simp only [duration, bind, Except.bind] at parsed
      by_cases zero : d = 0
      · rw [if_pos zero] at parsed
        refine .inr ⟨fun value same => by rw [← Except.ok.inj same, zero], ?_⟩
        rcases parsed with accepted | ⟨-, default⟩
        · cases accepted
        · exact default
      · rw [if_neg zero] at parsed
        rcases parsed with accepted | ⟨⟨msg, refused⟩, -⟩
        · cases accepted
          exact .inl ⟨rfl, zero⟩
        · cases refused

end

/-- What a reconcile knows of its interval: the one it will be requeued after is due for
the resource that it has. -/
def Timed : Reconcile → (VaultwardenSecret → Prop) → Prop
  | .fetching vws interval, began => began vws ∧ Due vws interval
  | .getting vws interval _, began => began vws ∧ Due vws interval
  | .writing vws interval _ _, began => began vws ∧ Due vws interval
  | .patching vws _ after, began => began vws ∧ Due vws after
  | .finished (.ok (.requeue after)), began => ∃ vws, began vws ∧ Due vws after
  | _, _ => True

theorem timed_mono (reconcile : Reconcile) (began later : VaultwardenSecret → Prop)
    (implied : ∀ vws, began vws → later vws) (timed : Timed reconcile began) :
    Timed reconcile later := by
  cases reconcile with
  | fetching | getting | writing | patching => exact ⟨implied _ timed.1, timed.2⟩
  | finished result =>
    rcases result with error | ⟨after⟩
    · trivial
    · obtain ⟨vws, own, due⟩ := timed
      exact ⟨vws, implied vws own, due⟩
  | idle | crashed => trivial

section
variable {RsaPrivateKey : Type} (client : Client RsaPrivateKey) {ι : Type} [DecidableEq ι]

/-- The reconcile with this identity began with this resource. -/
def Began (events : List (Reconciler.Event ι)) (id : ι) (vws : VaultwardenSecret) : Prop :=
  ∃ now, .start id now vws ∈ events

omit [DecidableEq ι] in
theorem began_later (events : List (Reconciler.Event ι)) (event : Reconciler.Event ι) (id : ι)
    (vws : VaultwardenSecret) (began : Began events id vws) : Began (events ++ [event]) id vws := by
  obtain ⟨now, member⟩ := began
  exact ⟨now, List.mem_append_left _ member⟩

/-- A step that changes one reconcile keeps what the others know. -/
theorem timed_update (operator next : Operator ι) (events : List (Reconciler.Event ι))
    (event : Reconciler.Event ι) (id : ι) (reconcile : Reconcile)
    (known : ∀ id, Timed (operator.reconciles id) (Began events id))
    (reconciles : next.reconciles = (operator.withReconcile id reconcile).reconciles)
    (own : Timed reconcile (Began (events ++ [event]) id)) :
    ∀ id, Timed (next.reconciles id) (Began (events ++ [event]) id) := by
  intro other
  rw [reconciles]
  by_cases same : other = id
  · subst same
    rw [with_reconcile_self]
    exact own
  · rw [with_reconcile_other operator id other reconcile same]
    exact timed_mono _ _ _ (began_later events event other) (known other)

theorem timed_step (operator next : Operator ι) (events : List (Reconciler.Event ι))
    (event : Reconciler.Event ι) (known : ∀ id, Timed (operator.reconciles id) (Began events id))
    (move : Reconciler.Move client operator event next) :
    ∀ id, Timed (next.reconciles id) (Began (events ++ [event]) id) := by
  -- What a reconcile knows before its step, in the longer list of events.
  have later (id : ι) : Timed (operator.reconciles id) (Began (events ++ [event]) id) :=
    timed_mono _ _ _ (began_later events event id) (known id)
  have update := timed_update operator next events event
  cases move with
  | client event next internal taken => exact later
  | refused id now vws reconcile idle early =>
    refine update id reconcile known rfl ?_
    have began : Began (events ++ [.start id now vws]) id vws :=
      ⟨now, List.mem_append_right _ List.mem_cons_self⟩
    unfold begun at early
    split at early
    case h_1 => cases early; trivial
    case h_2 msg refused =>
      cases early
      exact ⟨began, sync_interval_due client.unicode vws _ (.inr ⟨⟨msg, refused⟩, rfl⟩)⟩
    case h_3 interval parsed =>
      split at early
      case h_1 => cases early; trivial
      case h_2 =>
        cases early
        exact ⟨began, sync_interval_due client.unicode vws interval (.inl parsed)⟩
      case h_3 => cases early
  | started id now vws interval requests idle parsed built uncalled =>
    refine update id (.fetching vws interval) known rfl ⟨?_, ?_⟩
    · exact ⟨now, List.mem_append_right _ List.mem_cons_self⟩
    · exact sync_interval_due client.unicode vws interval (.inl parsed)
  | fetched id now vws interval requests result fetching returned =>
    have own := later id
    rw [fetching] at own
    refine update id _ known rfl ?_
    rcases result with error | values <;> exact own
  | panicked id now vws interval fetching crashed => exact update id .crashed known rfl trivial
  | got id answer vws interval body getting =>
    have own := later id
    rw [getting] at own
    refine update id _ known rfl ?_
    rcases answer with error | present
    · trivial
    · exact own
  | wrote id now answer vws interval body present writing =>
    have own := later id
    rw [writing] at own
    refine update id _ known rfl ?_
    rcases answer with error | _
    · trivial
    · exact own
  | patched id answer vws status after patching =>
    have own := later id
    rw [patching] at own
    refine update id _ known rfl ?_
    rcases answer with error | _
    · trivial
    · exact ⟨vws, own⟩

/-- The operator never requeues without a pause. In any run of reconciles, refreshes and
renewals over a client, a reconcile that ends without an error of the API server is
requeued after what the terms of its resource's interval count, which is what they mean when
they are whole seconds that fit 64 bits, or after the default when nothing counts, and in
each case after a second at least. -/
theorem requeued_when_due (now : Nat) (session : Session) (last : Operator ι)
    (events : List (Reconciler.Event ι))
    (ran : run (Reconciler.step client) (Operator.around ι now session) events = some last)
    (id : ι) (after : Nat) (finished : last.reconciles id = .finished (.ok (.requeue after))) :
    secondNs ≤ after ∧ ∃ vws, Began events id vws ∧ Due vws after := by
  have known : ∀ id, Timed (last.reconciles id) (Began events id) := by
    refine run_record (Reconciler.step client) (Operator.around ι now session) last
      (fun events operator => ∀ id, Timed (operator.reconciles id) (Began events id))
      (fun _ => trivial) ?_ events ran
    intro before middle event next reached known taken
    exact timed_step client middle next before event known
      (Reconciler.step_move client middle next event taken)
  have own := known id
  rw [finished] at own
  obtain ⟨vws, began, due⟩ := own
  refine ⟨?_, vws, began, due⟩
  exact chosen_second _ _ after (by decide) due

end

/-- A resource without entries that asks for an hour and a half. -/
def restingResource : VaultwardenSecret where
  name := "app"
  ns := some "prod"
  uid := "u1"
  generation := some 1
  spec := ⟨"1h30m", none, []⟩
  status := none

/-- Its reconcile, with the Secret created and the status patched. -/
def restingReconcile : List (Reconciler.Event Bool) :=
  [.start false "t1" restingResource, .client (.fetch false .proceed), .fetched false "t2",
    .got false (.ok false), .wrote false "t3" (.ok ()), .patched false (.ok ())]

/-- What a reconcile that has ended is requeued after. -/
def requeuedAfter : Reconcile → Option Nat
  | .finished (.ok (.requeue after)) => some after
  | _ => none

theorem requeued_after (reconcile : Reconcile) (after : Nat)
    (requeued : requeuedAfter reconcile = some after) :
    reconcile = .finished (.ok (.requeue after)) := by
  unfold requeuedAfter at requeued
  split at requeued
  · cases requeued
    rfl
  · cases requeued

theorem requeued_when_due_sample :
    ∃ last, run (Reconciler.step sampleClient)
        (Operator.around Bool 0 (sampleSystem Bool).session) restingReconcile = some last ∧
      last.reconciles false = .finished (.ok (.requeue (5400 * secondNs))) ∧
      secondNs ≤ 5400 * secondNs ∧
      ∃ vws, Began restingReconcile false vws ∧ Due vws (5400 * secondNs) := by
  have ran : (run (Reconciler.step sampleClient)
      (Operator.around Bool 0 (sampleSystem Bool).session) restingReconcile).bind
        (fun last => requeuedAfter (last.reconciles false)) = some (5400 * secondNs) := by
    decide +kernel
  obtain ⟨last, ended, requeued⟩ := Option.bind_eq_some_iff.mp ran
  have finished := requeued_after _ _ requeued
  exact ⟨last, ended, finished,
    requeued_when_due sampleClient 0 (sampleSystem Bool).session last restingReconcile ended false
      _ finished⟩

end VaultwardenOperator.Intervals

import VaultwardenOperator.Reconciler

/-!
# What flows through the client

Tokens, keys and the answers of the server pass through the tasks of the client before they
reach its session. A policy says which of them fit. When all that is received fits, then all
that is carried and stored does, in every run: no task makes a token, a key or a cache of its
own, and none is lost between tasks.
-/

namespace VaultwardenOperator.DataFlow

open Rust Crypto Sync Auth Machine VaultClient ClientSteps Reconciler

/-- Which tokens, keys, answers and caches fit; a cache by the time of its refresh. -/
structure Policy where
  access : String → Prop
  refresh : String → Prop
  key : SymmetricKey → Prop
  response : SyncResponse → Prop
  cache : Nat → VaultCache → Prop

section
variable {RsaPrivateKey : Type} (client : Client RsaPrivateKey) (policy : Policy)

/-! ## What is received -/

structure GrantFits (grant : Grant) : Prop where
  access : policy.access grant.accessToken
  refresh : ∀ token, grant.refreshToken = some token → policy.refresh token

structure LoginFits (login : Login) : Prop where
  access : policy.access login.accessToken
  refresh : policy.refresh login.refreshToken
  key : policy.key login.symKey

/-- What the client makes of an answer fits. -/
def SignalFits : Signal → Prop
  | .token answer => ∀ refreshTok grant, refreshToken refreshTok answer = .ok grant →
      GrantFits policy grant
  | .login answers => ∀ login, authenticate client.crypto client.unicode client.email
      client.password answers = .ok login → LoginFits policy login
  | .sync answer => ∀ response, fetchSync answer = .ok response → policy.response response
  | .proceed | .stop => True

/-- What a renewal makes of a signal, where it waits for one, fits. -/
def RenewalReceives (renewal : Renewal) (signal : Signal) : Prop :=
  match renewal, signal with
  | .granting refreshTok, .token answer => ∀ grant, refreshToken refreshTok answer = .ok grant →
      GrantFits policy grant
  | .authenticating, .login answers => SignalFits client policy (.login answers)
  | _, _ => True

def RefreshReceives (refresh : Refresh) (signal : Signal) : Prop :=
  match refresh, signal with
  | .ensuring renewal, signal | .renewing _ renewal, signal =>
    RenewalReceives client policy renewal signal
  | .syncing _ _, .sync answer | .resyncing _ _, .sync answer =>
    SignalFits client policy (.sync answer)
  | _, _ => True

/-- What the task whose turn it is makes of its signal fits. -/
def Receives {ι : Type} (system : System ι) : VaultClient.Event ι → Prop
  | .fetch id signal => ∀ refresh, refreshOf system (.onDemand id) = some refresh →
      RefreshReceives client policy refresh signal
  | .cacheLoop signal => ∀ refresh, refreshOf system .background = some refresh →
      RefreshReceives client policy refresh signal
  | .tokenLoop signal => ∀ renewal, system.tokenLoop = .renewing renewal →
      RenewalReceives client policy renewal signal
  | .elapse _ | .arrive _ _ => True

def CreationReceives (creation : Creation) (signal : Signal) : Prop :=
  match creation, signal with
  | .authenticating, .login answers => SignalFits client policy (.login answers)
  | .syncing _ refresh, signal => RefreshReceives client policy refresh signal
  | _, _ => True

/-- An answer that fits opens under a key that fits to a cache that fits. -/
def Opens : Prop :=
  ∀ now response symKey cache skips, policy.response response → policy.key symKey →
    decryptVault client.crypto client.unicode response symKey = .ok (cache, skips) →
      policy.cache now cache

theorem signal_renewal (renewal : Renewal) (signal : Signal) (fits : SignalFits client policy signal) :
    RenewalReceives client policy renewal signal := by
  unfold RenewalReceives
  split
  · exact fits _
  · exact fits
  · trivial

theorem signal_refresh (refresh : Refresh) (signal : Signal) (fits : SignalFits client policy signal) :
    RefreshReceives client policy refresh signal := by
  unfold RefreshReceives
  split
  · exact signal_renewal client policy _ _ fits
  · exact signal_renewal client policy _ _ fits
  · exact fits
  · exact fits
  · trivial

/-! ## What is carried -/

structure SessionFits (session : Session) : Prop where
  access : policy.access session.accessToken
  refresh : policy.refresh session.refreshToken
  key : policy.key session.symKey
  cached : ∀ cache, session.vault = some cache → policy.cache session.lastRefreshAt cache

def RenewalFits : Renewal → Prop
  | .granting refreshTok => policy.refresh refreshTok
  | .granted grant => GrantFits policy grant
  | .authenticated login => LoginFits policy login
  | .checking | .reading | .authenticating => True

def RefreshFits : Refresh → Prop
  | .ensuring renewal => RenewalFits policy renewal
  | .readingToken => True
  | .readingKey accessToken => policy.access accessToken
  | .syncing accessToken symKey | .resyncing accessToken symKey =>
    policy.access accessToken ∧ policy.key symKey
  | .renewing symKey renewal => policy.key symKey ∧ RenewalFits policy renewal
  | .rereadingToken symKey => policy.key symKey
  | .installing response symKey => policy.response response ∧ policy.key symKey

/-- All that the client holds fits. -/
structure SystemFits {ι : Type} (system : System ι) : Prop where
  session : SessionFits policy system.session
  refreshes : ∀ task refresh, refreshOf system task = some refresh → RefreshFits policy refresh
  tokenLoop : ∀ renewal, system.tokenLoop = .renewing renewal → RenewalFits policy renewal

/-! ## Wider policies -/

section
variable (wider : Policy) (accesses : ∀ token, policy.access token → wider.access token)
  (refreshes : ∀ token, policy.refresh token → wider.refresh token)
  (keys : ∀ symKey, policy.key symKey → wider.key symKey)
include accesses refreshes keys

theorem renewal_widens (renewal : Renewal) (fits : RenewalFits policy renewal) :
    RenewalFits wider renewal := by
  cases renewal with
  | granting refreshTok => exact refreshes refreshTok fits
  | granted grant =>
    exact ⟨accesses _ fits.access,
      fun token rotated => refreshes token (fits.refresh token rotated)⟩
  | authenticated login =>
    exact ⟨accesses _ fits.access, refreshes _ fits.refresh, keys _ fits.key⟩
  | _ => trivial

/-- A refresh that holds no answer depends on the tokens and keys only. -/
theorem refresh_widens (refresh : Refresh)
    (unheld : ∀ response symKey, refresh ≠ .installing response symKey)
    (fits : RefreshFits policy refresh) : RefreshFits wider refresh := by
  cases refresh with
  | ensuring renewal => exact renewal_widens policy wider accesses refreshes keys renewal fits
  | readingToken => trivial
  | readingKey accessToken => exact accesses accessToken fits
  | syncing accessToken symKey => exact ⟨accesses accessToken fits.1, keys symKey fits.2⟩
  | renewing symKey renewal =>
    exact ⟨keys symKey fits.1, renewal_widens policy wider accesses refreshes keys renewal fits.2⟩
  | rereadingToken symKey => exact keys symKey fits
  | resyncing accessToken symKey => exact ⟨accesses accessToken fits.1, keys symKey fits.2⟩
  | installing response symKey => exact absurd rfl (unheld response symKey)

variable (responses : ∀ response, policy.response response → wider.response response)
  (caches : ∀ now cache, policy.cache now cache → wider.cache now cache)
include responses caches

omit responses in
theorem session_widens (session : Session) (fits : SessionFits policy session) :
    SessionFits wider session :=
  ⟨accesses _ fits.access, refreshes _ fits.refresh, keys _ fits.key,
    fun cache present => caches _ cache (fits.cached cache present)⟩

omit caches in
theorem any_refresh_widens (refresh : Refresh) (fits : RefreshFits policy refresh) :
    RefreshFits wider refresh := by
  cases refresh with
  | installing response symKey => exact ⟨responses response fits.1, keys symKey fits.2⟩
  | _ => exact refresh_widens policy wider accesses refreshes keys _ (by rintro _ _ ⟨⟩) fits

theorem system_widens {ι : Type} (system : System ι) (fits : SystemFits policy system) :
    SystemFits wider system :=
  ⟨session_widens policy wider accesses refreshes keys caches _ fits.session,
    fun task refresh running => any_refresh_widens policy wider accesses refreshes keys responses
      refresh (fits.refreshes task refresh running),
    fun renewal running => renewal_widens policy wider accesses refreshes keys renewal
      (fits.tokenLoop renewal running)⟩

end

/-! ## Steps of the tasks -/

theorem install_grant_fits (now : Nat) (session : Session) (grant : Grant)
    (fits : SessionFits policy session) (grantFits : GrantFits policy grant) :
    SessionFits policy (installGrant now session grant).1 := by
  have renewed : policy.refresh (grant.refreshToken.getD session.refreshToken) := by
    cases rotated : grant.refreshToken with
    | none => exact fits.refresh
    | some token => exact grantFits.refresh token rotated
  unfold installGrant
  cases instantAfter now grant.expiresIn <;>
    exact ⟨grantFits.access, renewed, fits.key, fits.cached⟩

theorem install_login_fits (now : Nat) (session : Session) (login : Login)
    (fits : SessionFits policy session) (loginFits : LoginFits policy login) :
    SessionFits policy (installLogin now session login).1 := by
  unfold installLogin
  cases instantAfter now login.expiresIn with
  | none => exact ⟨loginFits.access, loginFits.refresh, fits.key, fits.cached⟩
  | some expiresAt => exact ⟨loginFits.access, loginFits.refresh, loginFits.key, fits.cached⟩

theorem renewal_fits (now : Nat) (session next : Session) (renewal : Renewal) (signal : Signal)
    (progress : Progress Renewal (Call AuthError Unit)) (fits : SessionFits policy session)
    (carries : RenewalFits policy renewal) (received : RenewalReceives client policy renewal signal)
    (taken : renewalStep client now session renewal signal = some (next, progress)) :
    SessionFits policy next ∧
      ∀ later, progress = .running later → RenewalFits policy later := by
  cases renewal_move client now session next renewal signal progress taken with
  | read =>
    refine ⟨fits, ?_⟩
    rintro later ⟨⟩
    exact fits.refresh
  | grant refreshTok answer grant granted =>
    refine ⟨fits, ?_⟩
    rintro later ⟨⟩
    exact received grant granted
  | login answers login authenticated =>
    refine ⟨fits, ?_⟩
    rintro later ⟨⟩
    exact received login authenticated
  | installGrant grant =>
    refine ⟨install_grant_fits policy now session grant fits carries, ?_⟩
    rintro later ⟨⟩
  | installLogin login =>
    refine ⟨install_login_fits policy now session login fits carries, ?_⟩
    rintro later ⟨⟩
  | _ =>
    refine ⟨fits, ?_⟩
    rintro later ⟨⟩
    try trivial

/-- The refresh around a renewal that fits. -/
theorem around_fits (stay : Renewal → Refresh) (goOn : Refresh)
    (progress : Progress Renewal (Call AuthError Unit))
    (stays : ∀ renewal, RenewalFits policy renewal → RefreshFits policy (stay renewal))
    (goesOn : RefreshFits policy goOn)
    (running : ∀ later, progress = .running later → RenewalFits policy later)
    (refresh : Refresh) (after : ongoing (aroundRenewal stay goOn progress) = some refresh) :
    RefreshFits policy refresh := by
  rcases progress with later | (_ | _)
  · cases after
    exact stays later (running later rfl)
  · cases after
  · cases after
    exact goesOn

theorem refresh_fits (opens : Opens client policy) (now : Nat) (session next : Session)
    (refresh : Refresh) (signal : Signal) (progress : Progress Refresh (Call VaultError Unit))
    (fits : SessionFits policy session) (carries : RefreshFits policy refresh)
    (received : RefreshReceives client policy refresh signal)
    (taken : refreshStep client now session refresh signal = some (next, progress)) :
    SessionFits policy next ∧
      ∀ later, ongoing progress = some later → RefreshFits policy later := by
  cases refresh_move client now session next refresh signal progress taken with
  | ensure renewal signal next inner renewed =>
    obtain ⟨kept, running⟩ := renewal_fits client policy now session next renewal signal inner fits
      carries received renewed
    exact ⟨kept, around_fits policy .ensuring .readingToken inner (fun _ own => own) trivial running⟩
  | renew symKey renewal signal next inner renewed =>
    obtain ⟨kept, running⟩ := renewal_fits client policy now session next renewal signal inner fits
      carries.2 received renewed
    exact ⟨kept, around_fits policy (.renewing symKey) (.rereadingToken symKey) inner
      (fun _ own => ⟨carries.1, own⟩) carries.1 running⟩
  | readToken =>
    refine ⟨fits, ?_⟩
    rintro later ⟨⟩
    exact fits.access
  | readKey accessToken =>
    refine ⟨fits, ?_⟩
    rintro later ⟨⟩
    exact ⟨carries, fits.key⟩
  | answered accessToken symKey answer response fetched =>
    refine ⟨fits, ?_⟩
    rintro later ⟨⟩
    exact ⟨received response fetched, carries.2⟩
  | refused accessToken symKey answer unauthorized =>
    refine ⟨fits, ?_⟩
    rintro later ⟨⟩
    exact ⟨carries.2, trivial⟩
  | failed =>
    refine ⟨fits, ?_⟩
    rintro later ⟨⟩
  | rereadToken symKey =>
    refine ⟨fits, ?_⟩
    rintro later ⟨⟩
    exact ⟨fits.access, carries⟩
  | reanswered accessToken symKey answer response fetched =>
    refine ⟨fits, ?_⟩
    rintro later ⟨⟩
    exact ⟨received response fetched, carries.2⟩
  | refailed =>
    refine ⟨fits, ?_⟩
    rintro later ⟨⟩
  | install response symKey cache skips decrypted =>
    refine ⟨⟨fits.access, fits.refresh, fits.key, ?_⟩, ?_⟩
    · rintro own ⟨⟩
      exact opens now response symKey cache skips carries.1 carries.2 decrypted
    · rintro later ⟨⟩

theorem token_loop_fits (now : Nat) (session next : Session) (loop after : TokenLoop)
    (signal : Signal) (fits : SessionFits policy session)
    (carries : ∀ renewal, loop = .renewing renewal → RenewalFits policy renewal)
    (received : ∀ renewal, loop = .renewing renewal → RenewalReceives client policy renewal signal)
    (taken : tokenLoopStep client now session loop signal = some (next, after)) :
    SessionFits policy next ∧
      ∀ renewal, after = .renewing renewal → RenewalFits policy renewal := by
  cases loop_move client now session next loop after signal taken with
  | renew renewal signal next progress renewed =>
    obtain ⟨kept, running⟩ := renewal_fits client policy now session next renewal signal progress
      fits (carries renewal rfl) (received renewal rfl) renewed
    refine ⟨kept, ?_⟩
    intro later after
    rcases progress with own | (_ | _) | _ <;> cases after
    exact running later rfl
  | wake wakeAt due =>
    refine ⟨fits, ?_⟩
    rintro later ⟨⟩
    trivial
  | _ =>
    refine ⟨fits, ?_⟩
    rintro later ⟨⟩

/-! ## Steps of the client -/

def EventFits {ι : Type} : VaultClient.Event ι → Prop
  | .fetch _ signal | .cacheLoop signal | .tokenLoop signal => SignalFits client policy signal
  | .elapse _ | .arrive _ _ => True

variable {ι : Type} [DecidableEq ι]

/-- A step that changes a call outside any refresh, and no session. -/
theorem fetch_fits (system next : System ι) (id : ι) (fetch : Fetch)
    (fits : SystemFits policy system) (session : next.session = system.session)
    (refreshes : ∀ task, refreshOf next task = refreshOf (system.withFetch id fetch) task)
    (tokenLoop : next.tokenLoop = system.tokenLoop)
    (own : ∀ refresh, fetchRefresh fetch = some refresh → RefreshFits policy refresh) :
    SystemFits policy next := by
  refine ⟨by rw [session]; exact fits.session, ?_, by rw [tokenLoop]; exact fits.tokenLoop⟩
  intro task refresh inside
  rw [refreshes] at inside
  by_cases same : task = .onDemand id
  · subst same
    rw [refreshOf, with_fetch_self] at inside
    exact own refresh inside
  · rw [refresh_of_with_fetch system id fetch task same] at inside
    exact fits.refreshes task refresh inside

theorem move_fits (opens : Opens client policy) (system next : System ι)
    (event : VaultClient.Event ι) (fits : SystemFits policy system)
    (received : Receives client policy system event)
    (move : ClientSteps.Move client system event next) : SystemFits policy next := by
  have start : RefreshFits policy (.ensuring .checking) := trivial
  have outside : ∀ fetch, fetchRefresh fetch = none → ∀ refresh, fetchRefresh fetch = some refresh →
      RefreshFits policy refresh := by
    intro fetch none refresh some
    rw [none] at some
    cases some
  have same : ∀ system next : System ι, next.fetches = system.fetches →
      next.cacheLoop = system.cacheLoop → ∀ task, refreshOf next task = refreshOf system task := by
    intro system next fetches loop task
    cases task with
    | onDemand id => simp only [refreshOf, fetches]
    | background => simp only [refreshOf, loop]
  cases move with
  | elapse duration => exact ⟨fits.session, fits.refreshes, fits.tokenLoop⟩
  | arrive id requests idle =>
    exact fetch_fits policy system _ id _ fits rfl (fun _ => rfl) rfl (outside _ rfl)
  | look id requests looking =>
    exact fetch_fits policy system _ id _ fits rfl (fun _ => rfl) rfl
      (outside _ (after_first_lookup_refresh requests _))
  | lock id requests miss queued free =>
    exact fetch_fits policy system _ id _ fits rfl (same _ _ rfl rfl) rfl (outside _ rfl)
  | skip id requests miss checking cooling =>
    exact fetch_fits policy system _ id _ fits rfl (same _ _ rfl rfl) rfl (outside _ rfl)
  | start id requests miss checking due =>
    refine fetch_fits policy system _ id _ fits rfl (fun _ => rfl) rfl ?_
    rintro refresh ⟨⟩
    exact start
  | retry id requests retrying =>
    exact fetch_fits policy system _ id _ fits rfl (fun _ => rfl) rfl
      (outside _ (settled_refresh requests _))
  | onDemand id requests miss refresh signal session progress refreshing taken =>
    have running : refreshOf system (.onDemand id) = some refresh := by
      rw [refreshOf, refreshing]
      rfl
    obtain ⟨kept, goesOn⟩ := refresh_fits client policy opens system.now system.session session
      refresh signal progress fits.session (fits.refreshes _ refresh running)
      (received refresh running) taken
    refine ⟨kept, ?_, fits.tokenLoop⟩
    intro task later inside
    have unchanged : refreshOf (system.withFetch id (afterOnDemand requests miss progress)) task =
        some later := by cases task <;> exact inside
    by_cases own : task = .onDemand id
    · subst own
      rw [refreshOf, with_fetch_self, after_on_demand_refresh] at unchanged
      exact goesOn later unchanged
    · rw [refresh_of_with_fetch system id _ task own] at unchanged
      exact fits.refreshes task later unchanged
  | tick waiting =>
    refine ⟨fits.session, ?_, fits.tokenLoop⟩
    intro task refresh inside
    cases task with
    | onDemand id => exact fits.refreshes (.onDemand id) refresh inside
    | background =>
      cases inside
      exact start
  | stop waiting =>
    refine ⟨fits.session, ?_, fits.tokenLoop⟩
    intro task refresh inside
    cases task with
    | onDemand id => exact fits.refreshes (.onDemand id) refresh inside
    | background => cases inside
  | background refresh signal session progress refreshing taken =>
    have running : refreshOf system .background = some refresh := by
      rw [refreshOf, refreshing]
      rfl
    obtain ⟨kept, goesOn⟩ := refresh_fits client policy opens system.now system.session session
      refresh signal progress fits.session (fits.refreshes _ refresh running)
      (received refresh running) taken
    refine ⟨kept, ?_, fits.tokenLoop⟩
    intro task later inside
    cases task with
    | onDemand id => exact fits.refreshes (.onDemand id) later inside
    | background =>
      rw [refreshOf, after_background_refresh] at inside
      exact goesOn later inside
  | tokenLoop signal session tokenLoop taken =>
    obtain ⟨kept, renewing⟩ := token_loop_fits client policy system.now system.session session
      system.tokenLoop tokenLoop signal fits.session fits.tokenLoop received taken
    exact ⟨kept, fits.refreshes, renewing⟩

omit [DecidableEq ι] in
theorem event_receives (system : System ι) (event : VaultClient.Event ι)
    (fits : EventFits client policy event) : Receives client policy system event := by
  cases event with
  | fetch id signal | cacheLoop signal =>
    exact fun refresh _ => signal_refresh client policy refresh signal fits
  | tokenLoop signal => exact fun renewal _ => signal_renewal client policy renewal signal fits
  | _ => trivial

/-! ## Runs of the operator -/

def OperatorEventFits : Reconciler.Event ι → Prop
  | .client event => EventFits client policy event
  | .start _ _ _ | .fetched _ _ | .got _ _ | .wrote _ _ _ | .patched _ _ => True

/-- A step of the operator, of which the client sees its own and the calls of reconciles. -/
theorem operator_fits (opens : Opens client policy) (operator next : Operator ι)
    (event : Reconciler.Event ι) (fits : SystemFits policy operator.client)
    (received : ∀ own, event = .client own → Receives client policy operator.client own)
    (taken : Reconciler.step client operator event = some next) :
    SystemFits policy next.client := by
  cases Reconciler.step_move client operator next event taken with
  | client own next internal inside =>
    exact move_fits client policy opens operator.client next own fits (received own rfl)
      (ClientSteps.step_move client operator.client next own inside)
  | started id now vws interval requests idle parsed built uncalled =>
    exact move_fits client policy opens operator.client _ (.arrive id requests) fits trivial
      (.arrive id requests uncalled)
  | _ => exact fits

/-- Whatever the reconciles do, all that the client holds fits. -/
theorem run_fits (opens : Opens client policy) (operator last : Operator ι)
    (events : List (Reconciler.Event ι)) (initially : SystemFits policy operator.client)
    (received : ∀ event ∈ events, OperatorEventFits client policy event)
    (ran : run (Reconciler.step client) operator events = some last) :
    SystemFits policy last.client := by
  refine run_keeps (Reconciler.step client) (fun _ event => OperatorEventFits client policy event)
    (fun operator => SystemFits policy operator.client) ?_ _ _ _ initially
    (meets_all (Reconciler.step client) _ _ _ received) ran
  intro state event next fits fitsToo taken
  refine operator_fits client policy opens state next event fits ?_ taken
  rintro own rfl
  exact event_receives client policy state.client own fitsToo

omit [DecidableEq ι] in
/-- An operator around a session that fits. -/
theorem around_session_fits (now : Nat) (session : Session) (fits : SessionFits policy session) :
    SystemFits policy (Operator.around ι now session).client := by
  refine ⟨fits, ?_, ?_⟩
  · intro task refresh inside
    cases task <;> cases inside
  · rintro renewal ⟨⟩

end

/-! ## Creation -/

section
variable {RsaPrivateKey : Type} (client : Client RsaPrivateKey) (policy : Policy)

def CreationFits : Nat × Creation → Prop
  | (_, .authenticated login) => LoginFits policy login
  | (_, .syncing session refresh) => SessionFits policy session ∧ RefreshFits policy refresh
  | (_, .returned (.ok session)) => SessionFits policy session
  | _ => True

def CreationEventFits : CreationEvent → Prop
  | .signal signal => SignalFits client policy signal
  | .elapse _ => True

theorem signal_creation (creation : Creation) (signal : Signal)
    (fits : SignalFits client policy signal) : CreationReceives client policy creation signal := by
  unfold CreationReceives
  split
  · exact fits
  · exact signal_refresh client policy _ _ fits
  · trivial

theorem creation_fits (opens : Opens client policy) (now : Nat) (creation next : Creation)
    (signal : Signal) (fits : CreationFits policy (now, creation))
    (received : CreationReceives client policy creation signal)
    (taken : creationStep client now creation signal = some next) :
    CreationFits policy (now, next) := by
  unfold creationStep at taken
  split at taken
  case h_1 answers =>
    split at taken
    case h_1 login authenticated =>
      cases taken
      exact received login authenticated
    case h_2 => cases taken; trivial
    case h_3 => cases taken; trivial
  case h_2 login =>
    split at taken
    · cases taken
      trivial
    · cases taken
      refine ⟨⟨fits.access, fits.refresh, fits.key, ?_⟩, trivial⟩
      rintro cache ⟨⟩
  case h_3 session refresh =>
    obtain ⟨⟨reached, progress⟩, inside, same⟩ := Option.map_eq_some_iff.mp taken
    subst same
    obtain ⟨kept, goesOn⟩ := refresh_fits client policy opens now session reached refresh _ progress
      fits.1 fits.2 received inside
    rcases progress with later | (error | panic) | _
    · exact ⟨kept, goesOn later rfl⟩
    · trivial
    · trivial
    · exact kept
  case h_4 => cases taken

theorem create_fits (opens : Opens client policy) (state next : Nat × Creation)
    (event : CreationEvent) (fits : CreationFits policy state)
    (received : ∀ signal, event = .signal signal → CreationReceives client policy state.2 signal)
    (taken : create client state event = some next) : CreationFits policy next := by
  obtain ⟨now, creation⟩ := state
  cases event with
  | elapse duration =>
    cases taken
    cases creation with
    | returned result => cases result <;> exact fits
    | _ => exact fits
  | signal signal =>
    obtain ⟨reached, inside, same⟩ := Option.map_eq_some_iff.mp taken
    cases same
    exact creation_fits client policy opens now creation reached signal fits (received signal rfl)
      inside

/-- All that a creation holds fits. -/
theorem run_creation_fits (opens : Opens client policy) (start : Nat) (last : Nat × Creation)
    (events : List CreationEvent)
    (received : ∀ event ∈ events, CreationEventFits client policy event)
    (ran : run (create client) (start, .authenticating) events = some last) :
    CreationFits policy last := by
  refine run_keeps (create client) (fun _ event => CreationEventFits client policy event)
    (CreationFits policy) ?_ (start, .authenticating) _ events trivial
    (meets_all (create client) _ _ events received) ran
  intro state event next fits fitsToo taken
  refine create_fits client policy opens state next event fits ?_ taken
  rintro signal rfl
  exact signal_creation client policy state.2 signal fitsToo

end

end VaultwardenOperator.DataFlow

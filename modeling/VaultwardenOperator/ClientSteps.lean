import VaultwardenOperator.VaultClient

/-!
# What a step of the client can do

The step functions are inverted once. `RefreshMove` lists the steps of a cache
refresh and `Move` the steps of the system, each with everything that is known
when it is taken; the proofs about runs are case analyses over these lists.

Refreshes are then looked at by task, on demand or in the background: what a
step does to the refresh of its own task, and that it leaves all others alone.
-/

namespace VaultwardenOperator.ClientSteps

open Rust Crypto Sync Auth Machine VaultClient

section
variable {RsaPrivateKey : Type} (client : Client RsaPrivateKey)

/-- The steps of a token renewal, from a session to the session after. -/
inductive RenewalMove (now : Nat) (session : Session) :
    Renewal → Signal → Session → Progress Renewal (Call AuthError Unit) → Prop where
  | due (expiring : now + 60 * secondNs ≥ session.tokenExpiresAt) :
      RenewalMove now session .checking .proceed session (.running .reading)
  | skip (valid : ¬ now + 60 * secondNs ≥ session.tokenExpiresAt) :
      RenewalMove now session .checking .proceed session (.done (.ok ()))
  | read :
      RenewalMove now session .reading .proceed session
        (.running (.granting session.refreshToken))
  | grant (refreshTok : String) (answer : Answer TokenResponse) (grant : Grant)
      (granted : refreshToken refreshTok answer = .ok grant) :
      RenewalMove now session (.granting refreshTok) (.token answer) session
        (.running (.granted grant))
  | refuse (refreshTok : String) (answer : Answer TokenResponse) (error : AuthError)
      (refused : refreshToken refreshTok answer = .error error) :
      RenewalMove now session (.granting refreshTok) (.token answer) session
        (.running .authenticating)
  | installGrant (grant : Grant) :
      RenewalMove now session (.granted grant) .proceed
        (VaultClient.installGrant now session grant).1
        (.done (VaultClient.installGrant now session grant).2)
  | login (answers : LoginAnswers) (login : Login)
      (authenticated : authenticate client.crypto client.unicode client.email client.password
        answers = .ok login) :
      RenewalMove now session .authenticating (.login answers) session
        (.running (.authenticated login))
  | fail (answers : LoginAnswers) (halt : Halt AuthError)
      (failed : authenticate client.crypto client.unicode client.email client.password
        answers = .error halt) :
      RenewalMove now session .authenticating (.login answers) session (.done (.error halt))
  | installLogin (login : Login) :
      RenewalMove now session (.authenticated login) .proceed
        (VaultClient.installLogin now session login).1
        (.done (VaultClient.installLogin now session login).2)

/-- Every step of a renewal is in the list. -/
theorem renewal_move (now : Nat) (session next : Session) (renewal : Renewal) (signal : Signal)
    (progress : Progress Renewal (Call AuthError Unit))
    (taken : renewalStep client now session renewal signal = some (next, progress)) :
    RenewalMove client now session renewal signal next progress := by
  unfold renewalStep at taken
  split at taken
  case h_1 =>
    split_ifs at taken with expiring
    · cases taken
      exact .due expiring
    · cases taken
      exact .skip expiring
  case h_2 =>
    cases taken
    exact .read
  case h_3 refreshTok answer =>
    split at taken
    case h_1 grant granted =>
      cases taken
      exact .grant refreshTok answer grant granted
    case h_2 error refused =>
      cases taken
      exact .refuse refreshTok answer error refused
  case h_4 grant =>
    cases taken
    exact .installGrant grant
  case h_5 answers =>
    split at taken
    case h_1 login authenticated =>
      cases taken
      exact .login answers login authenticated
    case h_2 halt failed =>
      cases taken
      exact .fail answers halt failed
  case h_6 login =>
    cases taken
    exact .installLogin login
  case h_7 => cases taken

/-- The write of a grant touches neither the cache nor the time of its last refresh. -/
theorem install_grant_cache (now : Nat) (session : Session) (grant : Grant) :
    (installGrant now session grant).1.vault = session.vault ∧
      (installGrant now session grant).1.lastRefreshAt = session.lastRefreshAt := by
  rw [installGrant]
  cases instantAfter now grant.expiresIn <;> exact ⟨rfl, rfl⟩

/-- Nor does the write of a login. -/
theorem install_login_cache (now : Nat) (session : Session) (login : Login) :
    (installLogin now session login).1.vault = session.vault ∧
      (installLogin now session login).1.lastRefreshAt = session.lastRefreshAt := by
  rw [installLogin]
  cases instantAfter now login.expiresIn <;> exact ⟨rfl, rfl⟩

/-- A renewal touches neither the cache nor the time of its last refresh. -/
theorem renewal_step_cache (now : Nat) (session next : Session) (renewal : Renewal)
    (signal : Signal) (progress : Progress Renewal (Call AuthError Unit))
    (taken : renewalStep client now session renewal signal = some (next, progress)) :
    next.vault = session.vault ∧ next.lastRefreshAt = session.lastRefreshAt := by
  cases renewal_move client now session next renewal signal progress taken with
  | installGrant grant => exact install_grant_cache now session grant
  | installLogin login => exact install_login_cache now session login
  | _ => exact ⟨rfl, rfl⟩

/-- The steps of a cache refresh, from a session to the session after. -/
inductive RefreshMove (now : Nat) (session : Session) :
    Refresh → Signal → Session → Progress Refresh (Call VaultError Unit) → Prop where
  | ensure (renewal : Renewal) (signal : Signal) (next : Session)
      (progress : Progress Renewal (Call AuthError Unit))
      (taken : renewalStep client now session renewal signal = some (next, progress)) :
      RefreshMove now session (.ensuring renewal) signal next
        (aroundRenewal .ensuring .readingToken progress)
  | readToken :
      RefreshMove now session .readingToken .proceed session
        (.running (.readingKey session.accessToken))
  | readKey (accessToken : String) :
      RefreshMove now session (.readingKey accessToken) .proceed session
        (.running (.syncing accessToken session.symKey))
  | answered (accessToken : String) (symKey : SymmetricKey) (answer : Answer SyncResponse)
      (response : SyncResponse) (fetched : fetchSync answer = .ok response) :
      RefreshMove now session (.syncing accessToken symKey) (.sync answer) session
        (.running (.installing response symKey))
  | refused (accessToken : String) (symKey : SymmetricKey) (answer : Answer SyncResponse)
      (unauthorized : fetchSync answer = .error .unauthorized) :
      RefreshMove now session (.syncing accessToken symKey) (.sync answer) session
        (.running (.renewing symKey .reading))
  | failed (accessToken : String) (symKey : SymmetricKey) (answer : Answer SyncResponse)
      (error : SyncError) (unanswered : fetchSync answer = .error error)
      (authorized : error ≠ .unauthorized) :
      RefreshMove now session (.syncing accessToken symKey) (.sync answer) session
        (.done (.error (.err (.sync error))))
  | renew (symKey : SymmetricKey) (renewal : Renewal) (signal : Signal) (next : Session)
      (progress : Progress Renewal (Call AuthError Unit))
      (taken : renewalStep client now session renewal signal = some (next, progress)) :
      RefreshMove now session (.renewing symKey renewal) signal next
        (aroundRenewal (.renewing symKey) (.rereadingToken symKey) progress)
  | rereadToken (symKey : SymmetricKey) :
      RefreshMove now session (.rereadingToken symKey) .proceed session
        (.running (.resyncing session.accessToken symKey))
  | reanswered (accessToken : String) (symKey : SymmetricKey) (answer : Answer SyncResponse)
      (response : SyncResponse) (fetched : fetchSync answer = .ok response) :
      RefreshMove now session (.resyncing accessToken symKey) (.sync answer) session
        (.running (.installing response symKey))
  | refailed (accessToken : String) (symKey : SymmetricKey) (answer : Answer SyncResponse)
      (error : SyncError) (unanswered : fetchSync answer = .error error) :
      RefreshMove now session (.resyncing accessToken symKey) (.sync answer) session
        (.done (.error (.err (.sync error))))
  | install (response : SyncResponse) (symKey : SymmetricKey) (cache : VaultCache)
      (skips : DecryptSkips)
      (decrypted : decryptVault client.crypto client.unicode response symKey =
        .ok (cache, skips)) :
      RefreshMove now session (.installing response symKey) .proceed
        { session with vault := some cache, lastRefreshAt := now } (.done (.ok ()))

/-- Every step of a refresh is in the list. Decryption does not panic. -/
theorem refresh_move (now : Nat) (session next : Session) (refresh : Refresh) (signal : Signal)
    (progress : Progress Refresh (Call VaultError Unit))
    (taken : refreshStep client now session refresh signal = some (next, progress)) :
    RefreshMove client now session refresh signal next progress := by
  unfold refreshStep at taken
  split at taken
  case h_1 renewal =>
    obtain ⟨⟨session, inner⟩, inside, same⟩ := Option.map_eq_some_iff.mp taken
    cases same
    exact .ensure renewal _ _ inner inside
  case h_2 =>
    cases taken
    exact .readToken
  case h_3 accessToken =>
    cases taken
    exact .readKey accessToken
  case h_4 accessToken symKey answer =>
    split at taken
    case h_1 response fetched =>
      cases taken
      exact .answered accessToken symKey answer response fetched
    case h_2 unauthorized =>
      cases taken
      exact .refused accessToken symKey answer unauthorized
    case h_3 error authorized unanswered =>
      cases taken
      exact .failed accessToken symKey answer error unanswered authorized
  case h_5 symKey renewal =>
    obtain ⟨⟨session, inner⟩, inside, same⟩ := Option.map_eq_some_iff.mp taken
    cases same
    exact .renew symKey renewal _ _ inner inside
  case h_6 symKey =>
    cases taken
    exact .rereadToken symKey
  case h_7 accessToken symKey answer =>
    split at taken
    case h_1 response fetched =>
      cases taken
      exact .reanswered accessToken symKey answer response fetched
    case h_2 error unanswered =>
      cases taken
      exact .refailed accessToken symKey answer error unanswered
  case h_8 response symKey =>
    obtain ⟨orgKeys, skips, -, decrypted⟩ :=
      decrypt_vault_spec client.crypto client.unicode response symKey
    rw [decrypted] at taken
    cases taken
    exact .install response symKey _ skips decrypted
  case h_9 => cases taken

/-- A refresh that ends well has installed a cache at its last step; no other
step touches the cache. -/
theorem refresh_move_cache (now : Nat) (session next : Session) (refresh : Refresh)
    (signal : Signal) (progress : Progress Refresh (Call VaultError Unit))
    (move : RefreshMove client now session refresh signal next progress) :
    (next.vault = session.vault ∧ next.lastRefreshAt = session.lastRefreshAt ∧
        progress ≠ .done (.ok ())) ∨
      ((∃ response symKey, refresh = .installing response symKey) ∧
        (∃ cache, next.vault = some cache) ∧ next.lastRefreshAt = now ∧
        progress = .done (.ok ())) := by
  cases move with
  | ensure renewal signal next inner taken =>
    obtain ⟨vault, refreshed⟩ := renewal_step_cache client now session next renewal signal inner taken
    refine .inl ⟨vault, refreshed, ?_⟩
    rcases inner with renewal | (_ | _) <;> simp [aroundRenewal]
  | renew symKey renewal signal next inner taken =>
    obtain ⟨vault, refreshed⟩ := renewal_step_cache client now session next renewal signal inner taken
    refine .inl ⟨vault, refreshed, ?_⟩
    rcases inner with renewal | (_ | _) <;> simp [aroundRenewal]
  | install response symKey cache skips decrypted =>
    exact .inr ⟨⟨response, symKey, rfl⟩, ⟨cache, rfl⟩, rfl, rfl⟩
  | _ => exact .inl ⟨rfl, rfl, by simp⟩

/-- The token loop after a step of its renewal: it stays in it, plans the next sleep, backs
off, or is gone. -/
def afterRenewal (now : Nat) : Progress Renewal (Call AuthError Unit) → TokenLoop
  | .running renewal => .renewing renewal
  | .done (.ok ()) => .planning
  | .done (.error (.err _)) => .backingOff (now + 30 * secondNs)
  | .done (.error .panic) => .crashed

/-- The steps of the token loop, from a session to the session after. -/
inductive LoopMove (now : Nat) (session : Session) :
    TokenLoop → Signal → Session → TokenLoop → Prop where
  | plan :
      LoopMove now session .planning .proceed session
        (.sleeping (now + (session.tokenExpiresAt - 60 * secondNs - now)))
  | wake (wakeAt : Nat) (due : wakeAt ≤ now) :
      LoopMove now session (.sleeping wakeAt) .proceed session (.renewing .checking)
  | cancel (wakeAt : Nat) : LoopMove now session (.sleeping wakeAt) .stop session .stopped
  | renew (renewal : Renewal) (signal : Signal) (next : Session)
      (progress : Progress Renewal (Call AuthError Unit))
      (taken : renewalStep client now session renewal signal = some (next, progress)) :
      LoopMove now session (.renewing renewal) signal next (afterRenewal now progress)
  | resume (wakeAt : Nat) (due : wakeAt ≤ now) :
      LoopMove now session (.backingOff wakeAt) .proceed session .planning
  | stop (wakeAt : Nat) : LoopMove now session (.backingOff wakeAt) .stop session .stopped

/-- Every step of the token loop is in the list. -/
theorem loop_move (now : Nat) (session next : Session) (loop after : TokenLoop) (signal : Signal)
    (taken : tokenLoopStep client now session loop signal = some (next, after)) :
    LoopMove client now session loop signal next after := by
  unfold tokenLoopStep at taken
  split at taken
  case h_1 =>
    cases taken
    exact .plan
  case h_2 wakeAt =>
    split_ifs at taken with due
    cases taken
    exact .wake wakeAt due
  case h_3 wakeAt =>
    cases taken
    exact .cancel wakeAt
  case h_4 renewal =>
    cases renewed : renewalStep client now session renewal signal with
    | none =>
      rw [renewed] at taken
      cases taken
    | some outcome =>
      obtain ⟨session, progress⟩ := outcome
      rw [renewed] at taken
      rcases progress with running | (_ | _) | _ <;> cases taken
      · exact .renew renewal signal _ (.running running) renewed
      · exact .renew renewal signal _ (.done (.error (.err _))) renewed
      · exact .renew renewal signal _ (.done (.error .panic)) renewed
      · exact .renew renewal signal _ (.done (.ok ())) renewed
  case h_5 wakeAt =>
    split_ifs at taken with due
    cases taken
    exact .resume wakeAt due
  case h_6 wakeAt =>
    cases taken
    exact .stop wakeAt
  case h_7 => cases taken

/-- The token loop never touches the cache. -/
theorem token_loop_step_cache (now : Nat) (session next : Session) (loop after : TokenLoop)
    (signal : Signal) (taken : tokenLoopStep client now session loop signal = some (next, after)) :
    next.vault = session.vault ∧ next.lastRefreshAt = session.lastRefreshAt := by
  cases loop_move client now session next loop after signal taken with
  | renew renewal signal next progress renewed =>
    exact renewal_step_cache client now session next renewal signal progress renewed
  | _ => exact ⟨rfl, rfl⟩

end

section
variable {RsaPrivateKey : Type} (client : Client RsaPrivateKey) {ι : Type} [DecidableEq ι]

/-- The steps of the system. -/
inductive Move (system : System ι) : Event ι → System ι → Prop where
  | elapse (duration : Nat) :
      Move system (.elapse duration) { system with now := system.now + duration }
  | arrive (id : ι) (requests : List SecretRequest) (idle : system.fetches id = .idle) :
      Move system (.arrive id requests) (system.withFetch id (.looking requests))
  | look (id : ι) (requests : List SecretRequest)
      (looking : system.fetches id = .looking requests) :
      Move system (.fetch id .proceed) (system.withFetch id
        (afterFirstLookup requests (tryFetchSecrets client system.session.vault requests)))
  | lock (id : ι) (requests : List SecretRequest) (miss : LookupError)
      (queued : system.fetches id = .queued requests miss) (free : system.refreshLock = none) :
      Move system (.fetch id .proceed)
        { system.withFetch id (.checking requests miss) with refreshLock := some id }
  | skip (id : ι) (requests : List SecretRequest) (miss : LookupError)
      (checking : system.fetches id = .checking requests miss)
      (cooling : system.now - system.session.lastRefreshAt < client.minRefreshInterval) :
      Move system (.fetch id .proceed)
        { system.withFetch id (.returned requests (.error (.lookup miss))) with
          refreshLock := none }
  | start (id : ι) (requests : List SecretRequest) (miss : LookupError)
      (checking : system.fetches id = .checking requests miss)
      (due : ¬ system.now - system.session.lastRefreshAt < client.minRefreshInterval) :
      Move system (.fetch id .proceed)
        (system.withFetch id (.refreshing requests miss (.ensuring .checking)))
  | onDemand (id : ι) (requests : List SecretRequest) (miss : LookupError) (refresh : Refresh)
      (signal : Signal) (session : Session) (progress : Progress Refresh (Call VaultError Unit))
      (refreshing : system.fetches id = .refreshing requests miss refresh)
      (taken : refreshStep client system.now system.session refresh signal =
        some (session, progress)) :
      Move system (.fetch id signal)
        { system.withFetch id (afterOnDemand requests miss progress) with
          session, refreshLock := lockAfter id progress }
  | retry (id : ι) (requests : List SecretRequest)
      (retrying : system.fetches id = .retrying requests) :
      Move system (.fetch id .proceed) (system.withFetch id
        (settled requests (tryFetchSecrets client system.session.vault requests)))
  | tick (waiting : system.cacheLoop = .waiting) :
      Move system (.cacheLoop .proceed)
        { system with cacheLoop := .refreshing (.ensuring .checking) }
  | stop (waiting : system.cacheLoop = .waiting) :
      Move system (.cacheLoop .stop) { system with cacheLoop := .stopped }
  | background (refresh : Refresh) (signal : Signal) (session : Session)
      (progress : Progress Refresh (Call VaultError Unit))
      (refreshing : system.cacheLoop = .refreshing refresh)
      (taken : refreshStep client system.now system.session refresh signal =
        some (session, progress)) :
      Move system (.cacheLoop signal) { system with session, cacheLoop := afterBackground progress }
  | tokenLoop (signal : Signal) (session : Session) (tokenLoop : TokenLoop)
      (taken : tokenLoopStep client system.now system.session system.tokenLoop signal =
        some (session, tokenLoop)) :
      Move system (.tokenLoop signal) { system with session, tokenLoop }

/-- Every step of a call is in the list. -/
theorem fetch_move (system next : System ι) (id : ι) (signal : Signal)
    (taken : fetchStep client system id signal = some next) :
    Move client system (.fetch id signal) next := by
  unfold fetchStep at taken
  split at taken
  case h_1 requests looking =>
    cases taken
    exact .look id requests looking
  case h_2 requests miss queued =>
    split_ifs at taken with free
    cases taken
    exact .lock id requests miss queued free
  case h_3 requests miss checking =>
    split_ifs at taken with cooling
    · cases taken
      exact .skip id requests miss checking cooling
    · cases taken
      exact .start id requests miss checking cooling
  case h_4 requests miss refresh refreshing =>
    obtain ⟨⟨session, progress⟩, inside, same⟩ := Option.map_eq_some_iff.mp taken
    cases same
    exact .onDemand id requests miss refresh _ session progress refreshing inside
  case h_5 requests retrying =>
    cases taken
    exact .retry id requests retrying
  case h_6 => cases taken

/-- Every step of the cache loop is in the list. -/
theorem cache_loop_move (system next : System ι) (signal : Signal)
    (taken : cacheLoopStep client system signal = some next) :
    Move client system (.cacheLoop signal) next := by
  unfold cacheLoopStep at taken
  split at taken
  case h_1 waiting =>
    cases taken
    exact .tick waiting
  case h_2 waiting =>
    cases taken
    exact .stop waiting
  case h_3 refresh refreshing =>
    obtain ⟨⟨session, progress⟩, inside, same⟩ := Option.map_eq_some_iff.mp taken
    cases same
    exact .background refresh _ session progress refreshing inside
  case h_4 => cases taken

/-- Every step of the system is in the list. -/
theorem step_move (system next : System ι) (event : Event ι)
    (taken : step client system event = some next) : Move client system event next := by
  cases event with
  | elapse duration =>
    cases taken
    exact .elapse duration
  | arrive id requests =>
    simp only [step] at taken
    split at taken
    case h_1 idle =>
      cases taken
      exact .arrive id requests idle
    case h_2 => cases taken
  | fetch id signal => exact fetch_move client system next id signal taken
  | cacheLoop signal => exact cache_loop_move client system next signal taken
  | tokenLoop signal =>
    obtain ⟨⟨session, tokenLoop⟩, inside, same⟩ := Option.map_eq_some_iff.mp taken
    cases same
    exact .tokenLoop signal session tokenLoop inside

end

/-! ## What every run keeps -/

/-- A call between taking `refresh_lock` and releasing it. -/
def Inside : Fetch → Prop
  | .checking _ _ => True
  | .refreshing _ _ _ => True
  | _ => False

instance : DecidablePred Inside
  | .checking _ _ => isTrue trivial
  | .refreshing _ _ _ => isTrue trivial
  | .idle => isFalse id
  | .looking _ => isFalse id
  | .queued _ _ => isFalse id
  | .retrying _ => isFalse id
  | .returned _ _ => isFalse id
  | .crashed => isFalse id

/-- A call that goes on to its retry: its `refresh_if_due` has answered true. -/
def isRetrying : Fetch → Bool
  | .retrying _ => true
  | _ => false

/-- A call leaves its lookups outside `refresh_if_due`. -/
theorem settled_outside (requests : List SecretRequest) (result : Call VaultError (List String)) :
    ¬ Inside (settled requests result) := by
  rcases result with (_ | _) | _ <;> exact id

theorem after_first_lookup_outside (requests : List SecretRequest)
    (result : Call VaultError (List String)) : ¬ Inside (afterFirstLookup requests result) := by
  unfold afterFirstLookup
  split
  · split_ifs
    · exact id
    · exact settled_outside requests _
  · exact settled_outside requests _

section
variable {RsaPrivateKey : Type} (client : Client RsaPrivateKey) {ι : Type} [DecidableEq ι]

/-- The cache is there, its last refresh is past, and a call inside
`refresh_if_due` is the one that holds the lock. -/
structure Sound {ι : Type} (system : System ι) : Prop where
  cached : ∃ cache, system.session.vault = some cache
  past : system.session.lastRefreshAt ≤ system.now
  exclusive : ∀ id, Inside (system.fetches id) → system.refreshLock = some id

theorem initial_sound {ι : Type} (system : System ι) (initial : Initial system) :
    Sound system where
  cached := initial.cached
  past := initial.past
  exclusive id inside := by
    rw [initial.idle id] at inside
    exact False.elim inside

/-- At most one call is inside `refresh_if_due`. -/
theorem inside_unique {ι : Type} (system : System ι) (sound : Sound system) (id other : ι)
    (inside : Inside (system.fetches id)) (alsoInside : Inside (system.fetches other)) :
    other = id := by
  have held := sound.exclusive id inside
  rw [sound.exclusive other alsoInside] at held
  exact Option.some.inj held

/-- The lock discipline survives when one call changes, provided the lock suits
that call and still suits every other call that is inside. -/
theorem exclusive_update (system : System ι) (id : ι) (fetch : Fetch) (lock : Option ι)
    (own : Inside fetch → lock = some id)
    (others : ∀ other, other ≠ id → Inside (system.fetches other) → lock = some other) :
    ∀ other, Inside ((system.withFetch id fetch).fetches other) → lock = some other := by
  intro other inside
  by_cases same : other = id
  · subst same
    rw [with_fetch_self] at inside
    exact own inside
  · rw [with_fetch_other system id other fetch same] at inside
    exact others other same inside

/-- A step of a refresh keeps a cache in the session, refreshed in the past. -/
theorem refresh_step_sound (now : Nat) (session next : Session) (refresh : Refresh)
    (signal : Signal) (progress : Progress Refresh (Call VaultError Unit))
    (taken : refreshStep client now session refresh signal = some (next, progress))
    (cached : ∃ cache, session.vault = some cache) (past : session.lastRefreshAt ≤ now) :
    (∃ cache, next.vault = some cache) ∧ next.lastRefreshAt ≤ now := by
  rcases refresh_move_cache client now session next refresh signal progress
    (refresh_move client now session next refresh signal progress taken) with
    ⟨vault, refreshed, -⟩ | ⟨-, installed, refreshed, -⟩
  · exact ⟨by rwa [vault], by rwa [refreshed]⟩
  · exact ⟨installed, le_of_eq refreshed⟩

/-- Every step keeps the system sound. -/
theorem move_sound (system next : System ι) (event : Event ι) (sound : Sound system)
    (move : Move client system event next) : Sound next := by
  have unlocked : ∀ id, Inside (system.fetches id) →
      ∀ other, other ≠ id → Inside (system.fetches other) → (none : Option ι) = some other :=
    fun id inside other distinct alsoInside =>
      absurd (inside_unique system sound id other inside alsoInside) distinct
  cases move with
  | elapse duration =>
    exact ⟨sound.cached, Nat.le_add_right_of_le sound.past, sound.exclusive⟩
  | arrive id requests idle =>
    exact ⟨sound.cached, sound.past, exclusive_update system id _ _ False.elim
      (fun other _ inside => sound.exclusive other inside)⟩
  | look id requests looking =>
    exact ⟨sound.cached, sound.past, exclusive_update system id _ _
      (fun inside => absurd inside (after_first_lookup_outside requests _))
      (fun other _ inside => sound.exclusive other inside)⟩
  | lock id requests miss queued free =>
    refine ⟨sound.cached, sound.past, exclusive_update system id _ _ (fun _ => rfl) ?_⟩
    intro other _ inside
    rw [sound.exclusive other inside] at free
    cases free
  | skip id requests miss checking cooling =>
    exact ⟨sound.cached, sound.past, exclusive_update system id _ _ False.elim
      (unlocked id (by rw [checking]; trivial))⟩
  | start id requests miss checking due =>
    exact ⟨sound.cached, sound.past, exclusive_update system id _ _
      (fun _ => sound.exclusive id (by rw [checking]; trivial))
      (fun other _ inside => sound.exclusive other inside)⟩
  | onDemand id requests miss refresh signal session progress refreshing taken =>
    obtain ⟨cached, past⟩ := refresh_step_sound client system.now system.session session refresh
      signal progress taken sound.cached sound.past
    have others := unlocked id (by rw [refreshing]; trivial)
    refine ⟨cached, past, exclusive_update system id _ _ ?_ ?_⟩
    · rcases progress with running | (_ | _) | _
      · exact fun _ => rfl
      · exact False.elim
      · exact False.elim
      · exact False.elim
    · intro other distinct inside
      cases others other distinct inside
  | retry id requests retrying =>
    exact ⟨sound.cached, sound.past, exclusive_update system id _ _
      (fun inside => absurd inside (settled_outside requests _))
      (fun other _ inside => sound.exclusive other inside)⟩
  | tick waiting => exact ⟨sound.cached, sound.past, sound.exclusive⟩
  | stop waiting => exact ⟨sound.cached, sound.past, sound.exclusive⟩
  | background refresh signal session progress refreshing taken =>
    obtain ⟨cached, past⟩ := refresh_step_sound client system.now system.session session refresh
      signal progress taken sound.cached sound.past
    exact ⟨cached, past, sound.exclusive⟩
  | tokenLoop signal session tokenLoop taken =>
    obtain ⟨vault, refreshed⟩ := token_loop_step_cache client system.now system.session session
      system.tokenLoop tokenLoop signal taken
    exact ⟨by rw [vault]; exact sound.cached, by rw [refreshed]; exact sound.past,
      sound.exclusive⟩

/-- The clock never goes back. -/
theorem move_now (system next : System ι) (event : Event ι)
    (move : Move client system event next) : system.now ≤ next.now := by
  cases move with
  | elapse duration => exact Nat.le_add_right _ _
  | _ => exact le_refl _

/-- The clock and the time of the last refresh never go back. -/
theorem move_clock (system next : System ι) (event : Event ι) (sound : Sound system)
    (move : Move client system event next) :
    system.now ≤ next.now ∧ system.session.lastRefreshAt ≤ next.session.lastRefreshAt := by
  refine ⟨move_now client system next event move, ?_⟩
  have refreshClock : ∀ session refresh signal progress,
      refreshStep client system.now system.session refresh signal = some (session, progress) →
        system.session.lastRefreshAt ≤ session.lastRefreshAt := by
    intro session refresh signal progress taken
    rcases refresh_move_cache client system.now system.session session refresh signal progress
      (refresh_move client system.now system.session session refresh signal progress taken) with
      ⟨-, refreshed, -⟩ | ⟨-, -, refreshed, -⟩
    · exact le_of_eq refreshed.symm
    · rw [refreshed]
      exact sound.past
  cases move with
  | onDemand id requests miss refresh signal session progress refreshing taken =>
    exact refreshClock session refresh signal progress taken
  | background refresh signal session progress refreshing taken =>
    exact refreshClock session refresh signal progress taken
  | tokenLoop signal session tokenLoop taken =>
    obtain ⟨-, refreshed⟩ := token_loop_step_cache client system.now system.session session
      system.tokenLoop tokenLoop signal taken
    exact le_of_eq refreshed.symm
  | _ => exact le_refl _

/-! ## Refreshes by task -/

/-- Who runs `refresh_vault_cache`: a call on demand, or the cache loop. -/
inductive Refresher (ι : Type) where
  | onDemand (id : ι)
  | background
deriving DecidableEq

/-- The task whose turn an event is, among those that refresh. -/
def taskOf {ι : Type} : Event ι → Option (Refresher ι)
  | .fetch id _ => some (.onDemand id)
  | .cacheLoop _ => some .background
  | _ => none

/-- The refresh a call is in. -/
def fetchRefresh : Fetch → Option Refresh
  | .refreshing _ _ refresh => some refresh
  | _ => none

/-- The refresh the cache loop is in. -/
def loopRefresh : CacheLoop → Option Refresh
  | .refreshing refresh => some refresh
  | _ => none

/-- The refresh a task is in. -/
def refreshOf {ι : Type} (system : System ι) : Refresher ι → Option Refresh
  | .onDemand id => fetchRefresh (system.fetches id)
  | .background => loopRefresh system.cacheLoop

/-- In an initial system no task is in a refresh. -/
theorem initial_refresh {ι : Type} (system : System ι) (initial : Initial system)
    (task : Refresher ι) : refreshOf system task = none := by
  cases task with
  | onDemand id => simp only [refreshOf, initial.idle, fetchRefresh]
  | background => simp only [refreshOf, initial.waiting, loopRefresh]

/-- A call that runs a refresh is inside `refresh_if_due`. -/
theorem refreshing_inside {ι : Type} (system : System ι) (id : ι)
    (running : (refreshOf system (.onDemand id)).isSome) : Inside (system.fetches id) := by
  simp only [refreshOf] at running
  cases phase : system.fetches id with
  | refreshing requests miss refresh => trivial
  | _ =>
    rw [phase] at running
    cases running

/-- The refresh that goes on after a step. -/
def ongoing : Progress Refresh (Call VaultError Unit) → Option Refresh
  | .running refresh => some refresh
  | .done _ => none

theorem settled_refresh (requests : List SecretRequest) (result : Call VaultError (List String)) :
    fetchRefresh (settled requests result) = none := by
  rcases result with (_ | _) | _ <;> rfl

theorem after_first_lookup_refresh (requests : List SecretRequest)
    (result : Call VaultError (List String)) :
    fetchRefresh (afterFirstLookup requests result) = none := by
  unfold afterFirstLookup
  split
  · split_ifs
    · rfl
    · exact settled_refresh requests _
  · exact settled_refresh requests _

theorem after_on_demand_refresh (requests : List SecretRequest) (miss : LookupError)
    (progress : Progress Refresh (Call VaultError Unit)) :
    fetchRefresh (afterOnDemand requests miss progress) = ongoing progress := by
  rcases progress with running | (_ | _) | _ <;> rfl

theorem after_background_refresh (progress : Progress Refresh (Call VaultError Unit)) :
    loopRefresh (afterBackground progress) = ongoing progress := by
  rcases progress with running | (_ | _) | _ <;> rfl

/-- What a step of the system does to the refresh of one task: nothing, its
start, or a step of that refresh on the session of the system. -/
inductive TaskMove (system next : System ι) (event : Event ι) (task : Refresher ι) : Prop where
  | still (same : refreshOf next task = refreshOf system task)
      (other : taskOf event = some task → refreshOf system task = none)
  | begun (own : taskOf event = some task) (before : refreshOf system task = none)
      (after : refreshOf next task = some (.ensuring .checking))
      (session : next.session = system.session)
  | moved (own : taskOf event = some task) (refresh : Refresh) (signal : Signal)
      (progress : Progress Refresh (Call VaultError Unit))
      (before : refreshOf system task = some refresh)
      (move : RefreshMove client system.now system.session refresh signal next.session progress)
      (after : refreshOf next task = ongoing progress)

/-- A change of one call leaves the refreshes of all other tasks alone. -/
theorem refresh_of_with_fetch (system : System ι) (id : ι) (fetch : Fetch) (task : Refresher ι)
    (distinct : task ≠ .onDemand id) :
    refreshOf (system.withFetch id fetch) task = refreshOf system task := by
  cases task with
  | background => rfl
  | onDemand other =>
    have apart : other ≠ id := fun same => distinct (by rw [same])
    simp [refreshOf, apart]

/-- A step of a call that is in no refresh before and after it. -/
theorem task_move_apart (system next : System ι) (id : ι) (fetch : Fetch) (signal : Signal)
    (task : Refresher ι) (fetches : next.fetches = (system.withFetch id fetch).fetches)
    (loop : next.cacheLoop = system.cacheLoop)
    (before : fetchRefresh (system.fetches id) = none) (after : fetchRefresh fetch = none) :
    TaskMove client system next (.fetch id signal) task := by
  have unchanged : refreshOf next task = refreshOf (system.withFetch id fetch) task := by
    cases task with
    | onDemand other => simp only [refreshOf, fetches]
    | background => simp only [refreshOf, loop, with_fetch_cache_loop]
  by_cases own : task = .onDemand id
  · subst own
    refine .still ?_ (fun _ => before)
    rw [unchanged]
    simp only [refreshOf, with_fetch_self, before, after]
  · refine .still ?_ (fun turn => absurd (Option.some.inj turn).symm own)
    rw [unchanged, refresh_of_with_fetch system id fetch task own]

theorem task_move (system next : System ι) (event : Event ι)
    (move : Move client system event next) (task : Refresher ι) :
    TaskMove client system next event task := by
  cases move with
  | elapse duration => exact .still rfl (fun turn => by cases turn)
  | arrive id requests idle =>
    by_cases own : task = .onDemand id
    · subst own
      exact .still (by simp [refreshOf, idle, fetchRefresh]) (fun turn => by cases turn)
    · exact .still (refresh_of_with_fetch system id _ task own) (fun turn => by cases turn)
  | look id requests looking =>
    exact task_move_apart client system _ id _ _ task rfl rfl (by rw [looking]; rfl)
      (after_first_lookup_refresh requests _)
  | lock id requests miss queued free =>
    exact task_move_apart client system _ id _ _ task rfl rfl (by rw [queued]; rfl) rfl
  | skip id requests miss checking cooling =>
    exact task_move_apart client system _ id _ _ task rfl rfl (by rw [checking]; rfl) rfl
  | retry id requests retrying =>
    exact task_move_apart client system _ id _ _ task rfl rfl (by rw [retrying]; rfl)
      (settled_refresh requests _)
  | start id requests miss checking due =>
    by_cases own : task = .onDemand id
    · subst own
      exact .begun rfl (by simp [refreshOf, checking, fetchRefresh])
        (by simp [refreshOf, fetchRefresh]) rfl
    · exact .still (refresh_of_with_fetch system id _ task own)
        (fun turn => absurd (Option.some.inj turn).symm own)
  | onDemand id requests miss refresh signal session progress refreshing taken =>
    by_cases own : task = .onDemand id
    · subst own
      refine .moved rfl refresh signal progress ?_
        (refresh_move client system.now system.session session refresh signal progress taken) ?_
      · simp [refreshOf, refreshing, fetchRefresh]
      · rw [← after_on_demand_refresh requests miss progress]
        exact congrArg fetchRefresh (with_fetch_self system id _)
    · exact .still (refresh_of_with_fetch system id _ task own)
        (fun turn => absurd (Option.some.inj turn).symm own)
  | tick waiting =>
    cases task with
    | onDemand id => exact .still rfl (fun turn => by cases turn)
    | background => exact .begun rfl (by simp [refreshOf, waiting, loopRefresh]) rfl rfl
  | stop waiting =>
    cases task with
    | onDemand id => exact .still rfl (fun turn => by cases turn)
    | background =>
      exact .still (by simp [refreshOf, waiting, loopRefresh])
        (fun _ => by simp [refreshOf, waiting, loopRefresh])
  | background refresh signal session progress refreshing taken =>
    cases task with
    | onDemand id => exact .still rfl (fun turn => by cases turn)
    | background =>
      exact .moved rfl refresh signal progress (by simp [refreshOf, refreshing, loopRefresh])
        (refresh_move client system.now system.session session refresh signal progress taken)
        (after_background_refresh progress)
  | tokenLoop signal session tokenLoop taken =>
    cases task with
    | onDemand id => exact .still rfl (fun turn => by cases turn)
    | background => exact .still rfl (fun turn => by cases turn)

/-- The refreshes of all tasks but the one whose turn it is stay as they are. -/
theorem task_apart (system next : System ι) (event : Event ι)
    (move : Move client system event next) (task : Refresher ι)
    (apart : taskOf event ≠ some task) : refreshOf next task = refreshOf system task := by
  cases task_move client system next event move task with
  | still same other => exact same
  | begun own before after session => exact absurd own apart
  | moved own refresh signal progress before move after => exact absurd own apart

/-! ## Observed steps -/

/-- An invariant that every step of the list keeps under the condition. -/
theorem preserves_moves {η : Type} (record : η → System ι → Event ι → System ι → η)
    (condition : System ι × η → Event ι → Prop) (invariant : System ι × η → Prop)
    (kept : ∀ system next history event, invariant (system, history) →
      condition (system, history) event → Move client system event next →
      invariant (next, record history system event next)) :
    Preserves (observed (step client) record) condition invariant := by
  apply preserves_observed
  intro system next history event holds meets taken
  exact kept system next history event holds meets (step_move client system next event taken)

/-! ## Answers -/

/-- The value that a cache has for one request. -/
def requestValue (cache : VaultCache) (req : SecretRequest) : Option String :=
  (lookupItem client.unicode cache req.name req.vault).toOption.map (extractSecret client.values)

/-- The lookups succeed on a cache if and only if it has a value for each request, and
they return these values. -/
theorem try_fetch_ok_iff (cache : VaultCache) (requests : List SecretRequest)
    (values : List String) :
    tryFetchSecrets client (some cache) requests = .ok values ↔
      requests.map (requestValue client cache) = values.map some := by
  have single : ∀ req : SecretRequest, (do
      let item ← (lookupItem client.unicode cache req.name req.vault).mapError (Halt.map .lookup)
      pure (extractSecret client.values item) : Call VaultError String).toOption =
        requestValue client cache req := by
    intro req
    unfold requestValue
    cases lookupItem client.unicode cache req.name req.vault <;> rfl
  simp only [tryFetchSecrets, map_ok_iff, single]

/-- The values that a cache has for the requests, index by index. -/
theorem values_indexed (cache : VaultCache) (requests : List SecretRequest) (values : List String)
    (found : tryFetchSecrets client (some cache) requests = .ok values) :
    values.length = requests.length ∧
      ∀ (i : Nat) req, requests[i]? = some req → ∃ item,
        lookupItem client.unicode cache req.name req.vault = .ok item ∧
        values[i]? = some (extractSecret client.values item) := by
  have same := (try_fetch_ok_iff client cache requests values).mp found
  constructor
  · simpa using (congrArg List.length same).symm
  · intro i req isReq
    have atIndex := congrArg (fun list => list[i]?) same
    simp only [List.getElem?_map, isReq, Option.map_some] at atIndex
    obtain ⟨value, isValue, has⟩ := Option.map_eq_some_iff.mp atIndex.symm
    obtain ⟨item, looked, isSecret⟩ := Option.map_eq_some_iff.mp has.symm
    exact ⟨item, (to_option_some_iff _ item).mp looked, by rw [isValue, isSecret]⟩

/-- Lookups that all find an item are answered. -/
theorem found_answered (cache : VaultCache) (requests : List SecretRequest)
    (found : ∀ req ∈ requests, ∃ item,
      lookupItem client.unicode cache req.name req.vault = .ok item) :
    ∃ values, tryFetchSecrets client (some cache) requests = .ok values := by
  have valued : ∀ req ∈ requests, ∃ value, requestValue client cache req = some value := by
    intro req member
    obtain ⟨item, isItem⟩ := found req member
    exact ⟨extractSecret client.values item, by simp [requestValue, isItem, Except.toOption]⟩
  obtain ⟨values, same⟩ := (exists_map_some_iff _ requests).mpr valued
  exact ⟨values, (try_fetch_ok_iff client cache requests values).mpr same⟩

/-- Lookups on a cache fail if and only if one of them fails and those before it find an
item. -/
theorem try_fetch_error_iff (cache : VaultCache) (requests : List SecretRequest)
    (halt : Halt VaultError) :
    tryFetchSecrets client (some cache) requests = .error halt ↔
      ∃ before req after cause, requests = before ++ req :: after ∧
        (∀ other ∈ before, ∃ item,
          lookupItem client.unicode cache other.name other.vault = .ok item) ∧
        lookupItem client.unicode cache req.name req.vault = .error cause ∧
        halt = cause.map .lookup := by
  have returns : ∀ req : SecretRequest, (∃ value, (do
      let item ← (lookupItem client.unicode cache req.name req.vault).mapError (Halt.map .lookup)
      pure (extractSecret client.values item) : Call VaultError String) = .ok value) ↔
        ∃ item, lookupItem client.unicode cache req.name req.vault = .ok item := by
    intro req
    cases lookupItem client.unicode cache req.name req.vault <;>
      simp [Except.mapError, bind, Except.bind, pure, Except.pure]
  have fails : ∀ req : SecretRequest, (do
      let item ← (lookupItem client.unicode cache req.name req.vault).mapError (Halt.map .lookup)
      pure (extractSecret client.values item) : Call VaultError String) = .error halt ↔
        ∃ cause, lookupItem client.unicode cache req.name req.vault = .error cause ∧
          halt = cause.map .lookup := by
    intro req
    cases lookupItem client.unicode cache req.name req.vault <;>
      simp [Except.mapError, bind, Except.bind, pure, Except.pure, eq_comm]
  simp only [tryFetchSecrets, map_error_iff, returns, fails]
  constructor
  · rintro ⟨before, req, after, same, found, cause, missed, isHalt⟩
    exact ⟨before, req, after, cause, same, found, missed, isHalt⟩
  · rintro ⟨before, req, after, cause, same, found, missed, isHalt⟩
    exact ⟨before, req, after, same, found, cause, missed, isHalt⟩

/-- Lookups on a cache fail with the error of one of them. -/
theorem try_fetch_error (cache : VaultCache) (requests : List SecretRequest)
    (halt : Halt VaultError) (failed : tryFetchSecrets client (some cache) requests = .error halt) :
    ∃ req ∈ requests, ∃ cause,
      lookupItem client.unicode cache req.name req.vault = .error cause ∧
      halt = cause.map .lookup := by
  obtain ⟨before, req, after, cause, same, -, missed, isHalt⟩ :=
    (try_fetch_error_iff client cache requests halt).mp failed
  exact ⟨req, by simp [same], cause, missed, isHalt⟩

/-- A settled lookup on a cache answers, misses or crashes. -/
theorem settled_cases (cache : VaultCache) (requests : List SecretRequest) :
    (∃ values, tryFetchSecrets client (some cache) requests = .ok values ∧
        settled requests (tryFetchSecrets client (some cache) requests) =
          .returned requests (.ok values)) ∨
      (∃ miss, settled requests (tryFetchSecrets client (some cache) requests) =
        .returned requests (.error (.lookup miss))) ∨
      settled requests (tryFetchSecrets client (some cache) requests) = .crashed := by
  cases looked : tryFetchSecrets client (some cache) requests with
  | ok values => exact .inl ⟨values, rfl, rfl⟩
  | error halt =>
    obtain ⟨req, -, cause, -, rfl⟩ := try_fetch_error client cache requests halt looked
    cases cause with
    | panic => exact .inr (.inr rfl)
    | err miss => exact .inr (.inl ⟨miss, rfl⟩)

/-- A call that returns values returns one for each request. -/
def Aligned : Fetch → Prop
  | .returned requests (.ok values) => values.length = requests.length
  | _ => True

theorem settled_aligned (vault : Option VaultCache) (requests : List SecretRequest) :
    Aligned (settled requests (tryFetchSecrets client vault requests)) := by
  cases looked : tryFetchSecrets client vault requests with
  | error halt => cases halt <;> trivial
  | ok values =>
    cases vault with
    | none => cases looked
    | some cache => exact map_length _ requests values looked

theorem first_lookup_aligned (vault : Option VaultCache) (requests : List SecretRequest) :
    Aligned (afterFirstLookup requests (tryFetchSecrets client vault requests)) := by
  unfold afterFirstLookup
  split
  · split_ifs
    · trivial
    · exact settled_aligned client vault requests
  · exact settled_aligned client vault requests

theorem aligned_with_fetch (system : System ι) (id : ι) (fetch : Fetch)
    (aligned : ∀ id, Aligned (system.fetches id)) (new : Aligned fetch) (other : ι) :
    Aligned ((system.withFetch id fetch).fetches other) := by
  by_cases same : other = id
  · subst same
    rwa [with_fetch_self]
  · rw [with_fetch_other system id other fetch same]
    exact aligned other

theorem move_aligned (system next : System ι) (event : Event ι)
    (move : Move client system event next) (aligned : ∀ id, Aligned (system.fetches id)) (id : ι) :
    Aligned (next.fetches id) := by
  cases move with
  | look call requests looking =>
    exact aligned_with_fetch system call _ aligned (first_lookup_aligned client _ requests) id
  | retry call requests retrying =>
    exact aligned_with_fetch system call _ aligned (settled_aligned client _ requests) id
  | onDemand call requests miss refresh signal session progress refreshing taken =>
    refine aligned_with_fetch system call _ aligned ?_ id
    rcases progress with running | (_ | _) | _ <;> trivial
  | arrive call | lock call | skip call | start call =>
    refine aligned_with_fetch system call _ aligned ?_ id
    trivial
  | elapse | tick | stop | background | tokenLoop => exact aligned id

/-- In every run, a call of `fetch_secrets` that returns values returns them index by
index. -/
theorem run_aligned (system last : System ι) (events : List (Event ι)) (initial : Initial system)
    (ran : run (step client) system events = some last) (id : ι) : Aligned (last.fetches id) := by
  refine run_invariant (step client) (fun system => ∀ id, Aligned (system.fetches id)) ?_ system
    last events (fun id => ?_) ran id
  · intro system event next aligned taken
    exact move_aligned client system next event (step_move client system next event taken) aligned
  · rw [initial.idle id]
    trivial

end

end VaultwardenOperator.ClientSteps

import VaultwardenOperator.StatusOrigin

/-!
# What the API server learns of the vault

The contents of the vault leave the operator in the values of the `stringData` of a
Secret, and nowhere else. Redaction empties the login, the notes, the card and the
fields of every cipher, the contents of every item, and the values of every Secret.
It commutes with each step of the operator, so what is left of a run after redaction
depends on what is left of its start and its answers alone: the names of the items,
but not what they hold.
-/

namespace VaultwardenOperator.Secrecy

open Rust Crypto Sync Auth Machine VaultClient Crd Status Controller Reconciler

/-! ## Redaction -/

def redactItem (item : DecryptedItem) : DecryptedItem :=
  { item with username := "", password := "", notes := "", uri := "", fields := ∅ }

def redactCache (cache : VaultCache) : VaultCache :=
  { cache with items := cache.items.map redactItem }

def redactCipher (cipher : SyncCipher) : SyncCipher :=
  { cipher with notes := none, login := none, card := none, fields := [] }

def redactResponse (response : SyncResponse) : SyncResponse :=
  { response with ciphers := response.ciphers.map redactCipher }

/-- The values of a call, hidden. -/
def hide (values : List String) : List String := List.replicate values.length ""

/-- A map with its keys, in their order, and no values. -/
def redactData (data : StringMap String) : StringMap String where
  entries := data.keys.map (fun key => ⟨key, ""⟩)
  nodupKeys := by
    have same : (data.keys.map (fun key => (⟨key, ""⟩ : Sigma (fun _ : String => String)))).keys =
        data.keys := by simp [List.keys, Function.comp_def]
    rw [List.NodupKeys, same]
    exact data.nodupKeys

def redactBody (body : SecretBody) : SecretBody :=
  { body with stringData := redactData body.stringData }

def redactRequest : KubeRequest → KubeRequest
  | .createSecret body => .createSecret (redactBody body)
  | .applySecret body => .applySecret (redactBody body)
  | request => request

def redactSession (session : Session) : Session :=
  { session with vault := session.vault.map redactCache }

def redactRefresh : Refresh → Refresh
  | .installing response symKey => .installing (redactResponse response) symKey
  | refresh => refresh

def redactFetch : Fetch → Fetch
  | .refreshing requests miss refresh => .refreshing requests miss (redactRefresh refresh)
  | .returned requests (.ok values) => .returned requests (.ok (hide values))
  | fetch => fetch

def redactLoop : CacheLoop → CacheLoop
  | .refreshing refresh => .refreshing (redactRefresh refresh)
  | loop => loop

def redactSignal : Signal → Signal
  | .sync (.body response) => .sync (.body (redactResponse response))
  | signal => signal

def redactProgress : Progress Refresh (Call VaultError Unit) →
    Progress Refresh (Call VaultError Unit)
  | .running refresh => .running (redactRefresh refresh)
  | .done result => .done result

def redactReconcile : Reconcile → Reconcile
  | .getting vws interval body => .getting vws interval (redactBody body)
  | .writing vws interval body present => .writing vws interval (redactBody body) present
  | reconcile => reconcile

section
variable {ι : Type}

def redactSystem (system : System ι) : System ι :=
  { system with
    session := redactSession system.session
    fetches := fun id => redactFetch (system.fetches id)
    cacheLoop := redactLoop system.cacheLoop }

def redactClientEvent : VaultClient.Event ι → VaultClient.Event ι
  | .fetch id signal => .fetch id (redactSignal signal)
  | .cacheLoop signal => .cacheLoop (redactSignal signal)
  | .tokenLoop signal => .tokenLoop (redactSignal signal)
  | event => event

def redactOperator (operator : Operator ι) : Operator ι where
  client := redactSystem operator.client
  reconciles := fun id => redactReconcile (operator.reconciles id)

def redactEvent : Reconciler.Event ι → Reconciler.Event ι
  | .client event => .client (redactClientEvent event)
  | event => event

end

/-! ## Redacting twice -/

@[simp] theorem redact_item_twice (item : DecryptedItem) :
    redactItem (redactItem item) = redactItem item := rfl

@[simp] theorem redact_cache_twice (cache : VaultCache) :
    redactCache (redactCache cache) = redactCache cache := by
  simp [redactCache, Function.comp_def]

@[simp] theorem redact_response_twice (response : SyncResponse) :
    redactResponse (redactResponse response) = redactResponse response := by
  simp [redactResponse, redactCipher, Function.comp_def]

@[simp] theorem redact_refresh_twice (refresh : Refresh) :
    redactRefresh (redactRefresh refresh) = redactRefresh refresh := by
  cases refresh <;> simp [redactRefresh]

@[simp] theorem redact_session_twice (session : Session) :
    redactSession (redactSession session) = redactSession session := by
  simp [redactSession, Function.comp_def]

@[simp] theorem hide_twice (values : List String) : hide (hide values) = hide values := by
  simp [hide]

@[simp] theorem redact_fetch_twice (fetch : Fetch) :
    redactFetch (redactFetch fetch) = redactFetch fetch := by
  cases fetch with
  | returned requests result => cases result <;> simp [redactFetch]
  | _ => simp [redactFetch]

@[simp] theorem redact_loop_twice (loop : CacheLoop) :
    redactLoop (redactLoop loop) = redactLoop loop := by
  cases loop <;> simp [redactLoop]

/-- Data is redacted to its keys. -/
theorem redact_data_congr (left right : StringMap String) (same : left.keys = right.keys) :
    redactData left = redactData right := by
  simp [redactData, same]

@[simp] theorem redact_data_keys (data : StringMap String) :
    (redactData data).keys = data.keys := by
  simp [redactData, AList.keys, List.keys, Function.comp_def]

@[simp] theorem redact_body_twice (body : SecretBody) :
    redactBody (redactBody body) = redactBody body := by
  simp only [redactBody]
  congr 1
  exact redact_data_congr _ _ (redact_data_keys _)

@[simp] theorem redact_reconcile_twice (reconcile : Reconcile) :
    redactReconcile (redactReconcile reconcile) = redactReconcile reconcile := by
  cases reconcile <;> simp [redactReconcile]

/-! ## Lookups -/

section
variable {RsaPrivateKey : Type} (crypto : Primitives RsaPrivateKey) (unicode : UnicodeTables)

/-- Items are found by what redaction leaves of them. -/
theorem find_item_redacted (items : List DecryptedItem) (name : String) (orgId : Option String) :
    findItem unicode (items.map redactItem) name orgId =
      (findItem unicode items name orgId).map redactItem := by
  have matched : ∀ matching : String → Bool,
      (items.map redactItem).find? (fun item => inScope orgId item && matching item.name) =
        (items.find? (fun item => inScope orgId item && matching item.name)).map redactItem := by
    intro matching
    rw [List.find?_map]
    rfl
  simp only [findItem]
  rw [matched (fun own => unicode.toLowercase own == unicode.toLowercase name),
    matched (fun own => contains (unicode.toLowercase own) (unicode.toLowercase name))]
  cases items.find? (fun item =>
    inScope orgId item && unicode.toLowercase item.name == unicode.toLowercase name) <;> rfl

theorem lookup_item_redacted (cache : VaultCache) (name : String) (vault : Option String) :
    lookupItem unicode (redactCache cache) name vault =
      (lookupItem unicode cache name vault).map redactItem := by
  have found : ∀ (orgId : Option String) (error : LookupError),
      okOr error (findItem unicode (redactCache cache).items name orgId) =
        (okOr error (findItem unicode cache.items name orgId)).map redactItem := by
    intro orgId error
    rw [redactCache, find_item_redacted]
    cases findItem unicode cache.items name orgId <;> rfl
  have searched : (redactCache cache).items.length = cache.items.length := by
    simp [redactCache]
  have index : (redactCache cache).orgsByName = cache.orgsByName := rfl
  cases vault with
  | none => simp only [lookupItem, found, searched]
  | some v =>
    simp only [lookupItem, index, found, searched]
    cases cache.orgsByName.lookup (unicode.toLowercase v) with
    | none => rfl
    | some orgIds =>
      simp only
      split_ifs
      · rfl
      · cases orgIds[0]? <;> rfl

end

section
variable {RsaPrivateKey : Type} (client : Client RsaPrivateKey)

/-- Lookups succeed or fail with the same error after redaction; only the values
differ. -/
theorem try_fetch_redacted (vault : Option VaultCache) (requests : List SecretRequest) :
    (tryFetchSecrets client (vault.map redactCache) requests).map hide =
      (tryFetchSecrets client vault requests).map hide := by
  cases vault with
  | none => rfl
  | some cache =>
    have lengths : (tryFetchSecrets client (some (redactCache cache)) requests).map List.length =
        (tryFetchSecrets client (some cache) requests).map List.length := by
      apply map_lengths
      intro req
      rw [lookup_item_redacted]
      cases lookupItem client.unicode cache req.name req.vault <;> rfl
    have hidden : ∀ result : Call VaultError (List String),
        result.map hide = (result.map List.length).map (List.replicate · "") := by
      intro result
      cases result <;> rfl
    rw [Option.map_some, hidden, hidden, lengths]

/-! ## Decryption -/

/-- A cipher decrypts to the same item after redaction, but for its contents. -/
theorem decrypt_cipher_redacted (cipher : SyncCipher) (key : SymmetricKey) :
    decryptCipher client.crypto (redactCipher cipher) key =
      (decryptCipher client.crypto cipher key).map redactItem := by
  cases named : decryptStr client.crypto cipher.name key with
  | error halt =>
    rw [decrypt_cipher_unnamed client.crypto cipher key halt named,
      decrypt_cipher_unnamed client.crypto (redactCipher cipher) key halt named]
    rfl
  | ok name =>
    obtain ⟨notes, notesIs⟩ := decrypt_or_default_ok client.crypto key cipher.notes
    obtain ⟨fields, fieldsIs⟩ := fold_ok (insertField client.crypto key) cipher.fields ∅
      (insert_field_ok client.crypto key)
    unfold decryptCipher
    simp only [redactCipher, named, notesIs, fieldsIs]
    cases cipher.login with
    | none => rfl
    | some login =>
      obtain ⟨parts, partsIs⟩ := decrypt_login_ok client.crypto key login
      simp only [partsIs]
      rfl

theorem decrypted_item_redacted (orgKeys : StringMap SymmetricKey) (symKey : SymmetricKey)
    (cipher : SyncCipher) :
    decryptedItem client.crypto orgKeys symKey (redactCipher cipher) =
      (decryptedItem client.crypto orgKeys symKey cipher).map redactItem := by
  have sameKey : cipherKey orgKeys symKey (redactCipher cipher) = cipherKey orgKeys symKey cipher :=
    rfl
  unfold decryptedItem
  rw [sameKey]
  cases cipherKey orgKeys symKey cipher with
  | none => rfl
  | some key =>
    simp only [Option.bind_some, decrypt_cipher_redacted]
    cases decryptCipher client.crypto cipher key <;> rfl

/-- The cache of a redacted answer is the redacted cache. -/
theorem decrypt_vault_redacted (response : SyncResponse) (symKey : SymmetricKey) :
    ∃ cache skips others,
      decryptVault client.crypto client.unicode response symKey = .ok (cache, skips) ∧
      decryptVault client.crypto client.unicode (redactResponse response) symKey =
        .ok (redactCache cache, others) := by
  obtain ⟨orgKeys, opened⟩ := decrypt_org_keys_ok client.crypto response.profile symKey
  have whole := decrypt_vault_counted client.crypto client.unicode response symKey orgKeys opened
  have redacted := decrypt_vault_counted client.crypto client.unicode (redactResponse response)
    symKey orgKeys opened
  have items : (redactResponse response).ciphers.filterMap
      (decryptedItem client.crypto orgKeys symKey) =
        (response.ciphers.filterMap (decryptedItem client.crypto orgKeys symKey)).map
          redactItem := by
    simp only [redactResponse, List.filterMap_map, List.map_filterMap]
    apply List.filterMap_congr
    intro cipher member
    exact decrypted_item_redacted client orgKeys symKey cipher
  rw [items] at redacted
  exact ⟨_, _, _, whole, redacted⟩

/-! ## Steps of a refresh -/

/-- A renewal neither sees nor changes the cache. -/
theorem renewal_step_redacted (now : Nat) (session : Session) (renewal : VaultClient.Renewal)
    (signal : Signal) :
    renewalStep client now (redactSession session) renewal (redactSignal signal) =
      (renewalStep client now session renewal signal).map
        (fun (next, progress) => (redactSession next, progress)) := by
  cases renewal with
  | checking =>
    cases signal with
    | proceed =>
      have sameExpiry : (redactSession session).tokenExpiresAt = session.tokenExpiresAt := rfl
      simp only [redactSignal, renewalStep, sameExpiry]
      split_ifs <;> rfl
    | sync answer => cases answer <;> rfl
    | _ => rfl
  | granting refreshTok =>
    cases signal with
    | token answer =>
      simp only [redactSignal, renewalStep]
      cases refreshToken refreshTok answer <;> rfl
    | sync answer => cases answer <;> rfl
    | _ => rfl
  | granted grant =>
    cases signal with
    | proceed =>
      simp only [redactSignal, renewalStep, installGrant]
      cases instantAfter now grant.expiresIn <;> rfl
    | sync answer => cases answer <;> rfl
    | _ => rfl
  | authenticating =>
    cases signal with
    | login answers =>
      simp only [redactSignal, renewalStep]
      cases authenticate client.crypto client.unicode client.email client.password answers <;> rfl
    | sync answer => cases answer <;> rfl
    | _ => rfl
  | authenticated login =>
    cases signal with
    | proceed =>
      simp only [redactSignal, renewalStep, installLogin]
      cases instantAfter now login.expiresIn <;> rfl
    | sync answer => cases answer <;> rfl
    | _ => rfl
  | reading =>
    cases signal with
    | sync answer => cases answer <;> rfl
    | _ => rfl

/-- A refresh that goes on inside a renewal has no contents to redact. -/
theorem around_renewal_redacted (stay : VaultClient.Renewal → Refresh) (goOn : Refresh)
    (progress : Progress VaultClient.Renewal (Call AuthError Unit))
    (staying : ∀ renewal, redactRefresh (stay renewal) = stay renewal)
    (going : redactRefresh goOn = goOn) :
    redactProgress (aroundRenewal stay goOn progress) = aroundRenewal stay goOn progress := by
  rcases progress with later | halt | _
  · simp only [aroundRenewal, redactProgress, staying]
  · rfl
  · simp only [aroundRenewal, redactProgress, going]

/-- One step of a refresh commutes with redaction. -/
theorem refresh_step_redacted (now : Nat) (session : Session) (refresh : Refresh)
    (signal : Signal) :
    refreshStep client now (redactSession session) (redactRefresh refresh) (redactSignal signal) =
      (refreshStep client now session refresh signal).map
        (fun (next, progress) => (redactSession next, redactProgress progress)) := by
  have renewed : ∀ (stay : VaultClient.Renewal → Refresh) (goOn : Refresh)
      (renewal : VaultClient.Renewal),
      (∀ renewal, redactRefresh (stay renewal) = stay renewal) → redactRefresh goOn = goOn →
      (renewalStep client now (redactSession session) renewal (redactSignal signal)).map
          (fun (next, progress) => (next, aroundRenewal stay goOn progress)) =
        ((renewalStep client now session renewal signal).map
          (fun (next, progress) => (next, aroundRenewal stay goOn progress))).map
            (fun (next, progress) => (redactSession next, redactProgress progress)) := by
    intro stay goOn renewal staying going
    rw [renewal_step_redacted]
    cases renewalStep client now session renewal signal with
    | none => rfl
    | some result =>
      simp only [Option.map_some, around_renewal_redacted stay goOn result.2 staying going]
  cases refresh with
  | ensuring renewal => exact renewed .ensuring .readingToken renewal (fun _ => rfl) rfl
  | renewing symKey renewal =>
    exact renewed (.renewing symKey) (.rereadingToken symKey) renewal (fun _ => rfl) rfl
  | syncing accessToken symKey =>
    cases signal with
    | sync answer =>
      cases answer with
      | body response => rfl
      | http message => rfl
      | server status text =>
        simp only [redactRefresh, redactSignal, refreshStep, fetchSync]
        by_cases unauthorized : status = 401 <;> simp [unauthorized] <;> rfl
    | _ => rfl
  | resyncing accessToken symKey =>
    cases signal with
    | sync answer =>
      cases answer with
      | body response => rfl
      | http message => rfl
      | server status text =>
        simp only [redactRefresh, redactSignal, refreshStep, fetchSync]
        by_cases unauthorized : status = 401 <;> simp [unauthorized] <;> rfl
    | _ => rfl
  | installing response symKey =>
    cases signal with
    | proceed =>
      obtain ⟨cache, skips, others, whole, redacted⟩ :=
        decrypt_vault_redacted client response symKey
      simp only [redactRefresh, redactSignal, refreshStep, whole, redacted]
      rfl
    | sync answer => cases answer <;> rfl
    | _ => rfl
  | readingToken =>
    cases signal with
    | sync answer => cases answer <;> rfl
    | _ => rfl
  | readingKey accessToken =>
    cases signal with
    | sync answer => cases answer <;> rfl
    | _ => rfl
  | rereadingToken symKey =>
    cases signal with
    | sync answer => cases answer <;> rfl
    | _ => rfl

/-! ## Steps of the client -/

/-- A lookup is handed on the same way whatever its values. -/
theorem settled_redacted (requests : List SecretRequest)
    (result other : Call VaultError (List String)) (same : result.map hide = other.map hide) :
    redactFetch (settled requests result) = redactFetch (settled requests other) := by
  cases result with
  | ok values =>
    cases other with
    | ok others =>
      have hidden : hide values = hide others := Except.ok.inj same
      simp only [settled, redactFetch, hidden]
    | error halt => cases same
  | error halt =>
    cases other with
    | ok others => cases same
    | error other =>
      cases same
      rfl

theorem first_lookup_redacted (requests : List SecretRequest)
    (result other : Call VaultError (List String)) (same : result.map hide = other.map hide) :
    redactFetch (afterFirstLookup requests result) =
      redactFetch (afterFirstLookup requests other) := by
  cases result with
  | ok values =>
    cases other with
    | ok others => exact settled_redacted requests _ _ same
    | error halt => cases same
  | error halt =>
    cases other with
    | ok others => cases same
    | error other =>
      cases same
      rfl

theorem after_on_demand_redacted (requests : List SecretRequest) (miss : LookupError)
    (progress : Progress Refresh (Call VaultError Unit)) :
    afterOnDemand requests miss (redactProgress progress) =
      redactFetch (afterOnDemand requests miss progress) := by
  rcases progress with later | (error | panic) | _ <;> rfl

theorem after_background_redacted (progress : Progress Refresh (Call VaultError Unit)) :
    afterBackground (redactProgress progress) = redactLoop (afterBackground progress) := by
  rcases progress with later | (error | panic) | _ <;> rfl

/-- The token loop neither sees nor changes the cache. -/
theorem token_loop_redacted (now : Nat) (session : Session) (loop : TokenLoop) (signal : Signal) :
    tokenLoopStep client now (redactSession session) loop (redactSignal signal) =
      (tokenLoopStep client now session loop signal).map
        (fun (next, after) => (redactSession next, after)) := by
  have sameExpiry : (redactSession session).tokenExpiresAt = session.tokenExpiresAt := rfl
  cases loop with
  | renewing renewal =>
    simp only [tokenLoopStep, renewal_step_redacted]
    rcases renewalStep client now session renewal signal with
      _ | ⟨next, later | (error | panic) | _⟩ <;> rfl
  | planning =>
    cases signal with
    | sync answer => cases answer <;> rfl
    | _ => rfl
  | sleeping wakeAt =>
    cases signal with
    | proceed =>
      simp only [redactSignal, tokenLoopStep]
      split_ifs <;> rfl
    | sync answer => cases answer <;> rfl
    | _ => rfl
  | backingOff wakeAt =>
    cases signal with
    | proceed =>
      simp only [redactSignal, tokenLoopStep]
      split_ifs <;> rfl
    | sync answer => cases answer <;> rfl
    | _ => rfl
  | stopped =>
    cases signal with
    | sync answer => cases answer <;> rfl
    | _ => rfl
  | crashed =>
    cases signal with
    | sync answer => cases answer <;> rfl
    | _ => rfl

section
variable {ι : Type} [DecidableEq ι]

omit [DecidableEq ι] in
@[simp] theorem redact_system_twice (system : System ι) :
    redactSystem (redactSystem system) = redactSystem system := by
  simp [redactSystem]

theorem redact_with_fetch (system : System ι) (id : ι) (fetch : Fetch) :
    (fun other => redactFetch ((system.withFetch id fetch).fetches other)) =
      ((redactSystem system).withFetch id (redactFetch fetch)).fetches := by
  funext other
  by_cases same : other = id
  · subst same
    simp
  · rw [with_fetch_other system id other fetch same,
      with_fetch_other (redactSystem system) id other _ same]
    rfl

/-- A change of one call, of the session and of the lock, redacted. -/
theorem redact_changed (system : System ι) (id : ι) (fetch : Fetch) (session : Session)
    (lock : Option ι) :
    redactSystem { system.withFetch id fetch with session, refreshLock := lock } =
      { (redactSystem system).withFetch id (redactFetch fetch) with
        session := redactSession session, refreshLock := lock } := by
  rw [redactSystem]
  simp only [redact_with_fetch]
  rfl

/-- The same change to a redacted system. -/
theorem changed_redacted (system : System ι) (id : ι) (fetch other : Fetch)
    (session next : Session) (lock : Option ι) (sameFetch : redactFetch other = redactFetch fetch)
    (sameSession : redactSession next = redactSession session) :
    redactSystem
        { (redactSystem system).withFetch id other with session := next, refreshLock := lock } =
      redactSystem { system.withFetch id fetch with session, refreshLock := lock } := by
  rw [redact_changed, redact_changed, redact_system_twice, sameFetch, sameSession]

theorem fetch_step_redacted (system : System ι) (id : ι) (signal : Signal) :
    (fetchStep client (redactSystem system) id (redactSignal signal)).map redactSystem =
      (fetchStep client system id signal).map redactSystem := by
  have plain : ∀ (fetch other : Fetch) (lock : Option ι), redactFetch other = redactFetch fetch →
      redactSystem { (redactSystem system).withFetch id other with refreshLock := lock } =
        redactSystem { system.withFetch id fetch with refreshLock := lock } :=
    fun fetch other lock same => changed_redacted system id fetch other system.session
      (redactSession system.session) lock same (redact_session_twice _)
  have looked : (redactSystem system).session.vault = system.session.vault.map redactCache := rfl
  have phases : (redactSystem system).fetches id = redactFetch (system.fetches id) := rfl
  have refreshed : (redactSystem system).session.lastRefreshAt = system.session.lastRefreshAt := rfl
  have clock : (redactSystem system).now = system.now := rfl
  have held : (redactSystem system).refreshLock = system.refreshLock := rfl
  unfold fetchStep
  rw [phases]
  cases phase : system.fetches id with
  | looking requests =>
    cases signal with
    | proceed =>
      simp only [redactFetch, redactSignal, Option.map_some, looked]
      congr 1
      exact plain _ _ system.refreshLock
        (first_lookup_redacted requests _ _ (try_fetch_redacted client system.session.vault requests))
    | sync answer => cases answer <;> rfl
    | _ => rfl
  | retrying requests =>
    cases signal with
    | proceed =>
      simp only [redactFetch, redactSignal, Option.map_some, looked]
      congr 1
      exact plain _ _ system.refreshLock
        (settled_redacted requests _ _ (try_fetch_redacted client system.session.vault requests))
    | sync answer => cases answer <;> rfl
    | _ => rfl
  | queued requests miss =>
    cases signal with
    | proceed =>
      simp only [redactFetch, redactSignal, held]
      split_ifs
      · simp only [Option.map_some]
        congr 1
        exact plain (.checking requests miss) _ (some id) rfl
      · rfl
    | sync answer => cases answer <;> rfl
    | _ => rfl
  | checking requests miss =>
    cases signal with
    | proceed =>
      simp only [redactFetch, redactSignal, clock, refreshed]
      split_ifs
      · simp only [Option.map_some]
        congr 1
        exact plain (.returned requests (.error (.lookup miss))) _ none rfl
      · simp only [Option.map_some]
        congr 1
        exact plain (.refreshing requests miss (.ensuring .checking)) _ system.refreshLock rfl
    | sync answer => cases answer <;> rfl
    | _ => rfl
  | refreshing requests miss refresh =>
    have stepped := refresh_step_redacted client system.now system.session refresh signal
    have inside : (redactSystem system).session = redactSession system.session := rfl
    simp only [redactFetch, clock, inside, stepped]
    cases refreshStep client system.now system.session refresh signal with
    | none => rfl
    | some result =>
      obtain ⟨next, progress⟩ := result
      simp only [Option.map_some]
      congr 1
      have sameLock : lockAfter id (redactProgress progress) = lockAfter id progress := by
        cases progress <;> rfl
      rw [sameLock]
      refine changed_redacted system id _ _ next (redactSession next) _ ?_ (redact_session_twice _)
      rw [after_on_demand_redacted, redact_fetch_twice]
  | idle =>
    cases signal with
    | sync answer => cases answer <;> rfl
    | _ => rfl
  | returned requests result =>
    cases result <;>
      cases signal with
      | sync answer => cases answer <;> rfl
      | _ => rfl
  | crashed =>
    cases signal with
    | sync answer => cases answer <;> rfl
    | _ => rfl

omit [DecidableEq ι] in
theorem cache_loop_redacted (system : System ι) (signal : Signal) :
    (cacheLoopStep client (redactSystem system) (redactSignal signal)).map redactSystem =
      (cacheLoopStep client system signal).map redactSystem := by
  have phases : (redactSystem system).cacheLoop = redactLoop system.cacheLoop := rfl
  unfold cacheLoopStep
  rw [phases]
  cases phase : system.cacheLoop with
  | waiting =>
    cases signal with
    | proceed => simp [redactLoop, redactSignal, redactSystem]
    | stop => simp [redactLoop, redactSignal, redactSystem]
    | sync answer => cases answer <;> rfl
    | _ => rfl
  | refreshing refresh =>
    have stepped := refresh_step_redacted client system.now system.session refresh signal
    have inside : (redactSystem system).session = redactSession system.session := rfl
    have clock : (redactSystem system).now = system.now := rfl
    simp only [redactLoop, clock, inside, stepped]
    cases refreshStep client system.now system.session refresh signal with
    | none => rfl
    | some result =>
      obtain ⟨next, progress⟩ := result
      simp [redactSystem, after_background_redacted]
  | stopped =>
    cases signal with
    | sync answer => cases answer <;> rfl
    | _ => rfl
  | crashed =>
    cases signal with
    | sync answer => cases answer <;> rfl
    | _ => rfl

/-- One step of the client commutes with redaction. -/
theorem client_step_redacted (system : System ι) (event : VaultClient.Event ι) :
    (VaultClient.step client (redactSystem system) (redactClientEvent event)).map redactSystem =
      (VaultClient.step client system event).map redactSystem := by
  cases event with
  | elapse duration => simp [VaultClient.step, redactClientEvent, redactSystem]
  | arrive id requests =>
    have phases : (redactSystem system).fetches id = redactFetch (system.fetches id) := rfl
    simp only [VaultClient.step, redactClientEvent, phases]
    cases phase : system.fetches id with
    | idle =>
      simp only [redactFetch, Option.map_some]
      congr 1
      exact changed_redacted system id (.looking requests) _ system.session
        (redactSession system.session) system.refreshLock rfl (redact_session_twice _)
    | returned requests result => cases result <;> rfl
    | _ => rfl
  | fetch id signal => exact fetch_step_redacted client system id signal
  | cacheLoop signal => exact cache_loop_redacted client system signal
  | tokenLoop signal =>
    have stepped := token_loop_redacted client system.now system.session system.tokenLoop signal
    have inside : (redactSystem system).session = redactSession system.session := rfl
    have clock : (redactSystem system).now = system.now := rfl
    have loops : (redactSystem system).tokenLoop = system.tokenLoop := rfl
    simp only [VaultClient.step, redactClientEvent, inside, clock, loops, stepped]
    cases tokenLoopStep client system.now system.session system.tokenLoop signal with
    | none => rfl
    | some result => simp [redactSystem]

/-! ## Steps of the operator -/

omit [DecidableEq ι] in
@[simp] theorem redact_operator_twice (operator : Operator ι) :
    redactOperator (redactOperator operator) = redactOperator operator := by
  simp [redactOperator]

/-- A change of one reconcile and of the client, redacted. -/
theorem changed_operator (operator : Operator ι) (id : ι) (reconcile other : Reconcile)
    (system next : System ι) (sameReconcile : redactReconcile other = redactReconcile reconcile)
    (sameSystem : redactSystem next = redactSystem system) :
    redactOperator (Operator.withReconcile
        { redactOperator operator with client := next } id other) =
      redactOperator (Operator.withReconcile { operator with client := system } id reconcile) := by
  simp only [redactOperator, with_reconcile_client, sameSystem, Operator.mk.injEq, true_and]
  funext own
  by_cases same : own = id
  · subst same
    simp only [with_reconcile_self, sameReconcile]
  · simp only [with_reconcile_other _ id own _ same, redact_reconcile_twice]

/-- A change of one reconcile only. -/
theorem changed_reconcile (operator : Operator ι) (id : ι) (reconcile other : Reconcile)
    (sameReconcile : redactReconcile other = redactReconcile reconcile) :
    redactOperator ((redactOperator operator).withReconcile id other) =
      redactOperator (operator.withReconcile id reconcile) :=
  changed_operator operator id reconcile other operator.client (redactSystem operator.client)
    sameReconcile (redact_system_twice _)

omit [DecidableEq ι] in
/-- The keys of the data do not depend on the values. -/
theorem secret_data_keys (spec : VaultwardenSecretSpec) (values others : List String)
    (same : values.length = others.length) :
    (secretData spec values).keys = (secretData spec others).keys := by
  have built : ∀ (items : List VaultwardenSecretDataItem) (values others : List String)
      (data data' : StringMap String), values.length = others.length → data.keys = data'.keys →
      ((items.zip values).foldl (fun data entry => data.insert entry.1.key entry.2) data).keys =
        ((items.zip others).foldl (fun data entry => data.insert entry.1.key entry.2)
          data').keys := by
    intro items
    induction items with
    | nil =>
      intro values others data data' _ sameKeys
      exact sameKeys
    | cons item rest inductionHypothesis =>
      intro values others data data' lengths sameKeys
      cases values with
      | nil =>
        cases others with
        | nil => exact sameKeys
        | cons other others => cases lengths
      | cons value values =>
        cases others with
        | nil => cases lengths
        | cons other others =>
          apply inductionHypothesis values others _ _ (Nat.succ.inj lengths)
          rw [AList.keys_insert, AList.keys_insert, sameKeys]
  exact built spec.data values others ∅ ∅ same rfl

omit [DecidableEq ι] in
/-- What follows a call depends on its values only in the body. -/
theorem after_fetch_redacted (now : String) (vws : VaultwardenSecret) (interval : Nat)
    (values others : List String) (same : values.length = others.length) :
    redactReconcile (afterFetch client.unicode now vws interval (.ok values)) =
      redactReconcile (afterFetch client.unicode now vws interval (.ok others)) := by
  simp only [afterFetch, redactReconcile]
  congr 1
  simp only [redactBody, secretBody]
  congr 1
  exact redact_data_congr _ _ (secret_data_keys vws.spec values others same)

theorem client_event_redacted (operator : Operator ι) (event : VaultClient.Event ι) :
    (clientStep client (redactOperator operator) (redactClientEvent event)).map redactOperator =
      (clientStep client operator event).map redactOperator := by
  have sameCall : isCall (redactClientEvent event) = isCall event := by cases event <;> rfl
  have stepped := client_step_redacted client operator.client event
  have through : ∀ system : System ι,
      redactOperator ⟨system, fun id => redactReconcile (operator.reconciles id)⟩ =
        ⟨redactSystem system, fun id => redactReconcile (operator.reconciles id)⟩ := by
    intro system
    simp [redactOperator]
  have direct : ∀ system : System ι, redactOperator { operator with client := system } =
      ⟨redactSystem system, fun id => redactReconcile (operator.reconciles id)⟩ := fun _ => rfl
  unfold clientStep
  rw [sameCall]
  split_ifs
  · rfl
  · rw [Option.map_map, Option.map_map]
    have same := congrArg (Option.map (fun system =>
      (⟨system, fun id => redactReconcile (operator.reconciles id)⟩ : Operator ι))) stepped
    simp only [Option.map_map] at same
    simpa only [Function.comp_def, through, direct] using same

theorem start_step_redacted (operator : Operator ι) (id : ι) (now : String)
    (vws : VaultwardenSecret) :
    (startStep client (redactOperator operator) id now vws).map redactOperator =
      (startStep client operator id now vws).map redactOperator := by
  have phases : (redactOperator operator).reconciles id =
      redactReconcile (operator.reconciles id) := rfl
  have called := client_step_redacted client operator.client
  unfold startStep
  rw [phases]
  cases phase : operator.reconciles id with
  | idle =>
    rcases begun client.unicode now vws with ⟨reconcile, _ | requests⟩
    · simp only [redactReconcile, Option.map_some]
      congr 1
      exact changed_reconcile operator id reconcile reconcile rfl
    · simp only [redactReconcile]
      have arrived := called (.arrive id requests)
      simp only [redactClientEvent] at arrived
      have inside : (redactOperator operator).client = redactSystem operator.client := rfl
      rw [inside]
      cases left : VaultClient.step client (redactSystem operator.client) (.arrive id requests) with
      | none =>
        rw [left] at arrived
        cases right : VaultClient.step client operator.client (.arrive id requests) with
        | none => rfl
        | some next =>
          rw [right] at arrived
          cases arrived
      | some system =>
        rw [left] at arrived
        cases right : VaultClient.step client operator.client (.arrive id requests) with
        | none =>
          rw [right] at arrived
          cases arrived
        | some next =>
          rw [right] at arrived
          simp only [Option.map_some]
          congr 1
          exact changed_operator operator id reconcile reconcile next system rfl
            (Option.some.inj arrived)
  | _ => rfl

theorem fetched_step_redacted (operator : Operator ι) (id : ι) (now : String) :
    (fetchedStep client (redactOperator operator) id now).map redactOperator =
      (fetchedStep client operator id now).map redactOperator := by
  have phases : (redactOperator operator).reconciles id =
      redactReconcile (operator.reconciles id) := rfl
  have calls : (redactOperator operator).client.fetches id =
      redactFetch (operator.client.fetches id) := rfl
  unfold fetchedStep
  rw [phases, calls]
  cases phase : operator.reconciles id with
  | fetching vws interval =>
    cases call : operator.client.fetches id with
    | returned requests result =>
      cases result with
      | ok values =>
        simp only [redactReconcile, redactFetch, Option.map_some]
        congr 1
        exact changed_reconcile operator id _ _
          (after_fetch_redacted client now vws interval _ values (by simp [hide]))
      | error error =>
        simp only [redactReconcile, redactFetch, Option.map_some]
        congr 1
        exact changed_reconcile operator id _ _ rfl
    | crashed =>
      simp only [redactReconcile, redactFetch, Option.map_some]
      congr 1
      exact changed_reconcile operator id _ _ rfl
    | _ => rfl
  | _ => rfl

omit [DecidableEq ι] in
/-- An answer of the API server is taken in the same way. -/
theorem after_answer_redacted (reconcile : Reconcile) (event : Reconciler.Event ι) :
    (afterAnswer (redactReconcile reconcile) event).map redactReconcile =
      (afterAnswer reconcile event).map redactReconcile := by
  cases reconcile with
  | getting vws interval body =>
    cases event with
    | got id answer => cases answer <;> simp [redactReconcile, afterAnswer, afterGet]
    | _ => rfl
  | writing vws interval body present =>
    cases event with
    | wrote id now answer => cases answer <;> simp [redactReconcile, afterAnswer, afterWrite]
    | _ => rfl
  | _ => rfl

theorem answer_step_redacted (operator : Operator ι) (id : ι) (event : Reconciler.Event ι) :
    ((afterAnswer ((redactOperator operator).reconciles id) event).map
        ((redactOperator operator).withReconcile id)).map redactOperator =
      ((afterAnswer (operator.reconciles id) event).map (operator.withReconcile id)).map
        redactOperator := by
  have answered := after_answer_redacted (operator.reconciles id) event
  have phases : (redactOperator operator).reconciles id =
      redactReconcile (operator.reconciles id) := rfl
  rw [phases]
  cases left : afterAnswer (redactReconcile (operator.reconciles id)) event with
  | none =>
    rw [left] at answered
    cases right : afterAnswer (operator.reconciles id) event with
    | none => rfl
    | some reconcile =>
      rw [right] at answered
      cases answered
  | some other =>
    rw [left] at answered
    cases right : afterAnswer (operator.reconciles id) event with
    | none =>
      rw [right] at answered
      cases answered
    | some reconcile =>
      rw [right] at answered
      simp only [Option.map_some]
      congr 1
      exact changed_reconcile operator id reconcile other (Option.some.inj answered)

/-- One step of the operator commutes with redaction. -/
theorem step_redacted (operator : Operator ι) (event : Reconciler.Event ι) :
    (Reconciler.step client operator event).map redactOperator =
      (Reconciler.step client (redactOperator operator) (redactEvent event)).map
        redactOperator := by
  cases event with
  | client event => exact (client_event_redacted client operator event).symm
  | start id now vws => exact (start_step_redacted client operator id now vws).symm
  | fetched id now => exact (fetched_step_redacted client operator id now).symm
  | got id answer => exact (answer_step_redacted operator id (.got id answer)).symm
  | wrote id now answer => exact (answer_step_redacted operator id (.wrote id now answer)).symm
  | patched id answer => exact (answer_step_redacted operator id (.patched id answer)).symm

omit [DecidableEq ι] in
theorem request_redacted (reconcile : Reconcile) :
    (redactReconcile reconcile).request.map redactRequest = reconcile.request.map redactRequest := by
  cases reconcile with
  | writing vws interval body present =>
    cases present <;> simp [redactReconcile, Reconcile.request, redactRequest]
  | _ => rfl

/-- Nothing that the vault holds reaches the API server outside the values of a Secret. Take
two operators in states that differ only in the contents of their vaults, and the same
order of events over both, where the answers of the server differ only in the contents
of their ciphers: passwords, notes, cards, fields. Then a run of the one is a run of the
other, with the same requests to the API server in each state but for the values in
their bodies, and with the same statuses, outcomes, times and tokens. -/
theorem contents_stay_in_secrets (left right last : Operator ι)
    (events others : List (Reconciler.Event ι)) (sameState : redactOperator left = redactOperator right)
    (sameEvents : events.map redactEvent = others.map redactEvent)
    (ran : run (Reconciler.step client) left events = some last) :
    ∃ other, run (Reconciler.step client) right others = some other ∧
      redactOperator other = redactOperator last ∧
      ∀ id, (other.reconciles id).request.map redactRequest =
        (last.reconciles id).request.map redactRequest := by
  have through : ∀ (operator : Operator ι) (events : List (Reconciler.Event ι)),
      (run (Reconciler.step client) operator events).map redactOperator =
        run (fun operator event => (Reconciler.step client operator event).map redactOperator)
          (redactOperator operator) (events.map redactEvent) :=
    run_through _ _ redactOperator redactEvent (step_redacted client)
  have same : (run (Reconciler.step client) right others).map redactOperator =
      some (redactOperator last) := by
    rw [through, ← sameState, ← sameEvents, ← through, ran, Option.map_some]
  obtain ⟨other, reached, redacted⟩ := Option.map_eq_some_iff.mp same
  refine ⟨other, reached, redacted, fun id => ?_⟩
  have reconciles := congrFun (congrArg Operator.reconciles redacted) id
  rw [← request_redacted, ← request_redacted (last.reconciles id)]
  exact congrArg (fun reconcile => reconcile.request.map redactRequest) reconciles

end

end

/-- An operator whose vault holds one item with the given password. -/
def vaultOperator (password : String) : Operator Bool where
  client :=
    { sampleSystem Bool with
      session :=
        { (sampleSystem Bool).session with vault := some ⟨[sampleItem "db" password], ∅⟩ } }
  reconciles := fun _ => .idle

/-- The value that a reconcile is about to write under a key. -/
def valueSent (key : String) (reconcile : Reconcile) : Option String :=
  (reconcile.request.bind SecretOrigin.bodyOf).bind (fun body => body.stringData.lookup key)

/-- Two vaults with different passwords: the Secrets differ, and nothing else. -/
theorem contents_stay_in_secrets_sample :
    ∃ last other,
      run (Reconciler.step sampleClient) (vaultOperator "one") SecretOrigin.sampleReconcile =
        some last ∧
      run (Reconciler.step sampleClient) (vaultOperator "two") SecretOrigin.sampleReconcile =
        some other ∧
      valueSent "token" (last.reconciles false) = some "one" ∧
      redactOperator other = redactOperator last ∧
      ∀ id, (other.reconciles id).request.map redactRequest =
        (last.reconciles id).request.map redactRequest := by
  have ran : ((run (Reconciler.step sampleClient) (vaultOperator "one")
      SecretOrigin.sampleReconcile).map (fun last => valueSent "token" (last.reconciles false))) =
        some (some "one") := by
    decide +kernel
  obtain ⟨last, reached, value⟩ := Option.map_eq_some_iff.mp ran
  obtain ⟨other, reachedToo, redacted, requests⟩ :=
    contents_stay_in_secrets sampleClient (vaultOperator "one") (vaultOperator "two") last
      SecretOrigin.sampleReconcile SecretOrigin.sampleReconcile rfl rfl reached
  exact ⟨last, other, reached, reachedToo, value, redacted, requests⟩

end VaultwardenOperator.Secrecy

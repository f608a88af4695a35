import VaultwardenOperator.Auth
import VaultwardenOperator.Machine
import VaultwardenOperator.Sync
import Mathlib.Logic.Function.Basic

/-!
# The shared Vaultwarden client

One session is shared by any number of `fetch_secrets` calls, by the loop that
refreshes the cache and by the loop that renews the token. Each async function
is a state machine over its await points, and a step of the system is what one
task does between two of them: one critical section of the session lock, or one
answer of the server. Answers and the order of steps are arbitrary.

Server answers enter a task at the moment the server gives them; how long the
task takes to go on afterwards is open. An on-demand refresh ends, and
`refresh_lock` is released, in the critical section that installs its snapshot.
Instants and durations are numbers of nanoseconds. The shutdown signal of the
loops is `Signal.stop`.
-/

namespace VaultwardenOperator.VaultClient

open Rust Crypto Sync Auth Machine

/-- The errors of `fetch_sync`. -/
inductive SyncError where
  | http (message : String)
  | server (status : UInt16) (body : String)
  | unauthorized
deriving DecidableEq

/-- The `Display` texts. -/
def SyncError.display : SyncError → String
  | .http message => s!"HTTP error: {message}"
  | .server status body => s!"server returned {status}: {body}"
  | .unauthorized => "unauthorized (401); caller should refresh and retry"

/-- `fetch_sync`. -/
def fetchSync : Answer SyncResponse → Except SyncError SyncResponse
  | .http message => .error (.http message)
  | .server status text => if status = 401 then .error .unauthorized else .error (.server status text)
  | .body response => .ok response

inductive VaultError where
  | auth (error : AuthError)
  | sync (error : SyncError)
  | lookup (error : LookupError)
  | notInitialized
deriving DecidableEq

/-- The `Display` texts. -/
def VaultError.display (unicode : UnicodeTables) : VaultError → String
  | .auth error =>
    let text := error.display
    s!"auth error: {text}"
  | .sync error =>
    let text := error.display
    s!"sync error: {text}"
  | .lookup error => error.display unicode
  | .notInitialized => "vault not yet initialized"

/-- One vault lookup; no vault is the whole account. -/
structure SecretRequest where
  name : String
  vault : Option String
deriving DecidableEq

/-- The mutable part of the client. -/
structure Session where
  accessToken : String
  refreshToken : String
  tokenExpiresAt : Nat
  symKey : SymmetricKey
  vault : Option VaultCache
  lastRefreshAt : Nat

/-- The constant part of the client, with the outside functions it runs on. -/
structure Client (RsaPrivateKey : Type) where
  crypto : Primitives RsaPrivateKey
  unicode : UnicodeTables
  values : ValueOrder
  email : String
  password : String
  minRefreshInterval : Nat

/-- `Instant::now() + Duration::from_secs(..)`, which panics when the seconds leave
the range of a signed 64-bit number. -/
def instantAfter (now : Nat) (seconds : UInt64) : Option Nat :=
  if now / secondNs + seconds.toNat < 2 ^ 63 then some (now + seconds.toNat * secondNs) else none

/-! ## The tasks -/

/-- `ensure_valid_token`, which goes on with `do_refresh_or_reauth`. -/
inductive Renewal where
  | checking
  | reading
  | granting (refreshTok : String)
  | granted (grant : Grant)
  | authenticating
  | authenticated (login : Login)

/-- `refresh_vault_cache`. The key is carried from where it is read to where it is
used; a second token is read after a 401. -/
inductive Refresh where
  | ensuring (renewal : Renewal)
  | readingToken
  | readingKey (accessToken : String)
  | syncing (accessToken : String) (symKey : SymmetricKey)
  | renewing (symKey : SymmetricKey) (renewal : Renewal)
  | rereadingToken (symKey : SymmetricKey)
  | resyncing (accessToken : String) (symKey : SymmetricKey)
  | installing (response : SyncResponse) (symKey : SymmetricKey)

/-- `fetch_secrets`. A call that is `checking` or `refreshing` is inside
`refresh_if_due` and holds `refresh_lock`; one that is `queued` waits for it. -/
inductive Fetch where
  | idle
  | looking (requests : List SecretRequest)
  | queued (requests : List SecretRequest) (miss : LookupError)
  | checking (requests : List SecretRequest) (miss : LookupError)
  | refreshing (requests : List SecretRequest) (miss : LookupError) (refresh : Refresh)
  | retrying (requests : List SecretRequest)
  | returned (requests : List SecretRequest) (result : Except VaultError (List String))
  | crashed

/-- `start_vault_cache_refresh`, waiting for its ticker or in a refresh. -/
inductive CacheLoop where
  | waiting
  | refreshing (refresh : Refresh)
  | stopped
  | crashed

/-- `start_token_refresh`. The sleeping states carry the instant of the wake-up. -/
inductive TokenLoop where
  | planning
  | sleeping (wakeAt : Nat)
  | renewing (renewal : Renewal)
  | backingOff (wakeAt : Nat)
  | stopped
  | crashed

/-- What lets a task take its next step: nothing but its turn, the shutdown
signal, or an answer of the server. -/
inductive Signal where
  | proceed
  | stop
  | token (answer : Answer TokenResponse)
  | login (answers : LoginAnswers)
  | sync (answer : Answer SyncResponse)

section
variable {RsaPrivateKey : Type} (client : Client RsaPrivateKey)

/-- The write of a refresh grant. The token is replaced before the expiry is computed. -/
def installGrant (now : Nat) (session : Session) (grant : Grant) : Session × Call AuthError Unit :=
  let session := { session with
    accessToken := grant.accessToken
    refreshToken := grant.refreshToken.getD session.refreshToken }
  match instantAfter now grant.expiresIn with
  | some expiresAt => ({ session with tokenExpiresAt := expiresAt }, .ok ())
  | none => (session, .error .panic)

/-- The write of a full login. The tokens are replaced before the expiry is
computed, the key after. -/
def installLogin (now : Nat) (session : Session) (login : Login) : Session × Call AuthError Unit :=
  let session := { session with
    accessToken := login.accessToken
    refreshToken := login.refreshToken }
  match instantAfter now login.expiresIn with
  | some expiresAt =>
    ({ session with tokenExpiresAt := expiresAt, symKey := login.symKey }, .ok ())
  | none => (session, .error .panic)

/-- One step of a token renewal. -/
def renewalStep (now : Nat) (session : Session) :
    Renewal → Signal → Option (Session × Progress Renewal (Call AuthError Unit))
  | .checking, .proceed =>
    if now + 60 * secondNs ≥ session.tokenExpiresAt then some (session, .running .reading)
    else some (session, .done (.ok ()))
  | .reading, .proceed => some (session, .running (.granting session.refreshToken))
  | .granting refreshTok, .token answer =>
    match refreshToken refreshTok answer with
    | .ok grant => some (session, .running (.granted grant))
    | .error _ => some (session, .running .authenticating)
  | .granted grant, .proceed =>
    let (session, result) := installGrant now session grant
    some (session, .done result)
  | .authenticating, .login answers =>
    match authenticate client.crypto client.unicode client.email client.password answers with
    | .ok login => some (session, .running (.authenticated login))
    | .error halt => some (session, .done (.error halt))
  | .authenticated login, .proceed =>
    let (session, result) := installLogin now session login
    some (session, .done result)
  | _, _ => none

/-- The refresh around a renewal: it stays with the renewal, goes on after it, or
fails with it. -/
def aroundRenewal (stay : Renewal → Refresh) (goOn : Refresh) :
    Progress Renewal (Call AuthError Unit) → Progress Refresh (Call VaultError Unit)
  | .running renewal => .running (stay renewal)
  | .done (.ok ()) => .running goOn
  | .done (.error halt) => .done (.error (halt.map .auth))

/-- One step of a cache refresh. -/
def refreshStep (now : Nat) (session : Session) :
    Refresh → Signal → Option (Session × Progress Refresh (Call VaultError Unit))
  | .ensuring renewal, signal =>
    (renewalStep client now session renewal signal).map (fun (session, progress) =>
      (session, aroundRenewal .ensuring .readingToken progress))
  | .readingToken, .proceed => some (session, .running (.readingKey session.accessToken))
  | .readingKey accessToken, .proceed =>
    some (session, .running (.syncing accessToken session.symKey))
  | .syncing _ symKey, .sync answer =>
    match fetchSync answer with
    | .ok response => some (session, .running (.installing response symKey))
    | .error .unauthorized => some (session, .running (.renewing symKey .reading))
    | .error error => some (session, .done (.error (.err (.sync error))))
  | .renewing symKey renewal, signal =>
    (renewalStep client now session renewal signal).map (fun (session, progress) =>
      (session, aroundRenewal (.renewing symKey) (.rereadingToken symKey) progress))
  | .rereadingToken symKey, .proceed =>
    some (session, .running (.resyncing session.accessToken symKey))
  | .resyncing _ symKey, .sync answer =>
    match fetchSync answer with
    | .ok response => some (session, .running (.installing response symKey))
    | .error error => some (session, .done (.error (.err (.sync error))))
  | .installing response symKey, .proceed =>
    match decryptVault client.crypto client.unicode response symKey with
    | .ok (cache, _) =>
      some ({ session with vault := some cache, lastRefreshAt := now }, .done (.ok ()))
    | .error _ => some (session, .done (.error .panic))
  | _, _ => none

/-- `try_fetch_secrets` on the cache it finds in the session. -/
def tryFetchSecrets (vault : Option VaultCache) (requests : List SecretRequest) :
    Call VaultError (List String) :=
  match vault with
  | none => .error (.err .notInitialized)
  | some cache => requests.mapM (fun req => do
    let item ← (lookupItem client.unicode cache req.name req.vault).mapError (Halt.map .lookup)
    pure (extractSecret client.values item))

/-- A call hands its lookup result to the caller. -/
def settled (requests : List SecretRequest) : Call VaultError (List String) → Fetch
  | .ok values => .returned requests (.ok values)
  | .error (.err error) => .returned requests (.error error)
  | .error .panic => .crashed

/-- After the first lookup: only a stale miss leads to a refresh. -/
def afterFirstLookup (requests : List SecretRequest) (result : Call VaultError (List String)) :
    Fetch :=
  match result with
  | .error (.err (.lookup miss)) =>
    if miss.isStaleMiss then .queued requests miss else settled requests result
  | _ => settled requests result

/-- After one step of the refresh of a call. A failed one answers the old miss. -/
def afterOnDemand (requests : List SecretRequest) (miss : LookupError) :
    Progress Refresh (Call VaultError Unit) → Fetch
  | .running refresh => .refreshing requests miss refresh
  | .done (.ok ()) => .retrying requests
  | .done (.error (.err _)) => .returned requests (.error (.lookup miss))
  | .done (.error .panic) => .crashed

/-- After one step of the refresh of the cache loop. Errors are logged only. -/
def afterBackground : Progress Refresh (Call VaultError Unit) → CacheLoop
  | .running refresh => .refreshing refresh
  | .done (.error .panic) => .crashed
  | .done _ => .waiting

/-- One step of the token loop. -/
def tokenLoopStep (now : Nat) (session : Session) : TokenLoop → Signal → Option (Session × TokenLoop)
  | .planning, .proceed =>
    some (session, .sleeping (now + (session.tokenExpiresAt - 60 * secondNs - now)))
  | .sleeping wakeAt, .proceed =>
    if wakeAt ≤ now then some (session, .renewing .checking) else none
  | .sleeping _, .stop => some (session, .stopped)
  | .renewing renewal, signal =>
    match renewalStep client now session renewal signal with
    | none => none
    | some (session, .running renewal) => some (session, .renewing renewal)
    | some (session, .done (.ok ())) => some (session, .planning)
    | some (session, .done (.error (.err _))) => some (session, .backingOff (now + 30 * secondNs))
    | some (session, .done (.error .panic)) => some (session, .crashed)
  | .backingOff wakeAt, .proceed => if wakeAt ≤ now then some (session, .planning) else none
  | .backingOff _, .stop => some (session, .stopped)
  | _, _ => none

end

/-! ## The system -/

/-- All tasks over one session; calls have identities of any type. -/
structure System (ι : Type) where
  now : Nat
  session : Session
  refreshLock : Option ι
  fetches : ι → Fetch
  cacheLoop : CacheLoop
  tokenLoop : TokenLoop

inductive Event (ι : Type) where
  | elapse (duration : Nat)
  | arrive (id : ι) (requests : List SecretRequest)
  | fetch (id : ι) (signal : Signal)
  | cacheLoop (signal : Signal)
  | tokenLoop (signal : Signal)

section
variable {RsaPrivateKey : Type} (client : Client RsaPrivateKey) {ι : Type} [DecidableEq ι]

def System.withFetch (system : System ι) (id : ι) (fetch : Fetch) : System ι :=
  { system with fetches := Function.update system.fetches id fetch }

@[simp] theorem with_fetch_self (system : System ι) (id : ι) (fetch : Fetch) :
    (system.withFetch id fetch).fetches id = fetch := by
  simp [System.withFetch]

@[simp] theorem with_fetch_other (system : System ι) (id other : ι) (fetch : Fetch)
    (distinct : other ≠ id) : (system.withFetch id fetch).fetches other = system.fetches other := by
  simp [System.withFetch, distinct]

@[simp] theorem with_fetch_session (system : System ι) (id : ι) (fetch : Fetch) :
    (system.withFetch id fetch).session = system.session := rfl

@[simp] theorem with_fetch_cache_loop (system : System ι) (id : ι) (fetch : Fetch) :
    (system.withFetch id fetch).cacheLoop = system.cacheLoop := rfl

/-- The lock after a step of the refresh of a call: held while it runs. -/
def lockAfter (id : ι) : Progress Refresh (Call VaultError Unit) → Option ι
  | .running _ => some id
  | .done _ => none

/-- One step of a call. -/
def fetchStep (system : System ι) (id : ι) (signal : Signal) : Option (System ι) :=
  match system.fetches id, signal with
  | .looking requests, .proceed =>
    some (system.withFetch id
      (afterFirstLookup requests (tryFetchSecrets client system.session.vault requests)))
  | .queued requests miss, .proceed =>
    if system.refreshLock = none then
      some { system.withFetch id (.checking requests miss) with refreshLock := some id }
    else none
  | .checking requests miss, .proceed =>
    if system.now - system.session.lastRefreshAt < client.minRefreshInterval then
      some { system.withFetch id (.returned requests (.error (.lookup miss))) with
        refreshLock := none }
    else some (system.withFetch id (.refreshing requests miss (.ensuring .checking)))
  | .refreshing requests miss refresh, signal =>
    (refreshStep client system.now system.session refresh signal).map (fun (session, progress) =>
      { system.withFetch id (afterOnDemand requests miss progress) with
        session, refreshLock := lockAfter id progress })
  | .retrying requests, .proceed =>
    some (system.withFetch id
      (settled requests (tryFetchSecrets client system.session.vault requests)))
  | _, _ => none

/-- One step of the cache loop; its ticker may fire at any time. -/
def cacheLoopStep (system : System ι) (signal : Signal) : Option (System ι) :=
  match system.cacheLoop, signal with
  | .waiting, .proceed => some { system with cacheLoop := .refreshing (.ensuring .checking) }
  | .waiting, .stop => some { system with cacheLoop := .stopped }
  | .refreshing refresh, signal =>
    (refreshStep client system.now system.session refresh signal).map (fun (session, progress) =>
      { system with session, cacheLoop := afterBackground progress })
  | _, _ => none

/-- One step of the system. -/
def step : Step (System ι) (Event ι) := fun system event =>
  match event with
  | .elapse duration => some { system with now := system.now + duration }
  | .arrive id requests =>
    match system.fetches id with
    | .idle => some (system.withFetch id (.looking requests))
    | _ => none
  | .fetch id signal => fetchStep client system id signal
  | .cacheLoop signal => cacheLoopStep client system signal
  | .tokenLoop signal =>
    (tokenLoopStep client system.now system.session system.tokenLoop signal).map
      (fun (session, tokenLoop) => { system with session, tokenLoop })

end

/-- The client as `VaultClient::new` returns it, in any session with a cache: no
call has been made and both loops are about to start. -/
structure Initial {ι : Type} (system : System ι) : Prop where
  cached : ∃ cache, system.session.vault = some cache
  past : system.session.lastRefreshAt ≤ system.now
  unlocked : system.refreshLock = none
  idle : ∀ id, system.fetches id = .idle
  waiting : system.cacheLoop = .waiting
  planning : system.tokenLoop = .planning

/-! ## Creation -/

/-- `VaultClient::new`: a login, and the first refresh of a session without a cache. -/
inductive Creation where
  | authenticating
  | authenticated (login : Login)
  | syncing (session : Session) (refresh : Refresh)
  | returned (result : Except VaultError Session)
  | crashed

inductive CreationEvent where
  | elapse (duration : Nat)
  | signal (signal : Signal)

/-- The creation after one step of its refresh. -/
def afterFirstRefresh (session : Session) :
    Progress Refresh (Call VaultError Unit) → Creation
  | .running refresh => .syncing session refresh
  | .done (.ok ()) => .returned (.ok session)
  | .done (.error (.err error)) => .returned (.error error)
  | .done (.error .panic) => .crashed

/-- One step of a creation. -/
def creationStep {RsaPrivateKey : Type} (client : Client RsaPrivateKey) (now : Nat) :
    Creation → Signal → Option Creation
  | .authenticating, .login answers =>
    match authenticate client.crypto client.unicode client.email client.password answers with
    | .ok login => some (.authenticated login)
    | .error (.err error) => some (.returned (.error (.auth error)))
    | .error .panic => some .crashed
  | .authenticated login, .proceed =>
    match instantAfter now login.expiresIn with
    | none => some .crashed
    | some tokenExpiresAt =>
      some (.syncing
        { accessToken := login.accessToken
          refreshToken := login.refreshToken
          tokenExpiresAt
          symKey := login.symKey
          vault := none
          lastRefreshAt := now } (.ensuring .checking))
  | .syncing session refresh, signal =>
    (refreshStep client now session refresh signal).map (fun (session, progress) =>
      afterFirstRefresh session progress)
  | _, _ => none

/-- A creation in time. -/
def create {RsaPrivateKey : Type} (client : Client RsaPrivateKey) :
    Step (Nat × Creation) CreationEvent := fun (now, creation) event =>
  match event with
  | .elapse duration => some (now + duration, creation)
  | .signal signal => (creationStep client now creation signal).map (fun next => (now, next))

/-- The system around a session: no call has been made and both loops are about to
start. -/
def System.around (ι : Type) (now : Nat) (session : Session) : System ι where
  now := now
  session := session
  refreshLock := none
  fetches := fun _ => .idle
  cacheLoop := .waiting
  tokenLoop := .planning

/-! ## A sample system -/

/-- A client of the sample account with the default cooldown of thirty seconds. -/
def sampleClient : Client Unit where
  crypto := samplePrimitives
  unicode := asciiTables
  values := fun _ => []
  email := "ops@example.org"
  password := "secret"
  minRefreshInterval := 30 * secondNs

/-- A system a minute after its last refresh, with an empty cache and a token that
is valid for an hour. -/
def sampleSystem (ι : Type) : System ι where
  now := 60 * secondNs
  session :=
    { accessToken := "at"
      refreshToken := "rt"
      tokenExpiresAt := 3660 * secondNs
      symKey := sampleKey
      vault := some ⟨[], ∅⟩
      lastRefreshAt := 0 }
  refreshLock := none
  fetches := fun _ => .idle
  cacheLoop := .waiting
  tokenLoop := .planning

theorem sample_initial (ι : Type) : Initial (sampleSystem ι) :=
  ⟨⟨_, rfl⟩, Nat.zero_le _, rfl, fun _ => rfl, rfl, rfl⟩

/-- A call that looks up one missing item, up to the request for `/api/sync` of
its on-demand refresh. -/
def missedLookup (id : Bool) : List (Event Bool) :=
  [.arrive id [⟨"db", none⟩], .fetch id .proceed, .fetch id .proceed, .fetch id .proceed,
    .fetch id .proceed, .fetch id .proceed, .fetch id .proceed]

end VaultwardenOperator.VaultClient

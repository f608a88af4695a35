import VaultwardenOperator.DataFlow
import VaultwardenOperator.LoginRequests
import VaultwardenOperator.OneSnapshot

/-!
# Requests carry what the server issued

The client makes five requests of Vaultwarden: the three of a login, the refresh grant and
the sync. Over any run the two tokens are never mixed up and never made up: a grant carries a
refresh token and a sync an access token, each from an answer of the server to an earlier
request of the same client. The password is in the hash of a token request at most.
-/

namespace VaultwardenOperator.IssuedTokens

open Rust Crypto Sync Auth Machine VaultClient ClientSteps Reconciler DataFlow LoginRequests
open OneSnapshot (sampleCreation created_then)

section
variable {RsaPrivateKey : Type} (client : Client RsaPrivateKey)
variable (pbkdf2Hmac : List UInt8 → List UInt8 → Nat → List UInt8)

/-! ## Requests of the tasks -/

/-- The constant part of the client that only its requests use. -/
structure Connection where
  baseUrl : String
  clientId : Option String
  clientSecret : Option String
  deviceId : String

variable (connection : Connection)

def credentials : Credentials where
  baseUrl := connection.baseUrl
  email := client.email
  password := client.password
  clientId := connection.clientId
  clientSecret := connection.clientSecret
  deviceId := connection.deviceId

/-- The request of `refresh_token`. -/
def grantRequest (credentials : Credentials) (refreshTok : String) : HttpRequest :=
  let baseUrl := credentials.baseUrl
  .post s!"{baseUrl}/identity/connect/token"
    (.form [("grant_type", "refresh_token"), ("refresh_token", refreshTok), ("client_id", "web")])

/-- The request of `fetch_sync`, which is that of `fetch_profile_key`. -/
def syncRequest (credentials : Credentials) (accessToken : String) : HttpRequest :=
  profileRequest credentials accessToken

/-- The requests to which a signal is the answer. -/
def renewalRequests : Renewal → Signal → List HttpRequest
  | .granting refreshTok, .token _ =>
    if refreshTok = "" then [] else [grantRequest (credentials client connection) refreshTok]
  | .authenticating, .login answers =>
    requestsMade client.crypto client.unicode pbkdf2Hmac (credentials client connection) answers
  | _, _ => []

def refreshRequests : Refresh → Signal → List HttpRequest
  | .ensuring renewal, signal | .renewing _ renewal, signal =>
    renewalRequests client pbkdf2Hmac connection renewal signal
  | .syncing accessToken _, .sync _ | .resyncing accessToken _, .sync _ =>
    [syncRequest (credentials client connection) accessToken]
  | _, _ => []

def creationRequests : Creation → Signal → List HttpRequest
  | .authenticating, .login answers =>
    requestsMade client.crypto client.unicode pbkdf2Hmac (credentials client connection) answers
  | .syncing _ refresh, signal => refreshRequests client pbkdf2Hmac connection refresh signal
  | _, _ => []

/-- The requests of a task of the client. -/
def taskRequests {ι : Type} (system : System ι) : VaultClient.Event ι → List HttpRequest
  | .fetch id signal =>
    (refreshOf system (.onDemand id)).elim [] (refreshRequests client pbkdf2Hmac connection · signal)
  | .cacheLoop signal =>
    (refreshOf system .background).elim [] (refreshRequests client pbkdf2Hmac connection · signal)
  | .tokenLoop signal =>
    match system.tokenLoop with
    | .renewing renewal => renewalRequests client pbkdf2Hmac connection renewal signal
    | _ => []
  | .elapse _ | .arrive _ _ => []

/-! ## What the server has said -/

def signalOf {ι : Type} : Reconciler.Event ι → Option Signal
  | .client (.fetch _ signal) | .client (.cacheLoop signal) | .client (.tokenLoop signal) =>
    some signal
  | _ => none

/-- The token response to a login that comes to its token request. -/
def loginIssues (answers : LoginAnswers) : Option TokenResponse :=
  match answers.prelogin.result with
  | .error _ => none
  | .ok pre =>
    match announcedKey client.crypto client.unicode (credentials client connection) pre with
    | .error _ => none
    | .ok _ => answers.token.result.toOption

/-- The token response that answers a request of the renewal. -/
def renewalIssues : Renewal → Signal → Option TokenResponse
  | .granting refreshTok, .token answer =>
    if refreshTok = "" then none else answer.result.toOption
  | .authenticating, .login answers => loginIssues client connection answers
  | _, _ => none

def refreshIssues : Refresh → Signal → Option TokenResponse
  | .ensuring renewal, signal | .renewing _ renewal, signal =>
    renewalIssues client connection renewal signal
  | _, _ => none

def creationIssues : Creation → Signal → Option TokenResponse
  | .authenticating, .login answers => loginIssues client connection answers
  | .syncing _ refresh, signal => refreshIssues client connection refresh signal
  | _, _ => none

/-- The token response that answers a request of a task of the client. -/
def taskIssues {ι : Type} (system : System ι) : VaultClient.Event ι → Option TokenResponse
  | .fetch id signal =>
    (refreshOf system (.onDemand id)).bind (refreshIssues client connection · signal)
  | .cacheLoop signal =>
    (refreshOf system .background).bind (refreshIssues client connection · signal)
  | .tokenLoop signal =>
    match system.tokenLoop with
    | .renewing renewal => renewalIssues client connection renewal signal
    | _ => none
  | .elapse _ | .arrive _ _ => none

/-- The token responses so far, after a step of a creation. -/
def recordCreation (tokens : List TokenResponse) (state : Nat × Creation) (event : CreationEvent)
    (_ : Nat × Creation) : List TokenResponse :=
  match event with
  | .signal signal => (creationIssues client connection state.2 signal).toList ++ tokens
  | .elapse _ => tokens

def record {ι : Type} (tokens : List TokenResponse) (operator : Operator ι)
    (event : Reconciler.Event ι) (_ : Operator ι) : List TokenResponse :=
  match event with
  | .client own => (taskIssues client connection operator.client own).toList ++ tokens
  | _ => tokens

/-- What is issued answers a request for a token. -/
theorem issued_requested (renewal : Renewal) (signal : Signal) (token : TokenResponse)
    (issued : renewalIssues client connection renewal signal = some token) :
    ∃ form, HttpRequest.post (connection.baseUrl ++ "/identity/connect/token") (.form form) ∈
      renewalRequests client pbkdf2Hmac connection renewal signal := by
  unfold renewalIssues at issued
  split at issued
  case h_1 refreshTok answer =>
    split_ifs at issued with vacant
    exact ⟨_, by rw [renewalRequests, if_neg vacant]; exact List.mem_singleton_self _⟩
  case h_2 answers =>
    unfold loginIssues at issued
    split at issued
    · cases issued
    · rename_i pre prelogin
      split at issued
      · cases issued
      · rename_i masterKey derived
        have made : tokenRequest pbkdf2Hmac (credentials client connection) masterKey ∈
            renewalRequests client pbkdf2Hmac connection .authenticating (.login answers) := by
          simp only [renewalRequests, requestsMade, prelogin, derived]
          exact List.mem_cons_of_mem _ List.mem_cons_self
        unfold tokenRequest at made
        split at made
        · exact ⟨_, made⟩
        · exact ⟨_, made⟩
  case h_3 => cases issued

variable (tokens : List TokenResponse)

/-- One of the token responses has the access token. -/
def AccessIssued (accessToken : String) : Prop :=
  ∃ token ∈ tokens, token.accessToken = accessToken

def RefreshIssued (refreshTok : String) : Prop :=
  ∃ token ∈ tokens, token.refreshToken = refreshTok

/-- The requests that the client may make: those of a login with the answers so far to that
login, and those with a token that was issued before. -/
inductive Proper (signal : Signal) : HttpRequest → Prop
  | prelogin (answers : LoginAnswers) (own : signal = .login answers) :
      Proper signal (preloginRequest (credentials client connection))
  | token (answers : LoginAnswers) (own : signal = .login answers) (pre : PreloginResponse)
      (announced : answers.prelogin.result = .ok pre) (masterKey : List UInt8)
      (derived : announcedKey client.crypto client.unicode (credentials client connection) pre =
        .ok masterKey) :
      Proper signal (tokenRequest pbkdf2Hmac (credentials client connection) masterKey)
  | profile (answers : LoginAnswers) (own : signal = .login answers) (token : TokenResponse)
      (granted : loginIssues client connection answers = some token) (keyless : token.key = "") :
      Proper signal (profileRequest (credentials client connection) token.accessToken)
  | grant (refreshTok : String) (nonempty : refreshTok ≠ "")
      (issued : RefreshIssued tokens refreshTok) :
      Proper signal (grantRequest (credentials client connection) refreshTok)
  | sync (accessToken : String) (issued : AccessIssued tokens accessToken) :
      Proper signal (syncRequest (credentials client connection) accessToken)

/-! ## Tokens that were issued -/

/-- The tokens are those that were issued; nothing is asked of keys, answers and caches. -/
def issuedPolicy : Policy where
  access := AccessIssued tokens
  refresh := RefreshIssued tokens
  key := fun _ => True
  response := fun _ => True
  cache := fun _ _ => True

theorem issued_opens : Opens client (issuedPolicy tokens) :=
  fun _ _ _ _ _ _ _ _ => trivial

theorem granted_token (refreshTok : String) (answer : Answer TokenResponse) (grant : Grant)
    (granted : refreshToken refreshTok answer = .ok grant) :
    ∃ token, renewalIssues client connection (.granting refreshTok) (.token answer) = some token ∧
      grant.accessToken = token.accessToken ∧
      ∀ rotated, grant.refreshToken = some rotated → token.refreshToken = rotated := by
  unfold refreshToken at granted
  split_ifs at granted with vacant
  cases answered : answer.result with
  | error error =>
    rw [answered] at granted
    cases granted
  | ok token =>
    rw [answered] at granted
    cases granted
    refine ⟨token, by rw [renewalIssues, if_neg vacant, answered]; rfl, rfl, ?_⟩
    intro rotated present
    simp only at present
    split_ifs at present
    cases present
    rfl

theorem authenticated_token (answers : LoginAnswers) (login : Login)
    (authenticated : authenticate client.crypto client.unicode client.email client.password answers =
      .ok login) :
    ∃ token, loginIssues client connection answers = some token ∧
      login.accessToken = token.accessToken ∧ login.refreshToken = token.refreshToken := by
  simp only [authenticate, bind_ok_iff, returned_ok_iff] at authenticated
  obtain ⟨pre, prelogin, masterKey, mapped, token, granted, encKey, -, symKey, -, built⟩ :=
    authenticated
  cases built
  refine ⟨token, ?_, rfl, rfl⟩
  cases derived : announcedKey client.crypto client.unicode (credentials client connection) pre with
  | error error =>
    unfold announcedKey at derived
    simp only [credentials] at derived
    rw [derived] at mapped
    cases mapped
  | ok key => simp only [loginIssues, prelogin, derived, granted, Except.toOption]

/-- Of a renewal that is given what was issued the tokens are issued. -/
theorem renewal_received (renewal : Renewal) (signal : Signal)
    (issued : ∀ token, renewalIssues client connection renewal signal = some token →
      token ∈ tokens) :
    RenewalReceives client (issuedPolicy tokens) renewal signal := by
  unfold RenewalReceives
  split
  · intro grant granted
    obtain ⟨token, issues, access, rotated⟩ :=
      granted_token client connection _ _ grant granted
    exact ⟨⟨token, issued token issues, access.symm⟩,
      fun own present => ⟨token, issued token issues, rotated own present⟩⟩
  · intro login authenticated
    obtain ⟨token, issues, access, refresh⟩ :=
      authenticated_token client connection _ login authenticated
    exact ⟨⟨token, issued token issues, access.symm⟩, ⟨token, issued token issues, refresh.symm⟩,
      trivial⟩
  · trivial

theorem refresh_received (refresh : Refresh) (signal : Signal)
    (issued : ∀ token, refreshIssues client connection refresh signal = some token →
      token ∈ tokens) :
    RefreshReceives client (issuedPolicy tokens) refresh signal := by
  unfold RefreshReceives
  split
  · exact renewal_received client connection tokens _ _ issued
  · exact renewal_received client connection tokens _ _ issued
  · exact fun _ _ => trivial
  · exact fun _ _ => trivial
  · trivial

theorem creation_received (creation : Creation) (signal : Signal)
    (issued : ∀ token, creationIssues client connection creation signal = some token →
      token ∈ tokens) :
    CreationReceives client (issuedPolicy tokens) creation signal := by
  unfold CreationReceives
  split
  · exact renewal_received client connection tokens .authenticating (.login _) issued
  · exact refresh_received client connection tokens _ _ issued
  · trivial

theorem task_received {ι : Type} (system : System ι) (event : VaultClient.Event ι)
    (issued : ∀ token, taskIssues client connection system event = some token → token ∈ tokens) :
    Receives client (issuedPolicy tokens) system event := by
  cases event with
  | fetch id signal | cacheLoop signal =>
    intro refresh inside
    refine refresh_received client connection tokens refresh signal (fun token issues => ?_)
    exact issued token (by rw [taskIssues, inside]; exact issues)
  | tokenLoop signal =>
    intro renewal renewing
    refine renewal_received client connection tokens renewal signal (fun token issues => ?_)
    exact issued token (by simp only [taskIssues, renewing]; exact issues)
  | _ => trivial

/-! ## Runs -/

section
variable (more : List TokenResponse) (added : ∀ token ∈ tokens, token ∈ more)
include added

theorem access_later (accessToken : String) (issued : AccessIssued tokens accessToken) :
    AccessIssued more accessToken := by
  obtain ⟨token, member, same⟩ := issued
  exact ⟨token, added token member, same⟩

theorem refresh_later (refreshTok : String) (issued : RefreshIssued tokens refreshTok) :
    RefreshIssued more refreshTok := by
  obtain ⟨token, member, same⟩ := issued
  exact ⟨token, added token member, same⟩

/-- What was issued stays issued when more is. -/
theorem system_later {ι : Type} (system : System ι)
    (fits : SystemFits (issuedPolicy tokens) system) : SystemFits (issuedPolicy more) system :=
  system_widens _ _ (access_later tokens more added) (refresh_later tokens more added)
    (fun _ _ => trivial) (fun _ _ => trivial) (fun _ _ _ => trivial) system fits

theorem creation_later (state : Nat × Creation) (fits : CreationFits (issuedPolicy tokens) state) :
    CreationFits (issuedPolicy more) state := by
  have access := access_later tokens more added
  have refresh := refresh_later tokens more added
  obtain ⟨now, creation⟩ := state
  cases creation with
  | authenticated login => exact ⟨access _ fits.access, refresh _ fits.refresh, trivial⟩
  | syncing session inside =>
    exact ⟨session_widens _ _ access refresh (fun _ _ => trivial) (fun _ _ _ => trivial) session
      fits.1, any_refresh_widens _ _ access refresh (fun _ _ => trivial) (fun _ _ => trivial) inside
      fits.2⟩
  | returned result =>
    cases result with
    | ok session =>
      exact session_widens _ _ access refresh (fun _ _ => trivial) (fun _ _ _ => trivial) session
        fits
    | error error => trivial
  | _ => trivial

end

/-- In every state of a creation the tokens are issued. -/
theorem creation_issued (start : Nat) (state : Nat × Creation) (events : List CreationEvent)
    (ran : run (observed (create client) (recordCreation client connection))
      ((start, .authenticating), []) events = some (state, tokens)) :
    CreationFits (issuedPolicy tokens) state := by
  have initially : CreationFits (issuedPolicy []) (start, .authenticating) := trivial
  refine run_invariant (observed (create client) (recordCreation client connection))
    (fun pair => CreationFits (issuedPolicy pair.2) pair.1) ?_ _ _ events initially ran
  rintro ⟨before, earlier⟩ event ⟨after, later⟩ fits taken
  obtain ⟨moved, written⟩ := observed_step _ _ _ _ event taken
  dsimp only at moved written
  subst written
  cases event with
  | elapse duration =>
    exact create_fits client _ (issued_opens client _) before after _ fits (by rintro _ ⟨⟩) moved
  | signal signal =>
    have grown := creation_later earlier (recordCreation client connection earlier before
      (.signal signal) after) (fun token member => List.mem_append_right _ member) before fits
    refine create_fits client _ (issued_opens client _) before after _ grown ?_ moved
    rintro _ ⟨⟩
    refine creation_received client connection _ before.2 signal (fun token issues => ?_)
    exact List.mem_append_left _ (by rw [issues]; exact List.mem_singleton_self token)

/-- So are they in every state of the operator. -/
theorem run_issued {ι : Type} [DecidableEq ι] (operator last : Operator ι)
    (before after : List TokenResponse) (events : List (Reconciler.Event ι))
    (initially : SystemFits (issuedPolicy before) operator.client)
    (ran : run (observed (Reconciler.step client) (record client connection))
      (operator, before) events = some (last, after)) :
    SystemFits (issuedPolicy after) last.client := by
  refine run_invariant (observed (Reconciler.step client) (record client connection))
    (fun pair => SystemFits (issuedPolicy pair.2) pair.1.client) ?_ _ _ events initially ran
  rintro ⟨state, earlier⟩ event ⟨next, later⟩ fits taken
  obtain ⟨moved, written⟩ := observed_step _ _ _ _ event taken
  dsimp only at moved written
  subst written
  cases event with
  | client own =>
    have grown := system_later earlier (record client connection earlier state (.client own) next)
      (fun token member => List.mem_append_right _ member) state.client fits
    refine operator_fits client _ (issued_opens client _) state next _ grown ?_ moved
    rintro _ ⟨⟩
    refine task_received client connection _ state.client own (fun token issues => ?_)
    exact List.mem_append_left _ (by rw [issues]; exact List.mem_singleton_self token)
  | _ =>
    exact operator_fits client _ (issued_opens client _) state next _ fits (by rintro _ ⟨⟩) moved

/-! ## Requests with issued tokens -/

theorem login_proper (answers : LoginAnswers) (request : HttpRequest)
    (made : request ∈ requestsMade client.crypto client.unicode pbkdf2Hmac
      (credentials client connection) answers) :
    Proper client pbkdf2Hmac connection tokens (.login answers) request := by
  unfold requestsMade at made
  rcases List.mem_cons.mp made with rfl | made
  · exact .prelogin answers rfl
  · cases prelogin : answers.prelogin.result with
    | error error => simp only [prelogin, List.not_mem_nil] at made
    | ok pre =>
      simp only [prelogin] at made
      cases derived : announcedKey client.crypto client.unicode (credentials client connection)
          pre with
      | error error => simp only [derived, List.not_mem_nil] at made
      | ok masterKey =>
        simp only [derived] at made
        rcases List.mem_cons.mp made with rfl | made
        · exact .token answers rfl pre prelogin masterKey derived
        · cases granted : answers.token.result with
          | error error => simp only [granted, List.not_mem_nil] at made
          | ok token =>
            have issues : loginIssues client connection answers = some token := by
              simp only [loginIssues, prelogin, derived, granted, Except.toOption]
            simp only [granted] at made
            split_ifs at made with keyless
            · rw [List.mem_singleton.mp made]
              exact .profile answers rfl token issues keyless
            · cases made

theorem renewal_proper (renewal : Renewal) (signal : Signal) (request : HttpRequest)
    (fits : RenewalFits (issuedPolicy tokens) renewal)
    (made : request ∈ renewalRequests client pbkdf2Hmac connection renewal signal) :
    Proper client pbkdf2Hmac connection tokens signal request := by
  unfold renewalRequests at made
  split at made
  case h_1 refreshTok answer =>
    split_ifs at made with vacant
    · cases made
    · rw [List.mem_singleton.mp made]
      exact .grant refreshTok vacant fits
  case h_2 answers =>
    exact login_proper client pbkdf2Hmac connection tokens answers request made
  case h_3 => cases made

theorem refresh_proper (refresh : Refresh) (signal : Signal) (request : HttpRequest)
    (fits : RefreshFits (issuedPolicy tokens) refresh)
    (made : request ∈ refreshRequests client pbkdf2Hmac connection refresh signal) :
    Proper client pbkdf2Hmac connection tokens signal request := by
  unfold refreshRequests at made
  split at made
  case h_1 renewal =>
    exact renewal_proper client pbkdf2Hmac connection tokens renewal signal request fits made
  case h_2 symKey renewal =>
    exact renewal_proper client pbkdf2Hmac connection tokens renewal signal request fits.2 made
  case h_3 accessToken symKey answer =>
    rw [List.mem_singleton.mp made]
    exact .sync accessToken fits.1
  case h_4 accessToken symKey answer =>
    rw [List.mem_singleton.mp made]
    exact .sync accessToken fits.1
  case h_5 => cases made

theorem creation_proper (now : Nat) (creation : Creation) (signal : Signal) (request : HttpRequest)
    (fits : CreationFits (issuedPolicy tokens) (now, creation))
    (made : request ∈ creationRequests client pbkdf2Hmac connection creation signal) :
    Proper client pbkdf2Hmac connection tokens signal request := by
  unfold creationRequests at made
  split at made
  case h_1 answers =>
    exact login_proper client pbkdf2Hmac connection tokens answers request made
  case h_2 session refresh =>
    exact refresh_proper client pbkdf2Hmac connection tokens refresh signal request fits.2 made
  case h_3 => cases made

theorem task_proper {ι : Type} (system : System ι) (event : VaultClient.Event ι)
    (request : HttpRequest) (fits : SystemFits (issuedPolicy tokens) system)
    (made : request ∈ taskRequests client pbkdf2Hmac connection system event) :
    ∃ signal, signalOf (.client event) = some signal ∧
      Proper client pbkdf2Hmac connection tokens signal request := by
  have refreshing : ∀ task signal,
      request ∈ (refreshOf system task).elim []
        (refreshRequests client pbkdf2Hmac connection · signal) →
      Proper client pbkdf2Hmac connection tokens signal request := by
    intro task signal made
    cases inside : refreshOf system task with
    | none =>
      rw [inside] at made
      cases made
    | some refresh =>
      rw [inside] at made
      exact refresh_proper client pbkdf2Hmac connection tokens refresh signal request
        (fits.refreshes task refresh inside) made
  cases event with
  | fetch id signal => exact ⟨signal, rfl, refreshing (.onDemand id) signal made⟩
  | cacheLoop signal => exact ⟨signal, rfl, refreshing .background signal made⟩
  | tokenLoop signal =>
    refine ⟨signal, rfl, ?_⟩
    cases renewing : system.tokenLoop with
    | renewing renewal =>
      simp only [taskRequests, renewing] at made
      exact renewal_proper client pbkdf2Hmac connection tokens renewal signal request
        (fits.tokenLoop renewal renewing) made
    | _ => simp only [taskRequests, renewing, List.not_mem_nil] at made
  | elapse duration => cases made
  | arrive id requests => cases made

/-! ## Requests of a run -/

omit tokens in
/-- Requests carry what the server issued. Run a creation against any answers, and over the
session that it returns any number of reconciles, refreshes and renewals in any order, with
whatever answers. Every request on the way is proper over the token responses before it, each
of which answered a request for a token: it is one of a login with the configured account,
of which only the token request depends on the password, through its hash under parameters
that the server announced; or a grant with a nonempty refresh token, or a sync with an access
token, that the server has issued to the client before. -/
theorem requests_issued {ι : Type} [DecidableEq ι] :
    (∀ start now creation before tokens signal request,
      run (observed (create client) (recordCreation client connection))
          ((start, .authenticating), []) before = some ((now, creation), tokens) →
      request ∈ creationRequests client pbkdf2Hmac connection creation signal →
      Proper client pbkdf2Hmac connection tokens signal request) ∧
    ∀ start now session creation issued (before : List (Reconciler.Event ι))
        (middle : Operator ι) tokens event request,
      run (observed (create client) (recordCreation client connection))
          ((start, .authenticating), []) creation = some ((now, .returned (.ok session)), issued) →
      run (observed (Reconciler.step client) (record client connection))
          (Operator.around ι now session, issued) before = some (middle, tokens) →
      request ∈ taskRequests client pbkdf2Hmac connection middle.client event →
      ∃ signal, signalOf (.client event) = some signal ∧
        Proper client pbkdf2Hmac connection tokens signal request := by
  constructor
  · intro start now creation before tokens signal request ran made
    exact creation_proper client pbkdf2Hmac connection tokens now creation signal request
      (creation_issued client connection tokens start (now, creation) before ran) made
  · intro start now session creation issued before middle tokens event request created ran made
    have sessionFits : SessionFits (issuedPolicy issued) session :=
      creation_issued client connection issued start (now, .returned (.ok session)) creation created
    have fits := run_issued client connection _ middle issued tokens before
      (around_session_fits _ now session sessionFits) ran
    exact task_proper client pbkdf2Hmac connection tokens middle.client event request fits made

end

/-! ## A refresh that is refused -/

def sampleConnection : Connection where
  baseUrl := "https://vault"
  clientId := none
  clientSecret := none
  deviceId := "d1"

/-- The cache loop, up to a grant after a sync that was refused. -/
def refusedSync : List (Reconciler.Event Bool) :=
  [.client (.cacheLoop .proceed), .client (.cacheLoop .proceed), .client (.cacheLoop .proceed),
    .client (.cacheLoop .proceed), .client (.cacheLoop (.sync (.server 401 ""))),
    .client (.cacheLoop .proceed)]

theorem refused_sync_grants {RsaPrivateKey : Type} (client : Client RsaPrivateKey)
    (operator : Operator Bool) (waiting : operator.client.cacheLoop = .waiting)
    (valid : operator.client.now + 60 * secondNs < operator.client.session.tokenExpiresAt) :
    run (Reconciler.step client) operator refusedSync =
      some { operator with client := { operator.client with
        cacheLoop := .refreshing (.renewing operator.client.session.symKey
          (.granting operator.client.session.refreshToken)) } } := by
  have lasting : ¬ operator.client.now + 60 * secondNs ≥ operator.client.session.tokenExpiresAt :=
    Nat.not_le_of_lt valid
  simp only [refusedSync, run, Reconciler.step, clientStep, isCall, VaultClient.step,
    cacheLoopStep, waiting, refreshStep, renewalStep, lasting, if_false, if_true, Bool.false_eq_true,
    Option.map_some, Option.bind_some, aroundRenewal, afterBackground, fetchSync]

/-- The grant carries the refresh token of the login. -/
theorem requests_issued_sample :
    ∃ now session issued middle tokens,
      run (observed (create sampleClient) (recordCreation sampleClient sampleConnection))
          ((0, .authenticating), []) sampleCreation =
        some ((now, .returned (.ok session)), issued) ∧
      run (observed (Reconciler.step sampleClient) (record sampleClient sampleConnection))
          (Operator.around Bool now session, issued) refusedSync = some (middle, tokens) ∧
      ∃ signal, signalOf (.client (.cacheLoop (.token (.http ""))) : Reconciler.Event Bool) =
          some signal ∧
        Proper sampleClient (fun _ _ _ => []) sampleConnection tokens signal
          (grantRequest (credentials sampleClient sampleConnection) "new-rt") := by
  obtain ⟨now, session, created, same⟩ := created_then sampleClient (0, .authenticating)
    sampleCreation
    (fun now session =>
      some (decide (now + 60 * secondNs < session.tokenExpiresAt), session.refreshToken))
    (true, "new-rt") (by decide +kernel)
  obtain ⟨lasting, token⟩ := Prod.mk.inj (Option.some.inj same)
  obtain ⟨issued, creating⟩ :=
    observed_run _ (recordCreation sampleClient sampleConnection) _ _ [] sampleCreation created
  have granting := refused_sync_grants sampleClient (Operator.around Bool now session) rfl
    (of_decide_eq_true lasting)
  obtain ⟨tokens, operating⟩ :=
    observed_run _ (record sampleClient sampleConnection) _ _ issued refusedSync granting
  refine ⟨now, session, issued, _, tokens, creating, operating, ?_⟩
  refine (requests_issued sampleClient (fun _ _ _ => []) sampleConnection).2 0 now session
    sampleCreation issued refusedSync _ tokens (.cacheLoop (.token (.http ""))) _ creating
    operating ?_
  have nonempty : session.refreshToken ≠ "" := by
    rw [token]
    decide
  change _ ∈ if session.refreshToken = "" then []
    else [grantRequest (credentials sampleClient sampleConnection) session.refreshToken]
  rw [if_neg nonempty, token]
  exact List.mem_singleton_self _

end VaultwardenOperator.IssuedTokens

import VaultwardenOperator.Auth
import VaultwardenOperator.Base64
import VaultwardenOperator.Serde

/-!
# The requests of a login

A login as a conversation: each request may depend on the answers to the earlier ones,
and each answer may depend on all that the server has been told. A server is a function of
the requests so far, so that whatever it can find out is in its argument.

The model of the login takes its answers as given. The conversation is that model over the
answers of the server, and its requests are a function of those answers.
-/

namespace VaultwardenOperator.LoginRequests

open Rust Crypto Auth Json Serde

/-! ## Requests and responses -/

inductive Body where
  | none
  | json (value : Value)
  | form (params : List (String × String))

/-- The requests that the operator makes of Vaultwarden. -/
inductive HttpRequest where
  | get (url : String) (bearer : String)
  | post (url : String) (body : Body)

/-- A response: its status, and its text where the body can be read. -/
structure HttpResponse where
  status : UInt16
  text : Except String String

/-- A server, or the network before it: what follows on a list of requests. -/
abbrev Server := List HttpRequest → Except String HttpResponse

/-- A conversation that may end early, with the requests that have been made. -/
abbrev Conversation := ExceptT (Halt AuthError) (StateM (List HttpRequest))

/-! ## Decoders -/

def decodeUInt32 : Value → Option UInt32
  | .int value =>
      if 0 ≤ value ∧ value.toNat < UInt32.size then some (UInt32.ofNat value.toNat) else none
  | _ => none

def decodeUInt64 : Value → Option UInt64
  | .int value =>
      if 0 ≤ value ∧ value.toNat < UInt64.size then some (UInt64.ofNat value.toNat) else none
  | _ => none

def preloginNames : List String := ["kdf", "kdfIterations", "kdfMemory", "kdfParallelism"]

def decodePrelogin (value : Value) : Option PreloginResponse := do
  let slot ← slots preloginNames value
  let kdf ← required decodeUInt32 (slot "kdf")
  let kdfIterations ← required decodeUInt32 (slot "kdfIterations")
  let kdfMemory ← optional decodeUInt32 (slot "kdfMemory")
  let kdfParallelism ← optional decodeUInt32 (slot "kdfParallelism")
  pure { kdf, kdfIterations, kdfMemory, kdfParallelism }

def tokenNames : List String := ["access_token", "expires_in", "refresh_token", "Key"]

def decodeToken (value : Value) : Option TokenResponse := do
  let slot ← slots tokenNames value
  let accessToken ← required decodeStr (slot "access_token")
  let expiresIn ← required decodeUInt64 (slot "expires_in")
  let refreshToken ← defaulted "" decodeStr (slot "refresh_token")
  let key ← defaulted "" decodeStr (slot "Key")
  pure { accessToken, expiresIn, refreshToken, key }

def keyNames : List String := ["key"]

def decodeKey (value : Value) : Option String := do
  let slot ← slots keyNames value
  required decodeStr (slot "key")

def profileNames : List String := ["profile"]

/-- `ProfileKeyResponse`, of which only the key is read. -/
def decodeProfileKey (value : Value) : Option String := do
  let slot ← slots profileNames value
  required decodeKey (slot "profile")

/-! ## The login -/

/-- Who logs in, and where. Both parts of an API key are needed to use one. -/
structure Credentials where
  baseUrl : String
  email : String
  password : String
  clientId : Option String
  clientSecret : Option String
  deviceId : String

section
variable {RsaPrivateKey : Type} (crypto : Primitives RsaPrivateKey) (unicode : UnicodeTables)
variable (pbkdf2Hmac : List UInt8 → List UInt8 → Nat → List UInt8)
variable (parseJson : String → Option Value) (server : Server)

/-- `hash_password`, over PBKDF2-HMAC-SHA256 to 32 bytes. -/
def hashPassword (password : String) (masterKey : List UInt8) : String :=
  String.ofList (Base64.encode (pbkdf2Hmac masterKey password.toUTF8.toList 1))

/-- What a response is to the code that waits for it: the status is read first, the body of
an unsuccessful one only as a text. -/
def receive {α : Type} (decode : Value → Option α) : Except String HttpResponse → Answer α
  | .error message => .http message
  | .ok response =>
    if 200 ≤ response.status ∧ response.status < 300 then
      match response.text with
      | .error message => .http message
      | .ok text =>
        match (parseJson text).bind decode with
        | some value => .body value
        | none => .http "error decoding response body"
    else .server response.status (response.text.toOption.getD "")

/-- Make a request and wait for its response. -/
def send {α : Type} (decode : Value → Option α) (request : HttpRequest) :
    Conversation α := fun requests =>
  let made := requests ++ [request]
  (returned (receive parseJson decode (server made)).result, made)

/-- The part of a login that is computed from its last answer. -/
def compute {α : Type} (result : Call AuthError α) : Conversation α := fun requests =>
  (result, requests)

def preloginRequest (credentials : Credentials) : HttpRequest :=
  let baseUrl := credentials.baseUrl
  .post s!"{baseUrl}/identity/accounts/prelogin"
    (.json (.obj [("email", .str credentials.email)]))

/-- The request of `login_with_password`. -/
def passwordRequest (credentials : Credentials) (hashedPassword : String) : HttpRequest :=
  let baseUrl := credentials.baseUrl
  .post s!"{baseUrl}/identity/connect/token"
    (.form [("grant_type", "password"), ("username", credentials.email),
      ("password", hashedPassword), ("scope", "api offline_access"), ("client_id", "web"),
      ("deviceType", "14"), ("deviceIdentifier", credentials.deviceId),
      ("deviceName", "vaultwarden-operator")])

/-- The request of `login_with_api_key`. -/
def apiKeyRequest (credentials : Credentials) (clientId clientSecret : String) : HttpRequest :=
  let baseUrl := credentials.baseUrl
  .post s!"{baseUrl}/identity/connect/token"
    (.form [("grant_type", "client_credentials"), ("client_id", clientId),
      ("client_secret", clientSecret), ("scope", "api"), ("deviceType", "14"),
      ("deviceIdentifier", credentials.deviceId), ("deviceName", "vaultwarden-operator")])

/-- The request of `fetch_profile_key`. -/
def profileRequest (credentials : Credentials) (accessToken : String) : HttpRequest :=
  let baseUrl := credentials.baseUrl
  .get s!"{baseUrl}/api/sync" accessToken

/-- The token request of either grant. -/
def tokenRequest (credentials : Credentials) (masterKey : List UInt8) : HttpRequest :=
  match credentials.clientId, credentials.clientSecret with
  | some id, some secret => apiKeyRequest credentials id secret
  | _, _ => passwordRequest credentials (hashPassword pbkdf2Hmac credentials.password masterKey)

/-- The master key for the parameters that the server announces. -/
def announcedKey (credentials : Credentials) (pre : PreloginResponse) :
    Except CryptoError (List UInt8) :=
  makeMasterKey crypto unicode credentials.password credentials.email pre.kdf pre.kdfIterations
    pre.kdfMemory pre.kdfParallelism

/-- `fetch_profile_key`, which refuses an empty key. -/
def fetchProfileKey (credentials : Credentials) (accessToken : String) :
    Conversation String := do
  let key ← send parseJson server decodeProfileKey (profileRequest credentials accessToken)
  compute (if key = "" then .error (.err .emptyProfileKey) else .ok key)

/-- The encrypted key of the user, from the token response or the profile. -/
def encryptedKey (credentials : Credentials) (token : TokenResponse) : Conversation String :=
  if token.key = "" then fetchProfileKey parseJson server credentials token.accessToken
  else compute (.ok token.key)

/-- `authenticate`, as a conversation. -/
def login (credentials : Credentials) : Conversation Login := do
  let pre ← send parseJson server decodePrelogin (preloginRequest credentials)
  let masterKey ← compute (returned ((announcedKey crypto unicode credentials pre).mapError .crypto))
  let token ← send parseJson server decodeToken (tokenRequest pbkdf2Hmac credentials masterKey)
  let encKey ← encryptedKey parseJson server credentials token
  let symKey ← compute ((decryptSymmetricKey crypto encKey masterKey).mapError (Halt.map .crypto))
  pure ⟨token.accessToken, token.refreshToken, token.expiresIn, symKey⟩

/-! ## Conversations -/

theorem bind_ok {α β : Type} (first : Conversation α) (next : α → Conversation β) (value : α)
    (requests made : List HttpRequest) (goesOn : first requests = (.ok value, made)) :
    (first >>= next) requests = next value made := by
  simp only [bind, ExceptT.bind, ExceptT.mk, StateT.bind, goesOn]
  rfl

theorem bind_error {α β : Type} (first : Conversation α) (next : α → Conversation β)
    (halt : Halt AuthError) (requests made : List HttpRequest)
    (ends : first requests = (.error halt, made)) :
    (first >>= next) requests = (.error halt, made) := by
  simp only [bind, ExceptT.bind, ExceptT.mk, StateT.bind, ends]
  rfl

/-- What the server answers to a login, had all three requests been made. -/
def answersOf (credentials : Credentials) (requests : List HttpRequest) : LoginAnswers :=
  let first := requests ++ [preloginRequest credentials]
  let prelogin := receive parseJson decodePrelogin (server first)
  let masterKey := (prelogin.result.toOption.bind (fun pre =>
    (announcedKey crypto unicode credentials pre).toOption)).getD []
  let second := first ++ [tokenRequest pbkdf2Hmac credentials masterKey]
  let token := receive parseJson decodeToken (server second)
  let accessToken := (token.result.toOption.map TokenResponse.accessToken).getD ""
  let third := second ++ [profileRequest credentials accessToken]
  { prelogin, token, profileKey := receive parseJson decodeProfileKey (server third) }

/-- The requests of a login that is answered so: each is made only when the one before it was
answered well, and the last one only when the token response has no key. -/
def requestsMade (credentials : Credentials) (answers : LoginAnswers) : List HttpRequest :=
  preloginRequest credentials ::
    match answers.prelogin.result with
    | .error _ => []
    | .ok pre =>
      match announcedKey crypto unicode credentials pre with
      | .error _ => []
      | .ok masterKey =>
        tokenRequest pbkdf2Hmac credentials masterKey ::
          match answers.token.result with
          | .error _ => []
          | .ok token =>
            if token.key = "" then [profileRequest credentials token.accessToken] else []

/-- The last steps of a login, which make no request. -/
def finishLogin (masterKey : List UInt8) (token : TokenResponse) (encKey : String) :
    Call AuthError Login := do
  let symKey ← (decryptSymmetricKey crypto encKey masterKey).mapError (Halt.map .crypto)
  pure ⟨token.accessToken, token.refreshToken, token.expiresIn, symKey⟩

theorem send_bind {α β : Type} (decode : Value → Option α) (request : HttpRequest)
    (next : α → Conversation β) (requests : List HttpRequest) :
    (send parseJson server decode request >>= next) requests =
      match (receive parseJson decode (server (requests ++ [request]))).result with
      | .ok value => next value (requests ++ [request])
      | .error error => (.error (.err error), requests ++ [request]) := by
  cases answered : (receive parseJson decode (server (requests ++ [request]))).result with
  | ok value =>
    apply bind_ok
    rw [send, answered]
    rfl
  | error error =>
    apply bind_error
    rw [send, answered]
    rfl

theorem compute_bind {α β : Type} (result : Call AuthError α) (next : α → Conversation β)
    (requests : List HttpRequest) :
    (compute result >>= next) requests =
      match result with
      | .ok value => next value requests
      | .error halt => (.error halt, requests) := by
  cases result with
  | ok value => exact bind_ok _ _ value requests requests rfl
  | error halt => exact bind_error _ _ halt requests requests rfl

/-- The last steps of a login make no request. -/
theorem finish_run (masterKey : List UInt8) (token : TokenResponse) (encKey : String)
    (requests : List HttpRequest) :
    (compute ((decryptSymmetricKey crypto encKey masterKey).mapError (Halt.map AuthError.crypto)) >>=
        fun symKey => (pure ⟨token.accessToken, token.refreshToken, token.expiresIn, symKey⟩ :
          Conversation Login)) requests =
      (finishLogin crypto masterKey token encKey, requests) := by
  rw [compute_bind, finishLogin]
  cases (decryptSymmetricKey crypto encKey masterKey).mapError (Halt.map AuthError.crypto) <;> rfl

/-! ## The login over its answers -/

section
variable (email password : String) (answers : LoginAnswers)

theorem authenticate_refused (error : AuthError) (refused : answers.prelogin.result = .error error) :
    authenticate crypto unicode email password answers = .error (.err error) := by
  simp only [authenticate, refused]
  rfl

theorem authenticate_underived (pre : PreloginResponse) (error : CryptoError)
    (prelogin : answers.prelogin.result = .ok pre)
    (underived : makeMasterKey crypto unicode password email pre.kdf pre.kdfIterations pre.kdfMemory
      pre.kdfParallelism = .error error) :
    authenticate crypto unicode email password answers = .error (.err (.crypto error)) := by
  simp only [authenticate, prelogin]
  change (returned (Except.mapError AuthError.crypto (makeMasterKey crypto unicode password email
    pre.kdf pre.kdfIterations pre.kdfMemory pre.kdfParallelism)) >>= _) = _
  rw [underived]
  rfl

/-- The encrypted key that the answers give. -/
def keyAnswered (token : TokenResponse) : Except AuthError String :=
  if token.key = "" then Auth.fetchProfileKey answers.profileKey else .ok token.key

/-- From the token response on. -/
theorem authenticate_derived (pre : PreloginResponse) (masterKey : List UInt8)
    (prelogin : answers.prelogin.result = .ok pre)
    (derived : makeMasterKey crypto unicode password email pre.kdf pre.kdfIterations pre.kdfMemory
      pre.kdfParallelism = .ok masterKey) :
    authenticate crypto unicode email password answers =
      match answers.token.result with
      | .error error => .error (.err error)
      | .ok token =>
        match keyAnswered answers token with
        | .error error => .error (.err error)
        | .ok encKey => finishLogin crypto masterKey token encKey := by
  simp only [authenticate, prelogin]
  change (returned (Except.mapError AuthError.crypto (makeMasterKey crypto unicode password email
    pre.kdf pre.kdfIterations pre.kdfMemory pre.kdfParallelism)) >>= _) = _
  rw [derived]
  cases answers.token.result with
  | error error => rfl
  | ok token =>
    change (returned (keyAnswered answers token) >>= _) = _
    simp only
    cases keyAnswered answers token <;> rfl

end

section
variable (credentials : Credentials) (requests : List HttpRequest)

/-- The third answer is the one to the request for the profile. -/
theorem key_answered (token : TokenResponse) (answers : LoginAnswers) (made : List HttpRequest)
    (asked : token.key = "" → answers.profileKey = receive parseJson decodeProfileKey
      (server (made ++ [profileRequest credentials token.accessToken]))) :
    encryptedKey parseJson server credentials token made =
      (returned (keyAnswered answers token),
        made ++ if token.key = "" then [profileRequest credentials token.accessToken] else []) := by
  by_cases keyless : token.key = ""
  · rw [encryptedKey, if_pos keyless, fetchProfileKey, send_bind, ← asked keyless, keyAnswered,
      if_pos keyless, if_pos keyless, Auth.fetchProfileKey]
    cases answers.profileKey.result with
    | error error => rfl
    | ok key =>
      simp only [compute]
      by_cases vacant : key = ""
      · simp only [if_pos vacant]
        rfl
      · simp only [if_neg vacant]
        rfl
  · rw [encryptedKey, if_neg keyless, keyAnswered, if_neg keyless, if_neg keyless, List.append_nil]
    rfl

/-- A login over a server is the login over the answers that the server gives, and makes the
requests that belong to these answers. -/
theorem login_answered :
    login crypto unicode pbkdf2Hmac parseJson server credentials requests =
      (authenticate crypto unicode credentials.email credentials.password
          (answersOf crypto unicode pbkdf2Hmac parseJson server credentials requests),
        requests ++ requestsMade crypto unicode pbkdf2Hmac credentials
          (answersOf crypto unicode pbkdf2Hmac parseJson server credentials requests)) := by
  let first := requests ++ [preloginRequest credentials]
  generalize given : answersOf crypto unicode pbkdf2Hmac parseJson server credentials requests =
    answers
  have preloginGiven : receive parseJson decodePrelogin (server first) = answers.prelogin := by
    rw [← given]
    rfl
  rw [login, send_bind, preloginGiven]
  cases prelogin : answers.prelogin.result with
  | error error =>
    simp only [requestsMade, prelogin,
      authenticate_refused crypto unicode credentials.email credentials.password answers error prelogin]
  | ok pre =>
    simp only
    rw [compute_bind]
    cases derived : announcedKey crypto unicode credentials pre with
    | error error =>
      simp only [requestsMade, prelogin, derived, authenticate_underived crypto unicode
        credentials.email credentials.password answers pre error prelogin derived]
      rfl
    | ok masterKey =>
      let second := first ++ [tokenRequest pbkdf2Hmac credentials masterKey]
      have announced : (answers.prelogin.result.toOption.bind (fun pre =>
          (announcedKey crypto unicode credentials pre).toOption)).getD [] = masterKey := by
        rw [prelogin]
        simp [Except.toOption, derived]
      have tokenGiven : receive parseJson decodeToken (server second) = answers.token := by
        simp only [second, ← announced, ← given]
        rfl
      rw [authenticate_derived crypto unicode credentials.email credentials.password answers pre
        masterKey prelogin derived]
      simp only [requestsMade, prelogin, derived]
      change (send parseJson server decodeToken (tokenRequest pbkdf2Hmac credentials masterKey) >>= _)
        first = _
      rw [send_bind, tokenGiven]
      cases told : answers.token.result with
      | error error => simp [first]
      | ok token =>
        have keyGiven : token.key = "" → answers.profileKey = receive parseJson decodeProfileKey
            (server (second ++ [profileRequest credentials token.accessToken])) := by
          intro keyless
          have access : (answers.token.result.toOption.map TokenResponse.accessToken).getD "" =
              token.accessToken := by
            rw [told]
            rfl
          simp only [second, ← access, ← announced, ← given]
          rfl
        have keyed := key_answered parseJson server credentials token answers second keyGiven
        simp only
        cases answered : keyAnswered answers token with
        | error error =>
          rw [answered] at keyed
          rw [bind_error _ _ (.err error) _ _ keyed]
          simp [first, second]
        | ok encKey =>
          rw [answered] at keyed
          rw [bind_ok _ _ encKey _ _ keyed, finish_run]
          simp [first, second]

/-! ## What a login discloses -/

/-- What a token request shows of the password: its hash, unless an API key is used. -/
def shown (masterKey : List UInt8) : Option String :=
  match credentials.clientId, credentials.clientSecret with
  | some _, some _ => none
  | _, _ => some (hashPassword pbkdf2Hmac credentials.password masterKey)

/-- What a login discloses of the password once the server has announced its parameters:
whether they give a master key, and then what the token request shows. -/
def disclosed (pre : PreloginResponse) : Option (Option String) :=
  (announcedKey crypto unicode credentials pre).toOption.map (shown pbkdf2Hmac credentials)

/-- The token request, from what is disclosed. -/
def disclosingRequest : Option String → HttpRequest
  | some hashedPassword => passwordRequest credentials hashedPassword
  | none => apiKeyRequest credentials (credentials.clientId.getD "") (credentials.clientSecret.getD "")

/-- The requests of a login, from what is disclosed and what the server does with it. -/
def disclosingRequests (told : PreloginResponse → Option (Option String)) : List HttpRequest :=
  let first := requests ++ [preloginRequest credentials]
  preloginRequest credentials ::
    match (receive parseJson decodePrelogin (server first)).result with
    | .error _ => []
    | .ok pre =>
      match told pre with
      | none => []
      | some hashed =>
        disclosingRequest credentials hashed ::
          match (receive parseJson decodeToken
            (server (first ++ [disclosingRequest credentials hashed]))).result with
          | .error _ => []
          | .ok token =>
            if token.key = "" then [profileRequest credentials token.accessToken] else []

theorem token_request_shows (masterKey : List UInt8) :
    tokenRequest pbkdf2Hmac credentials masterKey =
      disclosingRequest credentials (shown pbkdf2Hmac credentials masterKey) := by
  rw [tokenRequest, shown]
  cases id : credentials.clientId with
  | none => rfl
  | some clientId =>
    cases secret : credentials.clientSecret with
    | none => rfl
    | some clientSecret => simp [disclosingRequest, id, secret]

/-- A login makes the requests that its disclosure determines. -/
theorem requests_disclose :
    (login crypto unicode pbkdf2Hmac parseJson server credentials requests).2 =
      requests ++ disclosingRequests parseJson server credentials requests
        (disclosed crypto unicode pbkdf2Hmac credentials) := by
  rw [login_answered]
  simp only [requestsMade, disclosingRequests, List.append_cancel_left_eq, List.cons.injEq, true_and]
  have preloginGiven : (answersOf crypto unicode pbkdf2Hmac parseJson server credentials
      requests).prelogin = receive parseJson decodePrelogin
        (server (requests ++ [preloginRequest credentials])) := rfl
  rw [preloginGiven]
  cases prelogin : (receive parseJson decodePrelogin
      (server (requests ++ [preloginRequest credentials]))).result with
  | error error => rfl
  | ok pre =>
    simp only [disclosed]
    cases derived : announcedKey crypto unicode credentials pre with
    | error error => rfl
    | ok masterKey =>
      have tokenGiven : (answersOf crypto unicode pbkdf2Hmac parseJson server credentials
          requests).token = receive parseJson decodeToken (server
            (requests ++ [preloginRequest credentials] ++
              [tokenRequest pbkdf2Hmac credentials masterKey])) := by
        simp [answersOf, prelogin, derived, Except.toOption]
      simp only [tokenGiven, token_request_shows]
      rfl

/-- The password leaves the process as its hash at most, and under an API key not at all.
Whatever the server answers, and whatever it makes its answers depend on, it is told the
same by a login with one password and with another that discloses the same: under the
password grant the hash that its announced parameters ask for, and under an API key only
whether they could be used. -/
theorem password_hidden (other : String)
    (same : ∀ pre, disclosed crypto unicode pbkdf2Hmac credentials pre =
      disclosed crypto unicode pbkdf2Hmac { credentials with password := other } pre) :
    (login crypto unicode pbkdf2Hmac parseJson server credentials requests).2 =
      (login crypto unicode pbkdf2Hmac parseJson server { credentials with password := other }
        requests).2 := by
  rw [requests_disclose, requests_disclose, funext same]
  rfl

end

end

/-- An account that is opened with an API key. -/
def sampleCredentials : Credentials where
  baseUrl := "https://vault"
  email := "ops@example.org"
  password := "secret"
  clientId := some "user.1"
  clientSecret := some "key"
  deviceId := "d1"

/-- A server that answers each request with its number. -/
def countingServer : Server := fun requests => .ok ⟨200, .ok (toString requests.length)⟩

/-- A reader to which the first number means KDF parameters and the second a token. -/
def sampleJson (text : String) : Option Value :=
  if text = "1" then some (.obj [("kdf", .int 0), ("kdfIterations", .int 600000)])
  else some (.obj [("access_token", .str "at"), ("expires_in", .int 3600), ("Key", .str "2.k")])

/-- The same account with the password grant. -/
def passwordCredentials : Credentials :=
  { sampleCredentials with clientId := none, clientSecret := none }

/-- A hash that tells no two passwords apart. -/
def sampleHash : List UInt8 → List UInt8 → Nat → List UInt8 := fun _ _ _ => List.replicate 32 0

/-- Under an API key all passwords disclose the same, with primitives that accept them; under
the password grant those do that have the same hash. -/
theorem password_hidden_sample :
    (login samplePrimitives asciiTables sampleHash sampleJson countingServer
        sampleCredentials []).2.length = 2 ∧
      (login samplePrimitives asciiTables sampleHash sampleJson countingServer
          sampleCredentials []).2 =
        (login samplePrimitives asciiTables sampleHash sampleJson countingServer
          { sampleCredentials with password := "other" } []).2 ∧
      (login samplePrimitives asciiTables sampleHash sampleJson countingServer
        passwordCredentials []).2.length = 2 ∧
      (login samplePrimitives asciiTables sampleHash sampleJson countingServer
          passwordCredentials []).2 =
        (login samplePrimitives asciiTables sampleHash sampleJson countingServer
          { passwordCredentials with password := "other" } []).2 :=
  ⟨by decide +kernel,
    password_hidden samplePrimitives asciiTables sampleHash sampleJson countingServer
      sampleCredentials [] "other" (fun _ => rfl),
    by decide +kernel,
    password_hidden samplePrimitives asciiTables sampleHash sampleJson countingServer
      passwordCredentials [] "other" (fun _ => rfl)⟩

end VaultwardenOperator.LoginRequests

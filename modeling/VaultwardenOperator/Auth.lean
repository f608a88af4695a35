import VaultwardenOperator.Crypto

/-!
# Authentication

The refresh grant and the full login, as functions of what the server answers to
their requests. The texts of the requests are left out: nothing is assumed about
the answers, so it does not matter what they answer.
-/

namespace VaultwardenOperator.Auth

open Rust Crypto

/-- How a request ends: with no response or an unreadable body, with an
unsuccessful status, or with a body that deserialises. -/
inductive Answer (α : Type) where
  | http (message : String)
  | server (status : UInt16) (body : String)
  | body (value : α)

inductive AuthError where
  | http (message : String)
  | server (status : UInt16) (body : String)
  | crypto (error : CryptoError)
  | noRefreshToken
  | emptyProfileKey
deriving DecidableEq

/-- The `Display` texts. -/
def AuthError.display : AuthError → String
  | .http message => s!"HTTP error: {message}"
  | .server status body => s!"server returned {status}: {body}"
  | .crypto error =>
    let text := error.display
    s!"crypto error: {text}"
  | .noRefreshToken => "no refresh token available"
  | .emptyProfileKey => "profile key is empty"

/-- KDF parameters. -/
structure PreloginResponse where
  kdf : UInt32
  kdfIterations : UInt32
  kdfMemory : Option UInt32
  kdfParallelism : Option UInt32

/-- The refresh token and the encrypted key are empty when they are absent. -/
structure TokenResponse where
  accessToken : String
  expiresIn : UInt64
  refreshToken : String
  key : String

def Answer.result {α : Type} : Answer α → Except AuthError α
  | .http message => .error (.http message)
  | .server status text => .error (.server status text)
  | .body value => .ok value

/-- What a refresh grant gives: the refresh token only when it was rotated. -/
structure Grant where
  accessToken : String
  refreshToken : Option String
  expiresIn : UInt64

/-- What a full login gives. -/
structure Login where
  accessToken : String
  refreshToken : String
  expiresIn : UInt64
  symKey : SymmetricKey
deriving DecidableEq

/-- The answers to the requests of a full login. The third request is made only
when the token response has no key. -/
structure LoginAnswers where
  prelogin : Answer PreloginResponse
  token : Answer TokenResponse
  profileKey : Answer String

/-- `refresh_token`. Without a refresh token no request is made. -/
def refreshToken (refreshTok : String) (answer : Answer TokenResponse) : Except AuthError Grant :=
  if refreshTok = "" then .error .noRefreshToken
  else answer.result.map (fun tok =>
    { accessToken := tok.accessToken
      refreshToken := if tok.refreshToken = "" then none else some tok.refreshToken
      expiresIn := tok.expiresIn })

/-- `fetch_profile_key`. -/
def fetchProfileKey (answer : Answer String) : Except AuthError String :=
  match answer.result with
  | .error error => .error error
  | .ok key => if key = "" then .error .emptyProfileKey else .ok key

section
variable {RsaPrivateKey : Type} (crypto : Primitives RsaPrivateKey) (unicode : UnicodeTables)

/-- `authenticate`. -/
def authenticate (email password : String) (answers : LoginAnswers) : Call AuthError Login := do
  let pre ← returned answers.prelogin.result
  let masterKey ← returned
    ((makeMasterKey crypto unicode password email pre.kdf pre.kdfIterations pre.kdfMemory
      pre.kdfParallelism).mapError .crypto)
  let token ← returned answers.token.result
  let encKey ← returned
    (if token.key = "" then fetchProfileKey answers.profileKey else .ok token.key)
  let symKey ← (decryptSymmetricKey crypto encKey masterKey).mapError (Halt.map .crypto)
  pure ⟨token.accessToken, token.refreshToken, token.expiresIn, symKey⟩

/-- A login returns or fails, whatever the server answers. -/
theorem authenticate_total (email password : String) (answers : LoginAnswers) :
    authenticate crypto unicode email password answers ≠ .error .panic := by
  unfold authenticate
  refine bind_total _ _ (returned_total _) (fun pre => ?_)
  refine bind_total _ _ (returned_total _) (fun masterKey => ?_)
  refine bind_total _ _ (returned_total _) (fun token => ?_)
  refine bind_total _ _ (returned_total _) (fun encKey => ?_)
  refine bind_total _ _ ?_ (fun symKey => by simp [pure, Except.pure])
  exact map_error_total _ _ (decrypt_symmetric_key_total crypto encKey masterKey)

end

/-- The answers to a login of the sample account. -/
def sampleLogin : LoginAnswers where
  prelogin := .body ⟨kdfPbkdf2, 600000, none, none⟩
  token := .body ⟨"new-at", 3600, "new-rt", sampleUserKey⟩
  profileKey := .body ""

end VaultwardenOperator.Auth

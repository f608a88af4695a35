import VaultwardenOperator.CipherIsolation
import VaultwardenOperator.Growth
import VaultwardenOperator.LoginRequests

/-!
# Members that the operator does not know

Servers add members to their answers from version to version. None of the answers that the
operator reads is read differently for it: not the vault with its profile, organizations,
ciphers, logins, URIs, cards and fields, and none of the answers of a login.
-/

namespace VaultwardenOperator.UnknownMembers

open Json Serde Sync SyncJson LoginRequests Growth CipherIsolation

/-! ## The vault -/

def organizationShape : List (String × Shape) := [("id", .leaf), ("name", .leaf), ("key", .leaf)]

def profileShape : List (String × Shape) :=
  [("id", .leaf), ("email", .leaf), ("key", .leaf), ("privateKey", .leaf),
    ("organizations", .list (.record organizationShape))]

def uriShape : List (String × Shape) := [("uri", .leaf)]

def loginShape : List (String × Shape) :=
  [("username", .leaf), ("password", .leaf), ("uri", .leaf), ("uris", .list (.record uriShape))]

def cardShape : List (String × Shape) :=
  [("cardholderName", .leaf), ("number", .leaf), ("code", .leaf)]

def fieldShape : List (String × Shape) := [("name", .leaf), ("value", .leaf), ("type", .leaf)]

def cipherShape : List (String × Shape) :=
  [("id", .leaf), ("type", .leaf), ("organizationId", .leaf), ("name", .leaf), ("notes", .leaf),
    ("login", .record loginShape), ("card", .record cardShape),
    ("fields", .list (.record fieldShape))]

def responseShape : List (String × Shape) :=
  [("profile", .record profileShape), ("ciphers", .list (.record cipherShape))]

theorem organization_blind : Blind decodeOrganization (.record organizationShape) := by
  refine record_blind organizationShape _ _ (by decide) (fun _ => rfl) ?_
  intro slot later grown
  have id := required_leaf _ _ _ grown "id" (by simp [organizationShape]) decodeStr
  have name := required_leaf _ _ _ grown "name" (by simp [organizationShape]) decodeStr
  have key := required_leaf _ _ _ grown "key" (by simp [organizationShape]) decodeStr
  simp only [id, name, key]

theorem profile_blind : Blind decodeProfile (.record profileShape) := by
  refine record_blind profileShape _ _ (by decide) (fun _ => rfl) ?_
  intro slot later grown
  have id := required_leaf _ _ _ grown "id" (by simp [profileShape]) decodeStr
  have email := required_leaf _ _ _ grown "email" (by simp [profileShape]) decodeStr
  have key := required_leaf _ _ _ grown "key" (by simp [profileShape]) decodeStr
  have privateKey := defaulted_leaf _ _ _ grown "privateKey" (by simp [profileShape]) decodeStr ""
  have organizations := defaulted_blind _ _ (list_blind _ _ organization_blind) _ _
    (grown ("organizations", .list (.record organizationShape)) (by simp [profileShape])) []
  simp only [id, email, key, privateKey, organizations]

theorem uri_blind : Blind decodeUri (.record uriShape) := by
  refine record_blind uriShape _ _ (by decide) (fun _ => rfl) ?_
  intro slot later grown
  have uri := optional_leaf _ _ _ grown "uri" (by simp [uriShape]) decodeStr
  simp only [uri]

theorem login_blind : Blind decodeLogin (.record loginShape) := by
  refine record_blind loginShape _ _ (by decide) (fun _ => rfl) ?_
  intro slot later grown
  have username := optional_leaf _ _ _ grown "username" (by simp [loginShape]) decodeStr
  have password := optional_leaf _ _ _ grown "password" (by simp [loginShape]) decodeStr
  have uri := optional_leaf _ _ _ grown "uri" (by simp [loginShape]) decodeStr
  have uris := defaulted_blind _ _ (list_blind _ _ uri_blind) _ _
    (grown ("uris", .list (.record uriShape)) (by simp [loginShape])) []
  simp only [username, password, uri, uris]

theorem card_blind : Blind decodeCard (.record cardShape) := by
  refine record_blind cardShape _ _ (by decide) (fun _ => rfl) ?_
  intro slot later grown
  have cardholderName := optional_leaf _ _ _ grown "cardholderName" (by simp [cardShape]) decodeStr
  have number := optional_leaf _ _ _ grown "number" (by simp [cardShape]) decodeStr
  have code := optional_leaf _ _ _ grown "code" (by simp [cardShape]) decodeStr
  simp only [cardholderName, number, code]

theorem field_blind : Blind decodeField (.record fieldShape) := by
  refine record_blind fieldShape _ _ (by decide) (fun _ => rfl) ?_
  intro slot later grown
  have name := optional_leaf _ _ _ grown "name" (by simp [fieldShape]) decodeStr
  have content := optional_leaf _ _ _ grown "value" (by simp [fieldShape]) decodeStr
  have fieldType := defaulted_leaf _ _ _ grown "type" (by simp [fieldShape]) decodeByte 0
  simp only [name, content, fieldType]

theorem cipher_blind : Blind decodeCipher (.record cipherShape) := by
  refine record_blind cipherShape _ _ (by decide) (fun _ => rfl) ?_
  intro slot later grown
  have id := required_leaf _ _ _ grown "id" (by simp [cipherShape]) decodeStr
  have cipherType := required_leaf _ _ _ grown "type" (by simp [cipherShape]) decodeByte
  have organizationId := optional_leaf _ _ _ grown "organizationId" (by simp [cipherShape]) decodeStr
  have name := required_leaf _ _ _ grown "name" (by simp [cipherShape]) decodeStr
  have notes := optional_leaf _ _ _ grown "notes" (by simp [cipherShape]) decodeStr
  have login := optional_blind _ _ login_blind _ _
    (grown ("login", .record loginShape) (by simp [cipherShape]))
  have card := optional_blind _ _ card_blind _ _
    (grown ("card", .record cardShape) (by simp [cipherShape]))
  have fields := defaulted_blind _ _ (list_blind _ _ field_blind) _ _
    (grown ("fields", .list (.record fieldShape)) (by simp [cipherShape])) []
  simp only [id, cipherType, organizationId, name, notes, login, card, fields]

theorem response_blind : Blind decodeResponse (.record responseShape) := by
  refine record_blind responseShape _ _ (by decide) (fun _ => rfl) ?_
  intro slot later grown
  have profile := required_blind _ _ profile_blind _ _
    (grown ("profile", .record profileShape) (by simp [responseShape]))
  have ciphers := required_blind _ _ (list_blind _ _ cipher_blind) _ _
    (grown ("ciphers", .list (.record cipherShape)) (by simp [responseShape]))
  simp only [profile, ciphers]

/-! ## The login -/

def preloginShape : List (String × Shape) :=
  [("kdf", .leaf), ("kdfIterations", .leaf), ("kdfMemory", .leaf), ("kdfParallelism", .leaf)]

def tokenShape : List (String × Shape) :=
  [("access_token", .leaf), ("expires_in", .leaf), ("refresh_token", .leaf), ("Key", .leaf)]

def keyShape : List (String × Shape) := [("key", .leaf)]

def profileKeyShape : List (String × Shape) := [("profile", .record keyShape)]

theorem prelogin_blind : Blind decodePrelogin (.record preloginShape) := by
  refine record_blind preloginShape _ _ (by decide) (fun _ => rfl) ?_
  intro slot later grown
  have kdf := required_leaf _ _ _ grown "kdf" (by simp [preloginShape]) decodeUInt32
  have iterations :=
    required_leaf _ _ _ grown "kdfIterations" (by simp [preloginShape]) decodeUInt32
  have memory := optional_leaf _ _ _ grown "kdfMemory" (by simp [preloginShape]) decodeUInt32
  have parallelism :=
    optional_leaf _ _ _ grown "kdfParallelism" (by simp [preloginShape]) decodeUInt32
  simp only [kdf, iterations, memory, parallelism]

theorem token_blind : Blind decodeToken (.record tokenShape) := by
  refine record_blind tokenShape _ _ (by decide) (fun _ => rfl) ?_
  intro slot later grown
  have accessToken := required_leaf _ _ _ grown "access_token" (by simp [tokenShape]) decodeStr
  have expiresIn := required_leaf _ _ _ grown "expires_in" (by simp [tokenShape]) decodeUInt64
  have refreshToken :=
    defaulted_leaf _ _ _ grown "refresh_token" (by simp [tokenShape]) decodeStr ""
  have key := defaulted_leaf _ _ _ grown "Key" (by simp [tokenShape]) decodeStr ""
  simp only [accessToken, expiresIn, refreshToken, key]

theorem key_blind : Blind decodeKey (.record keyShape) := by
  refine record_blind keyShape _ _ (by decide) (fun _ => rfl) ?_
  intro slot later grown
  exact required_leaf _ _ _ grown "key" (by simp [keyShape]) decodeStr

theorem profile_key_blind : Blind decodeProfileKey (.record profileKeyShape) := by
  refine record_blind profileKeyShape _ _ (by decide) (fun _ => rfl) ?_
  intro slot later grown
  exact required_blind _ _ key_blind _ _
    (grown ("profile", .record keyShape) (by simp [profileKeyShape]))

/-- No answer is read differently for members that the operator does not know. Any number of
them may be added, at any depth and at any place, to the vault, to the KDF parameters, to
a token response and to the profile with the key: what is read from the answer stays
the same, and an answer that was refused is still refused. -/
theorem unknown_members_ignored :
    (∀ old new, GrowsTo (.record responseShape) old new → answerOf new = answerOf old) ∧
      (∀ old new, GrowsTo (.record preloginShape) old new →
        decodePrelogin new = decodePrelogin old) ∧
      (∀ old new, GrowsTo (.record tokenShape) old new → decodeToken new = decodeToken old) ∧
      ∀ old new, GrowsTo (.record profileKeyShape) old new →
        decodeProfileKey new = decodeProfileKey old := by
  refine ⟨fun old new grown => ?_, blind_to _ _ prelogin_blind, blind_to _ _ token_blind,
    blind_to _ _ profile_key_blind⟩
  rw [answerOf, answerOf, blind_to _ _ response_blind old new grown]

/-- An `/api/sync` answer with one login, which has the given URI. -/
def documentWith (uri : Value) : Value :=
  .obj [("profile", .obj [("id", .str "u1"), ("email", .str "ops@example.org"), ("key", .str "")]),
    ("ciphers", .arr [.obj [("id", .str "c1"), ("type", .int 1), ("name", .str "2.n"),
      ("login", .obj [("username", .null), ("uris", .arr [uri])])]])]

def plainUri : Value := .obj [("uri", .str "2.u")]

/-- A URI with a member for its checksum. -/
def checkedUri : Value := .obj [("uri", .str "2.u"), ("uriChecksum", .str "2.c")]

theorem document_grows :
    Grows (.record responseShape) (documentWith plainUri) (documentWith checkedUri) := by
  have uri : Grows (.record uriShape) plainUri checkedUri :=
    .unknown uriShape [("uri", .str "2.u")] [] "uriChecksum" (.str "2.c") (by decide)
  have login : Grows (.record loginShape)
      (.obj [("username", .null), ("uris", .arr [plainUri])])
      (.obj [("username", .null), ("uris", .arr [checkedUri])]) :=
    .member loginShape [("username", .null)] [] "uris" (.list (.record uriShape)) _ _
      (by simp [loginShape]) (.item _ [] [] _ _ uri)
  have cipher := Grows.member cipherShape
    [("id", .str "c1"), ("type", .int 1), ("name", .str "2.n")] [] "login" (.record loginShape) _ _
    (by simp [cipherShape]) login
  exact .member responseShape [("profile", _)] [] "ciphers" (.list (.record cipherShape)) _ _
    (by simp [responseShape]) (.item _ [] [] _ _ cipher)

/-- A checksum beside a URI of a login does not change what is read from the answer. -/
theorem unknown_members_ignored_sample :
    (decodeResponse (documentWith plainUri)).isSome = true ∧
      answerOf (documentWith checkedUri) = answerOf (documentWith plainUri) :=
  ⟨by decide +kernel, unknown_members_ignored.1 _ _ (.single document_grows)⟩

end VaultwardenOperator.UnknownMembers

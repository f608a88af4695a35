import VaultwardenOperator.Auth
import VaultwardenOperator.StoredVault

/-!
# An account as its owner has it

The password, the parameters of the KDF and the user key of an account, and the answers by
which a server lets its owner log in: the user key under the stretched master key, or, for
old accounts, under the master key itself, in the token response or in the profile.

Such a login succeeds with the user key, and an answer that stores a vault then opens to
that vault: from the password to the items, nothing is lost on the way.
-/

namespace VaultwardenOperator.StoredAccount

open Rust Crypto Sync Auth UserKey StoredVault

/-- An account with a master key that its password gives. -/
structure Account {RsaPrivateKey : Type} (crypto : Primitives RsaPrivateKey)
    (unicode : UnicodeTables) where
  email : String
  password : String
  kdf : PreloginResponse
  masterKey : List UInt8
  userKey : FullKey
  derived : makeMasterKey crypto unicode password email kdf.kdf kdf.kdfIterations kdf.kdfMemory
    kdf.kdfParallelism = .ok masterKey
  whole : masterKey.length = 32

def keyBytes (key : FullKey) : List UInt8 := key.encKey ++ key.macKey

section
variable {RsaPrivateKey : Type} {crypto : Primitives RsaPrivateKey} {unicode : UnicodeTables}
  (encryption : Encryption crypto)

/-- The user key under a master key: stretched and with a MAC, or without both where the
stretched key does not make another padded text of the blocks. -/
inductive WrapsKey (masterKey : List UInt8) (userKey : FullKey) : String → Prop where
  | stretched (stretched : SymmetricKey) (iv : List UInt8) (vector : iv.length = 16)
      (stretches : stretchKey crypto masterKey = .ok stretched) :
      WrapsKey masterKey userKey (encryption.macString stretched iv (keyBytes userKey))
  | legacy (iv : List UInt8) (vector : iv.length = 16)
      (unambiguous : ∀ stretched, stretchKey crypto masterKey = .ok stretched →
        ∀ text, Padded text (crypto.aes256CbcDecrypt stretched.encKey iv
          (encryption.ciphertext masterKey iv (keyBytes userKey))) → text = keyBytes userKey) :
      WrapsKey masterKey userKey (encryption.plainString masterKey iv (keyBytes userKey))

/-- Answers whose bodies, where there are any, are those of the account. Every request may
fail. -/
structure HonestLogin (account : Account crypto unicode) (answers : LoginAnswers) : Prop where
  prelogin : ∀ pre, answers.prelogin = .body pre → pre = account.kdf
  token : ∀ token, answers.token = .body token → token.key ≠ "" →
    WrapsKey encryption account.masterKey account.userKey token.key
  profileKey : ∀ s, answers.profileKey = .body s → s ≠ "" →
    WrapsKey encryption account.masterKey account.userKey s

/-- Answers that let the owner log in. The key comes with the token or, after a token
without one, from the profile. -/
structure ServesLogin (account : Account crypto unicode) (answers : LoginAnswers)
    (token : TokenResponse) : Prop where
  prelogin : answers.prelogin = .body account.kdf
  granted : answers.token = .body token
  key : WrapsKey encryption account.masterKey account.userKey token.key ∨
    token.key = "" ∧ ∃ s, answers.profileKey = .body s ∧
      WrapsKey encryption account.masterKey account.userKey s

theorem key_bytes_length (key : FullKey) : (keyBytes key).length = 64 := by
  rw [keyBytes, List.length_append, key.encLength, key.macLength]

theorem key_bytes_halves (key : FullKey) :
    (⟨(keyBytes key).take 32, (keyBytes key).drop 32⟩ : SymmetricKey) = key.toSymmetricKey := by
  rw [keyBytes, List.take_left' key.encLength, List.drop_left' key.encLength]

/-- The wrapped key comes back. -/
theorem wrapped_key_recovered (masterKey : List UInt8) (userKey : FullKey) (s : String)
    (whole : masterKey.length = 32) (wraps : WrapsKey encryption masterKey userKey s) :
    decryptSymmetricKey crypto s masterKey = .ok userKey.toSymmetricKey := by
  obtain ⟨stretched, stretches, encKey, macKey⟩ := stretch_ok encryption masterKey whole
  have length := key_bytes_length userKey
  rw [← key_bytes_halves userKey]
  cases wraps with
  | stretched other iv vector same =>
    rw [stretches] at same
    cases same
    exact mac_string_recovered encryption masterKey iv _ stretched stretches encKey macKey vector
      length
  | legacy iv vector unambiguous =>
    exact (plain_string_recovered_iff encryption masterKey iv _ stretched stretches encKey whole
      vector length).mpr (unambiguous stretched stretches)

theorem wrapped_nonempty (masterKey : List UInt8) (userKey : FullKey) (s : String)
    (wraps : WrapsKey encryption masterKey userKey s) : s ≠ "" := by
  cases wraps with
  | stretched stretched iv =>
    exact parsed_nonempty _ _ (parse_mac_string encryption stretched iv (keyBytes userKey))
  | legacy iv => exact parsed_nonempty _ _ (parse_plain_string encryption masterKey iv _)

/-! ## Logging in -/

/-- A login that honest answers let succeed has the user key. -/
theorem honest_login_key (account : Account crypto unicode) (answers : LoginAnswers)
    (login : Login) (honest : HonestLogin encryption account answers)
    (authenticated : authenticate crypto unicode account.email account.password answers =
      .ok login) : login.symKey = account.userKey.toSymmetricKey := by
  simp only [authenticate, bind_ok_iff, returned_ok_iff] at authenticated
  obtain ⟨pre, prelogin, masterKey, derived, token, granted, encKey, chosen, symKey, opened,
    built⟩ := authenticated
  cases built
  have own : pre = account.kdf := by
    cases answered : answers.prelogin with
    | body value =>
      rw [answered] at prelogin
      cases prelogin
      exact honest.prelogin pre answered
    | http message =>
      rw [answered] at prelogin
      cases prelogin
    | server status text =>
      rw [answered] at prelogin
      cases prelogin
  subst own
  rw [account.derived] at derived
  cases derived
  have wraps : WrapsKey encryption account.masterKey account.userKey encKey := by
    split_ifs at chosen with absent
    · cases answered : answers.profileKey with
      | body s =>
        rw [answered] at chosen
        simp only [fetchProfileKey, Answer.result] at chosen
        split_ifs at chosen with vacant
        cases chosen
        exact honest.profileKey encKey answered vacant
      | http message =>
        rw [answered] at chosen
        cases chosen
      | server status text =>
        rw [answered] at chosen
        cases chosen
    · cases chosen
      cases answered : answers.token with
      | body value =>
        rw [answered] at granted
        cases granted
        exact honest.token token answered absent
      | http message =>
        rw [answered] at granted
        cases granted
      | server status text =>
        rw [answered] at granted
        cases granted
  rw [wrapped_key_recovered encryption _ _ _ account.whole wraps] at opened
  cases opened
  rfl

/-- A login that is served succeeds, with the tokens of the response and the user key. -/
theorem served_login (account : Account crypto unicode) (answers : LoginAnswers)
    (token : TokenResponse) (serves : ServesLogin encryption account answers token) :
    authenticate crypto unicode account.email account.password answers =
      .ok ⟨token.accessToken, token.refreshToken, token.expiresIn,
        account.userKey.toSymmetricKey⟩ := by
  have chosen : ∃ s, (if token.key = "" then fetchProfileKey answers.profileKey
      else .ok token.key) = .ok s ∧ WrapsKey encryption account.masterKey account.userKey s := by
    rcases serves.key with wraps | ⟨absent, s, answered, wraps⟩
    · exact ⟨token.key, if_neg (wrapped_nonempty encryption _ _ _ wraps), wraps⟩
    · refine ⟨s, ?_, wraps⟩
      rw [if_pos absent, answered, fetchProfileKey]
      exact if_neg (wrapped_nonempty encryption _ _ _ wraps)
  obtain ⟨encKey, isKey, wraps⟩ := chosen
  have opened := wrapped_key_recovered encryption _ _ _ account.whole wraps
  simp only [authenticate, bind_ok_iff, returned_ok_iff]
  exact ⟨account.kdf, by rw [serves.prelogin]; rfl, account.masterKey,
    by rw [account.derived]; rfl, token, by rw [serves.granted]; rfl, encKey, isKey,
    account.userKey.toSymmetricKey, by rw [opened]; rfl, rfl⟩

end

/-! ## The sample account -/

/-- The sample text in one block. -/
def sampleBlock : List UInt8 :=
  [37, 22, 99, 112, 72, 72, 236, 92, 15, 178, 213, 43, 251, 187, 210, 18]

/-- The block cipher of the sample account, with the true values on its strings. -/
def accountCipher (key iv : List UInt8) : Equiv.Perm (List UInt8) :=
  if key = sampleKey.encKey then Equiv.swap sampleBlock (pad [100, 98]) else sampleCipher key iv

def accountPrimitives : Primitives Unit :=
  { keyPrimitives with aes256CbcDecrypt := fun key iv data => accountCipher key iv data }

theorem account_cipher_length (key iv data : List UInt8) :
    (accountCipher key iv data).length = data.length := by
  unfold accountCipher
  split_ifs
  · exact swap_length _ _ data (by decide)
  · exact sample_cipher_length key iv data

def accountEncryption : Encryption accountPrimitives where
  encodeBase64 := Base64.encode
  aes256CbcEncrypt key iv data := (accountCipher key iv).symm data
  decode_encode := sampleEncryption.decode_encode
  no_separator := sampleEncryption.no_separator
  decrypt_encrypt key iv data _ _ _ := Equiv.apply_symm_apply (accountCipher key iv) data
  encrypt_length key iv data _ _ _ := by
    rw [← account_cipher_length key iv, Equiv.apply_symm_apply]
  decrypt_length key iv data _ _ _ := account_cipher_length key iv data
  from_prk := sampleEncryption.from_prk
  expand := sampleEncryption.expand

def sampleFullKey : FullKey where
  toSymmetricKey := sampleKey
  encLength := by decide
  macLength := by decide

def sampleAccount : Account accountPrimitives asciiTables where
  email := "ops@example.org"
  password := "secret"
  kdf := ⟨kdfPbkdf2, 600000, none, none⟩
  masterKey := sampleMasterKey
  userKey := sampleFullKey
  derived := by decide
  whole := by decide

/-- A personal login whose name and password are the sample text. -/
def samplePlainItem : Item where
  id := "c1"
  cipherType := 1
  organization := none
  name := "db"
  username := ""
  password := "db"
  notes := ""
  uri := ""
  fields := []

def samplePlainVault : Vault where
  organizations := []
  items := [samplePlainItem]
  distinct := List.nodup_nil

/-- An answer for an account in no organization. -/
def samplePersonalSync : SyncResponse where
  profile := ⟨"u1", "ops@example.org", sampleUserKey, "", []⟩
  ciphers := [sampleCipher]

theorem sample_text_stored :
    StoresText accountEncryption sampleFullKey.toSymmetricKey "db" sampleText := by
  have written : sampleText =
      accountEncryption.macString sampleKey (List.replicate 16 0) [100, 98] := by
    decide +kernel
  refine .inr ?_
  rw [written]
  exact .authenticated (List.replicate 16 0) rfl

theorem sample_vault_stored :
    Stores accountEncryption sampleFullKey samplePlainVault samplePersonalSync where
  organizations := .inl ⟨rfl, rfl⟩
  items := by
    refine .cons ⟨sampleFullKey, rfl, ?_⟩ .nil
    exact ⟨rfl, rfl, rfl, sample_text_stored, rfl, ⟨rfl, sample_text_stored, .inr ⟨rfl, rfl⟩⟩, .nil⟩

theorem sample_key_wrapped :
    WrapsKey accountEncryption sampleMasterKey sampleFullKey sampleUserKey := by
  have written : sampleUserKey = accountEncryption.macString
      ⟨sampleStretchedKey, (samplePrimitives.hkdfExpand sampleMasterKey [] 32).getD []⟩
      (List.replicate 16 0) (keyBytes sampleFullKey) := by
    decide +kernel
  rw [written]
  exact .stretched _ (List.replicate 16 0) rfl (by decide +kernel)

theorem sample_login_served : ServesLogin accountEncryption sampleAccount sampleLogin
    ⟨"new-at", 3600, "new-rt", sampleUserKey⟩ where
  prelogin := rfl
  granted := rfl
  key := .inl sample_key_wrapped

end VaultwardenOperator.StoredAccount

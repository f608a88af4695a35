import VaultwardenOperator.Base64
import VaultwardenOperator.LastWins
import VaultwardenOperator.Sync

/-!
# The value of an item

The documented priority is about the fields of a cipher in their order: the
password, a custom field of a listed name, the notes, the first custom field with a
value. The client collects the fields in a hash map first. There an entry with an
empty name is dropped, one of two fields with the same name is replaced, and what is
left has no order.

`Plain` is what a cipher says; the code's item and the documented value are both
functions of it.
-/

namespace VaultwardenOperator.Extraction

open Rust Crypto Sync LastWins

/-- The decrypted strings of a cipher that extraction looks at, absent ones empty, with
its custom fields in order. -/
structure Plain where
  name : String
  password : String
  notes : String
  fields : List (String × String)

/-- The names of fields that go before the notes. -/
def listed : List String := ["value", "secret", "api_key", "apikey", "token"]

/-- The first value that is not empty. -/
def firstValue (fields : List (String × String)) : Option String :=
  (fields.map Prod.snd).find? (· ≠ "")

/-- The first non-empty value among the fields of one name. -/
def valueOf (fields : List (String × String)) (name : String) : Option String :=
  firstValue (fields.filter (fun field => field.1 = name))

/-- The documented priority, over the fields in their order. -/
def documentedValue (plain : Plain) : String :=
  if plain.password ≠ "" then plain.password
  else match listed.findSome? (valueOf plain.fields) with
    | some value => value
    | none => if plain.notes ≠ "" then plain.notes else (firstValue plain.fields).getD ""

theorem first_value_none_iff (fields : List (String × String)) :
    firstValue fields = none ↔ ∀ field ∈ fields, field.2 = "" := by
  simp [firstValue]

/-! ## From the cipher to the item -/

section
variable {RsaPrivateKey : Type} (crypto : Primitives RsaPrivateKey)

/-- The decryption of a string, and empty when it is absent or fails. -/
def textOf (key : SymmetricKey) : Option String → String
  | none => ""
  | some s => (decryptStr crypto s key).toOption.getD ""

theorem text_of_failed (key : SymmetricKey) (s : String) (halt : Halt CryptoError)
    (failed : decryptStr crypto s key = .error halt) : textOf crypto key (some s) = "" := by
  simp [textOf, failed, Except.toOption]

theorem decrypt_or_default_text (key : SymmetricKey) (text : Option String) :
    decryptOrDefault crypto key text = .ok (textOf crypto key text) := by
  cases text with
  | none => rfl
  | some s =>
    have total := decrypt_str_total crypto s key
    cases decrypted : decryptStr crypto s key with
    | ok value => simp [decryptOrDefault, textOf, decrypted, unwrapOr]
    | error halt =>
      cases halt with
      | err error => simp [decryptOrDefault, text_of_failed crypto key s _ decrypted, decrypted, unwrapOr]
      | panic => exact absurd decrypted total

/-- What a cipher gives to its item, strings that fail to decrypt as empty ones. -/
def held (key : SymmetricKey) (cipher : SyncCipher) : Plain where
  name := textOf crypto key (some cipher.name)
  password := textOf crypto key (cipher.login.bind SyncLogin.password)
  notes := textOf crypto key cipher.notes
  fields := cipher.fields.map (fun field =>
    (textOf crypto key field.name, textOf crypto key field.value))

/-- The fields that enter the map. -/
def named (fields : List (String × String)) : List (String × String) :=
  fields.filter (fun field => field.1 ≠ "")

/-- An item has the fields of its cipher, inserted in order. -/
structure Holds (item : DecryptedItem) (plain : Plain) : Prop where
  password : item.password = plain.password
  notes : item.notes = plain.notes
  fields : item.fields = insertAll ∅ (named plain.fields)

theorem insert_fields (key : SymmetricKey) (fields : List SyncField) (map : StringMap String) :
    fields.foldlM (insertField crypto key) map = .ok (insertAll map (named (fields.map
      (fun field => (textOf crypto key field.name, textOf crypto key field.value))))) := by
  induction fields generalizing map with
  | nil => rfl
  | cons field rest inductionHypothesis =>
    have taken : insertField crypto key map field =
        .ok (if textOf crypto key field.name = "" then map
          else map.insert (textOf crypto key field.name) (textOf crypto key field.value)) := by
      simp only [insertField, decrypt_or_default_text]
      rfl
    rw [List.foldlM_cons, taken]
    change rest.foldlM _ _ = _
    rw [inductionHypothesis]
    by_cases unnamed : textOf crypto key field.name = ""
    · simp [named, unnamed]
    · simp [named, unnamed, insertAll]

/-- A cipher whose name decrypts becomes an item that holds its strings. -/
theorem decrypt_cipher_holds (cipher : SyncCipher) (key : SymmetricKey) (name : String)
    (decrypts : decryptStr crypto cipher.name key = .ok name) :
    ∃ item, decryptCipher crypto cipher key = .ok item ∧ Holds item (held crypto key cipher) := by
  unfold decryptCipher
  rw [decrypts]
  simp only [decrypt_or_default_text, insert_fields]
  cases login : cipher.login with
  | none => exact ⟨_, rfl, by simp [held, login, textOf], rfl, rfl⟩
  | some login' =>
    simp only [decryptLogin, decrypt_or_default_text]
    by_cases vacant : textOf crypto key login'.uri = ""
    · refine ⟨_, by simp only [bind, Except.bind, vacant, if_true]; rfl, ?_, rfl, rfl⟩
      simp [held, login]
    · refine ⟨_, by simp only [bind, Except.bind, vacant, if_false]; rfl, ?_, rfl, rfl⟩
      simp [held, login]

/-- An optional string decrypts to a text; one that is absent is empty. -/
def TextIs (key : SymmetricKey) : Option String → String → Prop
  | none, text => text = ""
  | some s, text => decryptStr crypto s key = .ok text

/-- All the strings that extraction looks at decrypt. -/
structure Decrypts (cipher : SyncCipher) (key : SymmetricKey) (plain : Plain) : Prop where
  name : decryptStr crypto cipher.name key = .ok plain.name
  password : TextIs crypto key (cipher.login.bind SyncLogin.password) plain.password
  notes : TextIs crypto key cipher.notes plain.notes
  fields : List.Forall₂ (fun field entry => TextIs crypto key field.name entry.1 ∧
    TextIs crypto key field.value entry.2) cipher.fields plain.fields

theorem text_of_text_is (key : SymmetricKey) (optional : Option String) (text : String)
    (is : TextIs crypto key optional text) : textOf crypto key optional = text := by
  cases optional with
  | none => exact is.symm
  | some s =>
    have decrypted : decryptStr crypto s key = .ok text := is
    simp [textOf, decrypted]

theorem texts_of_fields (key : SymmetricKey) (fields : List SyncField)
    (entries : List (String × String))
    (are : List.Forall₂ (fun field entry => TextIs crypto key field.name entry.1 ∧
      TextIs crypto key field.value entry.2) fields entries) :
    fields.map (fun field => (textOf crypto key field.name, textOf crypto key field.value)) =
      entries := by
  induction are with
  | nil => rfl
  | cons texts rest inductionHypothesis =>
    rw [List.map_cons, inductionHypothesis, text_of_text_is crypto key _ _ texts.1,
      text_of_text_is crypto key _ _ texts.2]

/-- What decrypts is what the item holds. -/
theorem held_decrypts (cipher : SyncCipher) (key : SymmetricKey) (plain : Plain)
    (decrypts : Decrypts crypto cipher key plain) : held crypto key cipher = plain := by
  have name := text_of_text_is crypto key (some cipher.name) plain.name decrypts.name
  have password := text_of_text_is crypto key _ _ decrypts.password
  have notes := text_of_text_is crypto key _ _ decrypts.notes
  simp only [held, name, password, notes, texts_of_fields crypto key _ _ decrypts.fields]

end

/-! ## What is extracted -/

/-- The value that the map has for a name and that counts: that of the last field of the
name, unless it is empty. -/
def keptValue (fields : List (String × String)) (name : String) : Option String :=
  (lastValue name fields).filter (· ≠ "")

/-- The order in which the map yields its values is some order of them. -/
def Yields (values : ValueOrder) : Prop :=
  ∀ map : StringMap String, (values map).Perm (LastWins.values map)

/-- Whatever the order, the named fields give one value: the last field of each name has it
or is empty, and one has it, unless it is empty itself. -/
structure GivesOnly (fields : List (String × String)) (value : String) : Prop where
  only : ∀ name kept, name ≠ "" → keptValue fields name = some kept → kept = value
  given : value ≠ "" → ∃ name, name ≠ "" ∧ keptValue fields name = some value

/-- The fields that the map drops do not matter, nor does its order. A listed name with a
value decides, and then the last fields of the listed names must give the same one; where
all of these are empty, the notes must, or else the named fields. Without such a name the
notes decide or, where they are empty, the first custom field with a value. -/
def Stable (plain : Plain) : Prop :=
  plain.password = "" →
    match listed.findSome? (valueOf plain.fields), listed.findSome? (keptValue plain.fields) with
    | some value, some kept => kept = value
    | some value, none =>
      if plain.notes = "" then GivesOnly plain.fields value else plain.notes = value
    | none, _ => plain.notes = "" → GivesOnly plain.fields ((firstValue plain.fields).getD "")

theorem kept_value_some_iff (fields : List (String × String)) (name value : String) :
    keptValue fields name = some value ↔ lastValue name fields = some value ∧ value ≠ "" := by
  simp [keptValue, Option.filter_eq_some_iff]

/-- Fields without a name do not hide the last one of a name. -/
theorem last_value_named (fields : List (String × String)) (name : String) (isNamed : name ≠ "") :
    lastValue name (named fields) = lastValue name fields :=
  last_value_filter (fun name => decide (name ≠ "")) name fields (by simpa using isNamed)

/-- The map of an item has the last value of each name. -/
theorem lookup_held (item : DecryptedItem) (plain : Plain) (holds : Holds item plain)
    (name : String) (isNamed : name ≠ "") :
    item.fields.lookup name = lastValue name plain.fields := by
  rw [holds.fields, lookup_built, last_value_named plain.fields name isNamed]

/-- The values of the map are the last values of the names that are not empty. -/
theorem mem_yielded_iff (values : ValueOrder) (yields : Yields values) (item : DecryptedItem)
    (plain : Plain) (holds : Holds item plain) (value : String) :
    value ∈ values item.fields ↔ ∃ name, name ≠ "" ∧ lastValue name plain.fields = some value := by
  rw [(yields item.fields).mem_iff, holds.fields, mem_values_built]
  constructor
  · rintro ⟨name, last⟩
    have isNamed : name ≠ "" := by
      simpa using (List.mem_filter.mp (last_value_mem name value _ last)).2
    exact ⟨name, isNamed, by rw [← last_value_named plain.fields name isNamed, last]⟩
  · rintro ⟨name, isNamed, last⟩
    exact ⟨name, by rw [last_value_named plain.fields name isNamed, last]⟩

/-- A value that is kept for a name is that of a field of the name. -/
theorem value_of_kept (fields : List (String × String)) (name value : String)
    (kept : keptValue fields name = some value) : valueOf fields name ≠ none := by
  obtain ⟨last, nonempty⟩ := (kept_value_some_iff fields name value).mp kept
  intro vacant
  have member : (name, value) ∈ fields.filter (fun field => field.1 = name) :=
    List.mem_filter.mpr ⟨last_value_mem name value fields last, by simp⟩
  exact nonempty ((first_value_none_iff _).mp vacant (name, value) member)

/-- What `extract_secret` computes, from the last fields of the names. -/
theorem extract_secret_eq (values : ValueOrder) (item : DecryptedItem) (plain : Plain)
    (holds : Holds item plain) :
    extractSecret values item =
      if plain.password ≠ "" then plain.password
      else match listed.findSome? (keptValue plain.fields) with
        | some value => value
        | none =>
          if plain.notes ≠ "" then plain.notes
          else ((values item.fields).find? (· ≠ "")).getD "" := by
  have value := lookup_held item plain holds "value" (by decide)
  have secret := lookup_held item plain holds "secret" (by decide)
  have apiKey := lookup_held item plain holds "api_key" (by decide)
  have apikey := lookup_held item plain holds "apikey" (by decide)
  have token := lookup_held item plain holds "token" (by decide)
  have found : listed.findSome? (fun name => (item.fields.lookup name).filter (· ≠ "")) =
      listed.findSome? (keptValue plain.fields) := by
    simp only [listed, List.findSome?, keptValue, value, secret, apiKey, apikey, token]
  unfold extractSecret
  rw [holds.password, holds.notes, ← found]
  rfl

/-- An order that begins with a given value of the map. -/
def beginningWith (value : String) : ValueOrder := fun map =>
  if value ∈ LastWins.values map then value :: (LastWins.values map).erase value
  else LastWins.values map

theorem beginning_yields (value : String) : Yields (beginningWith value) := by
  intro map
  unfold beginningWith
  split_ifs with member
  · exact (List.perm_cons_erase member).symm
  · exact List.Perm.refl _

/-- The value that comes first in the order is the one found. -/
theorem find_beginning (value : String) (item : DecryptedItem) (nonempty : value ≠ "")
    (member : value ∈ LastWins.values item.fields) :
    ((beginningWith value item.fields).find? (· ≠ "")).getD "" = value := by
  simp [beginningWith, member, nonempty]

/-- Where the custom fields alone decide, every order gives a value if and only if it is the
only one they give. -/
theorem find_yielded_iff (item : DecryptedItem) (plain : Plain) (holds : Holds item plain)
    (documented : String) :
    (∀ values, Yields values → ((values item.fields).find? (· ≠ "")).getD "" = documented) ↔
      GivesOnly plain.fields documented := by
  constructor
  · intro always
    constructor
    · intro name kept isNamed isKept
      obtain ⟨last, nonempty⟩ := (kept_value_some_iff _ name kept).mp isKept
      have member : kept ∈ LastWins.values item.fields :=
        (beginning_yields kept item.fields).mem_iff.mp
          ((mem_yielded_iff _ (beginning_yields kept) item plain holds kept).mpr
            ⟨name, isNamed, last⟩)
      rw [← always _ (beginning_yields kept), find_beginning kept item nonempty member]
    · intro nonempty
      have first := always _ (beginning_yields "")
      cases yielded : (beginningWith "" item.fields).find? (· ≠ "") with
      | none =>
        rw [yielded] at first
        exact absurd first.symm nonempty
      | some value =>
        rw [yielded] at first
        have same : value = documented := first
        subst same
        obtain ⟨name, isNamed, last⟩ := (mem_yielded_iff _ (beginning_yields "") item plain holds
          value).mp (List.mem_of_find?_eq_some yielded)
        exact ⟨name, isNamed, (kept_value_some_iff _ name value).mpr ⟨last, nonempty⟩⟩
  · intro givesOnly values yields
    cases yielded : (values item.fields).find? (· ≠ "") with
    | some value =>
      have nonempty : value ≠ "" := by simpa using List.find?_some yielded
      obtain ⟨name, isNamed, last⟩ := (mem_yielded_iff values yields item plain holds value).mp
        (List.mem_of_find?_eq_some yielded)
      exact givesOnly.only name value isNamed ((kept_value_some_iff _ name value).mpr
        ⟨last, nonempty⟩)
    | none =>
      by_contra nonempty
      obtain ⟨name, isNamed, kept⟩ := givesOnly.given (fun vacant => nonempty vacant.symm)
      obtain ⟨last, -⟩ := (kept_value_some_iff _ name documented).mp kept
      have present := (mem_yielded_iff values yields item plain holds documented).mpr
        ⟨name, isNamed, last⟩
      have vacant : documented = "" := by simpa using List.find?_eq_none.mp yielded _ present
      exact nonempty vacant.symm

/-- An item gives the documented value in every order of its map if and only if its
cipher's fields are stable. -/
theorem extract_documented_iff (item : DecryptedItem) (plain : Plain) (holds : Holds item plain) :
    (∀ values, Yields values → extractSecret values item = documentedValue plain) ↔
      Stable plain := by
  have someOrder : ∀ value documented : String,
      (∀ values : ValueOrder, Yields values → value = documented) ↔ value = documented :=
    fun value documented => ⟨fun always => always _ (beginning_yields ""), fun same _ _ => same⟩
  simp only [extract_secret_eq _ item plain holds, Stable, documentedValue]
  by_cases password : plain.password = ""
  · simp only [password, ne_eq, not_true_eq_false, if_false, forall_true_left]
    cases kept : listed.findSome? (keptValue plain.fields) with
    | some last =>
      cases found : listed.findSome? (valueOf plain.fields) with
      | some value => simp only [someOrder]
      | none =>
        obtain ⟨name, member, isKept⟩ := List.exists_of_findSome?_eq_some kept
        exact absurd (List.findSome?_eq_none_iff.mp found name member)
          (value_of_kept plain.fields name last isKept)
    | none =>
      by_cases notes : plain.notes = ""
      · simp only [notes, not_true_eq_false, if_false, if_true, forall_true_left,
          find_yielded_iff item plain holds]
        cases listed.findSome? (valueOf plain.fields) <;> rfl
      · simp only [notes, not_false_eq_true, if_true, if_false, someOrder, false_implies]
        cases listed.findSome? (valueOf plain.fields) <;> simp
  · simp only [ne_eq, password, not_false_eq_true, if_true, implies_true, false_implies]

/-- A cipher whose strings decrypt gives the documented value, whatever the order of the
map, if and only if its fields are stable. -/
theorem extraction_iff {RsaPrivateKey : Type} (crypto : Primitives RsaPrivateKey)
    (cipher : SyncCipher) (key : SymmetricKey) (plain : Plain)
    (decrypts : Decrypts crypto cipher key plain) :
    ∃ item, decryptCipher crypto cipher key = .ok item ∧
      ((∀ values, Yields values → extractSecret values item = documentedValue plain) ↔
        Stable plain) := by
  obtain ⟨item, decrypted, holds⟩ := decrypt_cipher_holds crypto cipher key plain.name decrypts.name
  rw [held_decrypts crypto cipher key plain decrypts] at holds
  exact ⟨item, decrypted, extract_documented_iff item plain holds⟩

/-! ## Two custom fields -/

/-- The messages `x` and `y` under the sample key. -/
def textX : String :=
  "2.AAAAAAAAAAAAAAAAAAAAAA==|ENzXx5cgBLutyq4Z12XSwQ==|" ++
    "Bxn1KMC/6GTCuv+CtyMdX3il51XWJu0/06NZw9BcKLs="

def textY : String :=
  "2.AAAAAAAAAAAAAAAAAAAAAA==|fHVgXfk2YX5TVz5BJiEgtA==|" ++
    "z5NjxXingQ/3/J4h2p2k7/9myp3pCy67pf4pMP0kbCw="

def blockX : List UInt8 :=
  [16, 220, 215, 199, 151, 32, 4, 187, 173, 202, 174, 25, 215, 101, 210, 193]

/-- Primitives with the true values on the two messages. -/
def fieldPrimitives : Primitives Unit :=
  { samplePrimitives with
    decodeBase64 := fun part => match Base64.decode part with
      | some bytes => .ok bytes
      | none => .error "Invalid symbol"
    hmacSha256 := fun _ message =>
      if message.drop 16 = blockX then
        [7, 25, 245, 40, 192, 191, 232, 100, 194, 186, 255, 130, 183, 35, 29, 95, 120, 165, 231, 85,
          214, 38, 237, 63, 211, 163, 89, 195, 208, 92, 40, 187]
      else
        [207, 147, 99, 197, 120, 167, 129, 15, 247, 252, 158, 33, 218, 157, 164, 239, 255, 102, 202,
          157, 233, 11, 46, 187, 165, 254, 41, 48, 253, 36, 108, 44]
    aes256CbcDecrypt := fun _ _ ct =>
      (if ct = blockX then 120 else 121) :: List.replicate 15 15 }

/-- A note with two custom fields, named and valued `x` and `y`. -/
def twoFields : SyncCipher :=
  { sampleCipher with
    name := textX
    login := none
    fields := [⟨some textX, some textX, 0⟩, ⟨some textY, some textY, 0⟩] }

def twoPlain : Plain := ⟨"x", "", "", [("x", "x"), ("y", "y")]⟩

theorem text_x_decrypts : decryptStr fieldPrimitives textX sampleKey = .ok "x" := by
  decide +kernel

theorem text_y_decrypts : decryptStr fieldPrimitives textY sampleKey = .ok "y" := by
  decide +kernel

theorem two_fields_decrypt : Decrypts fieldPrimitives twoFields sampleKey twoPlain :=
  ⟨text_x_decrypts, rfl, rfl, .cons ⟨text_x_decrypts, text_x_decrypts⟩
    (.cons ⟨text_y_decrypts, text_y_decrypts⟩ .nil)⟩

/-- A note whose two custom fields have one value. -/
def oneValue : SyncCipher :=
  { twoFields with fields := [⟨some textX, some textY, 0⟩, ⟨some textY, some textY, 0⟩] }

def onePlain : Plain := ⟨"x", "", "", [("x", "y"), ("y", "y")]⟩

theorem one_value_decrypts : Decrypts fieldPrimitives oneValue sampleKey onePlain :=
  ⟨text_x_decrypts, rfl, rfl, .cons ⟨text_x_decrypts, text_y_decrypts⟩
    (.cons ⟨text_y_decrypts, text_y_decrypts⟩ .nil)⟩

theorem one_plain_stable : Stable onePlain := by
  have unlisted : listed.findSome? (valueOf onePlain.fields) = none := by decide +kernel
  intro _
  rw [unlisted]
  intro _
  refine ⟨fun name kept _ isKept => ?_, fun _ => ⟨"x", by decide, by decide +kernel⟩⟩
  obtain ⟨last, -⟩ := (kept_value_some_iff _ name kept).mp isKept
  have member := last_value_mem name kept _ last
  simp only [onePlain, List.mem_cons, Prod.mk.injEq, List.not_mem_nil, or_false] at member
  rcases member with ⟨-, rfl⟩ | ⟨-, rfl⟩ <;> decide +kernel

/-- Two custom fields with one value are stable; what two with different values give is the
documented value in every order if and only if they are. -/
theorem extraction_iff_sample :
    (∃ item, decryptCipher fieldPrimitives oneValue sampleKey = .ok item ∧
      ∀ values, Yields values → extractSecret values item = documentedValue onePlain) ∧
    (∃ item, decryptCipher fieldPrimitives twoFields sampleKey = .ok item ∧
      ((∀ values, Yields values → extractSecret values item = documentedValue twoPlain) ↔
        Stable twoPlain)) := by
  obtain ⟨item, decrypted, documented⟩ :=
    extraction_iff fieldPrimitives oneValue sampleKey onePlain one_value_decrypts
  exact ⟨⟨item, decrypted, documented.mpr one_plain_stable⟩,
    extraction_iff fieldPrimitives twoFields sampleKey twoPlain two_fields_decrypt⟩

/-- The value of either field comes out when the order of the map begins with it. -/
theorem two_fields_first (item : DecryptedItem) (holds : Holds item twoPlain) (value : String)
    (last : lastValue value twoPlain.fields = some value) (nonempty : value ≠ "") :
    extractSecret (beginningWith value) item = value := by
  have unlisted : listed.findSome? (keptValue twoPlain.fields) = none := by decide +kernel
  have inMap : value ∈ LastWins.values item.fields :=
    (beginning_yields value item.fields).mem_iff.mp
      ((mem_yielded_iff _ (beginning_yields value) item twoPlain holds value).mpr
        ⟨value, nonempty, last⟩)
  rw [extract_secret_eq _ item twoPlain holds, unlisted]
  exact find_beginning value item nonempty inMap

/-- The documented value is that of the first field; another order of the map gives
the second. -/
theorem two_fields_unstable :
    Decrypts fieldPrimitives twoFields sampleKey twoPlain ∧ documentedValue twoPlain = "x" ∧
      ∃ item, decryptCipher fieldPrimitives twoFields sampleKey = .ok item ∧
        Yields (beginningWith "x") ∧ extractSecret (beginningWith "x") item = "x" ∧
        Yields (beginningWith "y") ∧ extractSecret (beginningWith "y") item = "y" := by
  obtain ⟨item, decrypted, holds⟩ :=
    decrypt_cipher_holds fieldPrimitives twoFields sampleKey "x" text_x_decrypts
  rw [held_decrypts fieldPrimitives twoFields sampleKey twoPlain two_fields_decrypt] at holds
  refine ⟨two_fields_decrypt, by decide +kernel, item, decrypted, beginning_yields "x",
    two_fields_first item holds "x" (by decide +kernel) (by decide), beginning_yields "y",
    two_fields_first item holds "y" (by decide +kernel) (by decide)⟩

end VaultwardenOperator.Extraction

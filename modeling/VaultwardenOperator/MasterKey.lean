import VaultwardenOperator.Crypto

/-!
# The cost of the master key

The server announces the key derivation and its cost. The memory comes in MiB and is
multiplied by 1024 in 32 bits, without a check. A build with overflow checks panics on a
product that does not fit; the release build wraps, and then derives the key at another
cost. Both are exact as long as the announced memory is below 4 TiB.
-/

namespace VaultwardenOperator.MasterKey

open Rust Crypto

/-- How a build treats unchecked arithmetic on machine integers. -/
inductive Build where
  /-- debug and test builds: an overflow panics -/
  | checked
  /-- release builds: an overflow wraps -/
  | release
deriving DecidableEq

/-- `*` on `u32`. -/
def Build.mul {ε : Type} (build : Build) (a b : UInt32) : Call ε UInt32 :=
  match build with
  | .checked => if a.toNat * b.toNat < 2 ^ 32 then .ok (a * b) else .error .panic
  | .release => .ok (a * b)

section
variable {RsaPrivateKey : Type} (crypto : Primitives RsaPrivateKey) (unicode : UnicodeTables)

/-- The trimmed, lowercased email. -/
def saltOf (email : String) : String := unicode.toLowercase (String.ofList (trim email.toList))

/-- Argon2id with its parameters checked first. -/
def argon2Key (password salt : String) (memKib iterations par : UInt32) :
    Except CryptoError (List UInt8) :=
  match crypto.argon2Params memKib iterations par with
  | .error message => .error (.kdf s!"argon2 params: {message}")
  | .ok () =>
    match crypto.argon2id memKib iterations par password salt with
    | .error message => .error (.kdf s!"argon2 hash: {message}")
    | .ok key => .ok key

/-- `make_master_key` in either build. -/
def makeMasterKeyIn (build : Build) (password email : String) (kdfType iterations : UInt32)
    (memoryMib parallelism : Option UInt32) : Call CryptoError (List UInt8) :=
  let salt := saltOf unicode email
  if kdfType = kdfPbkdf2 then
    if iterations < 1 then
      .error (.err (.kdf s!"PBKDF2 iterations must be >= 1, got {iterations}"))
    else .ok (crypto.pbkdf2HmacSha256 password salt iterations)
  else if kdfType = kdfArgon2id then do
    let memKib ← build.mul (memoryMib.getD 64) 1024
    let par := parallelism.getD 4
    returned (argon2Key crypto password salt memKib iterations par)
  else .error (.err (.kdf s!"unsupported KDF type: {kdfType}"))

/-- The key is what the announced derivation gives for the password and the email, at the
announced cost. -/
inductive Announced (password email : String) (kdfType iterations : UInt32)
    (memoryMib parallelism : Option UInt32) (key : List UInt8) : Prop where
  | pbkdf2 (kdf : kdfType = kdfPbkdf2)
      (derived : crypto.pbkdf2HmacSha256 password (saltOf unicode email) iterations = key)
  | argon2id (memKib : UInt32) (kdf : kdfType = kdfArgon2id)
      (exact : memKib.toNat = (memoryMib.getD 64).toNat * 1024)
      (accepted : crypto.argon2Params memKib iterations (parallelism.getD 4) = .ok ())
      (derived : crypto.argon2id memKib iterations (parallelism.getD 4) password
        (saltOf unicode email) = .ok key)

/-- The key is derived at the announced cost or not at all, and nothing panics. -/
structure Honest (build : Build) (password email : String) (kdfType iterations : UInt32)
    (memoryMib parallelism : Option UInt32) : Prop where
  returns : makeMasterKeyIn crypto unicode build password email kdfType iterations memoryMib
    parallelism ≠ .error .panic
  exact : ∀ key, makeMasterKeyIn crypto unicode build password email kdfType iterations memoryMib
    parallelism = .ok key → key.length = 32 ∧
      Announced crypto unicode password email kdfType iterations memoryMib parallelism key

/-- Both derivations fill the buffer of 32 bytes that they are given. -/
structure FillsBuffer : Prop where
  pbkdf2 : ∀ password salt iterations,
    (crypto.pbkdf2HmacSha256 password salt iterations).length = 32
  argon2id : ∀ memKib iterations par password salt key,
    crypto.argon2id memKib iterations par password salt = .ok key → key.length = 32

/-! ## Both builds -/

/-- The release build is the model that the login uses. -/
theorem make_master_key_release (password email : String) (kdfType iterations : UInt32)
    (memoryMib parallelism : Option UInt32) :
    makeMasterKeyIn crypto unicode .release password email kdfType iterations memoryMib
        parallelism =
      returned (makeMasterKey crypto unicode password email kdfType iterations memoryMib
        parallelism) := by
  unfold makeMasterKeyIn makeMasterKey
  split_ifs <;> rfl

/-- A product that fits is exact in both builds. -/
theorem mul_exact {ε : Type} (build : Build) (a b : UInt32) (fits : a.toNat * b.toNat < 2 ^ 32) :
    build.mul a b = (.ok (a * b) : Call ε UInt32) ∧ (a * b).toNat = a.toNat * b.toNat := by
  constructor
  · cases build with
    | checked => exact if_pos fits
    | release => rfl
  · rw [UInt32.toNat_mul, Nat.mod_eq_of_lt fits]

/-- A product that does not fit panics where overflow is checked. -/
theorem mul_panics {ε : Type} (a b : UInt32) (overflows : ¬ a.toNat * b.toNat < 2 ^ 32) :
    Build.checked.mul a b = (.error .panic : Call ε UInt32) := if_neg overflows

theorem argon2_key_ok_iff (password salt : String) (memKib iterations par : UInt32)
    (key : List UInt8) :
    argon2Key crypto password salt memKib iterations par = .ok key ↔
      crypto.argon2Params memKib iterations par = .ok () ∧
        crypto.argon2id memKib iterations par password salt = .ok key := by
  unfold argon2Key
  cases accepted : crypto.argon2Params memKib iterations par with
  | error message => simp
  | ok checked =>
    cases derived : crypto.argon2id memKib iterations par password salt <;> simp

/-- 1024 times the announced memory fits into 32 bits below 4 TiB, and only there. -/
theorem memory_fits_iff (memory : UInt32) :
    memory.toNat * (1024 : UInt32).toNat < 2 ^ 32 ↔ memory.toNat < 2 ^ 22 := by
  change memory.toNat * 1024 < 2 ^ 32 ↔ memory.toNat < 2 ^ 22
  omega

/-! ## Below 4 TiB -/

section
variable (build : Build) (password email : String) (kdfType iterations : UInt32)
variable (memoryMib parallelism : Option UInt32)

theorem pbkdf2_honest (lengths : FillsBuffer crypto) (kdf : kdfType = kdfPbkdf2) :
    Honest crypto unicode build password email kdfType iterations memoryMib parallelism := by
  have run : makeMasterKeyIn crypto unicode build password email kdfType iterations memoryMib
      parallelism = if iterations < 1 then
        .error (.err (.kdf s!"PBKDF2 iterations must be >= 1, got {iterations}"))
      else .ok (crypto.pbkdf2HmacSha256 password (saltOf unicode email) iterations) := if_pos kdf
  refine ⟨?_, fun key derived => ?_⟩
  · rw [run]
    split_ifs <;> simp
  · rw [run] at derived
    split_ifs at derived
    cases derived
    exact ⟨lengths.pbkdf2 _ _ _, .pbkdf2 kdf rfl⟩

theorem argon2id_honest (lengths : FillsBuffer crypto) (kdf : kdfType = kdfArgon2id)
    (below : (memoryMib.getD 64).toNat < 2 ^ 22) :
    Honest crypto unicode build password email kdfType iterations memoryMib parallelism := by
  obtain ⟨product, exact⟩ := mul_exact (ε := CryptoError) build (memoryMib.getD 64) 1024
    ((memory_fits_iff _).mpr below)
  have run : makeMasterKeyIn crypto unicode build password email kdfType iterations memoryMib
      parallelism = returned (argon2Key crypto password (saltOf unicode email)
        (memoryMib.getD 64 * 1024) iterations (parallelism.getD 4)) := by
    subst kdf
    unfold makeMasterKeyIn
    rw [if_neg (by decide), if_pos rfl, product]
    rfl
  refine ⟨?_, fun key derived => ?_⟩
  · rw [run]
    exact returned_total _
  · rw [run, returned_ok_iff, argon2_key_ok_iff] at derived
    obtain ⟨accepted, derived⟩ := derived
    exact ⟨lengths.argon2id _ _ _ _ _ _ derived, .argon2id _ kdf exact accepted derived⟩

theorem unsupported_honest (notPbkdf2 : kdfType ≠ kdfPbkdf2) (notArgon2id : kdfType ≠ kdfArgon2id) :
    Honest crypto unicode build password email kdfType iterations memoryMib parallelism := by
  have run : makeMasterKeyIn crypto unicode build password email kdfType iterations memoryMib
      parallelism = .error (.err (.kdf s!"unsupported KDF type: {kdfType}")) := by
    unfold makeMasterKeyIn
    rw [if_neg notPbkdf2, if_neg notArgon2id]
  constructor
  · rw [run]
    simp
  · intro key derived
    rw [run] at derived
    cases derived

/-- Below 4 TiB every build is honest. -/
theorem honest_below (lengths : FillsBuffer crypto)
    (below : kdfType = kdfArgon2id → (memoryMib.getD 64).toNat < 2 ^ 22) :
    Honest crypto unicode build password email kdfType iterations memoryMib parallelism := by
  by_cases pbkdf2 : kdfType = kdfPbkdf2
  · exact pbkdf2_honest crypto unicode build password email kdfType iterations memoryMib parallelism
      lengths pbkdf2
  · by_cases argon2id : kdfType = kdfArgon2id
    · exact argon2id_honest crypto unicode build password email kdfType iterations memoryMib
        parallelism lengths argon2id (below argon2id)
    · exact unsupported_honest crypto unicode build password email kdfType iterations memoryMib
        parallelism pbkdf2 argon2id

end

/-! ## From 4 TiB on -/

/-- Where overflow is checked, 4 TiB and more panic. -/
theorem overflow_panics (password email : String) (iterations : UInt32)
    (memoryMib parallelism : Option UInt32) (overflows : 2 ^ 22 ≤ (memoryMib.getD 64).toNat) :
    makeMasterKeyIn crypto unicode .checked password email kdfArgon2id iterations memoryMib
      parallelism = .error .panic := by
  have panics : Build.checked.mul (memoryMib.getD 64) 1024 = (.error .panic : Call CryptoError _) :=
    mul_panics _ _ (by
      rw [memory_fits_iff]
      omega)
  unfold makeMasterKeyIn
  rw [if_neg (by decide), if_pos rfl, panics]
  rfl

/-- The release build takes the memory modulo 4 TiB. -/
theorem release_wraps (password email : String) (kdfType iterations memory : UInt32)
    (parallelism : Option UInt32) :
    makeMasterKeyIn crypto unicode .release password email kdfType iterations (some memory)
        parallelism =
      makeMasterKeyIn crypto unicode .release password email kdfType iterations
        (some (memory % 4194304)) parallelism := by
  have wraps : memory * 1024 = memory % 4194304 * 1024 := by
    rw [← UInt32.toNat_inj, UInt32.toNat_mul, UInt32.toNat_mul, UInt32.toNat_mod]
    change memory.toNat * 1024 % 2 ^ 32 = memory.toNat % 2 ^ 22 * 1024 % 2 ^ 32
    omega
  unfold makeMasterKeyIn
  simp only [Option.getD_some, Build.mul, wraps]

/-- For all announced values both builds derive the key at the announced cost or not at
all, without a panic, if and only if an announced Argon2id memory is below 4 TiB. -/
theorem master_key_honest_iff (lengths : FillsBuffer crypto) (password email : String)
    (kdfType iterations : UInt32) (memoryMib parallelism : Option UInt32) :
    (∀ build, Honest crypto unicode build password email kdfType iterations memoryMib
        parallelism) ↔
      (kdfType = kdfArgon2id → (memoryMib.getD 64).toNat < 2 ^ 22) := by
  constructor
  · rintro honest rfl
    by_contra overflows
    exact (honest .checked).returns (overflow_panics crypto unicode password email iterations
      memoryMib parallelism (by omega))
  · intro below build
    exact honest_below crypto unicode build password email kdfType iterations memoryMib parallelism
      lengths below

end

/-- The Argon2id key of the sample account at 64 MiB, 3 iterations and 4 lanes. -/
def sampleArgon2Key : List UInt8 :=
  [28, 169, 234, 180, 99, 9, 10, 103, 24, 60, 145, 129, 219, 14, 225, 147, 81, 216, 124, 185, 82,
    232, 1, 15, 236, 197, 220, 182, 198, 103, 19, 81]

/-- The sample primitives with Argon2id at that one cost. -/
def argon2Primitives : Primitives Unit :=
  { samplePrimitives with
    argon2Params := fun memKib iterations par =>
      if memKib = 65536 ∧ iterations = 3 ∧ par = 4 then .ok () else .error "invalid parameters"
    argon2id := fun _ _ _ _ _ => .ok sampleArgon2Key }

/-- The sample account at the costs that servers announce for PBKDF2 and for Argon2id. -/
theorem master_key_honest_sample :
    FillsBuffer argon2Primitives ∧
      (∀ build, Honest argon2Primitives asciiTables build "secret" "ops@example.org" kdfPbkdf2
        600000 none none) ∧
      ∀ build, Honest argon2Primitives asciiTables build "secret" "ops@example.org" kdfArgon2id 3
        (some 64) (some 4) := by
  have lengths : FillsBuffer argon2Primitives := by
    refine ⟨fun _ _ _ => rfl, ?_⟩
    rintro _ _ _ _ _ key ⟨⟩
    rfl
  exact ⟨lengths,
    (master_key_honest_iff argon2Primitives asciiTables lengths "secret" "ops@example.org"
      kdfPbkdf2 600000 none none).mpr (by decide),
    (master_key_honest_iff argon2Primitives asciiTables lengths "secret" "ops@example.org"
      kdfArgon2id 3 (some 64) (some 4)).mpr (by decide)⟩

/-- A server that announces 64 MiB more than 4 TiB gets the key of 64 MiB from the release
build, and a panic where overflow is checked. -/
theorem announced_memory_wraps :
    makeMasterKeyIn argon2Primitives asciiTables .release "secret" "ops@example.org" kdfArgon2id 3
        (some 4194368) (some 4) = .ok sampleArgon2Key ∧
      makeMasterKeyIn argon2Primitives asciiTables .release "secret" "ops@example.org" kdfArgon2id 3
        (some 64) (some 4) = .ok sampleArgon2Key ∧
      makeMasterKeyIn argon2Primitives asciiTables .checked "secret" "ops@example.org" kdfArgon2id 3
        (some 4194368) (some 4) = .error .panic ∧
      ∀ build, ¬ Honest argon2Primitives asciiTables build "secret" "ops@example.org" kdfArgon2id 3
        (some 4194368) (some 4) := by
  have wrapped : makeMasterKeyIn argon2Primitives asciiTables .release "secret" "ops@example.org"
      kdfArgon2id 3 (some 4194368) (some 4) = .ok sampleArgon2Key := rfl
  have panics : makeMasterKeyIn argon2Primitives asciiTables .checked "secret" "ops@example.org"
      kdfArgon2id 3 (some 4194368) (some 4) = .error .panic := rfl
  refine ⟨wrapped, rfl, panics, fun build honest => ?_⟩
  cases build with
  | checked => exact honest.returns panics
  | release =>
    obtain ⟨-, announced⟩ := honest.exact sampleArgon2Key wrapped
    cases announced with
    | pbkdf2 kdf derived => exact absurd kdf (by decide)
    | argon2id memKib kdf exact accepted derived =>
      have fits : memKib.toNat < 2 ^ 32 := memKib.toNat_lt
      have product : memKib.toNat = 4194368 * 1024 := exact
      omega

end VaultwardenOperator.MasterKey

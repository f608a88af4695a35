import VaultwardenOperator.Controller
import VaultwardenOperator.Scoping

/-!
# Resources that crash the operator

The pure steps of a reconcile on what a user writes into a custom resource: the
interval, the requests, and the lookups in the cache. Each panics on no input
but one: a `syncInterval` whose error text would quote half a character.
-/

namespace VaultwardenOperator.NoPanic

open Rust Crypto Sync Duration Scoping VaultClient Crd Controller

section
variable (unicode : UnicodeTables)

/-- No pure step of a reconcile panics: neither the interval, nor the requests, nor
the lookup of any request. -/
structure PanicFree (cache : VaultCache) (spec : VaultwardenSecretSpec) : Prop where
  interval : parseSyncInterval unicode spec.syncInterval ≠ .error .panic
  requests : buildRequests unicode spec ≠ .error .panic
  lookups : ∀ requests, buildRequests unicode spec = .ok requests →
    ∀ request ∈ requests, lookupItem unicode cache request.name request.vault ≠ .error .panic

/-- No custom resource can crash the operator, except through the interval: on the
cache of any answer under any key, no pure step of a reconcile panics if and
only if the interval is not one whose error text cuts a character. -/
theorem panic_free_iff {RsaPrivateKey : Type} (crypto : Primitives RsaPrivateKey)
    (sync : SyncResponse) (symKey : SymmetricKey) (cache : VaultCache) (skips : DecryptSkips)
    (decrypted : decryptVault crypto unicode sync symKey = .ok (cache, skips))
    (spec : VaultwardenSecretSpec) :
    PanicFree unicode cache spec ↔ ¬ CutsCharacter spec.syncInterval := by
  rw [← parse_sync_interval_panic_iff unicode]
  constructor
  · exact fun panicFree => panicFree.interval
  · intro interval
    exact ⟨interval, build_requests_total unicode spec, fun requests _ request _ =>
      decrypt_vault_lookup_total crypto unicode sync symKey cache skips decrypted request.name
        request.vault⟩

end

/-- A resource with two entries and the given interval: one for a vault of its own, one for
any. -/
def sampleSpec (syncInterval : String) : VaultwardenSecretSpec :=
  ⟨syncInterval, none, [⟨"password", some "db", none, some "team"⟩, ⟨"token", none, some "db", none⟩]⟩

/-- The cache of an account with an organization and a login. -/
theorem panic_free_iff_sample :
    ∃ cache skips, decryptVault samplePrimitives asciiTables (sampleSync [sampleCipher]) sampleKey =
        .ok (cache, skips) ∧
      (PanicFree asciiTables cache (sampleSpec "5m") ↔ ¬ CutsCharacter "5m") := by
  obtain ⟨orgKeys, skips, -, decrypted⟩ :=
    decrypt_vault_spec samplePrimitives asciiTables (sampleSync [sampleCipher]) sampleKey
  exact ⟨_, skips, decrypted, panic_free_iff asciiTables samplePrimitives (sampleSync [sampleCipher])
    sampleKey _ skips decrypted (sampleSpec "5m")⟩

/-- The interval `5é` cuts a character: the number is accepted, no unit follows,
and the first byte after the number is half of `é`. -/
theorem five_cuts_character : CutsCharacter "5é" :=
  ⟨[], "5é".toList,
    ⟨{ digits := ['5']
       char := 'é'
       rest := []
       text := by decide
       nonempty := by decide
       allDigits := by simp
       fits := by decide
       wide := by decide
       notMicro := by decide }⟩, by decide⟩

/-- A resource with that interval crashes the reconcile. -/
theorem interval_panics :
    ∃ cache skips, decryptVault samplePrimitives asciiTables (sampleSync [sampleCipher]) sampleKey =
        .ok (cache, skips) ∧ ¬ PanicFree asciiTables cache (sampleSpec "5é") := by
  obtain ⟨orgKeys, skips, -, decrypted⟩ :=
    decrypt_vault_spec samplePrimitives asciiTables (sampleSync [sampleCipher]) sampleKey
  refine ⟨_, skips, decrypted, fun panicFree => ?_⟩
  exact panicFree.interval ((parse_sync_interval_panic_iff asciiTables "5é").mpr five_cuts_character)

end VaultwardenOperator.NoPanic

import VaultwardenOperator.EntryDelivery
import Mathlib.Data.List.Perm.Basic

/-!
# Ambiguous vaults in a list of requests

A vault name that several organizations have is a naming conflict that no refresh can
fix. The lookups of a list end at the first one that fails, and its error alone decides
whether there is a refresh: a stale miss that stands before the ambiguous vault leads
to one. The order of the requests has no part in the decision exactly when the list
does not have both.

The caches are those that decryption builds.
-/

namespace VaultwardenOperator.AmbiguousVault

open Rust Sync Scoping Machine VaultClient ClientSteps EntryDelivery

section
variable {RsaPrivateKey : Type} (client : Client RsaPrivateKey)

/-- After its first lookup a call goes on to `refresh_if_due`. -/
def AttemptsRefresh (cache : VaultCache) (requests : List SecretRequest) : Prop :=
  ∃ miss, afterFirstLookup requests (tryFetchSecrets client (some cache) requests) =
    .queued requests miss

/-- After its first lookup a call returns an error. -/
def FailsAtOnce (cache : VaultCache) (requests : List SecretRequest) : Prop :=
  ∃ error, afterFirstLookup requests (tryFetchSecrets client (some cache) requests) =
    .returned requests (.error error)

/-- The vault name of a request matches several organizations. -/
def Ambiguous (cache : VaultCache) (req : SecretRequest) : Prop :=
  ∃ v orgIds, req.vault = some v ∧
    cache.orgsByName.lookup (client.unicode.toLowercase v) = some orgIds ∧ 1 < orgIds.length

/-- The lookup of a request is a miss that a refresh may cure. -/
def Misses (cache : VaultCache) (req : SecretRequest) : Prop :=
  ∃ miss, lookupItem client.unicode cache req.name req.vault = .error (.err miss) ∧
    miss.isStaleMiss = true

/-- A list with an ambiguous vault fails at once, and no order of a list attempts a refresh
that another does not. -/
structure OrderFree (cache : VaultCache) (requests : List SecretRequest) : Prop where
  ambiguousFails : (∃ req ∈ requests, Ambiguous client cache req) →
    FailsAtOnce client cache requests
  sameAttempt : ∀ permuted : List SecretRequest, permuted.Perm requests →
    (AttemptsRefresh client cache permuted ↔ AttemptsRefresh client cache requests)

/-! ## One request -/

/-- The lookup of an ambiguous vault is that error. -/
theorem ambiguous_lookup (cache : VaultCache) (req : SecretRequest)
    (ambiguous : Ambiguous client cache req) :
    ∃ v, lookupItem client.unicode cache req.name req.vault =
      .error (.err (.vaultAmbiguous v)) := by
  obtain ⟨v, orgIds, named, found, several⟩ := ambiguous
  refine ⟨v, ?_⟩
  simp only [lookupItem, named, found, gt_iff_lt, several, if_true]

/-- A lookup fails for an ambiguous vault or is a stale miss. -/
theorem failed_lookup (snapshot : Snapshot) (req : SecretRequest) (halt : Halt LookupError)
    (failed : lookupItem client.unicode snapshot.cache req.name req.vault = .error halt) :
    Ambiguous client snapshot.cache req ∨ ∃ miss, halt = .err miss ∧ miss.isStaleMiss = true := by
  have searched (missing : LookupError) (found : Option DecryptedItem)
      (ended : okOr missing found = .error halt) : halt = .err missing := by
    cases found with
    | some item => cases ended
    | none =>
      cases ended
      rfl
  cases vault : req.vault with
  | none =>
    simp only [lookupItem, vault] at failed
    exact .inr ⟨_, searched _ _ failed, rfl⟩
  | some v =>
    simp only [lookupItem, vault] at failed
    cases found : snapshot.cache.orgsByName.lookup (client.unicode.toLowercase v) with
    | none =>
      rw [found] at failed
      cases failed
      exact .inr ⟨_, rfl, rfl⟩
    | some orgIds =>
      by_cases several : 1 < orgIds.length
      · exact .inl ⟨v, orgIds, vault, found, several⟩
      · cases orgIds with
        | nil => exact absurd rfl (snapshot.indexed _ _ found)
        | cons orgId others =>
          simp only [found, gt_iff_lt, several, if_false, List.getElem?_cons_zero] at failed
          exact .inr ⟨_, searched _ _ failed, rfl⟩

/-! ## The first failure -/

/-- A list whose first lookup fails, fails with its error. -/
theorem first_failure (cache : VaultCache) (req : SecretRequest) (rest : List SecretRequest)
    (error : LookupError)
    (failed : lookupItem client.unicode cache req.name req.vault = .error (.err error)) :
    tryFetchSecrets client (some cache) (req :: rest) = .error (.err (.lookup error)) := by
  simp only [tryFetchSecrets, List.mapM_cons, failed]
  rfl

/-- In a list that is answered no lookup fails. -/
theorem answered_lookup (cache : VaultCache) (requests : List SecretRequest)
    (values : List String) (looked : tryFetchSecrets client (some cache) requests = .ok values)
    (req : SecretRequest) (member : req ∈ requests) (halt : Halt LookupError) :
    lookupItem client.unicode cache req.name req.vault ≠ .error halt := by
  intro failed
  obtain ⟨position, placed⟩ := List.getElem?_of_mem member
  obtain ⟨item, found, -⟩ :=
    (values_indexed client cache requests values looked).2 position req placed
  rw [failed] at found
  cases found

/-- A list that begins with a stale miss attempts a refresh. -/
theorem miss_first (cache : VaultCache) (req : SecretRequest) (rest : List SecretRequest)
    (misses : Misses client cache req) : AttemptsRefresh client cache (req :: rest) := by
  obtain ⟨miss, failed, stale⟩ := misses
  refine ⟨miss, ?_⟩
  simp only [first_failure client cache req rest miss failed, afterFirstLookup, stale, if_true]

/-- A list that begins with an ambiguous vault does not. -/
theorem ambiguous_first (cache : VaultCache) (req : SecretRequest) (rest : List SecretRequest)
    (ambiguous : Ambiguous client cache req) : ¬ AttemptsRefresh client cache (req :: rest) := by
  obtain ⟨v, failed⟩ := ambiguous_lookup client cache req ambiguous
  rintro ⟨miss, attempted⟩
  rw [first_failure client cache req rest _ failed] at attempted
  cases attempted

/-- What a call does after its first lookup: it attempts a refresh for a stale miss of one
of its requests, or it is answered, or it fails at once for an ambiguous vault. -/
theorem first_lookup_cases (snapshot : Snapshot) (requests : List SecretRequest) :
    (AttemptsRefresh client snapshot.cache requests ∧
        ∃ req ∈ requests, Misses client snapshot.cache req) ∨
      (¬ AttemptsRefresh client snapshot.cache requests ∧
        (∃ values, tryFetchSecrets client (some snapshot.cache) requests = .ok values)) ∨
      (¬ AttemptsRefresh client snapshot.cache requests ∧
        FailsAtOnce client snapshot.cache requests ∧
        ∃ req ∈ requests, Ambiguous client snapshot.cache req) := by
  cases looked : tryFetchSecrets client (some snapshot.cache) requests with
  | ok values =>
    refine .inr (.inl ⟨?_, values, rfl⟩)
    rintro ⟨miss, attempted⟩
    rw [looked] at attempted
    cases attempted
  | error halt =>
    obtain ⟨req, member, cause, failed, rfl⟩ :=
      try_fetch_error client snapshot.cache requests halt looked
    rcases failed_lookup client snapshot req cause failed with ambiguous | ⟨miss, rfl, stale⟩
    · obtain ⟨v, error⟩ := ambiguous_lookup client snapshot.cache req ambiguous
      obtain rfl : cause = .err (.vaultAmbiguous v) := by
        rw [failed] at error
        exact Except.error.inj error
      refine .inr (.inr ⟨?_, ⟨.lookup (.vaultAmbiguous v), ?_⟩, req, member, ambiguous⟩)
      · rintro ⟨miss, attempted⟩
        rw [looked] at attempted
        cases attempted
      · rw [looked]
        rfl
    · refine .inl ⟨⟨miss, ?_⟩, req, member, miss, failed, stale⟩
      simp only [looked, Halt.map, afterFirstLookup, stale, if_true]

/-- Without an ambiguous vault, a refresh is attempted exactly when some lookup misses. -/
theorem attempts_iff (snapshot : Snapshot) (requests : List SecretRequest)
    (unambiguous : ¬ ∃ req ∈ requests, Ambiguous client snapshot.cache req) :
    AttemptsRefresh client snapshot.cache requests ↔
      ∃ req ∈ requests, Misses client snapshot.cache req := by
  rcases first_lookup_cases client snapshot requests with
    ⟨attempts, misses⟩ | ⟨unattempted, values, looked⟩ | ⟨-, -, ambiguous⟩
  · exact iff_of_true attempts misses
  · refine iff_of_false unattempted ?_
    rintro ⟨req, member, miss, failed, -⟩
    exact answered_lookup client snapshot.cache requests values looked req member _ failed
  · exact absurd ambiguous unambiguous

/-- Without a stale miss, no refresh is attempted, and a list with an ambiguous vault fails
at once. -/
theorem unmissed_fails (snapshot : Snapshot) (requests : List SecretRequest)
    (unmissed : ¬ ∃ req ∈ requests, Misses client snapshot.cache req) :
    ¬ AttemptsRefresh client snapshot.cache requests ∧
      ((∃ req ∈ requests, Ambiguous client snapshot.cache req) →
        FailsAtOnce client snapshot.cache requests) := by
  rcases first_lookup_cases client snapshot requests with
    ⟨-, misses⟩ | ⟨unattempted, values, looked⟩ | ⟨unattempted, fails, -⟩
  · exact absurd misses unmissed
  · refine ⟨unattempted, ?_⟩
    rintro ⟨req, member, ambiguous⟩
    obtain ⟨v, failed⟩ := ambiguous_lookup client snapshot.cache req ambiguous
    exact absurd failed (answered_lookup client snapshot.cache requests values looked req member _)
  · exact ⟨unattempted, fun _ => fails⟩

/-- For every snapshot and every list of requests: an ambiguous vault fails at once and the
order decides nothing, exactly when the list does not have both an ambiguous vault and a
stale miss. -/
theorem order_free_iff (snapshot : Snapshot) (requests : List SecretRequest) :
    OrderFree client snapshot.cache requests ↔
      ¬ ((∃ req ∈ requests, Ambiguous client snapshot.cache req) ∧
        ∃ req ∈ requests, Misses client snapshot.cache req) := by
  constructor
  · rintro ⟨-, sameAttempt⟩ ⟨⟨conflict, conflictMember, ambiguous⟩, missed, missedMember, misses⟩
    -- The two orders that begin with either request are decided differently.
    have attempted := sameAttempt _ (List.perm_cons_erase missedMember).symm
    have unattempted := sameAttempt _ (List.perm_cons_erase conflictMember).symm
    have attempts := attempted.mp (miss_first client snapshot.cache missed _ misses)
    exact ambiguous_first client snapshot.cache conflict _ ambiguous (unattempted.mpr attempts)
  · intro notBoth
    by_cases conflict : ∃ req ∈ requests, Ambiguous client snapshot.cache req
    · have unmissed : ¬ ∃ req ∈ requests, Misses client snapshot.cache req :=
        fun misses => notBoth ⟨conflict, misses⟩
      refine ⟨(unmissed_fails client snapshot requests unmissed).2, ?_⟩
      intro permuted reordered
      refine iff_of_false (unmissed_fails client snapshot permuted ?_).1
        (unmissed_fails client snapshot requests unmissed).1
      rintro ⟨req, member, misses⟩
      exact unmissed ⟨req, reordered.mem_iff.mp member, misses⟩
    · refine ⟨fun ambiguous => absurd ambiguous conflict, ?_⟩
      intro permuted reordered
      have unambiguous : ¬ ∃ req ∈ permuted, Ambiguous client snapshot.cache req := by
        rintro ⟨req, member, ambiguous⟩
        exact conflict ⟨req, reordered.mem_iff.mp member, ambiguous⟩
      rw [attempts_iff client snapshot permuted unambiguous,
        attempts_iff client snapshot requests conflict]
      simp only [reordered.mem_iff]

end

/-- A cache without items, of an account with two organizations of one name. -/
def teamsSnapshot : Snapshot where
  cache := ⟨[], indexOrgs asciiTables [⟨"o1", "Team", ""⟩, ⟨"o2", "team", ""⟩]⟩
  indexed := index_orgs_nonempty asciiTables _

/-- A request for an item that is not there, and one for the ambiguous vault. -/
def mixedRequests : List SecretRequest := [⟨"db", none⟩, ⟨"db", some "Team"⟩]

/-- The miss before the ambiguous vault leads to a refresh; in the other order there is
none. -/
theorem miss_hides_conflict :
    Ambiguous sampleClient teamsSnapshot.cache ⟨"db", some "Team"⟩ ∧
      AttemptsRefresh sampleClient teamsSnapshot.cache mixedRequests ∧
      ¬ AttemptsRefresh sampleClient teamsSnapshot.cache mixedRequests.reverse ∧
      ¬ OrderFree sampleClient teamsSnapshot.cache mixedRequests := by
  have ambiguous : Ambiguous sampleClient teamsSnapshot.cache ⟨"db", some "Team"⟩ :=
    ⟨"Team", ["o1", "o2"], rfl, by decide +kernel, by decide⟩
  have misses : Misses sampleClient teamsSnapshot.cache ⟨"db", none⟩ :=
    ⟨.notFound "db" 0, by decide +kernel, rfl⟩
  have attempts := miss_first sampleClient teamsSnapshot.cache _ [⟨"db", some "Team"⟩] misses
  have unattempted := ambiguous_first sampleClient teamsSnapshot.cache _ [⟨"db", none⟩] ambiguous
  refine ⟨ambiguous, attempts, unattempted, ?_⟩
  rintro ⟨-, sameAttempt⟩
  exact unattempted ((sameAttempt _ (List.reverse_perm mixedRequests)).mpr attempts)

end VaultwardenOperator.AmbiguousVault

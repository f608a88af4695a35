import VaultwardenOperator.ClientSteps

/-!
# Exact items and stale partial matches

A lookup prefers an item of exactly the requested name and falls back to one whose name
contains it. The fallback looks at the cache as it is: an item of the exact name that
the server has got since is seen only if a lookup of the list misses on the cache,
because only a miss leads to a refresh.

`fetchSecrets` is a call in one piece, as it runs when nothing else uses the client.
-/

namespace VaultwardenOperator.ExactMatch

open Rust Crypto Sync Machine VaultClient ClientSteps

/-! ## Exact items -/

section
variable (unicode : UnicodeTables)

/-- The search scope of a request: the whole account, or the one organization its vault
name resolves to. -/
def scopeOf (cache : VaultCache) : Option String → Option (Option String)
  | none => some none
  | some v =>
    match cache.orgsByName.lookup (unicode.toLowercase v) with
    | some [orgId] => some (some orgId)
    | _ => none

/-- The name of an item is the requested one, up to case. -/
def Named (req : SecretRequest) (item : DecryptedItem) : Prop :=
  unicode.toLowercase item.name = unicode.toLowercase req.name

instance (req : SecretRequest) (item : DecryptedItem) : Decidable (Named unicode req item) :=
  inferInstanceAs (Decidable (_ = _))

/-- The item of exactly the requested name, the first one in scope. -/
def exactItem (cache : VaultCache) (req : SecretRequest) : Option DecryptedItem :=
  (scopeOf unicode cache req.vault).bind (fun orgId =>
    cache.items.find? (fun item => inScope orgId item && decide (Named unicode req item)))

/-- A search goes for the exact name first. -/
theorem find_item_exact (items : List DecryptedItem) (req : SecretRequest)
    (orgId : Option String) :
    findItem unicode items req.name orgId =
      match items.find? (fun item => inScope orgId item && decide (Named unicode req item)) with
      | some item => some item
      | none => items.find? (fun item => inScope orgId item &&
          contains (unicode.toLowercase item.name) (unicode.toLowercase req.name)) := rfl

/-- A request whose scope is known is a search in it. -/
theorem lookup_in_scope (cache : VaultCache) (req : SecretRequest) (orgId : Option String)
    (resolved : scopeOf unicode cache req.vault = some orgId) :
    (lookupItem unicode cache req.name req.vault).toOption =
      findItem unicode cache.items req.name orgId := by
  unfold scopeOf at resolved
  cases vault : req.vault with
  | none =>
    rw [vault] at resolved
    cases resolved
    simp only [lookupItem]
    cases findItem unicode cache.items req.name none <;> rfl
  | some v =>
    simp only [vault] at resolved
    split at resolved
    case h_1 id found =>
      cases resolved
      simp only [lookupItem, found, List.length_singleton, gt_iff_lt, lt_self_iff_false, if_false,
        List.getElem?_cons_zero]
      cases findItem unicode cache.items req.name (some id) <;> rfl
    case h_2 => cases resolved

/-- A request that finds an item has a scope. -/
theorem scope_of_found (cache : VaultCache) (req : SecretRequest) (item : DecryptedItem)
    (found : lookupItem unicode cache req.name req.vault = .ok item) :
    ∃ orgId, scopeOf unicode cache req.vault = some orgId := by
  cases vault : req.vault with
  | none => exact ⟨none, rfl⟩
  | some v =>
    simp only [lookupItem, vault] at found
    cases resolved : cache.orgsByName.lookup (unicode.toLowercase v) with
    | none =>
      rw [resolved] at found
      cases found
    | some orgIds =>
      rw [resolved] at found
      cases orgIds with
      | nil => cases found
      | cons orgId others =>
        cases others with
        | nil => exact ⟨some orgId, by simp [scopeOf, resolved]⟩
        | cons other rest => simp at found

/-- An exact item is what the lookup finds. -/
theorem lookup_exact (cache : VaultCache) (req : SecretRequest) (exact : DecryptedItem)
    (isExact : exactItem unicode cache req = some exact) :
    lookupItem unicode cache req.name req.vault = .ok exact := by
  obtain ⟨orgId, resolved, first⟩ := Option.bind_eq_some_iff.mp isExact
  have searched := lookup_in_scope unicode cache req orgId resolved
  rw [find_item_exact, first] at searched
  exact (to_option_some_iff _ exact).mp searched

/-- Without an exact item the lookup finds no item of exactly the requested name. -/
theorem lookup_partial (cache : VaultCache) (req : SecretRequest) (item : DecryptedItem)
    (hidden : exactItem unicode cache req = none)
    (found : lookupItem unicode cache req.name req.vault = .ok item) : ¬ Named unicode req item := by
  obtain ⟨orgId, resolved⟩ := scope_of_found unicode cache req item found
  have missing : cache.items.find?
      (fun item => inScope orgId item && decide (Named unicode req item)) = none := by
    simpa [exactItem, resolved] using hidden
  have searched := lookup_in_scope unicode cache req orgId resolved
  rw [find_item_exact, missing, found] at searched
  have second : cache.items.find? (fun item => inScope orgId item &&
      contains (unicode.toLowercase item.name) (unicode.toLowercase req.name)) = some item :=
    searched.symm
  intro isNamed
  have scope : inScope orgId item = true := by
    have both := List.find?_some second
    simp only [Bool.and_eq_true] at both
    exact both.1
  have missed := List.find?_eq_none.mp missing item (List.mem_of_find?_eq_some second)
  simp [scope, isNamed] at missed

end

/-! ## A call in one piece -/

section
variable {RsaPrivateKey : Type} (client : Client RsaPrivateKey)

/-- `refresh_if_due`: the snapshot that the sync gives, if it gives one and the cooldown
is over. -/
def refreshIfDue (sinceLast : Nat) (synced : Option VaultCache) : Option VaultCache :=
  if sinceLast < client.minRefreshInterval then none else synced

/-- `fetch_secrets` on a cache, with what a sync would give. -/
def fetchSecrets (cache : VaultCache) (sinceLast : Nat) (synced : Option VaultCache)
    (requests : List SecretRequest) : Call VaultError (List String) :=
  match tryFetchSecrets client (some cache) requests with
  | .error (.err (.lookup miss)) =>
    if miss.isStaleMiss then
      match refreshIfDue client sinceLast synced with
      | some fresh => tryFetchSecrets client (some fresh) requests
      | none => .error (.err (.lookup miss))
    else .error (.err (.lookup miss))
  | other => other

/-- A lookup finds an item. -/
def Finds (cache : VaultCache) (req : SecretRequest) : Prop :=
  ∃ item, lookupItem client.unicode cache req.name req.vault = .ok item

/-- The first lookup of the list that fails is a stale miss. -/
def FirstMisses (cache : VaultCache) (requests : List SecretRequest) : Prop :=
  ∃ before req after miss, requests = before ++ req :: after ∧
    (∀ other ∈ before, Finds client cache other) ∧
    lookupItem client.unicode cache req.name req.vault = .error (.err miss) ∧
    miss.isStaleMiss = true

/-- The first lookup has failed with a stale miss. -/
def Missed (cache : VaultCache) (requests : List SecretRequest) (miss : LookupError) : Prop :=
  tryFetchSecrets client (some cache) requests = .error (.err (.lookup miss)) ∧
    miss.isStaleMiss = true

/-- The lookups of a list end with a stale miss exactly when the first one that fails is
one. -/
theorem first_misses_iff (cache : VaultCache) (requests : List SecretRequest) :
    FirstMisses client cache requests ↔ ∃ miss, Missed client cache requests miss := by
  unfold FirstMisses Missed
  simp only [try_fetch_error_iff]
  constructor
  · rintro ⟨before, req, after, miss, same, found, missed, stale⟩
    exact ⟨miss, ⟨before, req, after, .err miss, same, found, missed, rfl⟩, stale⟩
  · rintro ⟨miss, ⟨before, req, after, cause, same, found, missed, isMiss⟩, stale⟩
    cases cause with
    | panic => cases isMiss
    | err other =>
      cases isMiss
      exact ⟨before, req, after, miss, same, found, missed, stale⟩

/-- A call whose lookups are all found is answered from the cache. -/
theorem fetch_found (cache : VaultCache) (sinceLast : Nat) (synced : Option VaultCache)
    (requests : List SecretRequest) (values : List String)
    (found : tryFetchSecrets client (some cache) requests = .ok values) :
    fetchSecrets client cache sinceLast synced requests = .ok values := by
  unfold fetchSecrets
  rw [found]

/-- A stale miss that no new snapshot follows is the result of the call. -/
theorem fetch_unsynced (cache : VaultCache) (sinceLast : Nat) (synced : Option VaultCache)
    (requests : List SecretRequest) (miss : LookupError)
    (missed : Missed client cache requests miss)
    (skipped : refreshIfDue client sinceLast synced = none) :
    fetchSecrets client cache sinceLast synced requests = .error (.err (.lookup miss)) := by
  simp [fetchSecrets, missed.1, missed.2, skipped]

/-- After a stale miss the lookups on a new snapshot are the result of the call. -/
theorem fetch_synced (cache fresh : VaultCache) (sinceLast : Nat) (synced : Option VaultCache)
    (requests : List SecretRequest) (miss : LookupError)
    (missed : Missed client cache requests miss)
    (installed : refreshIfDue client sinceLast synced = some fresh) :
    fetchSecrets client cache sinceLast synced requests =
      tryFetchSecrets client (some fresh) requests := by
  simp [fetchSecrets, missed.1, missed.2, installed]

/-- A call that is answered found everything on its cache, or missed first and found
everything on a new snapshot. -/
theorem fetch_answered (cache : VaultCache) (sinceLast : Nat) (synced : Option VaultCache)
    (requests : List SecretRequest) (values : List String)
    (answered : fetchSecrets client cache sinceLast synced requests = .ok values) :
    tryFetchSecrets client (some cache) requests = .ok values ∨
      ∃ miss fresh, Missed client cache requests miss ∧
        refreshIfDue client sinceLast synced = some fresh ∧
        tryFetchSecrets client (some fresh) requests = .ok values := by
  unfold fetchSecrets at answered
  split at answered
  case h_1 miss looked =>
    split_ifs at answered with stale
    split at answered
    case h_1 fresh installed => exact .inr ⟨miss, fresh, ⟨looked, stale⟩, installed, answered⟩
    case h_2 => cases answered
  case h_2 => exact .inl answered

/-- What the call owes to a request whose exact item only the server has: it is answered,
at the place of the request with that item's value, and what is answered without a sync is
no partial match. -/
structure AnswersExactly (cache server : VaultCache) (sinceLast : Nat)
    (requests : List SecretRequest) (position : Nat) (req : SecretRequest)
    (exact : DecryptedItem) : Prop where
  answered : ∃ values, fetchSecrets client cache sinceLast (some server) requests = .ok values ∧
    values[position]? = some (extractSecret client.values exact)
  resynced : ∀ sinceLast synced, refreshIfDue client sinceLast synced = none →
    ∀ values, fetchSecrets client cache sinceLast synced requests = .ok values →
    ∀ item, lookupItem client.unicode cache req.name req.vault = .ok item →
      Named client.unicode req item

/-- If all lookups find something, the request is answered by a partial match without any
sync. -/
theorem found_hides (cache server : VaultCache) (sinceLast : Nat)
    (requests : List SecretRequest) (position : Nat) (req : SecretRequest) (exact : DecryptedItem)
    (values : List String) (placed : requests[position]? = some req)
    (hidden : exactItem client.unicode cache req = none)
    (found : tryFetchSecrets client (some cache) requests = .ok values) :
    ¬ AnswersExactly client cache server sinceLast requests position req exact := by
  intro answers
  obtain ⟨item, finds, -⟩ :=
    (values_indexed client cache requests values found).2 position req placed
  have isNamed := answers.resynced 0 none (by simp [refreshIfDue]) values
    (fetch_found client cache 0 none requests values found) item finds
  exact lookup_partial client.unicode cache req item hidden finds isNamed

/-- If the first lookup that fails is a stale miss, the call is answered from the server's
vault. -/
theorem missed_answers (cache server : VaultCache) (sinceLast : Nat)
    (requests : List SecretRequest) (position : Nat) (req : SecretRequest) (exact : DecryptedItem)
    (miss : LookupError) (placed : requests[position]? = some req)
    (current : exactItem client.unicode server req = some exact)
    (due : ¬ sinceLast < client.minRefreshInterval)
    (missed : Missed client cache requests miss)
    (served : ∀ other ∈ requests, Finds client server other) :
    AnswersExactly client cache server sinceLast requests position req exact := by
  have fresh : refreshIfDue client sinceLast (some server) = some server := if_neg due
  constructor
  · obtain ⟨values, looked⟩ := found_answered client server requests served
    obtain ⟨item, finds, value⟩ :=
      (values_indexed client server requests values looked).2 position req placed
    rw [lookup_exact client.unicode server req exact current] at finds
    cases finds
    refine ⟨values, ?_, value⟩
    rw [fetch_synced client cache server sinceLast _ requests miss missed fresh]
    exact looked
  · intro sinceLast synced skipped values answered
    rw [fetch_unsynced client cache sinceLast synced requests miss missed skipped] at answered
    cases answered

/-- Where the cache has no item of the exact name, the server has one, the cooldown is
over and the sync succeeds, the request gets the exact item's value if and only if the
first lookup of the list that fails on the cache is a stale miss and the server has an
item for every request. -/
theorem answers_exactly_iff (cache server : VaultCache) (sinceLast : Nat)
    (requests : List SecretRequest) (position : Nat) (req : SecretRequest) (exact : DecryptedItem)
    (placed : requests[position]? = some req)
    (hidden : exactItem client.unicode cache req = none)
    (current : exactItem client.unicode server req = some exact)
    (due : ¬ sinceLast < client.minRefreshInterval) :
    AnswersExactly client cache server sinceLast requests position req exact ↔
      FirstMisses client cache requests ∧ ∀ other ∈ requests, Finds client server other := by
  rw [first_misses_iff]
  constructor
  · intro answers
    obtain ⟨values, answered, -⟩ := answers.answered
    rcases fetch_answered client cache sinceLast _ requests values answered with
      found | ⟨miss, fresh, missed, installed, looked⟩
    · exact absurd answers (found_hides client cache server sinceLast requests position req exact
        values placed hidden found)
    · rw [refreshIfDue, if_neg due] at installed
      cases installed
      refine ⟨⟨miss, missed⟩, fun other member => ?_⟩
      obtain ⟨place, placedToo⟩ := List.getElem?_of_mem member
      obtain ⟨item, finds, -⟩ :=
        (values_indexed client server requests values looked).2 place other placedToo
      exact ⟨item, finds⟩
  · rintro ⟨⟨miss, missed⟩, served⟩
    exact missed_answers client cache server sinceLast requests position req exact miss placed
      current due missed served

end

/-! ## Undisturbed calls -/

section
variable {RsaPrivateKey : Type} (client : Client RsaPrivateKey) {ι : Type} [DecidableEq ι]

/-- A step of the call, or time that passes. -/
def Own (id : ι) : System ι → Event ι → Prop
  | _, .fetch other _ => other = id
  | _, .elapse _ => True
  | _, _ => False

/-- The cache is still the one the call began with, refreshed at least `elapsed` ago. -/
structure Unchanged (cache : VaultCache) (elapsed : Nat) (system : System ι) : Prop where
  vault : system.session.vault = some cache
  age : elapsed ≤ system.now - system.session.lastRefreshAt

/-- The call in one piece explains the phase that the call has reached. -/
def Explained (cache : VaultCache) (elapsed : Nat) (requests : List SecretRequest)
    (system : System ι) : Fetch → Prop
  | .looking asked => asked = requests ∧ Unchanged cache elapsed system
  | .queued asked miss =>
    asked = requests ∧ Missed client cache requests miss ∧ Unchanged cache elapsed system
  | .checking asked miss =>
    asked = requests ∧ Missed client cache requests miss ∧ Unchanged cache elapsed system
  | .refreshing asked miss _ =>
    asked = requests ∧ Missed client cache requests miss ∧ Unchanged cache elapsed system ∧
      ∃ sinceLast, elapsed ≤ sinceLast ∧ ¬ sinceLast < client.minRefreshInterval
  | .retrying asked =>
    asked = requests ∧ (∃ miss, Missed client cache requests miss) ∧
      (∃ fresh, system.session.vault = some fresh) ∧
      ∃ sinceLast, elapsed ≤ sinceLast ∧ ¬ sinceLast < client.minRefreshInterval
  | .returned asked result =>
    ∃ sinceLast synced, elapsed ≤ sinceLast ∧
      .returned asked result = settled requests
        (fetchSecrets client cache sinceLast synced requests) ∧
      ∀ fresh, refreshIfDue client sinceLast synced = some fresh →
        system.session.vault = some fresh
  | _ => True

omit [DecidableEq ι] in
/-- A call that ends with the miss of its first lookup. -/
theorem explained_unsynced (cache : VaultCache) (elapsed : Nat) (requests : List SecretRequest)
    (system : System ι) (miss : LookupError) (missed : Missed client cache requests miss) :
    Explained client cache elapsed requests system
      (.returned requests (.error (.lookup miss))) := by
  have skipped : refreshIfDue client elapsed none = none := by simp [refreshIfDue]
  refine ⟨elapsed, none, le_refl _, ?_, fun fresh installed => ?_⟩
  · rw [fetch_unsynced client cache elapsed none requests miss missed skipped]
    rfl
  · rw [skipped] at installed
    cases installed

omit [DecidableEq ι] in
/-- A call at its first lookup. -/
theorem explained_first (cache : VaultCache) (elapsed : Nat) (requests : List SecretRequest)
    (system : System ι) (unchanged : Unchanged cache elapsed system) :
    Explained client cache elapsed requests system
      (afterFirstLookup requests (tryFetchSecrets client (some cache) requests)) := by
  have skipped : refreshIfDue client elapsed none = none := by simp [refreshIfDue]
  cases looked : tryFetchSecrets client (some cache) requests with
  | ok values =>
    refine ⟨elapsed, none, le_refl _, ?_, fun fresh installed => ?_⟩
    · rw [fetch_found client cache elapsed none requests values looked]
      rfl
    · rw [skipped] at installed
      cases installed
  | error halt =>
    obtain ⟨req, member, cause, fails, rfl⟩ := try_fetch_error client cache requests halt looked
    cases cause with
    | panic => trivial
    | err miss =>
      simp only [afterFirstLookup, Halt.map]
      split_ifs with stale
      · exact ⟨rfl, ⟨looked, stale⟩, unchanged⟩
      · refine ⟨elapsed, none, le_refl _, ?_, fun fresh installed => ?_⟩
        · simp [fetchSecrets, looked, Halt.map, stale, settled]
        · rw [skipped] at installed
          cases installed

omit [DecidableEq ι] in
/-- A call at its retry. -/
theorem explained_retry (cache fresh : VaultCache) (elapsed sinceLast : Nat)
    (requests : List SecretRequest) (system : System ι) (miss : LookupError)
    (missed : Missed client cache requests miss) (vault : system.session.vault = some fresh)
    (later : elapsed ≤ sinceLast) (due : ¬ sinceLast < client.minRefreshInterval) :
    Explained client cache elapsed requests system
      (settled requests (tryFetchSecrets client (some fresh) requests)) := by
  have installed : refreshIfDue client sinceLast (some fresh) = some fresh := if_neg due
  have same := fetch_synced client cache fresh sinceLast (some fresh) requests miss missed installed
  have ends : ∀ asked result,
      settled requests (tryFetchSecrets client (some fresh) requests) = .returned asked result →
      Explained client cache elapsed requests system (.returned asked result) := by
    intro asked result isResult
    refine ⟨sinceLast, some fresh, later, by rw [same, isResult], fun other isOther => ?_⟩
    rw [installed] at isOther
    cases isOther
    exact vault
  rcases settled_cases client fresh requests with ⟨values, -, ended⟩ | ⟨error, ended⟩ | ended
  · rw [ended]
    exact ends requests (.ok values) ended
  · rw [ended]
    exact ends requests (.error (.lookup error)) ended
  · rw [ended]
    trivial

omit [DecidableEq ι] in
/-- Time leaves the phase of a call explained. -/
theorem explained_elapse (cache : VaultCache) (elapsed duration : Nat)
    (requests : List SecretRequest) (system : System ι) (fetch : Fetch)
    (explained : Explained client cache elapsed requests system fetch) :
    Explained client cache elapsed requests { system with now := system.now + duration } fetch := by
  have older : Unchanged cache elapsed system →
      Unchanged cache elapsed { system with now := system.now + duration } := by
    rintro ⟨vault, age⟩
    exact ⟨vault, by dsimp only; omega⟩
  cases fetch with
  | looking asked => exact ⟨explained.1, older explained.2⟩
  | queued asked miss => exact ⟨explained.1, explained.2.1, older explained.2.2⟩
  | checking asked miss => exact ⟨explained.1, explained.2.1, older explained.2.2⟩
  | refreshing asked miss refresh =>
    exact ⟨explained.1, explained.2.1, older explained.2.2.1, explained.2.2.2⟩
  | _ => exact explained

/-- Each step of the call keeps its phase explained. -/
theorem explained_fetch (cache : VaultCache) (elapsed : Nat) (requests : List SecretRequest)
    (system next : System ι) (id : ι) (signal : Signal)
    (explained : Explained client cache elapsed requests system (system.fetches id))
    (move : Move client system (.fetch id signal) next) :
    Explained client cache elapsed requests next (next.fetches id) := by
  cases move with
  | look _ asked looking =>
    rw [looking] at explained
    obtain ⟨rfl, unchanged⟩ := explained
    rw [with_fetch_self, unchanged.vault]
    exact explained_first client cache elapsed asked _ ⟨unchanged.vault, unchanged.age⟩
  | lock _ asked miss queued free =>
    rw [queued] at explained
    obtain ⟨rfl, missed, unchanged⟩ := explained
    simp only [with_fetch_self]
    exact ⟨rfl, missed, unchanged.vault, unchanged.age⟩
  | skip _ asked miss checking cooling =>
    rw [checking] at explained
    obtain ⟨rfl, missed, unchanged⟩ := explained
    simp only [with_fetch_self]
    exact explained_unsynced client cache elapsed asked _ miss missed
  | start _ asked miss checking due =>
    rw [checking] at explained
    obtain ⟨rfl, missed, unchanged⟩ := explained
    rw [with_fetch_self]
    exact ⟨rfl, missed, ⟨unchanged.vault, unchanged.age⟩, _, unchanged.age, due⟩
  | onDemand _ asked miss refresh _ session progress refreshing taken =>
    rw [refreshing] at explained
    obtain ⟨rfl, missed, unchanged, overdue⟩ := explained
    simp only [with_fetch_self]
    rcases refresh_move_cache client system.now system.session session refresh signal progress
      (refresh_move client system.now system.session session refresh signal progress taken) with
      ⟨vault, refreshed, goesOn⟩ | ⟨-, ⟨fresh, installed⟩, -, rfl⟩
    · rcases progress with later | (error | panic) | _
      · refine ⟨rfl, missed, ⟨?_, ?_⟩, overdue⟩
        · exact vault.trans unchanged.vault
        · have age := unchanged.age
          rw [← refreshed] at age
          exact age
      · exact explained_unsynced client cache elapsed asked _ miss missed
      · trivial
      · exact absurd rfl goesOn
    · exact ⟨rfl, ⟨miss, missed⟩, ⟨fresh, installed⟩, overdue⟩
  | retry _ asked retrying =>
    rw [retrying] at explained
    obtain ⟨rfl, ⟨miss, missed⟩, ⟨fresh, vault⟩, sinceLast, later, due⟩ := explained
    rw [with_fetch_self, vault]
    exact explained_retry client cache fresh elapsed sinceLast asked _ miss missed vault later due

/-- The result of a call that nothing disturbs is that of the call in one piece. What it
calls the new snapshot is in the cache at the end. -/
theorem undisturbed_call (system last : System ι) (id : ι) (cache : VaultCache)
    (requests asked : List SecretRequest) (result : Except VaultError (List String))
    (events : List (Event ι)) (begun : system.fetches id = .looking requests)
    (cached : system.session.vault = some cache)
    (alone : Meets (step client) (Own id) system events)
    (ran : run (step client) system events = some last)
    (returned : last.fetches id = .returned asked result) :
    ∃ sinceLast synced, system.now - system.session.lastRefreshAt ≤ sinceLast ∧
      .returned asked result = settled requests
        (fetchSecrets client cache sinceLast synced requests) ∧
      ∀ fresh, refreshIfDue client sinceLast synced = some fresh →
        last.session.vault = some fresh := by
  have explained : Explained client cache (system.now - system.session.lastRefreshAt) requests last
      (last.fetches id) := by
    refine run_keeps (step client) (Own id) (fun system => Explained client cache _ requests system
      (system.fetches id)) ?_ system last events ?_ alone ran
    · intro system event next explained own taken
      cases event with
      | elapse duration =>
        cases taken
        exact explained_elapse client cache _ duration requests system _ explained
      | fetch other signal =>
        have same : other = id := own
        subst same
        exact explained_fetch client cache _ requests system next other signal explained
          (step_move client system next _ taken)
      | arrive other asked => exact False.elim own
      | cacheLoop signal => exact False.elim own
      | tokenLoop signal => exact False.elim own
    · rw [begun]
      exact ⟨rfl, cached, le_refl _⟩
  rw [returned] at explained
  exact explained

end

/-! ## A hidden item -/

def dbRequest : SecretRequest := ⟨"db", none⟩

def keyRequest : SecretRequest := ⟨"key", none⟩

/-- A cache with an item whose name contains the requested one. -/
def staleCache : VaultCache := ⟨[sampleItem "db-old" "old"], ∅⟩

/-- The vault after the requested item was created. -/
def currentVault : VaultCache := ⟨[sampleItem "db-old" "old", sampleItem "db" "new"], ∅⟩

/-- The vault after a second item was created. -/
def twoItems : VaultCache :=
  ⟨[sampleItem "db-old" "old", sampleItem "db" "new", sampleItem "key" "k"], ∅⟩

/-- The old item would answer for the new one, but a second item is missing in the cache. -/
theorem answers_exactly_iff_sample :
    AnswersExactly sampleClient staleCache twoItems (60 * secondNs) [dbRequest, keyRequest] 0
      dbRequest (sampleItem "db" "new") := by
  refine (answers_exactly_iff sampleClient staleCache twoItems (60 * secondNs)
    [dbRequest, keyRequest] 0 dbRequest (sampleItem "db" "new") rfl (by decide +kernel)
    (by decide +kernel) (by decide +kernel)).mpr ⟨?_, ?_⟩
  · refine ⟨[dbRequest], keyRequest, [], .notFound "key" 1, rfl, ?_, by decide +kernel, rfl⟩
    exact List.forall_mem_singleton.mpr ⟨sampleItem "db-old" "old", by decide +kernel⟩
  · exact List.forall_mem_cons.mpr ⟨⟨sampleItem "db" "new", by decide +kernel⟩,
      List.forall_mem_singleton.mpr ⟨sampleItem "key" "k", by decide +kernel⟩⟩

/-- A minute after the last refresh the old item answers for the new one. -/
theorem partial_match_hides :
    exactItem asciiTables staleCache dbRequest = none ∧
      exactItem asciiTables currentVault dbRequest = some (sampleItem "db" "new") ∧
      ¬ 60 * secondNs < sampleClient.minRefreshInterval ∧
      fetchSecrets sampleClient staleCache (60 * secondNs) (some currentVault) [dbRequest] =
        .ok ["old"] ∧
      ¬ AnswersExactly sampleClient staleCache currentVault (60 * secondNs) [dbRequest] 0 dbRequest
        (sampleItem "db" "new") := by
  have answered : fetchSecrets sampleClient staleCache (60 * secondNs) (some currentVault)
      [dbRequest] = .ok ["old"] := by
    decide +kernel
  refine ⟨by decide +kernel, by decide +kernel, by decide +kernel, answered, fun answers => ?_⟩
  obtain ⟨values, exactly, value⟩ := answers.answered
  rw [answered] at exactly
  cases exactly
  revert value
  decide

end VaultwardenOperator.ExactMatch

import VaultwardenOperator.ClientSteps

/-!
# Misses that a refresh would answer

A call that misses refreshes the cache and looks again, but only if its own
`refresh_if_due` answers true. The history remembers, for each call, the cache
its first lookup read and the cache that was there when its `refresh_if_due`
returned. A false answer repeats the miss in the first cache; that cache may
since have been replaced, by the very refresh the call was waiting for.
-/

namespace VaultwardenOperator.RefreshOnMiss

open Rust Sync Machine VaultClient ClientSteps

/-- What each call has seen of the cache. -/
structure Seen (ι : Type) where
  firstRead : ι → Option VaultCache
  atReturn : ι → Option VaultCache

def nothingSeen (ι : Type) : Seen ι := ⟨fun _ => none, fun _ => none⟩

section
variable {RsaPrivateKey : Type} (client : Client RsaPrivateKey) {ι : Type} [DecidableEq ι]

/-- The history after a step. -/
def record (seen : Seen ι) (system : System ι) (event : Event ι) (next : System ι) : Seen ι :=
  match event with
  | .fetch id _ =>
    match system.fetches id with
    | .looking _ =>
      { seen with firstRead := Function.update seen.firstRead id system.session.vault }
    | fetch =>
      if Inside fetch ∧ ¬ Inside (next.fetches id) then
        { seen with atReturn := Function.update seen.atReturn id next.session.vault }
      else seen
  | _ => seen

/-- The requests of a call. -/
def requestsOf : Fetch → List SecretRequest
  | .looking requests | .queued requests _ | .checking requests _ | .refreshing requests _ _
  | .retrying requests | .returned requests _ => requests
  | .idle | .crashed => []

/-- The step makes `refresh_if_due` answer false: within the cooldown, or because
the refresh has failed. -/
def answersFalse (system : System ι) (id : ι) (signal : Signal) : Bool :=
  match system.fetches id with
  | .checking _ _ =>
    decide (system.now - system.session.lastRefreshAt < client.minRefreshInterval)
  | .refreshing _ _ refresh =>
    match refreshStep client system.now system.session refresh signal with
    | some (_, .done (.error (.err _))) => true
    | _ => false
  | _ => false

/-- The lookups of a request in two caches end alike: both find an item, or both miss. -/
def SameEnd : Call LookupError DecryptedItem → Call LookupError DecryptedItem → Bool
  | .ok _, .ok _ => true
  | .error (.err _), .error (.err _) => true
  | .error .panic, .error .panic => true
  | _, _ => false

/-- Two caches find items for the same of the requests. -/
def FindAlike (requests : List SecretRequest) : Option VaultCache → Option VaultCache → Prop
  | some left, some right => ∀ req ∈ requests,
    SameEnd (lookupItem client.unicode left req.name req.vault)
      (lookupItem client.unicode right req.name req.vault) = true
  | _, _ => False

/-- Where the result of a call is decided, the cache finds items for the same of its requests
as the one the call relies on: at a false answer the one its first lookup read, at the
retry the one its `refresh_if_due` left. -/
def Unmoved (pair : System ι × Seen ι) (event : Event ι) : Prop :=
  match event with
  | .fetch id signal =>
    (answersFalse client pair.1 id signal = true →
        FindAlike client (requestsOf (pair.1.fetches id)) (pair.2.firstRead id)
          pair.1.session.vault) ∧
      (isRetrying (pair.1.fetches id) = true →
        FindAlike client (requestsOf (pair.1.fetches id)) pair.1.session.vault
          (pair.2.atReturn id))
  | _ => True

instance (requests : List SecretRequest) :
    ∀ left right, Decidable (FindAlike client requests left right)
  | some _, some _ => inferInstanceAs (Decidable (∀ _ ∈ requests, _ = true))
  | none, _ => isFalse id
  | some _, none => isFalse id

instance (pair : System ι × Seen ι) (event : Event ι) : Decidable (Unmoved client pair event) :=
  match event with
  | .fetch _ _ => inferInstanceAs (Decidable (_ ∧ _))
  | .elapse _ => isTrue trivial
  | .arrive _ _ => isTrue trivial
  | .cacheLoop _ => isTrue trivial
  | .tokenLoop _ => isTrue trivial

/-- The requests fail on the cache. -/
def Fails (cache : VaultCache) (requests : List SecretRequest) : Prop :=
  ∃ error, tryFetchSecrets client (some cache) requests = .error (.err error)

/-- No caller is lost: a stale miss that a call returns is also a failure on the
cache that was there when its `refresh_if_due` returned. -/
def NoLostCaller (pair : System ι × Seen ι) : Prop :=
  ∀ id requests miss, pair.1.fetches id = .returned requests (.error (.lookup miss)) →
    miss.isStaleMiss = true →
      ∃ cache, pair.2.atReturn id = some cache ∧ Fails client cache requests

/-- What is known of a call in each of its phases. -/
def Explained (firstRead atReturn : Option VaultCache) : Fetch → Prop
  | .queued requests miss =>
    tryFetchSecrets client firstRead requests = .error (.err (.lookup miss))
  | .checking requests miss =>
    tryFetchSecrets client firstRead requests = .error (.err (.lookup miss))
  | .refreshing requests miss _ =>
    tryFetchSecrets client firstRead requests = .error (.err (.lookup miss))
  | .returned requests (.error (.lookup miss)) =>
    miss.isStaleMiss = true → ∃ cache, atReturn = some cache ∧ Fails client cache requests
  | _ => True

structure Kept (pair : System ι × Seen ι) : Prop where
  sound : Sound pair.1
  explained : ∀ id,
    Explained client (pair.2.firstRead id) (pair.2.atReturn id) (pair.1.fetches id)

omit [DecidableEq ι] in
/-- What fails on a cache fails on one that finds items for the same requests. -/
theorem fails_alike (left right : VaultCache) (requests : List SecretRequest) (error : VaultError)
    (alike : FindAlike client requests (some left) (some right))
    (failed : tryFetchSecrets client (some left) requests = .error (.err error)) :
    Fails client right requests := by
  obtain ⟨before, req, after, cause, rfl, found, missed, isError⟩ :=
    (try_fetch_error_iff client left requests _).mp failed
  have ends := alike req (by simp)
  rw [missed] at ends
  cases cause with
  | panic => cases isError
  | err miss =>
    cases looked : lookupItem client.unicode right req.name req.vault with
    | ok item =>
      rw [looked] at ends
      cases ends
    | error halt =>
      rw [looked] at ends
      cases halt with
      | panic => cases ends
      | err other =>
        refine ⟨.lookup other, (try_fetch_error_iff client right _ _).mpr
          ⟨before, req, after, .err other, rfl, fun earlier member => ?_, looked, rfl⟩⟩
        have endsEarlier := alike earlier (List.mem_append_left _ member)
        obtain ⟨item, isItem⟩ := found earlier member
        rw [isItem] at endsEarlier
        cases again : lookupItem client.unicode right earlier.name earlier.vault with
        | ok item => exact ⟨item, rfl⟩
        | error halt =>
          rw [again] at endsEarlier
          cases endsEarlier

omit [DecidableEq ι] in
/-- A call whose retry is settled is explained by a cache that finds items for the same
requests as the one of the retry. -/
theorem explained_settled (firstRead atReturn : Option VaultCache) (cache : VaultCache)
    (requests : List SecretRequest) (alike : FindAlike client requests (some cache) atReturn) :
    Explained client firstRead atReturn
      (settled requests (tryFetchSecrets client (some cache) requests)) := by
  cases result : tryFetchSecrets client (some cache) requests with
  | ok values => trivial
  | error halt =>
    cases halt with
    | panic => trivial
    | err error =>
      cases error with
      | lookup miss =>
        cases atReturn with
        | none => exact alike.elim
        | some left =>
          exact fun _ => ⟨left, rfl, fails_alike client cache left requests _ alike result⟩
      | _ => trivial

/-- After the first lookup a call is explained by the cache it read. -/
theorem explained_first (vault atReturn : Option VaultCache) (requests : List SecretRequest) :
    Explained client vault atReturn
      (afterFirstLookup requests (tryFetchSecrets client vault requests)) := by
  cases result : tryFetchSecrets client vault requests with
  | ok values => trivial
  | error halt =>
    cases halt with
    | panic => trivial
    | err error =>
      cases error with
      | lookup miss =>
        simp only [afterFirstLookup]
        split_ifs with stale
        · exact result
        · exact fun isStale => absurd isStale stale
      | _ => trivial

omit [DecidableEq ι] in
/-- A false answer repeats the miss of the first lookup, which is a failure on a cache that
finds items for the same requests. -/
theorem explained_false (firstRead : Option VaultCache) (cache : VaultCache)
    (requests : List SecretRequest) (miss : LookupError)
    (missed : tryFetchSecrets client firstRead requests = .error (.err (.lookup miss)))
    (alike : FindAlike client requests firstRead (some cache)) :
    Explained client firstRead (some cache) (.returned requests (.error (.lookup miss))) := by
  cases firstRead with
  | none => exact alike.elim
  | some read => exact fun _ => ⟨cache, rfl, fails_alike client read cache requests _ alike missed⟩

/-- A call records nothing while it stays on one side of `refresh_if_due` and is not
at its first lookup. -/
theorem record_inside (seen : Seen ι) (system next : System ι) (id : ι) (signal : Signal)
    (looked : ∀ requests, system.fetches id ≠ .looking requests)
    (same : Inside (system.fetches id) → Inside (next.fetches id)) :
    record seen system (.fetch id signal) next = seen := by
  have stays : ¬ (Inside (system.fetches id) ∧ ¬ Inside (next.fetches id)) :=
    fun leaves => leaves.2 (same leaves.1)
  cases phase : system.fetches id with
  | looking requests => exact absurd phase (looked requests)
  | _ =>
    rw [phase] at stays
    simp only [record, phase, if_neg stays]

/-- A call that leaves `refresh_if_due` records the cache it leaves. -/
theorem record_return (seen : Seen ι) (system next : System ι) (id : ι) (signal : Signal)
    (before : Inside (system.fetches id)) (after : ¬ Inside (next.fetches id)) :
    record seen system (.fetch id signal) next =
      { seen with atReturn := Function.update seen.atReturn id next.session.vault } := by
  have leaves : Inside (system.fetches id) ∧ ¬ Inside (next.fetches id) := ⟨before, after⟩
  cases phase : system.fetches id with
  | looking requests =>
    rw [phase] at before
    exact False.elim before
  | _ =>
    rw [phase] at leaves
    simp only [record, phase, if_pos leaves]

/-- The history of a call changes with its own steps only. -/
theorem record_apart (seen : Seen ι) (system next : System ι) (id other : ι) (signal : Signal)
    (distinct : other ≠ id) :
    (record seen system (.fetch id signal) next).firstRead other = seen.firstRead other ∧
      (record seen system (.fetch id signal) next).atReturn other = seen.atReturn other := by
  simp only [record]
  split
  · exact ⟨Function.update_of_ne distinct _ _, rfl⟩
  · split_ifs
    · exact ⟨rfl, Function.update_of_ne distinct _ _⟩
    · exact ⟨rfl, rfl⟩

/-- A step of a call keeps the invariant when it leaves the other calls alone and
the call itself explained. -/
theorem kept_update (system next : System ι) (seen : Seen ι) (id : ι) (signal : Signal)
    (fetch : Fetch) (kept : Kept client (system, seen)) (sound : Sound next)
    (fetches : next.fetches = (system.withFetch id fetch).fetches)
    (own : Explained client ((record seen system (.fetch id signal) next).firstRead id)
      ((record seen system (.fetch id signal) next).atReturn id) fetch) :
    Kept client (next, record seen system (.fetch id signal) next) := by
  refine ⟨sound, fun other => ?_⟩
  simp only [fetches]
  by_cases same : other = id
  · subst same
    rw [with_fetch_self]
    exact own
  · obtain ⟨firstRead, atReturn⟩ := record_apart seen system next id other signal same
    rw [with_fetch_other system id other fetch same, firstRead, atReturn]
    exact kept.explained other

/-- A step of the refresh of a call. A failed refresh repeats the miss, which the cache
bears out. -/
theorem kept_on_demand (system : System ι) (seen : Seen ι) (id : ι)
    (requests : List SecretRequest) (miss : LookupError) (refresh : Refresh) (signal : Signal)
    (session : Session) (progress : Progress Refresh (Call VaultError Unit))
    (kept : Kept client (system, seen))
    (sound : Sound { system.withFetch id (afterOnDemand requests miss progress) with
      session, refreshLock := lockAfter id progress })
    (refreshing : system.fetches id = .refreshing requests miss refresh)
    (taken : refreshStep client system.now system.session refresh signal =
      some (session, progress))
    (onFalse : answersFalse client system id signal = true →
      FindAlike client requests (seen.firstRead id) system.session.vault) :
    Kept client ({ system.withFetch id (afterOnDemand requests miss progress) with
      session, refreshLock := lockAfter id progress },
      record seen system (.fetch id signal)
        { system.withFetch id (afterOnDemand requests miss progress) with
          session, refreshLock := lockAfter id progress }) := by
  obtain ⟨cache, cached⟩ := kept.sound.cached
  have explained := kept.explained id
  simp only at explained
  rw [refreshing] at explained
  apply kept_update client system _ seen id _ _ kept sound rfl
  rcases progress with later | (_ | _) | _
  · rw [record_inside seen system _ id _ (by simp [refreshing])
      (fun _ => by simp only [with_fetch_self]; trivial)]
    exact explained
  · have alike := onFalse (by simp [answersFalse, refreshing, taken])
    rcases refresh_move_cache client system.now system.session session refresh signal _
      (refresh_move client system.now system.session session refresh signal _ taken) with
      ⟨untouched, -, -⟩ | ⟨-, -, -, ended⟩
    · rw [record_return seen system _ id _ (by rw [refreshing]; trivial)
        (by simp only [with_fetch_self]; exact False.elim)]
      simp only [Function.update_self, untouched]
      rw [cached] at alike ⊢
      exact explained_false client _ cache requests miss explained alike
    · cases ended
  · trivial
  · trivial

/-- A step of a call keeps the invariant. -/
theorem kept_fetch (system next : System ι) (seen : Seen ι) (id : ι) (signal : Signal)
    (kept : Kept client (system, seen)) (move : Move client system (.fetch id signal) next)
    (unmoved : Unmoved client (system, seen) (.fetch id signal)) :
    Kept client (next, record seen system (.fetch id signal) next) := by
  have sound := move_sound client system next _ kept.sound move
  obtain ⟨cache, cached⟩ := kept.sound.cached
  obtain ⟨onFalse, onRetry⟩ := unmoved
  have explained := kept.explained id
  simp only at onFalse onRetry explained
  cases move with
  | look _ requests looking =>
    apply kept_update client system _ seen id _ _ kept sound rfl
    simp only [record, looking, Function.update_self]
    exact explained_first client _ _ requests
  | lock _ requests miss queued free =>
    rw [queued] at explained
    apply kept_update client system _ seen id _ _ kept sound rfl
    rw [record_inside seen system _ id _ (by simp [queued])
      (by rw [queued]; exact False.elim)]
    exact explained
  | skip _ requests miss checking cooling =>
    rw [checking] at explained
    have alike := onFalse (by simpa [answersFalse, checking] using cooling)
    apply kept_update client system _ seen id _ _ kept sound rfl
    rw [record_return seen system _ id _ (by rw [checking]; trivial)
      (by simp only [with_fetch_self]; exact False.elim)]
    simp only [Function.update_self, with_fetch_session]
    rw [checking, cached] at alike
    rw [cached]
    exact explained_false client _ cache requests miss explained alike
  | start _ requests miss checking due =>
    rw [checking] at explained
    apply kept_update client system _ seen id _ _ kept sound rfl
    rw [record_inside seen system _ id _ (by simp [checking])
      (fun _ => by rw [with_fetch_self]; trivial)]
    exact explained
  | onDemand _ requests miss refresh _ session progress refreshing taken =>
    rw [refreshing] at onFalse
    exact kept_on_demand client system seen id requests miss refresh signal session progress kept
      sound refreshing taken onFalse
  | retry _ requests retrying =>
    have alike := onRetry (by rw [retrying]; rfl)
    rw [retrying, cached] at alike
    apply kept_update client system _ seen id _ _ kept sound rfl
    simp only [record, retrying, Inside, false_and, if_false]
    rw [cached]
    exact explained_settled client _ _ cache requests alike

/-- Each step keeps the invariant, provided that the cache still finds items for the same
requests where the result of a call is decided. -/
theorem kept_step :
    Preserves (observed (step client) record) (Unmoved client (ι := ι)) (Kept client) := by
  apply preserves_moves
  intro system next seen event kept unmoved move
  have sound := move_sound client system next event kept.sound move
  cases event with
  | fetch id signal => exact kept_fetch client system next seen id signal kept move unmoved
  | elapse duration =>
    cases move
    exact ⟨sound, kept.explained⟩
  | arrive id requests =>
    cases move
    refine ⟨sound, fun other => ?_⟩
    by_cases same : other = id
    · subst same
      simp [Explained]
    · simpa [record, same] using kept.explained other
  | cacheLoop signal => cases move <;> exact ⟨sound, kept.explained⟩
  | tokenLoop signal =>
    cases move
    exact ⟨sound, kept.explained⟩

/-- No caller is lost in a run in which the cache finds items for the same requests of a call
at the false answer of its `refresh_if_due` as at its first lookup, and at its retry as at the
true answer. -/
theorem stale_miss_confirmed (system last : System ι) (seen : Seen ι) (events : List (Event ι))
    (initial : Initial system)
    (met : Meets (observed (step client) record) (Unmoved client) (system, nothingSeen ι) events)
    (ran : run (observed (step client) record) (system, nothingSeen ι) events =
      some (last, seen)) : NoLostCaller client (last, seen) := by
  have initially : Kept client (system, nothingSeen ι) := by
    refine ⟨initial_sound system initial, fun id => ?_⟩
    rw [initial.idle id]
    trivial
  have kept : Kept client (last, seen) :=
    run_keeps _ _ _ (kept_step client) _ _ events initially met ran
  intro id requests miss returned stale
  have explained := kept.explained id
  rw [returned] at explained
  exact explained stale

end

/-- The result of a call that has returned. -/
def resultOf : Fetch → Option (List SecretRequest × Except VaultError (List String))
  | .returned requests result => some (requests, result)
  | _ => none

theorem returned_result (fetch : Fetch) (requests : List SecretRequest)
    (result : Except VaultError (List String)) (found : resultOf fetch = some (requests, result)) :
    fetch = .returned requests result := by
  cases fetch with
  | returned _ _ =>
    cases found
    rfl
  | _ => cases found

/-- Two calls miss the same new item. The refresh of the first fails, that of the second,
which has waited for the lock, brings the item. -/
def twoMisses : List (Event Bool) :=
  [.arrive true [⟨"db", none⟩], .fetch true .proceed] ++ missedLookup false ++
    [.fetch false (.sync (.http "connection refused")), .fetch true .proceed, .fetch true .proceed,
      .fetch true .proceed, .fetch true .proceed, .fetch true .proceed,
      .fetch true (.sync (.body (sampleSync [sampleCipher]))), .fetch true .proceed,
      .fetch true .proceed]

theorem stale_miss_confirmed_sample :
    ∃ last seen,
      run (observed (step sampleClient) record) (sampleSystem Bool, nothingSeen Bool) twoMisses =
        some (last, seen) ∧
      last.fetches false = .returned [⟨"db", none⟩] (.error (.lookup (.notFound "db" 0))) ∧
      last.fetches true = .returned [⟨"db", none⟩] (.ok ["db"]) ∧
      NoLostCaller sampleClient (last, seen) := by
  have ran : (run (observed (step sampleClient) record) (sampleSystem Bool, nothingSeen Bool)
      twoMisses).map (fun pair => [false, true].map (fun id => resultOf (pair.1.fetches id))) =
        some [some ([⟨"db", none⟩], .error (.lookup (.notFound "db" 0))),
          some ([⟨"db", none⟩], .ok ["db"])] := by
    decide +kernel
  obtain ⟨⟨last, seen⟩, ended, results⟩ := Option.map_eq_some_iff.mp ran
  obtain ⟨first, rest⟩ := List.cons.inj results
  obtain ⟨second, -⟩ := List.cons.inj rest
  exact ⟨last, seen, ended, returned_result _ _ _ first, returned_result _ _ _ second,
    stale_miss_confirmed sampleClient (sampleSystem Bool) last seen twoMisses
      (sample_initial Bool) (by decide +kernel) ended⟩

/-- Two calls miss the same new item. The second waits for the lock while the
first refreshes, and then finds itself within the cooldown. -/
def waitingMiss : List (Event Bool) :=
  [.arrive true [⟨"db", none⟩], .fetch true .proceed] ++ missedLookup false ++
    [.fetch false (.sync (.body (sampleSync [sampleCipher]))), .fetch false .proceed,
      .fetch true .proceed, .fetch true .proceed]

/-- The second call reports the item missing although the cache it leaves behind
has it. -/
theorem stale_miss_unconfirmed :
    Initial (sampleSystem Bool) ∧
      ∃ last seen,
        run (observed (step sampleClient) record) (sampleSystem Bool, nothingSeen Bool)
          waitingMiss = some (last, seen) ∧ ¬ NoLostCaller sampleClient (last, seen) := by
  have ran : (run (observed (step sampleClient) record) (sampleSystem Bool, nothingSeen Bool)
      waitingMiss).map (fun pair => (resultOf (pair.1.fetches true),
        (pair.2.atReturn true).map (fun cache =>
          (tryFetchSecrets sampleClient (some cache) [⟨"db", none⟩]).toOption))) =
      some (some ([⟨"db", none⟩], .error (.lookup (.notFound "db" 0))), some (some ["db"])) := by
    decide +kernel
  obtain ⟨⟨last, seen⟩, ended, same⟩ := Option.map_eq_some_iff.mp ran
  obtain ⟨result, answer⟩ := Prod.mk.inj same
  refine ⟨sample_initial Bool, last, seen, ended, fun noLostCaller => ?_⟩
  obtain ⟨cache, atReturn, error, fails⟩ :=
    noLostCaller true _ _ (returned_result _ _ _ result) rfl
  rw [atReturn, Option.map_some, fails] at answer
  cases answer

end VaultwardenOperator.RefreshOnMiss

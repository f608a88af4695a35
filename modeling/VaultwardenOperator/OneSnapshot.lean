import VaultwardenOperator.ClientSteps

/-!
# Answers from one snapshot

The values that a call returns are all looked up in one snapshot, under one hold
of the read lock. The moment of that lookup lies between the call and its
return: at the first attempt, or at the retry after a refresh. A snapshot is
always there, since a client is handed out only after its first refresh, and
nothing but a refresh that ends well ever writes the cache or its time.
-/

namespace VaultwardenOperator.OneSnapshot

open Rust Crypto Sync Auth Machine VaultClient ClientSteps

section
variable {RsaPrivateKey : Type} (client : Client RsaPrivateKey)

/-! ## New clients -/

/-- The session of a creation that has returned has a cache, refreshed in the past. -/
def CreationSound : Nat × Creation → Prop
  | (now, .syncing session _) => session.lastRefreshAt ≤ now
  | (now, .returned (.ok session)) =>
    (∃ cache, session.vault = some cache) ∧ session.lastRefreshAt ≤ now
  | _ => True

theorem creation_elapse (now duration : Nat) (creation : Creation)
    (sound : CreationSound (now, creation)) : CreationSound (now + duration, creation) := by
  cases creation with
  | syncing session refresh =>
    have past : session.lastRefreshAt ≤ now := sound
    exact Nat.le_add_right_of_le past
  | returned result =>
    cases result with
    | ok session => exact ⟨sound.1, Nat.le_add_right_of_le sound.2⟩
    | error error => trivial
  | authenticating => trivial
  | authenticated login => trivial
  | crashed => trivial

/-- The first refresh ends well only with a cache. -/
theorem first_refresh_sound (now : Nat) (session next : Session) (refresh : Refresh)
    (signal : Signal) (progress : Progress Refresh (Call VaultError Unit))
    (past : session.lastRefreshAt ≤ now)
    (taken : refreshStep client now session refresh signal = some (next, progress)) :
    CreationSound (now, afterFirstRefresh next progress) := by
  rcases refresh_move_cache client now session next refresh signal progress
    (refresh_move client now session next refresh signal progress taken) with
    ⟨-, refreshed, goesOn⟩ | ⟨-, installed, refreshed, ended⟩
  · rcases progress with later | (error | panic) | _
    · change next.lastRefreshAt ≤ now
      rwa [refreshed]
    · trivial
    · trivial
    · exact absurd rfl goesOn
  · subst ended
    exact ⟨installed, le_of_eq refreshed⟩

theorem creation_step_sound (now : Nat) (creation next : Creation) (signal : Signal)
    (sound : CreationSound (now, creation))
    (taken : creationStep client now creation signal = some next) : CreationSound (now, next) := by
  unfold creationStep at taken
  split at taken
  case h_1 answers =>
    split at taken <;> cases taken <;> trivial
  case h_2 login =>
    split at taken
    · cases taken
      trivial
    · cases taken
      exact le_refl now
  case h_3 session refresh =>
    obtain ⟨⟨reached, progress⟩, inside, same⟩ := Option.map_eq_some_iff.mp taken
    subst same
    exact first_refresh_sound client now session reached refresh _ progress sound inside
  case h_4 => cases taken

/-- A client that `VaultClient::new` returns has a cache. -/
theorem created_initial (ι : Type) (start now : Nat) (session : Session)
    (events : List CreationEvent)
    (created : run (create client) (start, .authenticating) events =
      some (now, .returned (.ok session))) : Initial (System.around ι now session) := by
  have sound : CreationSound (now, .returned (.ok session)) := by
    refine run_invariant (create client) CreationSound ?_ (start, .authenticating) _ events trivial
      created
    rintro ⟨now, creation⟩ event ⟨after, next⟩ sound taken
    cases event with
    | elapse duration =>
      cases taken
      exact creation_elapse now duration creation sound
    | signal signal =>
      obtain ⟨reached, inside, same⟩ := Option.map_eq_some_iff.mp taken
      cases same
      exact creation_step_sound client now creation next signal sound inside
  exact ⟨sound.1, sound.2, rfl, fun _ => rfl, rfl, rfl⟩

end

/-! ## Calls -/

/-- The requests of a call that has been made and has not returned. -/
def pending : Fetch → Option (List SecretRequest)
  | .looking requests => some requests
  | .queued requests _ => some requests
  | .checking requests _ => some requests
  | .refreshing requests _ _ => some requests
  | .retrying requests => some requests
  | _ => none

section
variable {RsaPrivateKey : Type} (client : Client RsaPrivateKey) {ι : Type} [DecidableEq ι]

/-- What a step does to one call: nothing, its begin, a step on the way, an answer from
the cache of that moment, the return of a miss, or a crash. -/
inductive CallMove (system next : System ι) (event : Event ι) (id : ι) : Prop where
  | still (same : next.fetches id = system.fetches id)
  | called (requests : List SecretRequest) (made : event = .arrive id requests)
      (after : pending (next.fetches id) = some requests)
  | onTheWay (requests : List SecretRequest) (before : pending (system.fetches id) = some requests)
      (after : pending (next.fetches id) = some requests)
  | answered (requests : List SecretRequest) (values : List String)
      (before : pending (system.fetches id) = some requests)
      (found : tryFetchSecrets client system.session.vault requests = .ok values)
      (after : next.fetches id = .returned requests (.ok values))
  | missed (requests : List SecretRequest) (miss : LookupError)
      (after : next.fetches id = .returned requests (.error (.lookup miss)))
  | crashed (after : next.fetches id = .crashed)

/-- The first lookup of a call misses or is settled. -/
theorem first_lookup_cases (requests : List SecretRequest)
    (result : Call VaultError (List String)) :
    (∃ miss, afterFirstLookup requests result = .queued requests miss) ∨
      afterFirstLookup requests result = settled requests result := by
  unfold afterFirstLookup
  split
  · split_ifs
    · exact .inl ⟨_, rfl⟩
    · exact .inr rfl
  · exact .inr rfl

/-- A step that changes one call is still for all others. -/
theorem own_call_move (system next : System ι) (event : Event ι) (call id : ι) (fetch : Fetch)
    (fetches : next.fetches = (system.withFetch call fetch).fetches)
    (own : next.fetches call = fetch → CallMove client system next event call) :
    CallMove client system next event id := by
  by_cases same : id = call
  · subst same
    exact own (by rw [fetches, with_fetch_self])
  · exact .still (by rw [fetches, with_fetch_other system call id fetch same])

omit [DecidableEq ι] in
/-- A call whose lookup is settled moves on to its end. -/
theorem settled_call_move (system next : System ι) (event : Event ι) (id : ι)
    (requests : List SecretRequest) (cached : ∃ cache, system.session.vault = some cache)
    (before : pending (system.fetches id) = some requests)
    (after : next.fetches id =
      settled requests (tryFetchSecrets client system.session.vault requests)) :
    CallMove client system next event id := by
  obtain ⟨cache, present⟩ := cached
  rw [present] at after
  rcases settled_cases client cache requests with
    ⟨values, found, ends⟩ | ⟨miss, ends⟩ | ends
  · exact .answered requests values before (by rw [present, found]) (by rw [after, ends])
  · exact .missed requests miss (by rw [after, ends])
  · exact .crashed (by rw [after, ends])

theorem call_move (system next : System ι) (event : Event ι)
    (cached : ∃ cache, system.session.vault = some cache) (move : Move client system event next)
    (id : ι) : CallMove client system next event id := by
  cases move with
  | arrive call requests idle =>
    refine own_call_move client system _ _ call id _ rfl (fun after => ?_)
    exact .called requests rfl (by rw [after]; rfl)
  | look call requests looking =>
    refine own_call_move client system _ _ call id _ rfl (fun after => ?_)
    have before : pending (system.fetches call) = some requests := by rw [looking]; rfl
    rcases first_lookup_cases requests (tryFetchSecrets client system.session.vault requests) with
      ⟨miss, queued⟩ | ends
    · exact .onTheWay requests before (by rw [after, queued]; rfl)
    · exact settled_call_move client system _ _ call requests cached before (by rw [after, ends])
  | lock call requests miss queued free =>
    refine own_call_move client system _ _ call id _ rfl (fun after => ?_)
    exact .onTheWay requests (by rw [queued]; rfl) (by rw [after]; rfl)
  | skip call requests miss checking cooling =>
    refine own_call_move client system _ _ call id _ rfl (fun after => ?_)
    exact .missed requests miss after
  | start call requests miss checking due =>
    refine own_call_move client system _ _ call id _ rfl (fun after => ?_)
    exact .onTheWay requests (by rw [checking]; rfl) (by rw [after]; rfl)
  | onDemand call requests miss refresh signal session progress refreshing taken =>
    refine own_call_move client system _ _ call id _ rfl (fun after => ?_)
    have before : pending (system.fetches call) = some requests := by rw [refreshing]; rfl
    rcases progress with later | (error | panic) | _
    · exact .onTheWay requests before (by rw [after]; rfl)
    · exact .missed requests miss after
    · exact .crashed after
    · exact .onTheWay requests before (by rw [after]; rfl)
  | retry call requests retrying =>
    refine own_call_move client system _ _ call id _ rfl (fun after => ?_)
    exact settled_call_move client system _ _ call requests cached (by rw [retrying]; rfl) after
  | elapse => exact .still rfl
  | tick => exact .still rfl
  | stop => exact .still rfl
  | background => exact .still rfl
  | tokenLoop => exact .still rfl

/-! ## Runs -/

/-- The values of a call are those of one snapshot, which was in the cache at a moment
between the call and its return. -/
def FromOneSnapshot (initial : System ι) (events : List (Event ι)) (id : ι)
    (requests : List SecretRequest) (values : List String) : Prop :=
  ∃ before during rest middle cache,
    events = before ++ .arrive id requests :: during ++ rest ∧
    run (step client) initial (before ++ .arrive id requests :: during) = some middle ∧
    pending (middle.fetches id) = some requests ∧ middle.session.vault = some cache ∧
    values.length = requests.length ∧
    ∀ (i : Nat) req, requests[i]? = some req → ∃ item,
      lookupItem client.unicode cache req.name req.vault = .ok item ∧
      values[i]? = some (extractSecret client.values item)

/-- What is known of a call after the events of a run. -/
structure Known (initial : System ι) (events : List (Event ι)) (last : System ι) (id : ι) :
    Prop where
  made : ∀ requests, pending (last.fetches id) = some requests →
    ∃ before during, events = before ++ .arrive id requests :: during
  answered : ∀ requests values, last.fetches id = .returned requests (.ok values) →
    FromOneSnapshot client initial events id requests values
  initialized : ∀ requests, last.fetches id ≠ .returned requests (.error .notInitialized)

/-- A call that has been made and has not returned. -/
theorem known_pending (initial next : System ι) (events before during : List (Event ι)) (id : ι)
    (requests : List SecretRequest) (after : pending (next.fetches id) = some requests)
    (made : events = before ++ .arrive id requests :: during) :
    Known client initial events next id where
  made requests' waiting := by
    rw [after] at waiting
    cases waiting
    exact ⟨before, during, made⟩
  answered requests' values returned := by
    rw [returned] at after
    cases after
  initialized requests' returned := by
    rw [returned] at after
    cases after

/-- One more step keeps what is known of a call. -/
theorem known_step (initial middle next : System ι) (events : List (Event ι)) (event : Event ι)
    (id : ι) (ran : run (step client) initial events = some middle) (sound : Sound middle)
    (known : Known client initial events middle id)
    (move : CallMove client middle next event id) :
    Known client initial (events ++ [event]) next id := by
  cases move with
  | still same =>
    constructor
    · intro requests waiting
      rw [same] at waiting
      obtain ⟨before, during, rfl⟩ := known.made requests waiting
      exact ⟨before, during ++ [event], by simp⟩
    · intro requests values returned
      rw [same] at returned
      obtain ⟨before, during, rest, moment, cache, rfl, others⟩ :=
        known.answered requests values returned
      exact ⟨before, during, rest ++ [event], moment, cache, by simp, others⟩
    · intro requests
      rw [same]
      exact known.initialized requests
  | called requests made after =>
    subst made
    exact known_pending client initial next _ events [] id requests after rfl
  | onTheWay requests before after =>
    obtain ⟨earlier, during, made⟩ := known.made requests before
    exact known_pending client initial next _ earlier (during ++ [event]) id requests after
      (by simp [made])
  | answered requests values before found after =>
    -- The snapshot is the one in the cache just before the step.
    refine ⟨by simp [after, pending], ?_, by simp [after]⟩
    intro requests' values' returned
    rw [after] at returned
    cases returned
    obtain ⟨earlier, during, rfl⟩ := known.made requests before
    obtain ⟨cache, present⟩ := sound.cached
    rw [present] at found
    exact ⟨earlier, during, [event], middle, cache, rfl, ran, before, present,
      values_indexed client cache requests values found⟩
  | missed requests miss after =>
    exact ⟨by simp [after, pending], by simp [after], by simp [after]⟩
  | crashed after =>
    exact ⟨by simp [after, pending], by simp [after], by simp [after]⟩

/-- What is known of the calls after every run. -/
theorem run_known (initial last : System ι) (events : List (Event ι)) (isInitial : Initial initial)
    (ran : run (step client) initial events = some last) (id : ι) :
    Known client initial events last id := by
  induction events using List.reverseRecOn generalizing last with
  | nil =>
    cases ran
    have idle := isInitial.idle id
    exact ⟨by simp [idle, pending], by simp [idle], by simp [idle]⟩
  | append_singleton before event inductionHypothesis =>
    obtain ⟨middle, reached, following⟩ := run_prefix _ initial last before [event] ran
    obtain ⟨next, taken, ended⟩ := run_cons _ middle last event [] following
    cases ended
    have sound : Sound middle :=
      run_invariant (step client) Sound (fun system event next sound taken =>
        move_sound client system next event sound (step_move client system next event taken))
        initial middle before (initial_sound initial isInitial) reached
    exact known_step client initial middle last before event id reached sound
      (inductionHypothesis middle reached)
      (call_move client middle last event sound.cached
        (step_move client middle last event taken) id)

/-! ## Failed refreshes -/

/-- The step ends a `refresh_vault_cache` with `Ok`. -/
def EndsRefresh (system next : System ι) (event : Event ι) : Prop :=
  ∃ task refresh signal, taskOf event = some task ∧ refreshOf system task = some refresh ∧
    refreshStep client system.now system.session refresh signal =
      some (next.session, .done (.ok ()))

/-- A step that does not end a refresh with `Ok` leaves the cache and its time as they
were; so do all steps of a refresh that fails. -/
theorem failure_keeps (system next : System ι) (event : Event ι)
    (move : Move client system event next) (ends : ¬ EndsRefresh client system next event) :
    next.session.vault = system.session.vault ∧
      next.session.lastRefreshAt = system.session.lastRefreshAt := by
  have refreshKeeps : ∀ task refresh signal progress, taskOf event = some task →
      refreshOf system task = some refresh →
      refreshStep client system.now system.session refresh signal =
        some (next.session, progress) →
      next.session.vault = system.session.vault ∧
        next.session.lastRefreshAt = system.session.lastRefreshAt := by
    intro task refresh signal progress own running taken
    rcases refresh_move_cache client system.now system.session next.session refresh signal progress
      (refresh_move client system.now system.session next.session refresh signal progress taken)
      with ⟨vault, refreshed, -⟩ | ⟨-, -, -, ended⟩
    · exact ⟨vault, refreshed⟩
    · subst ended
      exact absurd ⟨task, refresh, signal, own, running, taken⟩ ends
  cases move with
  | onDemand id requests miss refresh signal session progress refreshing taken =>
    exact refreshKeeps (.onDemand id) refresh signal progress rfl
      (by simp [refreshOf, refreshing, fetchRefresh]) taken
  | background refresh signal session progress refreshing taken =>
    exact refreshKeeps .background refresh signal progress rfl
      (by simp [refreshOf, refreshing, loopRefresh]) taken
  | tokenLoop signal session tokenLoop taken =>
    exact token_loop_step_cache client system.now system.session session system.tokenLoop
      tokenLoop signal taken
  | _ => exact ⟨rfl, rfl⟩

/-- All or nothing, from one snapshot. Take any client that `VaultClient::new` returns
and any run of its calls and loops, with refreshes that succeed or fail. The values
of each call that returns some are those of one snapshot, which was current between
the call and its return; no call finds the client uninitialized; and no step but the
last of a successful refresh changes the cache or the time of its refresh. -/
theorem answers_from_one_snapshot (start now : Nat) (session : Session)
    (creation : List CreationEvent) (last : System ι) (events : List (Event ι))
    (created : run (create client) (start, .authenticating) creation =
      some (now, .returned (.ok session)))
    (ran : run (step client) (System.around ι now session) events = some last) :
    (∀ id requests values, last.fetches id = .returned requests (.ok values) →
        FromOneSnapshot client (System.around ι now session) events id requests values) ∧
      (∀ id requests, last.fetches id ≠ .returned requests (.error .notInitialized)) ∧
      (∀ before event rest middle next, events = before ++ event :: rest →
        run (step client) (System.around ι now session) before = some middle →
        step client middle event = some next → ¬ EndsRefresh client middle next event →
        next.session.vault = middle.session.vault ∧
          next.session.lastRefreshAt = middle.session.lastRefreshAt) := by
  have isInitial := created_initial client ι start now session creation created
  have known := run_known client _ last events isInitial ran
  refine ⟨fun id => (known id).answered, fun id => (known id).initialized, ?_⟩
  intro before event rest middle next _ _ taken ends
  exact failure_keeps client middle next event (step_move client middle next event taken) ends

end

/-- The session of a creation that has returned one. -/
def createdSession : Nat × Creation → Option (Nat × Session)
  | (now, .returned (.ok session)) => some (now, session)
  | _ => none

theorem created_session (state : Nat × Creation) (now : Nat) (session : Session)
    (created : createdSession state = some (now, session)) :
    state = (now, .returned (.ok session)) := by
  unfold createdSession at created
  split at created
  · cases created
    rfl
  · cases created

/-- What is computed from the session of a creation. -/
theorem created_then {RsaPrivateKey : Type} (client : Client RsaPrivateKey) {β : Type}
    (start : Nat × Creation) (events : List CreationEvent) (next : Nat → Session → Option β)
    (result : β)
    (ran : (run (create client) start events).bind (fun state =>
      (createdSession state).bind (fun (now, session) => next now session)) = some result) :
    ∃ now session, run (create client) start events = some (now, .returned (.ok session)) ∧
      next now session = some result := by
  obtain ⟨state, created, rest⟩ := Option.bind_eq_some_iff.mp ran
  obtain ⟨⟨now, session⟩, isSession, computed⟩ := Option.bind_eq_some_iff.mp rest
  rw [created_session state now session isSession] at created
  exact ⟨now, session, created, computed⟩

/-- A login and a first refresh that are answered at once. -/
def creationWith (sync : SyncResponse) : List CreationEvent :=
  [.signal (.login sampleLogin), .signal .proceed, .signal .proceed, .signal .proceed,
    .signal .proceed, .signal (.sync (.body sync)), .signal .proceed]

def sampleCreation : List CreationEvent := creationWith (sampleSync [sampleCipher])

/-- Two lookups of an item that the first snapshot does not have, and that others match. -/
def sampleRequests : List SecretRequest := [⟨"db", none⟩, ⟨"d", none⟩]

/-- A call that misses refreshes. Before it looks again a background refresh, which began
beside it, installs another snapshot, and a second background refresh fails. -/
def retriedCall : List (Event Bool) :=
  [.elapse (60 * secondNs), .arrive false sampleRequests, .fetch false .proceed,
    .fetch false .proceed, .fetch false .proceed, .fetch false .proceed, .fetch false .proceed,
    .fetch false .proceed, .cacheLoop .proceed, .cacheLoop .proceed, .cacheLoop .proceed,
    .cacheLoop .proceed, .fetch false (.sync (.body (sampleSync [sampleCipher]))),
    .cacheLoop (.sync (.body (sampleSync [sampleCipher, sampleCipher]))), .fetch false .proceed,
    .cacheLoop .proceed, .cacheLoop .proceed, .cacheLoop .proceed, .cacheLoop .proceed,
    .cacheLoop .proceed, .cacheLoop (.sync (.http "connection refused")), .fetch false .proceed]

/-- The requests of a call that has returned values, with the values. -/
def returnedValues : Fetch → Option (List SecretRequest × List String)
  | .returned requests (.ok values) => some (requests, values)
  | _ => none

theorem returned_values (fetch : Fetch) (requests : List SecretRequest) (values : List String)
    (found : returnedValues fetch = some (requests, values)) :
    fetch = .returned requests (.ok values) := by
  unfold returnedValues at found
  split at found
  · cases found
    rfl
  · cases found

/-- The retry answers from the snapshot of the background refresh. -/
theorem answers_from_one_snapshot_sample :
    ∃ now session last,
      run (create sampleClient) (0, .authenticating) (creationWith (sampleSync [])) =
        some (now, .returned (.ok session)) ∧
      run (step sampleClient) (System.around Bool now session) retriedCall = some last ∧
      last.session.vault.map (·.items.length) = some 2 ∧
      last.fetches false = .returned sampleRequests (.ok ["db", "db"]) ∧
      FromOneSnapshot sampleClient (System.around Bool now session) retriedCall false
        sampleRequests ["db", "db"] := by
  obtain ⟨now, session, created, called⟩ := created_then sampleClient (0, .authenticating)
    (creationWith (sampleSync []))
    (fun now session =>
      (run (step sampleClient) (System.around Bool now session) retriedCall).map (fun last =>
        (last.session.vault.map (·.items.length), returnedValues (last.fetches false))))
    (some 2, some (sampleRequests, ["db", "db"])) (by decide +kernel)
  obtain ⟨last, ended, found⟩ := Option.map_eq_some_iff.mp called
  obtain ⟨items, values⟩ := Prod.mk.inj found
  have returned := returned_values _ _ _ values
  exact ⟨now, session, last, created, ended, items, returned,
    (answers_from_one_snapshot sampleClient 0 now session (creationWith (sampleSync [])) last
      retriedCall created ended).1 false _ _ returned⟩

end VaultwardenOperator.OneSnapshot

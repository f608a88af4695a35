import VaultwardenOperator.EntryDelivery
import VaultwardenOperator.OneSnapshot
import VaultwardenOperator.Reconciler

/-!
# Where a Secret comes from

A body that the operator sends to the API server was made from the resource its
reconcile began with and from one snapshot of the vault, which was in the cache
between the begin of the reconcile and the request. Under each key it has the value of
the last entry of that key in that snapshot, and every entry had a value in it.

Reconciles, refreshes and renewals may interleave in any way, and the API server may
answer as it likes.
-/

namespace VaultwardenOperator.SecretOrigin

open Rust Sync Machine VaultClient Crd Controller Reconciler EntryDelivery LastWins
open OneSnapshot (pending CallMove call_move created_then created_initial
  sampleCreation)

/-- The body that a request writes. -/
def bodyOf : KubeRequest → Option SecretBody
  | .createSecret body => some body
  | .applySecret body => some body
  | _ => none

/-- The body is about the resource, and has the values of its entries in the snapshot. -/
structure Carries {RsaPrivateKey : Type} (client : Client RsaPrivateKey) (cache : VaultCache)
    (vws : VaultwardenSecret) (body : SecretBody) : Prop where
  name : body.name = vws.name
  ns : body.ns = namespaceOf vws
  owner : body.ownerUid = vws.uid
  valued : ∀ item ∈ vws.spec.data, ∃ value, entryValue client cache vws.spec item = some value
  data : ∀ key, body.stringData.lookup key = lastValue key (entries client cache vws.spec)

section
variable {RsaPrivateKey : Type} (client : Client RsaPrivateKey)

/-- The values of the requests are those of the entries. -/
theorem entries_valued (cache : VaultCache) (spec : VaultwardenSecretSpec)
    (requests : List SecretRequest) (values : List String)
    (built : buildRequests client.unicode spec = .ok requests)
    (found : tryFetchSecrets client (some cache) requests = .ok values) :
    spec.data.map (entryValue client cache spec) = values.map some := by
  have requested := (build_requests_ok_iff client.unicode spec requests).mp built
  calc spec.data.map (entryValue client cache spec)
      = (spec.data.map (entryRequest spec)).map
          (·.bind (ClientSteps.requestValue client cache)) := by simp [entryValue]
    _ = requests.map (ClientSteps.requestValue client cache) := by simp [requested]
    _ = values.map some := (ClientSteps.try_fetch_ok_iff client cache requests values).mp found

/-- The body made from a successful call. -/
theorem carries_found (cache : VaultCache) (vws : VaultwardenSecret)
    (requests : List SecretRequest) (values : List String)
    (built : buildRequests client.unicode vws.spec = .ok requests)
    (found : tryFetchSecrets client (some cache) requests = .ok values) :
    Carries client cache vws (secretBody vws values) := by
  have valued := entries_valued client cache vws.spec requests values built found
  refine ⟨rfl, rfl, rfl, (exists_map_some_iff _ _).mp ⟨values, valued⟩, fun key => ?_⟩
  change (secretData vws.spec values).lookup key = _
  rw [secret_data_built client cache vws.spec values valued, lookup_built]

end

/-! ## What is known of a reconcile -/

/-- The resource and the body of a reconcile between its call and its write. -/
def held : Reconcile → Option (VaultwardenSecret × SecretBody)
  | .getting vws _ body => some (vws, body)
  | .writing vws _ body _ => some (vws, body)
  | _ => none

/-- The resource of a reconcile that waits for its call. -/
def calling : Reconcile → Option VaultwardenSecret
  | .fetching vws _ => some vws
  | _ => none

/-- A reconcile that writes holds the body. -/
theorem held_sent (reconcile : Reconcile) (body : SecretBody)
    (sent : reconcile.request.bind bodyOf = some body) :
    ∃ vws, held reconcile = some (vws, body) := by
  cases reconcile with
  | writing vws interval own present =>
    cases present <;> cases sent <;> exact ⟨vws, rfl⟩
  | _ => cases sent

section
variable {RsaPrivateKey : Type} (client : Client RsaPrivateKey) {ι : Type} [DecidableEq ι]

/-- A reconcile of the resource began, and at a later moment the snapshot was in the
cache. -/
def SeenSince (initial : Operator ι) (events : List (Reconciler.Event ι)) (id : ι)
    (vws : VaultwardenSecret) (cache : VaultCache) : Prop :=
  ∃ before moment during rest middle, events = before ++ .start id moment vws :: during ++ rest ∧
    run (Reconciler.step client) initial (before ++ .start id moment vws :: during) =
      some middle ∧
    middle.client.session.vault = some cache

/-- What is known of one reconcile after the events of a run. -/
structure Known (initial : Operator ι) (id : ι) (events : List (Reconciler.Event ι))
    (last : Operator ι) : Prop where
  begun : ∀ vws, calling (last.reconciles id) = some vws →
    ∃ before moment during, events = before ++ .start id moment vws :: during
  waiting : ∀ vws requests, calling (last.reconciles id) = some vws →
    pending (last.client.fetches id) = some requests →
    buildRequests client.unicode vws.spec = .ok requests
  answered : ∀ vws requests values, calling (last.reconciles id) = some vws →
    last.client.fetches id = .returned requests (.ok values) →
    ∃ cache, SeenSince client initial events id vws cache ∧
      Carries client cache vws (secretBody vws values)
  holding : ∀ vws body, held (last.reconciles id) = some (vws, body) →
    ∃ cache, SeenSince client initial events id vws cache ∧ Carries client cache vws body

/-- What was seen is still seen after one more event. -/
theorem seen_later (initial : Operator ι) (events : List (Reconciler.Event ι))
    (event : Reconciler.Event ι) (id : ι) (vws : VaultwardenSecret) (cache : VaultCache)
    (seen : SeenSince client initial events id vws cache) :
    SeenSince client initial (events ++ [event]) id vws cache := by
  obtain ⟨before, moment, during, rest, middle, rfl, ran, present⟩ := seen
  exact ⟨before, moment, during, rest ++ [event], middle, by simp, ran, present⟩

/-- A step that changes neither the reconcile nor its call. -/
theorem known_still (initial middle next : Operator ι) (events : List (Reconciler.Event ι))
    (event : Reconciler.Event ι) (id : ι) (known : Known client initial id events middle)
    (reconcile : next.reconciles id = middle.reconciles id)
    (fetch : next.client.fetches id = middle.client.fetches id) :
    Known client initial id (events ++ [event]) next := by
  refine ⟨?_, ?_, ?_, ?_⟩
  · intro vws calls
    rw [reconcile] at calls
    obtain ⟨before, moment, during, rfl⟩ := known.begun vws calls
    exact ⟨before, moment, during ++ [event], by simp⟩
  · intro vws requests calls waits
    rw [reconcile] at calls
    rw [fetch] at waits
    exact known.waiting vws requests calls waits
  · intro vws requests values calls returned
    rw [reconcile] at calls
    rw [fetch] at returned
    obtain ⟨cache, seen, carries⟩ := known.answered vws requests values calls returned
    exact ⟨cache, seen_later client initial events event id vws cache seen, carries⟩
  · intro vws body holds
    rw [reconcile] at holds
    obtain ⟨cache, seen, carries⟩ := known.holding vws body holds
    exact ⟨cache, seen_later client initial events event id vws cache seen, carries⟩

/-- A reconcile that neither calls nor holds a body. -/
theorem known_past (initial next : Operator ι) (events : List (Reconciler.Event ι)) (id : ι)
    (calls : calling (next.reconciles id) = none) (holds : held (next.reconciles id) = none) :
    Known client initial id events next := by
  refine ⟨?_, ?_, ?_, ?_⟩
  · intro vws own
    rw [calls] at own
    cases own
  · intro vws requests own
    rw [calls] at own
    cases own
  · intro vws requests values own
    rw [calls] at own
    cases own
  · intro vws body own
    rw [holds] at own
    cases own

/-- A step of the client. Only the answer of the call adds to what is known: it was
looked up in the cache of that moment. -/
theorem known_client (initial middle : Operator ι) (next : System ι)
    (events : List (Reconciler.Event ι)) (event : VaultClient.Event ι) (id : ι)
    (ran : run (Reconciler.step client) initial events = some middle)
    (internal : ∀ id requests, event ≠ .arrive id requests)
    (cached : ∃ cache, middle.client.session.vault = some cache)
    (known : Known client initial id events middle)
    (move : CallMove client middle.client next event id) :
    Known client initial id (events ++ [.client event]) { middle with client := next } := by
  have begun : ∀ vws, calling (middle.reconciles id) = some vws → ∃ before moment during,
      events ++ [.client event] = before ++ .start id moment vws :: during := by
    intro vws calls
    obtain ⟨before, moment, during, rfl⟩ := known.begun vws calls
    exact ⟨before, moment, during ++ [.client event], by simp⟩
  have holding : ∀ vws body, held (middle.reconciles id) = some (vws, body) →
      ∃ cache, SeenSince client initial (events ++ [.client event]) id vws cache ∧
        Carries client cache vws body := by
    intro vws body holds
    obtain ⟨cache, seen, carries⟩ := known.holding vws body holds
    exact ⟨cache, seen_later client initial events _ id vws cache seen, carries⟩
  cases move with
  | still same => exact known_still client initial middle _ events _ id known rfl same
  | called requests made after => exact absurd made (internal id requests)
  | onTheWay requests before after =>
    refine ⟨begun, ?_, ?_, holding⟩
    · intro vws requests' calls waits
      rw [after] at waits
      cases waits
      exact known.waiting vws requests calls before
    · intro vws requests' values calls returned
      rw [returned] at after
      cases after
  | answered requests values before found after =>
    refine ⟨begun, ?_, ?_, holding⟩
    · intro vws requests' calls waits
      rw [after] at waits
      cases waits
    · intro vws requests' values' calls returned
      rw [after] at returned
      cases returned
      obtain ⟨cache, present⟩ := cached
      rw [present] at found
      obtain ⟨earlier, moment, during, rfl⟩ := known.begun vws calls
      refine ⟨cache, ⟨earlier, moment, during, [.client event], middle, rfl, ran, present⟩, ?_⟩
      exact carries_found client cache vws requests values
        (known.waiting vws requests calls before) found
  | missed requests miss after =>
    refine ⟨begun, ?_, ?_, holding⟩
    · intro vws requests' calls waits
      rw [after] at waits
      cases waits
    · intro vws requests' values calls returned
      rw [after] at returned
      cases returned
  | crashed after =>
    refine ⟨begun, ?_, ?_, holding⟩
    · intro vws requests' calls waits
      rw [after] at waits
      cases waits
    · intro vws requests' values calls returned
      rw [after] at returned
      cases returned

/-- A step of another reconcile. -/
theorem known_other (initial middle : Operator ι) (events : List (Reconciler.Event ι))
    (event : Reconciler.Event ι) (id other : ι) (reconcile : Reconcile) (distinct : id ≠ other)
    (known : Known client initial id events middle) :
    Known client initial id (events ++ [event]) (middle.withReconcile other reconcile) :=
  known_still client initial middle _ events event id known
    (with_reconcile_other middle other id reconcile distinct) rfl

theorem known_step (initial middle next : Operator ι) (events : List (Reconciler.Event ι))
    (event : Reconciler.Event ι) (id : ι)
    (ran : run (Reconciler.step client) initial events = some middle)
    (sound : ClientSteps.Sound middle.client) (known : Known client initial id events middle)
    (move : Reconciler.Move client middle event next) :
    Known client initial id (events ++ [event]) next := by
  cases move with
  | client event next internal taken =>
    exact known_client client initial middle next events event id ran internal sound.cached known
      (call_move client middle.client next event sound.cached
        (ClientSteps.step_move client middle.client next event taken) id)
  | refused other now vws reconcile idle early =>
    by_cases own : id = other
    · subst own
      rcases begun_cases client.unicode now vws with
        ⟨ends, same, cause⟩ | ⟨interval, requests, goesOn, -, -⟩
      · rw [early] at same
        cases same
        rcases cause with rfl | ⟨msg, after, rfl, -⟩
        · exact known_past client initial _ _ id (by simp [calling]) (by simp [held])
        · exact known_past client initial _ _ id (by simp [calling, failing])
            (by simp [held, failing])
      · rw [early] at goesOn
        cases goesOn
    · exact known_other client initial middle events _ id other reconcile own known
  | started other now vws interval requests idle parsed built uncalled =>
    by_cases own : id = other
    · subst own
      refine ⟨?_, ?_, ?_, ?_⟩
      · intro vws' calls
        rw [with_reconcile_self] at calls
        cases calls
        exact ⟨events, now, [], rfl⟩
      · intro vws' requests' calls waits
        rw [with_reconcile_self] at calls
        cases calls
        simp only [with_reconcile_client, with_fetch_self, pending, Option.some.injEq] at waits
        exact waits ▸ built
      · intro vws' requests' values calls returned
        simp at returned
      · intro vws' body holds
        rw [with_reconcile_self] at holds
        cases holds
    · exact known_still client initial middle _ events _ id known
        (with_reconcile_other _ other id _ own)
        (with_fetch_other middle.client other id _ own)
  | fetched other now vws interval requests result fetching returned =>
    by_cases own : id = other
    · subst own
      cases result with
      | error error =>
        exact known_past client initial _ _ id (by simp [afterFetch, failing, calling])
          (by simp [afterFetch, failing, held])
      | ok values =>
        obtain ⟨cache, seen, carries⟩ :=
          known.answered vws requests values (by rw [fetching]; rfl) returned
        have later := seen_later client initial events (.fetched id now) id vws cache seen
        refine ⟨?_, ?_, ?_, ?_⟩ <;> simp only [with_reconcile_self, afterFetch, calling, held]
        · intro vws' calls
          cases calls
        · intro vws' requests' calls
          cases calls
        · intro vws' requests' values' calls
          cases calls
        · intro vws' body holds
          cases holds
          exact ⟨cache, later, carries⟩
    · exact known_other client initial middle events _ id other _ own known
  | panicked other now vws interval fetching crashed =>
    by_cases own : id = other
    · subst own
      exact known_past client initial _ _ id (by simp [calling]) (by simp [held])
    · exact known_other client initial middle events _ id other _ own known
  | got other answer vws interval body getting =>
    by_cases own : id = other
    · subst own
      obtain ⟨cache, seen, carries⟩ := known.holding vws body (by rw [getting]; rfl)
      have later := seen_later client initial events (.got id answer) id vws cache seen
      cases answer with
      | error error =>
        exact known_past client initial _ _ id (by simp [afterGet, calling])
          (by simp [afterGet, held])
      | ok present =>
        refine ⟨?_, ?_, ?_, ?_⟩ <;> simp only [with_reconcile_self, afterGet, calling, held]
        · intro vws' calls
          cases calls
        · intro vws' requests' calls
          cases calls
        · intro vws' requests' values' calls
          cases calls
        · intro vws' body' holds
          cases holds
          exact ⟨cache, later, carries⟩
    · exact known_other client initial middle events _ id other _ own known
  | wrote other now answer vws interval body present writing =>
    by_cases own : id = other
    · subst own
      cases answer <;>
        exact known_past client initial _ _ id (by simp [afterWrite, calling])
          (by simp [afterWrite, held])
    · exact known_other client initial middle events _ id other _ own known
  | patched other answer vws status after patching =>
    by_cases own : id = other
    · subst own
      cases answer <;>
        exact known_past client initial _ _ id (by simp [afterPatch, calling])
          (by simp [afterPatch, held])
    · exact known_other client initial middle events _ id other _ own known

/-- What is known of a reconcile that begins in a run. -/
theorem run_known_since (operator last : Operator ι) (events : List (Reconciler.Event ι))
    (sound : ClientSteps.Sound operator.client) (id : ι) (idle : operator.reconciles id = .idle)
    (ran : run (Reconciler.step client) operator events = some last) :
    Known client operator id events last := by
  have initially : Known client operator id [] operator :=
    known_past client operator operator [] id (by rw [idle]; rfl) (by rw [idle]; rfl)
  apply run_record (Reconciler.step client) operator last _ initially ?_ events ran
  intro before middle event next reached known taken
  exact known_step client operator middle next before event id reached
    (run_keeps_sound client operator middle before sound reached) known
    (Reconciler.step_move client middle next event taken)

/-- What is known of every reconcile after every run. -/
theorem run_known (now : Nat) (session : Session) (last : Operator ι)
    (events : List (Reconciler.Event ι)) (isInitial : Initial (System.around ι now session))
    (ran : run (Reconciler.step client) (Operator.around ι now session) events = some last)
    (id : ι) : Known client (Operator.around ι now session) id events last :=
  run_known_since client _ last events (ClientSteps.initial_sound _ isInitial) id rfl ran

/-- Every Secret the operator writes is one snapshot of the vault. Take any client that
`VaultClient::new` returns, and any run of reconciles, refreshes and renewals over it. The
body of each create and each apply belongs to the resource that its reconcile began
with; there is one snapshot, in the cache at a moment after that begin, in which every
entry of the spec has a value; and under each key the body has the value of the last
entry with that key, and nothing under any other key. -/
theorem secret_from_one_snapshot (start now : Nat) (session : Session)
    (creation : List CreationEvent) (last : Operator ι) (events : List (Reconciler.Event ι))
    (created : run (create client) (start, .authenticating) creation =
      some (now, .returned (.ok session)))
    (ran : run (Reconciler.step client) (Operator.around ι now session) events = some last)
    (id : ι) (body : SecretBody)
    (sent : (last.reconciles id).request.bind bodyOf = some body) :
    ∃ vws cache, SeenSince client (Operator.around ι now session) events id vws cache ∧
      Carries client cache vws body := by
  have isInitial := created_initial client ι start now session creation created
  obtain ⟨vws, holds⟩ := held_sent _ body sent
  obtain ⟨cache, seen, carries⟩ :=
    (run_known client now session last events isInitial ran id).holding vws body holds
  exact ⟨vws, cache, seen, carries⟩

end

/-- A reconcile of the sample resource up to the create of its Secret. -/
def sampleReconcile : List (Reconciler.Event Bool) :=
  [.start false "t1" (sampleResource ["token"]), .client (.fetch false .proceed),
    .fetched false "t2", .got false (.ok false)]

/-- A client that has just been created serves a reconcile that writes the item it
holds. -/
theorem secret_from_one_snapshot_sample :
    ∃ now session last body,
      run (create sampleClient) (0, .authenticating) sampleCreation =
        some (now, .returned (.ok session)) ∧
      run (Reconciler.step sampleClient) (Operator.around Bool now session) sampleReconcile =
        some last ∧
      (last.reconciles false).request.bind bodyOf = some body ∧
      body.stringData.lookup "token" = some "db" ∧
      ∃ vws cache, SeenSince sampleClient (Operator.around Bool now session) sampleReconcile false
          vws cache ∧ Carries sampleClient cache vws body := by
  obtain ⟨now, session, created, reconciled⟩ := created_then sampleClient (0, .authenticating)
    sampleCreation
    (fun now session =>
      (run (Reconciler.step sampleClient) (Operator.around Bool now session)
        sampleReconcile).bind (fun last =>
          ((last.reconciles false).request.bind bodyOf).map
            (fun body => body.stringData.lookup "token")))
    (some "db") (by decide +kernel)
  obtain ⟨last, ended, sends⟩ := Option.bind_eq_some_iff.mp reconciled
  obtain ⟨body, sent, value⟩ := Option.map_eq_some_iff.mp sends
  exact ⟨now, session, last, body, created, ended, sent, value,
    secret_from_one_snapshot sampleClient 0 now session sampleCreation last sampleReconcile created
      ended false body sent⟩

end VaultwardenOperator.SecretOrigin

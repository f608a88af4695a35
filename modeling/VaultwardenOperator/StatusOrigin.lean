import VaultwardenOperator.SecretOrigin

/-!
# Where a status comes from

A status patch says what happened to its reconcile. `Ready` is sent only after the
API server has accepted a body made from one snapshot. A failure is sent with the
text of the rejected interval, of the entry without a name, or of a lookup that
failed in a snapshot seen since the reconcile began.

A refresh that fails answers the old miss, so neither the text of a server answer
nor an error of a login ever reaches a status.
-/

namespace VaultwardenOperator.StatusOrigin

open Rust Sync Machine VaultClient Crd Status Controller Reconciler SecretOrigin
open OneSnapshot (pending created_then created_initial sampleCreation
  first_lookup_cases)

/-! ## The error of a call -/

/-- The error that a call holds, or has returned. -/
def failure : Fetch → Option VaultError
  | .queued _ miss => some (.lookup miss)
  | .checking _ miss => some (.lookup miss)
  | .refreshing _ miss _ => some (.lookup miss)
  | .returned _ (.error error) => some error
  | _ => none

section
variable {RsaPrivateKey : Type} (client : Client RsaPrivateKey)

/-- The lookups fail on a cache with the miss. -/
def Misses (vault : Option VaultCache) (requests : List SecretRequest) (miss : LookupError) :
    Prop :=
  tryFetchSecrets client vault requests = .error (.err (.lookup miss))

/-- A lookup that is handed to the caller fails only with a miss. -/
theorem settled_failure (cache : VaultCache) (requests : List SecretRequest) :
    failure (settled requests (tryFetchSecrets client (some cache) requests)) = none ∨
      ∃ miss, Misses client (some cache) requests miss ∧
        failure (settled requests (tryFetchSecrets client (some cache) requests)) =
          some (.lookup miss) := by
  cases looked : tryFetchSecrets client (some cache) requests with
  | ok values => exact .inl rfl
  | error halt =>
    obtain ⟨req, -, cause, -, rfl⟩ :=
      ClientSteps.try_fetch_error client cache requests halt looked
    cases cause with
    | panic => exact .inl rfl
    | err miss => exact .inr ⟨miss, looked, rfl⟩

/-- The first lookup fails, or waits for a refresh, only with a miss. -/
theorem first_lookup_failure (cache : VaultCache) (requests : List SecretRequest) :
    failure (afterFirstLookup requests (tryFetchSecrets client (some cache) requests)) = none ∨
      ∃ miss, Misses client (some cache) requests miss ∧
        failure (afterFirstLookup requests (tryFetchSecrets client (some cache) requests)) =
          some (.lookup miss) := by
  have direct := settled_failure client cache requests
  unfold afterFirstLookup
  split
  · rename_i miss looked
    split_ifs
    · exact .inr ⟨miss, looked, rfl⟩
    · exact direct
  · exact direct

end

section
variable {RsaPrivateKey : Type} (client : Client RsaPrivateKey) {ι : Type} [DecidableEq ι]

/-- What a step does to the error of one call: it goes, it stays, or the lookups fail in
the cache of that moment. -/
def FailureMove (system next : System ι) (id : ι) : Prop :=
  failure (next.fetches id) = none ∨
    failure (next.fetches id) = failure (system.fetches id) ∨
    ∃ requests miss, pending (system.fetches id) = some requests ∧
      Misses client system.session.vault requests miss ∧
      failure (next.fetches id) = some (.lookup miss)

/-- A step that changes one call keeps the errors of all others. -/
theorem own_failure_move (system next : System ι) (call id : ι) (fetch : Fetch)
    (fetches : next.fetches = (system.withFetch call fetch).fetches)
    (own : next.fetches call = fetch → FailureMove client system next call) :
    FailureMove client system next id := by
  by_cases same : id = call
  · subst same
    exact own (by rw [fetches, with_fetch_self])
  · exact .inr (.inl (by rw [fetches, with_fetch_other system call id fetch same]))

theorem failure_move (system next : System ι) (event : VaultClient.Event ι)
    (cached : ∃ cache, system.session.vault = some cache)
    (move : ClientSteps.Move client system event next) (id : ι) :
    FailureMove client system next id := by
  obtain ⟨cache, present⟩ := cached
  cases move with
  | arrive call requests idle =>
    refine own_failure_move client system _ call id _ rfl (fun after => ?_)
    exact .inl (by rw [after]; rfl)
  | look call requests looking =>
    refine own_failure_move client system _ call id _ rfl (fun after => ?_)
    rw [FailureMove, after, present]
    rcases first_lookup_failure client cache requests with none | ⟨miss, misses, failed⟩
    · exact .inl none
    · exact .inr (.inr ⟨requests, miss, by rw [looking]; rfl, misses, failed⟩)
  | retry call requests retrying =>
    refine own_failure_move client system _ call id _ rfl (fun after => ?_)
    rw [FailureMove, after, present]
    rcases settled_failure client cache requests with none | ⟨miss, misses, failed⟩
    · exact .inl none
    · exact .inr (.inr ⟨requests, miss, by rw [retrying]; rfl, misses, failed⟩)
  | lock call requests miss queued free =>
    refine own_failure_move client system _ call id _ rfl (fun after => ?_)
    exact .inr (.inl (by rw [after, queued]; rfl))
  | skip call requests miss checking cooling =>
    refine own_failure_move client system _ call id _ rfl (fun after => ?_)
    exact .inr (.inl (by rw [after, checking]; rfl))
  | start call requests miss checking due =>
    refine own_failure_move client system _ call id _ rfl (fun after => ?_)
    exact .inr (.inl (by rw [after, checking]; rfl))
  | onDemand call requests miss refresh signal session progress refreshing taken =>
    -- A failed refresh answers the miss the call came with.
    refine own_failure_move client system _ call id _ rfl (fun after => ?_)
    rcases progress with later | (error | panic) | _
    · exact .inr (.inl (by rw [after, refreshing]; rfl))
    · exact .inr (.inl (by rw [after, refreshing]; rfl))
    · exact .inl (by rw [after]; rfl)
    · exact .inl (by rw [after]; rfl)
  | elapse | tick | stop | background | tokenLoop => exact .inr (.inl rfl)

/-! ## What is known of a failure -/

/-- Why a reconcile of the resource reports a failure, with the text it reports. -/
inductive Cause (initial : Operator ι) (events : List (Reconciler.Event ι)) (id : ι)
    (vws : VaultwardenSecret) : String → Prop where
  | interval (msg : String)
      (rejected : parseSyncInterval client.unicode vws.spec.syncInterval = .error (.err msg)) :
      Cause initial events id vws msg
  | entry (msg : String) (unnamed : buildRequests client.unicode vws.spec = .error (.err msg)) :
      Cause initial events id vws msg
  | lookup (requests : List SecretRequest) (req : SecretRequest) (cache : VaultCache)
      (miss : LookupError) (built : buildRequests client.unicode vws.spec = .ok requests)
      (member : req ∈ requests) (seen : SeenSince client initial events id vws cache)
      (missed : lookupItem client.unicode cache req.name req.vault = .error (.err miss)) :
      Cause initial events id vws (fetchFailure client.unicode (.lookup miss))

/-- What a status reports: a body that the API server has accepted, or the cause of a
failure. -/
inductive Reports (initial : Operator ι) (events : List (Reconciler.Event ι)) (id : ι)
    (vws : VaultwardenSecret) : VaultwardenSecretStatus → Prop where
  | ready (before rest : List (Reconciler.Event ι)) (moment : String) (middle : Operator ι)
      (body : SecretBody) (cache : VaultCache)
      (split : events = before ++ .wrote id moment (.ok ()) :: rest)
      (ran : run (Reconciler.step client) initial before = some middle)
      (writing : (middle.reconciles id).request.bind bodyOf = some body)
      (seen : SeenSince client initial before id vws cache)
      (carries : Carries client cache vws body) :
      Reports initial events id vws (setReadyStatus vws.status (vws.generation.getD 0) moment)
  | failed (moment msg : String) (cause : Cause client initial events id vws msg) :
      Reports initial events id vws
        (setFailedStatus vws.status (vws.generation.getD 0) moment msg)

theorem cause_later (initial : Operator ι) (events : List (Reconciler.Event ι))
    (event : Reconciler.Event ι) (id : ι) (vws : VaultwardenSecret) (msg : String)
    (cause : Cause client initial events id vws msg) :
    Cause client initial (events ++ [event]) id vws msg := by
  cases cause with
  | interval _ rejected => exact .interval _ rejected
  | entry _ unnamed => exact .entry _ unnamed
  | lookup requests req cache miss built member seen missed =>
    exact .lookup requests req cache miss built member
      (seen_later client initial events event id vws cache seen) missed

theorem reports_later (initial : Operator ι) (events : List (Reconciler.Event ι))
    (event : Reconciler.Event ι) (id : ι) (vws : VaultwardenSecret)
    (status : VaultwardenSecretStatus) (reports : Reports client initial events id vws status) :
    Reports client initial (events ++ [event]) id vws status := by
  cases reports with
  | ready before rest moment middle body cache split ran writing seen carries =>
    exact .ready before (rest ++ [event]) moment middle body cache (by simp [split]) ran writing
      seen carries
  | failed moment msg cause =>
    exact .failed moment msg (cause_later client initial events event id vws msg cause)

/-- What is known of the failures of one reconcile after the events of a run. -/
structure Told (initial : Operator ι) (id : ι) (events : List (Reconciler.Event ι))
    (last : Operator ι) : Prop where
  missed : ∀ vws error, calling (last.reconciles id) = some vws →
    failure (last.client.fetches id) = some error →
    ∃ msg, msg = fetchFailure client.unicode error ∧ Cause client initial events id vws msg
  reporting : ∀ vws status after, last.reconciles id = .patching vws status after →
    (∃ before moment during, events = before ++ .start id moment vws :: during) ∧
      Reports client initial events id vws status

theorem told_still (initial middle next : Operator ι) (events : List (Reconciler.Event ι))
    (event : Reconciler.Event ι) (id : ι) (told : Told client initial id events middle)
    (reconcile : next.reconciles id = middle.reconciles id)
    (failed : failure (next.client.fetches id) = none ∨
      failure (next.client.fetches id) = failure (middle.client.fetches id)) :
    Told client initial id (events ++ [event]) next := by
  refine ⟨?_, ?_⟩
  · intro vws error calls holds
    rw [reconcile] at calls
    rcases failed with gone | same
    · rw [gone] at holds
      cases holds
    · rw [same] at holds
      obtain ⟨msg, text, cause⟩ := told.missed vws error calls holds
      exact ⟨msg, text, cause_later client initial events event id vws msg cause⟩
  · intro vws status after patching
    rw [reconcile] at patching
    obtain ⟨⟨before, moment, during, rfl⟩, reports⟩ := told.reporting vws status after patching
    exact ⟨⟨before, moment, during ++ [event], by simp⟩,
      reports_later client initial _ event id vws status reports⟩

/-- A reconcile that neither calls nor reports. -/
theorem told_past (initial next : Operator ι) (events : List (Reconciler.Event ι)) (id : ι)
    (calls : calling (next.reconciles id) = none)
    (reports : ∀ vws status after, next.reconciles id ≠ .patching vws status after) :
    Told client initial id events next := by
  refine ⟨?_, ?_⟩
  · intro vws error own
    rw [calls] at own
    cases own
  · intro vws status after own
    exact absurd own (reports vws status after)

/-- A reconcile that has just built its status. -/
theorem told_patching (initial next : Operator ι) (events : List (Reconciler.Event ι)) (id : ι)
    (vws : VaultwardenSecret) (status : VaultwardenSecretStatus) (after : Nat)
    (patching : next.reconciles id = .patching vws status after)
    (begun : ∃ before moment during, events = before ++ .start id moment vws :: during)
    (reports : Reports client initial events id vws status) :
    Told client initial id events next := by
  refine ⟨?_, ?_⟩
  · intro vws' error calls
    rw [patching] at calls
    cases calls
  · intro vws' status' after' own
    rw [patching] at own
    cases own
    exact ⟨begun, reports⟩

/-- A step of another reconcile. -/
theorem told_other (initial middle : Operator ι) (events : List (Reconciler.Event ι))
    (event : Reconciler.Event ι) (id other : ι) (reconcile : Reconcile) (distinct : id ≠ other)
    (told : Told client initial id events middle) :
    Told client initial id (events ++ [event]) (middle.withReconcile other reconcile) :=
  told_still client initial middle _ events event id told
    (with_reconcile_other middle other id reconcile distinct) (.inr rfl)

/-- A step of the client: a new error is a lookup that fails in the cache of that
moment. -/
theorem told_client (initial middle : Operator ι) (next : System ι)
    (events : List (Reconciler.Event ι)) (event : VaultClient.Event ι) (id : ι)
    (ran : run (Reconciler.step client) initial events = some middle)
    (cached : ∃ cache, middle.client.session.vault = some cache)
    (known : Known client initial id events middle) (told : Told client initial id events middle)
    (move : FailureMove client middle.client next id) :
    Told client initial id (events ++ [.client event]) { middle with client := next } := by
  rcases move with gone | same | ⟨requests, miss, waits, misses, failed⟩
  · exact told_still client initial middle _ events _ id told rfl (.inl gone)
  · exact told_still client initial middle _ events _ id told rfl (.inr same)
  · refine ⟨?_, ?_⟩
    · intro vws error calls holds
      rw [failed] at holds
      cases holds
      obtain ⟨cache, present⟩ := cached
      rw [Misses, present] at misses
      obtain ⟨req, member, cause, missed, same⟩ :=
        ClientSteps.try_fetch_error client cache requests _ misses
      cases cause with
      | panic => cases same
      | err own =>
        cases same
        obtain ⟨before, moment, during, rfl⟩ := known.begun vws calls
        have seen : SeenSince client initial
            (before ++ .start id moment vws :: during ++ [.client event]) id vws cache :=
          ⟨before, moment, during, [.client event], middle, rfl, ran, present⟩
        exact ⟨_, rfl, .lookup requests req cache miss (known.waiting vws requests calls waits)
          member seen missed⟩
    · exact (told_still client initial middle middle events _ id told rfl (.inr rfl)).reporting

theorem told_step (initial middle next : Operator ι) (events : List (Reconciler.Event ι))
    (event : Reconciler.Event ι) (id : ι)
    (ran : run (Reconciler.step client) initial events = some middle)
    (sound : ClientSteps.Sound middle.client) (known : Known client initial id events middle)
    (begun : ∀ vws body, held (middle.reconciles id) = some (vws, body) →
      ∃ before moment during, events = before ++ .start id moment vws :: during)
    (told : Told client initial id events middle)
    (move : Reconciler.Move client middle event next) :
    Told client initial id (events ++ [event]) next := by
  have longer : ∀ vws, (∃ before moment during,
      events = before ++ .start id moment vws :: during) → ∃ before moment during,
        events ++ [event] = before ++ .start id moment vws :: during := by
    rintro vws ⟨before, moment, during, rfl⟩
    exact ⟨before, moment, during ++ [event], by simp⟩
  cases move with
  | client event next internal taken =>
    exact told_client client initial middle next events event id ran sound.cached known told
      (failure_move client middle.client next event sound.cached
        (ClientSteps.step_move client middle.client next event taken) id)
  | refused other now vws reconcile idle early =>
    by_cases own : id = other
    · subst own
      rcases begun_cases client.unicode now vws with
        ⟨ends, same, cause⟩ | ⟨interval, requests, goesOn, -, -⟩
      · rw [early] at same
        cases same
        rcases cause with rfl | ⟨msg, after, rfl, cause⟩
        · exact told_past client initial _ _ id (by simp [calling]) (by simp)
        · refine told_patching client initial _ _ id vws _ after (with_reconcile_self _ _ _)
            ⟨events, now, [], rfl⟩ (.failed now msg ?_)
          rcases cause with rejected | unnamed
          · exact .interval msg rejected
          · exact .entry msg unnamed
      · rw [early] at goesOn
        cases goesOn
    · exact told_other client initial middle events _ id other reconcile own told
  | started other now vws interval requests idle parsed built uncalled =>
    by_cases own : id = other
    · subst own
      refine ⟨?_, by simp⟩
      intro vws' error calls holds
      simp [failure] at holds
    · exact told_still client initial middle _ events _ id told
        (with_reconcile_other _ other id _ own)
        (.inr (by rw [with_reconcile_client, with_fetch_other middle.client other id _ own]))
  | fetched other now vws interval requests result fetching returned =>
    by_cases own : id = other
    · subst own
      cases result with
      | ok values =>
        refine told_past client initial _ _ id ?_ ?_ <;> simp [afterFetch, calling]
      | error error =>
        have calls : calling (middle.reconciles id) = some vws := by rw [fetching]; rfl
        obtain ⟨msg, rfl, cause⟩ := told.missed vws error calls (by rw [returned]; rfl)
        exact told_patching client initial _ _ id vws _ interval (with_reconcile_self _ _ _)
          (longer vws (known.begun vws calls))
          (.failed now _ (cause_later client initial events _ id vws _ cause))
    · exact told_other client initial middle events _ id other _ own told
  | panicked other now vws interval fetching crashed =>
    by_cases own : id = other
    · subst own
      exact told_past client initial _ _ id (by simp [calling]) (by simp)
    · exact told_other client initial middle events _ id other _ own told
  | got other answer vws interval body getting =>
    by_cases own : id = other
    · subst own
      cases answer <;>
        exact told_past client initial _ _ id (by simp [afterGet, calling]) (by simp [afterGet])
    · exact told_other client initial middle events _ id other _ own told
  | wrote other now answer vws interval body present writing =>
    by_cases own : id = other
    · subst own
      cases answer with
      | error error =>
        refine told_past client initial _ _ id ?_ ?_ <;> simp [afterWrite, calling]
      | ok accepted =>
        have holds : held (middle.reconciles id) = some (vws, body) := by rw [writing]; rfl
        obtain ⟨cache, seen, carries⟩ := known.holding vws body holds
        have sends : (middle.reconciles id).request.bind bodyOf = some body := by
          rw [writing]
          cases present <;> rfl
        exact told_patching client initial _ _ id vws _ interval (with_reconcile_self _ _ _)
          (longer vws (begun vws body holds))
          (.ready events [] now middle body cache rfl ran sends seen carries)
    · exact told_other client initial middle events _ id other _ own told
  | patched other answer vws status after patching =>
    by_cases own : id = other
    · subst own
      cases answer <;>
        exact told_past client initial _ _ id (by simp [afterPatch, calling])
          (by simp [afterPatch])
    · exact told_other client initial middle events _ id other _ own told

/-- What is known of the failures of every reconcile after every run. -/
theorem run_told (now : Nat) (session : Session) (last : Operator ι)
    (events : List (Reconciler.Event ι)) (isInitial : Initial (System.around ι now session))
    (ran : run (Reconciler.step client) (Operator.around ι now session) events = some last)
    (id : ι) : Told client (Operator.around ι now session) id events last := by
  apply run_record (Reconciler.step client) _ last _ ?_ ?_ events ran
  · exact told_past client _ _ _ id rfl (fun vws status after same => by cases same)
  · intro before middle event next reached told taken
    have known := run_known client now session middle before isInitial reached id
    refine told_step client _ middle next before event id reached
      (run_sound client now session middle before isInitial reached) known ?_ told
      (Reconciler.step_move client middle next event taken)
    intro vws body holds
    obtain ⟨cache, ⟨earlier, moment, during, rest, _, rfl, -, -⟩, -⟩ :=
      known.holding vws body holds
    exact ⟨earlier, moment, during ++ rest, by simp⟩

/-- Every status the operator sends is true of its reconcile. Take any client that
`VaultClient::new` returns, and any run of reconciles, refreshes and renewals over it,
with any answers. A patch of a status is for the resource that its reconcile began
with. If it says ready, the API server has accepted a body that carries one snapshot;
else its text is that of the rejected interval, of the entry without a name, or of
a lookup of the spec that failed in a snapshot seen since the begin. -/
theorem status_true_of_reconcile (start now : Nat) (session : Session)
    (creation : List CreationEvent) (last : Operator ι) (events : List (Reconciler.Event ι))
    (created : run (create client) (start, .authenticating) creation =
      some (now, .returned (.ok session)))
    (ran : run (Reconciler.step client) (Operator.around ι now session) events = some last)
    (id : ι) (ns name : String) (patch : Json.Value)
    (sent : (last.reconciles id).request = some (.patchStatus ns name patch)) :
    ∃ vws status, (∃ before moment during, events = before ++ .start id moment vws :: during) ∧
      ns = namespaceOf vws ∧ name = vws.name ∧ patch = statusPatch status ∧
      Reports client (Operator.around ι now session) events id vws status := by
  have isInitial := created_initial client ι start now session creation created
  have told := run_told client now session last events isInitial ran id
  cases phase : last.reconciles id with
  | patching vws status after =>
    rw [phase] at sent
    cases sent
    obtain ⟨begun, reports⟩ := told.reporting vws status after phase
    exact ⟨vws, status, begun, rfl, rfl, rfl, reports⟩
  | writing vws interval body present =>
    rw [phase] at sent
    cases present <;> cases sent
  | _ =>
    rw [phase] at sent
    cases sent

end

theorem patched_resource (request : KubeRequest) (ns name : String)
    (patches : patchedResource request = some (ns, name)) :
    ∃ patch, request = .patchStatus ns name patch := by
  cases request with
  | patchStatus ns' name' patch =>
    cases patches
    exact ⟨patch, rfl⟩
  | _ => cases patches

/-- What a request to patch a status says of `ready`. -/
def saysReady : KubeRequest → Option Bool
  | .patchStatus _ _ patch => ((patch.get "status").bind (·.get "ready")).bind Json.decodeBool
  | _ => none

/-- A resource whose entry asks for an item that the sample vault does not have. -/
def lostResource : VaultwardenSecret :=
  { sampleResource [] with
    name := "lost"
    spec := ⟨"5m", none, [⟨"token", some "ghost", none, none⟩]⟩ }

/-- Two reconciles up to the patches of their statuses: one that writes its Secret, and one
whose lookup fails within the cooldown. -/
def twoReports : List (Reconciler.Event Bool) :=
  sampleReconcile ++ [.wrote false "t3" (.ok ()), .start true "t4" lostResource,
    .client (.fetch true .proceed), .client (.fetch true .proceed), .client (.fetch true .proceed),
    .fetched true "t5"]

theorem status_true_of_reconcile_sample :
    ∃ now session last ready failed,
      run (create sampleClient) (0, .authenticating) sampleCreation =
        some (now, .returned (.ok session)) ∧
      run (Reconciler.step sampleClient) (Operator.around Bool now session) twoReports =
        some last ∧
      (last.reconciles false).request = some (.patchStatus "prod" "app" ready) ∧
      saysReady (.patchStatus "prod" "app" ready) = some true ∧
      (∃ vws status, (∃ before moment during,
          twoReports = before ++ .start false moment vws :: during) ∧
        "prod" = namespaceOf vws ∧ "app" = vws.name ∧ ready = statusPatch status ∧
        Reports sampleClient (Operator.around Bool now session) twoReports false vws status) ∧
      (last.reconciles true).request = some (.patchStatus "prod" "lost" failed) ∧
      saysReady (.patchStatus "prod" "lost" failed) = some false ∧
      ∃ vws status, (∃ before moment during,
          twoReports = before ++ .start true moment vws :: during) ∧
        "prod" = namespaceOf vws ∧ "lost" = vws.name ∧ failed = statusPatch status ∧
        Reports sampleClient (Operator.around Bool now session) twoReports true vws status := by
  obtain ⟨now, session, created, reconciled⟩ := created_then sampleClient (0, .authenticating)
    sampleCreation
    (fun now session =>
      (run (Reconciler.step sampleClient) (Operator.around Bool now session) twoReports).map
        (fun last => [false, true].map (fun id => (last.reconciles id).request.bind
          (fun request => (patchedResource request).map (·, saysReady request)))))
    [some (("prod", "app"), some true), some (("prod", "lost"), some false)] (by decide +kernel)
  obtain ⟨last, ended, both⟩ := Option.map_eq_some_iff.mp reconciled
  have patches : ∀ id name said, (last.reconciles id).request.bind (fun request =>
      (patchedResource request).map (·, saysReady request)) = some (("prod", name), said) →
      ∃ patch, (last.reconciles id).request = some (.patchStatus "prod" name patch) ∧
        saysReady (.patchStatus "prod" name patch) = said := by
    intro id name said found
    obtain ⟨request, sent, told⟩ := Option.bind_eq_some_iff.mp found
    obtain ⟨resource, patched, same⟩ := Option.map_eq_some_iff.mp told
    cases same
    obtain ⟨patch, rfl⟩ := patched_resource request "prod" name patched
    exact ⟨patch, sent, rfl⟩
  obtain ⟨first, others⟩ := List.cons.inj both
  obtain ⟨ready, sentReady, saysTrue⟩ := patches false "app" _ first
  obtain ⟨failed, sentFailed, saysFalse⟩ := patches true "lost" _ (List.cons.inj others).1
  exact ⟨now, session, last, ready, failed, created, ended, sentReady, saysTrue,
    status_true_of_reconcile sampleClient 0 now session sampleCreation last twoReports created ended
      false "prod" "app" ready sentReady,
    sentFailed, saysFalse,
    status_true_of_reconcile sampleClient 0 now session sampleCreation last twoReports created ended
      true "prod" "lost" failed sentFailed⟩

end VaultwardenOperator.StatusOrigin

import VaultwardenOperator.Freshness

/-!
# Resources recover

A resource whose entries the vault answers is written without a failure. Once the versions
that the server knows answer every entry of a resource, and the cache has been refreshed
since, its reconciles fail no more: the call is answered by its first lookup, without a
refresh of its own, and the only status it patches is the ready one.
-/

namespace VaultwardenOperator.Recovery

open Rust Crypto Sync Auth Machine VaultClient ClientSteps UserKey StoredVault StoredAccount
open Crd Controller Status Reconciler SecretOrigin EntryDelivery HonestServer Freshness
open OneSnapshot (creationWith)

/-! ## Vaults that answer a spec -/

section
variable (unicode : UnicodeTables) (vault : Vault)

/-- Every entry has a name, and the vault an item for it. -/
def AnswersAll (spec : VaultwardenSecretSpec) : Prop :=
  ∀ entry ∈ spec.data, ∃ request, entryRequest spec entry = some request ∧
    ∃ item, Answers unicode vault request item

/-- The scope of a request that an item answers is resolved. -/
theorem scope_resolved (name : Option String) (item : Item)
    (inside : InScopeOf unicode vault item name) :
    ∃ orgId, ExactMatch.scopeOf unicode (vault.cache unicode) name = some orgId := by
  cases name with
  | none => exact ⟨none, rfl⟩
  | some v =>
    obtain ⟨organization, single, -⟩ := inside
    have index := LookupSpec.index_named unicode (vault.organizations.map Organization.listed) v
    have listed : LookupSpec.orgsNamed unicode (vault.organizations.map Organization.listed) v =
        (vault.organizations.filter (fun organization =>
          unicode.toLowercase organization.name = unicode.toLowercase v)).map
            Organization.listed := by
      rw [LookupSpec.orgsNamed, List.filter_map]
      rfl
    rw [listed, single] at index
    refine ⟨some organization.id, ?_⟩
    simp only [ExactMatch.scopeOf, Vault.cache, index]
    rfl

/-- A request that an item answers is found. -/
theorem answers_found (request : SecretRequest) (item : Item)
    (answers : Answers unicode vault request item) :
    ∃ opened, lookupItem unicode (vault.cache unicode) request.name request.vault = .ok opened := by
  obtain ⟨orgId, resolved⟩ := scope_resolved unicode vault request.vault item answers.scope
  have inside := (resolved_scope unicode vault request.vault orgId resolved item).mpr answers.scope
  have searched := ExactMatch.lookup_in_scope unicode (vault.cache unicode) request orgId resolved
  have listed : item.opened ∈ (vault.cache unicode).items := List.mem_map_of_mem answers.member
  have found : ∃ opened,
      findItem unicode (vault.cache unicode).items request.name orgId = some opened := by
    rw [ExactMatch.find_item_exact]
    split
    · exact ⟨_, rfl⟩
    case h_2 missed =>
      rcases answers.named with exactly | ⟨partly, -⟩
      · have passed := List.find?_eq_none.mp missed item.opened listed
        have isNamed : ExactMatch.Named unicode request item.opened := exactly
        simp [inside, isNamed] at passed
      · refine Option.isSome_iff_exists.mp (List.find?_isSome.mpr ⟨item.opened, listed, ?_⟩)
        simp only [inside, contains, Bool.true_and, decide_eq_true_eq]
        exact partly
  obtain ⟨opened, isFound⟩ := found
  exact ⟨opened, (to_option_some_iff _ _).mp (searched.trans isFound)⟩

end

section
variable {RsaPrivateKey : Type} (client : Client RsaPrivateKey)

/-- A vault that answers a spec answers the call of its reconcile. -/
theorem call_answered (vault : Vault) (spec : VaultwardenSecretSpec)
    (requests : List SecretRequest) (built : buildRequests client.unicode spec = .ok requests)
    (answers : AnswersAll client.unicode vault spec) :
    ∃ values, tryFetchSecrets client (some (vault.cache client.unicode)) requests = .ok values := by
  have requested := (build_requests_ok_iff client.unicode spec requests).mp built
  have valued : ∀ request ∈ requests, ∃ value,
      requestValue client (vault.cache client.unicode) request = some value := by
    intro request member
    have listed : some request ∈ spec.data.map (entryRequest spec) := by
      rw [requested]
      exact List.mem_map_of_mem member
    obtain ⟨entry, own, named⟩ := List.mem_map.mp listed
    obtain ⟨same, isNamed, item, answered⟩ := answers entry own
    rw [named] at isNamed
    cases isNamed
    obtain ⟨opened, found⟩ := answers_found client.unicode vault request item answered
    exact ⟨_, by rw [requestValue, found]; rfl⟩
  obtain ⟨values, all⟩ := (exists_map_some_iff _ _).mpr valued
  exact ⟨values, (try_fetch_ok_iff client _ requests values).mpr all⟩

/-- A spec that a vault answers has a request for every entry. -/
theorem answered_built (unicode : UnicodeTables) (vault : Vault) (spec : VaultwardenSecretSpec)
    (answers : AnswersAll unicode vault spec) :
    ∃ requests, buildRequests unicode spec = .ok requests := by
  have named : ∀ entry ∈ spec.data, ∃ request, entryRequest spec entry = some request := by
    intro entry own
    obtain ⟨request, requested, -⟩ := answers entry own
    exact ⟨request, requested⟩
  obtain ⟨requests, all⟩ := (exists_map_some_iff _ _).mpr named
  exact ⟨requests, (build_requests_ok_iff unicode spec requests).mpr all⟩

/-! ## Reconciles without a failure -/

variable {ι : Type} [DecidableEq ι]

/-- The call has not looked yet, or it has its values. -/
def AtOnce (requests : List SecretRequest) (fetch : Fetch) : Prop :=
  fetch = .looking requests ∨ ∃ values, fetch = .returned requests (.ok values)

/-- The reconcile of the resource has not failed, but for the API server. -/
def Untroubled (vws : VaultwardenSecret) (fetch : Fetch) : Reconcile → Prop
  | .idle | .finished _ => True
  | .fetching own _ => own = vws ∧ ∃ requests,
      buildRequests client.unicode vws.spec = .ok requests ∧ AtOnce requests fetch
  | .getting own _ _ | .writing own _ _ _ => own = vws
  | .patching own status _ => own = vws ∧
      ∃ now, status = setReadyStatus vws.status (vws.generation.getD 0) now
  | .crashed => False

/-- A call that the cache answers goes on without a refresh. -/
theorem call_at_once (system next : System ι) (event : VaultClient.Event ι) (id : ι)
    (requests : List SecretRequest) (values : List String)
    (internal : ∀ id requests, event ≠ .arrive id requests)
    (found : tryFetchSecrets client system.session.vault requests = .ok values)
    (atOnce : AtOnce requests (system.fetches id))
    (move : ClientSteps.Move client system event next) :
    AtOnce requests (next.fetches id) := by
  -- A step of the same call finds it in none of the later phases.
  have elsewhere : ∀ other : ι, ∀ fetch fetch' : Fetch, system.fetches other = fetch →
      ¬ AtOnce requests fetch → AtOnce requests ((system.withFetch other fetch').fetches id) := by
    intro other fetch fetch' phase late
    by_cases own : id = other
    · subst own
      exact absurd (phase ▸ atOnce) late
    · rw [with_fetch_other system other id fetch' own]
      exact atOnce
  cases move with
  | arrive other others idle => exact absurd rfl (internal other others)
  | look other others looking =>
    by_cases own : id = other
    · subst own
      have same : others = requests := by
        rcases atOnce with before | ⟨_, returned⟩
        · rw [looking] at before
          exact Fetch.looking.inj before
        · rw [looking] at returned
          cases returned
      subst same
      rw [with_fetch_self, found]
      exact .inr ⟨values, rfl⟩
    · rw [with_fetch_other system other id _ own]
      exact atOnce
  | lock other others miss queued =>
    exact elsewhere other _ _ queued (by simp [AtOnce])
  | skip other others miss checking =>
    exact elsewhere other _ _ checking (by simp [AtOnce])
  | start other others miss checking =>
    exact elsewhere other _ _ checking (by simp [AtOnce])
  | onDemand other others miss refresh signal session progress refreshing =>
    exact elsewhere other _ _ refreshing (by simp [AtOnce])
  | retry other others retrying =>
    exact elsewhere other _ _ retrying (by simp [AtOnce])
  | elapse => exact atOnce
  | tick => exact atOnce
  | stop => exact atOnce
  | background => exact atOnce
  | tokenLoop => exact atOnce

/-- One step of the operator lets the reconcile go on without a failure. -/
theorem untroubled_step (operator next : Operator ι) (event : Reconciler.Event ι) (id : ι)
    (vws : VaultwardenSecret) (interval : Nat) (vault : Vault)
    (parsed : parseSyncInterval client.unicode vws.spec.syncInterval = .ok interval)
    (answers : AnswersAll client.unicode vault vws.spec)
    (present : operator.client.session.vault = some (vault.cache client.unicode))
    (own : ∀ time other, event = .start id time other → other = vws)
    (untroubled : Untroubled client vws (operator.client.fetches id) (operator.reconciles id))
    (move : Reconciler.Move client operator event next) :
    Untroubled client vws (next.client.fetches id) (next.reconciles id) := by
  obtain ⟨requests, built⟩ := answered_built client.unicode vault vws.spec answers
  -- A step of another reconcile.
  have apart : ∀ (other : ι) (reconcile : Reconcile), id ≠ other → Untroubled client vws
      (operator.client.fetches id) ((operator.withReconcile other reconcile).reconciles id) := by
    intro other reconcile distinct
    rw [with_reconcile_other operator other id reconcile distinct]
    exact untroubled
  cases move with
  | client event next internal taken =>
    cases phase : operator.reconciles id with
    | fetching resource delay =>
      rw [phase] at untroubled
      obtain ⟨same, others, builtToo, atOnce⟩ := untroubled
      obtain ⟨values, found⟩ := call_answered client vault vws.spec others builtToo answers
      rw [← present] at found
      exact ⟨same, others, builtToo, call_at_once client operator.client next event id others values
        internal found atOnce (step_move client operator.client next event taken)⟩
    | _ =>
      rw [phase] at untroubled
      exact untroubled
  | refused other time resource reconcile idle early =>
    by_cases same : id = other
    · subst same
      cases own time resource rfl
      simp only [begun, parsed, built] at early
      cases early
    · exact apart other reconcile same
  | started other time resource delay others idle parsedToo builtToo uncalled =>
    by_cases same : id = other
    · subst same
      cases own time resource rfl
      rw [with_reconcile_self, with_reconcile_client, with_fetch_self]
      exact ⟨rfl, others, builtToo, .inl rfl⟩
    · rw [with_reconcile_other _ other id _ same, with_reconcile_client,
        with_fetch_other operator.client other id _ same]
      exact untroubled
  | fetched other time resource delay others result fetching returned =>
    by_cases same : id = other
    · subst same
      rw [fetching, returned] at untroubled
      obtain ⟨rfl, _, -, looking | ⟨values, answered⟩⟩ := untroubled
      · cases looking
      · cases answered
        rw [with_reconcile_self]
        rfl
    · exact apart other _ same
  | panicked other time resource delay fetching crashed =>
    by_cases same : id = other
    · subst same
      rw [fetching, crashed] at untroubled
      obtain ⟨rfl, _, -, looking | ⟨values, answered⟩⟩ := untroubled
      · cases looking
      · cases answered
    · exact apart other _ same
  | got other answer resource delay body getting =>
    by_cases same : id = other
    · subst same
      rw [getting] at untroubled
      rw [with_reconcile_self]
      cases answer with
      | error error => trivial
      | ok exists_ => exact untroubled
    · exact apart other _ same
  | wrote other time answer resource delay body exists_ writing =>
    by_cases same : id = other
    · subst same
      rw [writing] at untroubled
      cases untroubled
      rw [with_reconcile_self]
      cases answer with
      | error error => trivial
      | ok _ => exact ⟨rfl, time, rfl⟩
    · exact apart other _ same
  | patched other answer resource status after patching =>
    by_cases same : id = other
    · subst same
      rw [with_reconcile_self]
      cases answer <;> trivial
    · exact apart other _ same

variable (encryption : Encryption client.crypto) (account : Account client.crypto client.unicode)
  (versions newer : Vault → Prop)

/-- Resources recover. Take an account and a server that answers for it honestly or not at
all, and a moment at which no refresh holds an answer and from which on the server knows
newer versions only. Take a resource with an interval that is accepted, and let every newer
version answer all of its entries. Once some refresh has succeeded after the moment, no
reconcile of the resource that begins then fails, in any state of any run, but for errors of
the API server: its call has its values after its first lookup, it waits for no refresh, and
the one status it patches is the ready one. -/
theorem resources_recover (owns : Owns client account) (start now : Nat) (session : Session)
    (creation : List CreationEvent) (moment fresh last : Operator ι)
    (before refresh after : List (Reconciler.Event ι))
    (created : run (create client) (start, .authenticating) creation =
      some (now, .returned (.ok session)))
    (reached : run (Reconciler.step client) (Operator.around ι now session) before = some moment)
    (refreshing : run (Reconciler.step client) moment refresh = some fresh)
    (ran : run (Reconciler.step client) fresh after = some last)
    (honestCreation : ∀ event ∈ creation,
      HonestCreationEvent client encryption account versions event)
    (honestBefore : ∀ event ∈ before, HonestOperatorEvent client encryption account versions event)
    (honestSince : ∀ event ∈ refresh ++ after,
      HonestOperatorEvent client encryption account newer event)
    (unheld : Unheld moment.client)
    (since : moment.client.now < fresh.client.session.lastRefreshAt)
    (id : ι) (idle : fresh.reconciles id = .idle) (vws : VaultwardenSecret) (interval : Nat)
    (own : ∀ time other, .start id time other ∈ after → other = vws)
    (parsed : parseSyncInterval client.unicode vws.spec.syncInterval = .ok interval)
    (answers : ∀ vault, newer vault → AnswersAll client.unicode vault vws.spec) :
    Untroubled client vws (last.client.fetches id) (last.reconciles id) := by
  have refreshed := refreshed_since client encryption account versions newer owns start now session
    creation moment fresh before refresh created reached refreshing honestCreation honestBefore
    (fun event member => honestSince event (List.mem_append_left after member)) unheld since
  have conditions : ∀ event ∈ after, HonestOperatorEvent client encryption account newer event ∧
      ∀ time other, event = .start id time other → other = vws := by
    intro event member
    refine ⟨honestSince event (List.mem_append_right refresh member), ?_⟩
    rintro time other rfl
    exact own time other member
  have kept := run_keeps (Reconciler.step client)
    (fun _ event => HonestOperatorEvent client encryption account newer event ∧
      ∀ time other, event = .start id time other → other = vws)
    (fun operator => Refreshed client encryption account newer moment.client.now operator ∧
      Untroubled client vws (operator.client.fetches id) (operator.reconciles id)) ?_ fresh last
    after ⟨refreshed, by rw [idle]; trivial⟩ (meets_all (Reconciler.step client) _ fresh after
      conditions) ran
  · exact kept.2
  · rintro operator event next ⟨holds, untroubled⟩ ⟨honest, resource⟩ taken
    obtain ⟨vault, version, present⟩ :=
      refreshed_cache client encryption account newer _ operator holds
    refine ⟨?_, untroubled_step client operator next event id vws interval vault parsed
      (answers vault version) present resource untroubled
      (Reconciler.step_move client operator next event taken)⟩
    exact refreshed_run client encryption account newer owns _ operator next [event] holds
      (List.forall_mem_singleton.mpr honest) (run_next _ operator next event [] taken)

end

/-- The sample item answers the sample resource. -/
theorem sample_answered :
    AnswersAll asciiTables samplePlainVault (sampleResource ["token"]).spec := by
  intro entry own
  cases List.mem_singleton.mp own
  refine ⟨⟨"db", none⟩, by decide, samplePlainItem, ?_⟩
  exact ⟨List.mem_cons_self, trivial, .inl rfl⟩

/-- The reconcile after the refresh that brings the sample item patches its status. -/
theorem resources_recover_sample :
    ∃ last, run (Reconciler.step accountClient) filledOperator
        (sampleReconcile ++ [.wrote false "t3" (.ok ())]) = some last ∧
      (last.reconciles false).request.bind patchedResource = some ("prod", "app") ∧
      Untroubled accountClient (sampleResource ["token"]) (last.client.fetches false)
        (last.reconciles false) := by
  have ran : ((run (Reconciler.step accountClient) filledOperator
      (sampleReconcile ++ [.wrote false "t3" (.ok ())])).bind
        (fun last => (last.reconciles false).request.bind patchedResource)) =
          some ("prod", "app") := by
    decide +kernel
  obtain ⟨last, ended, patches⟩ := Option.bind_eq_some_iff.mp ran
  refine ⟨last, ended, patches, ?_⟩
  refine resources_recover accountClient accountEncryption sampleAccount (· = emptyVault)
    (· = samplePlainVault) ⟨rfl, rfl⟩ 0 0 (sessionWith emptyVault) (creationWith emptySync)
    emptyOperator filledOperator last [] _ _
    (creation_with_returns emptyVault emptySync empty_vault_stored) rfl filled_operator_reached
    ended (creation_with_honest emptyVault emptySync empty_vault_stored)
    (fun _ member => by cases member) filling_honest empty_unheld Nat.zero_lt_one false rfl
    (sampleResource ["token"]) defaultSyncInterval ?_ (by decide +kernel) ?_
  · intro time other member
    simp only [sampleReconcile, List.mem_append, List.mem_cons, List.not_mem_nil, or_false,
      reduceCtorEq, Reconciler.Event.start.injEq, true_and] at member
    exact member.2
  · rintro vault rfl
    exact sample_answered

end VaultwardenOperator.Recovery

import VaultwardenOperator.DataFlow
import VaultwardenOperator.ExactMatch
import VaultwardenOperator.LookupSpec
import VaultwardenOperator.SecretOrigin
import VaultwardenOperator.StoredAccount

/-!
# The operator reads the vault in the clear

A server is honest when every body it sends is that of the account: a login gives the user
key, and a sync answer stores one of the versions that the vault has had. Every request may
still fail, and every answer may come at any time.

Under an honest server the whole client runs as if it read the vault in the clear: the key
of the session is the user key, and the cache is always the snapshot of one version. Each
Secret that the operator writes then has the values that the entries of the resource ask for
in one version, as its owner wrote them.
-/

namespace VaultwardenOperator.HonestServer

open Rust Crypto Sync Auth Machine VaultClient ClientSteps UserKey StoredVault StoredAccount
open Crd Controller Reconciler SecretOrigin EntryDelivery LookupSpec DataFlow
open Extraction (Plain Holds Stable Yields documentedValue)
open OneSnapshot (creationWith)

section
variable {RsaPrivateKey : Type} (client : Client RsaPrivateKey)
  (encryption : Encryption client.crypto) (account : Account client.crypto client.unicode)
  (versions : Vault → Prop) (allowed : Nat → VaultCache → Prop)

/-! ## Honest answers -/

def HonestSignal : Signal → Prop
  | .login answers => HonestLogin encryption account answers
  | .sync (.body sync) => ∃ vault, versions vault ∧ Stores encryption account.userKey vault sync
  | _ => True

/-- The client of the account. -/
structure Owns : Prop where
  email : client.email = account.email
  password : client.password = account.password

/-- A refresh may bring the snapshot of any version, whenever it ends. -/
def Brings : Prop := ∀ now vault, versions vault → allowed now (vault.cache client.unicode)

def HonestEvent {ι : Type} : VaultClient.Event ι → Prop
  | .fetch _ signal | .cacheLoop signal | .tokenLoop signal =>
    HonestSignal client encryption account versions signal
  | _ => True

def HonestCreationEvent : CreationEvent → Prop
  | .signal signal => HonestSignal client encryption account versions signal
  | .elapse _ => True

def HonestOperatorEvent {ι : Type} : Reconciler.Event ι → Prop
  | .client event => HonestEvent client encryption account versions event
  | _ => True

/-! ## What the client holds -/

/-- Every key is the user key, every answer stores a version, and every cache is allowed. -/
def honestPolicy : Policy where
  access := fun _ => True
  refresh := fun _ => True
  key := fun symKey => symKey = account.userKey.toSymmetricKey
  response := fun sync => ∃ vault, versions vault ∧ Stores encryption account.userKey vault sync
  cache := allowed

theorem fetch_sync_body (answer : Answer SyncResponse) (sync : SyncResponse)
    (fetched : fetchSync answer = .ok sync) : answer = .body sync := by
  cases answer with
  | body value =>
    cases fetched
    rfl
  | http message => cases fetched
  | server status text =>
    simp only [fetchSync] at fetched
    split_ifs at fetched

theorem honest_signal_fits (owns : Owns client account) (signal : Signal)
    (honest : HonestSignal client encryption account versions signal) :
    SignalFits client (honestPolicy client encryption account versions allowed) signal := by
  cases signal with
  | token answer =>
    intro refreshTok grant granted
    exact ⟨trivial, fun _ _ => trivial⟩
  | login answers =>
    intro login authenticated
    rw [owns.email, owns.password] at authenticated
    exact ⟨trivial, trivial, honest_login_key encryption account answers login honest authenticated⟩
  | sync answer =>
    intro response fetched
    rw [fetch_sync_body answer response fetched] at honest
    exact honest
  | _ => trivial

theorem honest_opens (brings : Brings client versions allowed) :
    Opens client (honestPolicy client encryption account versions allowed) := by
  rintro now sync symKey cache skips ⟨vault, version, stores⟩ rfl decrypted
  rw [stored_vault_decrypts encryption client.unicode account.userKey vault sync stores]
    at decrypted
  cases decrypted
  exact brings now vault version

/-! ## Creation -/

theorem create_signal (now : Nat) (creation : Creation) (signal : Signal) :
    create client (now, creation) (.signal signal) =
      (creationStep client now creation signal).map (fun next => (now, next)) := rfl

/-- A login that succeeds. -/
theorem creation_login (now : Nat) (answers : LoginAnswers) (login : Login)
    (authenticated : authenticate client.crypto client.unicode client.email client.password
      answers = .ok login) :
    creationStep client now .authenticating (.login answers) = some (.authenticated login) := by
  simp only [creationStep, authenticated]

/-- The end of the first refresh. -/
theorem creation_install (now : Nat) (session : Session) (sync : SyncResponse)
    (symKey : SymmetricKey) (cache : VaultCache) (skips : DecryptSkips)
    (opened : decryptVault client.crypto client.unicode sync symKey = .ok (cache, skips)) :
    creationStep client now (.syncing session (.installing sync symKey)) .proceed =
      some (.returned (.ok { session with vault := some cache, lastRefreshAt := now })) := by
  simp only [creationStep, refreshStep, opened, Option.map_some, afterFirstRefresh]

/-- The session of a client that an honest server let be created. -/
theorem created_honest (owns : Owns client account) (brings : Brings client versions allowed)
    (start now : Nat) (session : Session) (creation : List CreationEvent)
    (honest : ∀ event ∈ creation, HonestCreationEvent client encryption account versions event)
    (created : run (create client) (start, .authenticating) creation =
      some (now, .returned (.ok session))) :
    SessionFits (honestPolicy client encryption account versions allowed) session := by
  refine run_creation_fits client _ (honest_opens client encryption account versions allowed brings)
    start (now, .returned (.ok session)) creation ?_ created
  intro event member
  have answered := honest event member
  cases event with
  | signal signal =>
    exact honest_signal_fits client encryption account versions allowed owns signal answered
  | elapse duration => trivial

/-! ## Runs of the operator -/

/-- Whatever the reconciles do, the client holds only what is of the account. -/
theorem run_honest {ι : Type} [DecidableEq ι] (owns : Owns client account)
    (brings : Brings client versions allowed) (operator last : Operator ι)
    (events : List (Reconciler.Event ι))
    (initially : SystemFits (honestPolicy client encryption account versions allowed)
      operator.client)
    (honest : ∀ event ∈ events, HonestOperatorEvent client encryption account versions event)
    (ran : run (Reconciler.step client) operator events = some last) :
    SystemFits (honestPolicy client encryption account versions allowed) last.client := by
  refine run_fits client _ (honest_opens client encryption account versions allowed brings)
    operator last events initially ?_ ran
  intro event member
  have answered := honest event member
  cases event with
  | client own =>
    cases own with
    | fetch id signal | cacheLoop signal | tokenLoop signal =>
      exact honest_signal_fits client encryption account versions allowed owns signal answered
    | _ => trivial
  | _ => trivial

end

/-! ## Lookups in the clear -/

section
variable (unicode : UnicodeTables) (vault : Vault)

/-- An item is in the scope of a request: of any without a vault name, and else when it
belongs to the one organization of that name, up to case. -/
def InScopeOf (item : Item) : Option String → Prop
  | none => True
  | some v => ∃ organization,
      vault.organizations.filter (fun organization =>
        unicode.toLowercase organization.name = unicode.toLowercase v) = [organization] ∧
      item.organization = some organization.id

/-- The item answers the request: it is in scope, and it has the requested name or, where no
item in scope has it, contains it. -/
structure Answers (request : SecretRequest) (item : Item) : Prop where
  member : item ∈ vault.items
  scope : InScopeOf unicode vault item request.vault
  named : unicode.toLowercase item.name = unicode.toLowercase request.name ∨
    (unicode.toLowercase request.name).toList <:+: (unicode.toLowercase item.name).toList ∧
      ∀ other ∈ vault.items, InScopeOf unicode vault other request.vault →
        unicode.toLowercase other.name ≠ unicode.toLowercase request.name

/-- The scope that a lookup resolves is that of the request. -/
theorem resolved_scope (name : Option String) (orgId : Option String)
    (resolved : ExactMatch.scopeOf unicode (vault.cache unicode) name = some orgId) (item : Item) :
    inScope orgId item.opened = true ↔ InScopeOf unicode vault item name := by
  cases name with
  | none =>
    cases resolved
    simp [inScope, InScopeOf]
  | some v =>
    have index := index_named unicode (vault.organizations.map Organization.listed) v
    have listed : orgsNamed unicode (vault.organizations.map Organization.listed) v =
        (vault.organizations.filter (fun organization =>
          unicode.toLowercase organization.name = unicode.toLowercase v)).map
            Organization.listed := by
      rw [orgsNamed, List.filter_map]
      rfl
    rw [listed] at index
    simp only [ExactMatch.scopeOf, Vault.cache, index] at resolved
    generalize named : vault.organizations.filter (fun organization =>
      unicode.toLowercase organization.name = unicode.toLowercase v) = own at resolved
    rcases own with _ | ⟨organization, _ | ⟨second, rest⟩⟩
    · cases resolved
    · cases resolved
      simp only [inScope, InScopeOf, named, Item.opened, Organization.listed, List.cons.injEq,
        and_true, exists_eq_left']
      exact decide_eq_true_iff
    · cases resolved

/-- A search in a scope finds an item that answers. -/
theorem found_answers (request : SecretRequest) (orgId : Option String) (opened : DecryptedItem)
    (scope : ∀ item, inScope orgId (Item.opened item) = true ↔
      InScopeOf unicode vault item request.vault)
    (found : findItem unicode (vault.items.map Item.opened) request.name orgId = some opened) :
    ∃ item, Answers unicode vault request item ∧ item.opened = opened := by
  rw [ExactMatch.find_item_exact] at found
  split at found
  case h_1 hit first =>
    cases found
    obtain ⟨item, member, rfl⟩ := List.mem_map.mp (List.mem_of_find?_eq_some first)
    have held := List.find?_some first
    simp only [Bool.and_eq_true, decide_eq_true_eq] at held
    exact ⟨item, ⟨member, (scope item).mp held.1, .inl held.2⟩, rfl⟩
  case h_2 missed =>
    obtain ⟨item, member, rfl⟩ := List.mem_map.mp (List.mem_of_find?_eq_some found)
    have held := List.find?_some found
    simp only [Bool.and_eq_true, contains, decide_eq_true_eq] at held
    refine ⟨item, ⟨member, (scope item).mp held.1, .inr ⟨held.2, ?_⟩⟩, rfl⟩
    intro other listed inside named
    have isExact : ExactMatch.Named unicode request other.opened := named
    have passed := List.find?_eq_none.mp missed other.opened (List.mem_map_of_mem listed)
    simp [(scope other).mpr inside, isExact] at passed

end

section
variable {RsaPrivateKey : Type} (client : Client RsaPrivateKey)

/-- A request with a value is answered by an item. -/
theorem request_answered (vault : Vault) (request : SecretRequest) (value : String)
    (valued : requestValue client (vault.cache client.unicode) request = some value) :
    ∃ item, Answers client.unicode vault request item ∧
      value = extractSecret client.values item.opened := by
  obtain ⟨opened, found, rfl⟩ := Option.map_eq_some_iff.mp valued
  rw [to_option_some_iff] at found
  obtain ⟨orgId, resolved⟩ := ExactMatch.scope_of_found client.unicode _ request opened found
  have searched := ExactMatch.lookup_in_scope client.unicode _ request orgId resolved
  rw [found] at searched
  obtain ⟨item, answers, rfl⟩ := found_answers client.unicode vault request orgId opened
    (resolved_scope client.unicode vault request.vault orgId resolved) searched.symm
  exact ⟨item, answers, rfl⟩

/-- The body has the keys of the resource and no others. Under each is the secret of an item
of the vault in the clear that the last entry of the key asks for: its documented value,
where the item determines that. -/
structure InTheClear (vault : Vault) (vws : VaultwardenSecret) (body : SecretBody) : Prop where
  name : body.name = vws.name
  ns : body.ns = namespaceOf vws
  owner : body.ownerUid = vws.uid
  keys : ∀ key, (∃ value, body.stringData.lookup key = some value) ↔
    ∃ entry ∈ vws.spec.data, entry.key = key
  values : ∀ key value, body.stringData.lookup key = some value →
    ∃ before entry after, vws.spec.data = before ++ entry :: after ∧ entry.key = key ∧
      (∀ other ∈ after, other.key ≠ key) ∧
      ∃ request, entryRequest vws.spec entry = some request ∧
      ∃ item, Answers client.unicode vault request item ∧
        value = extractSecret client.values item.opened ∧
        (Stable item.plain → value = documentedValue item.plain)

/-- The cache is the snapshot of a version. -/
def SnapshotOf (versions : Vault → Prop) (_refreshedAt : Nat) (cache : VaultCache) : Prop :=
  ∃ vault, versions vault ∧ cache = vault.cache client.unicode

theorem carries_in_the_clear (yields : Yields client.values) (vault : Vault)
    (vws : VaultwardenSecret) (body : SecretBody)
    (carries : Carries client (vault.cache client.unicode) vws body) :
    InTheClear client vault vws body := by
  have listed : ∀ key value,
      (key, value) ∈ entries client (vault.cache client.unicode) vws.spec → ∃ entry ∈ vws.spec.data,
        entry.key = key ∧ entryValue client (vault.cache client.unicode) vws.spec entry =
          some value := by
    intro key value member
    obtain ⟨entry, own, valued⟩ := List.mem_filterMap.mp member
    obtain ⟨_, found, same⟩ := Option.map_eq_some_iff.mp valued
    cases same
    exact ⟨entry, own, rfl, found⟩
  refine ⟨carries.name, carries.ns, carries.owner, ?_, ?_⟩
  · intro key
    rw [carries.data key]
    constructor
    · rintro ⟨value, last⟩
      obtain ⟨entry, own, same, -⟩ := listed key value (LastWins.last_value_mem key value _ last)
      exact ⟨entry, own, same⟩
    · rintro ⟨entry, own, rfl⟩
      obtain ⟨value, valued⟩ := carries.valued entry own
      have member : (entry.key, value) ∈
          entries client (vault.cache client.unicode) vws.spec :=
        List.mem_filterMap.mpr ⟨entry, own, by rw [valued]; rfl⟩
      exact LastWins.last_value_some (entry.key, value) _ member
  · intro key value last
    rw [carries.data key] at last
    obtain ⟨before, entry, after, split, same, valued, unnamed⟩ :=
      LastWins.last_value_of_last VaultwardenSecretDataItem.key
        (entryValue client (vault.cache client.unicode) vws.spec) vws.spec.data carries.valued key
        value last
    obtain ⟨request, requested, found⟩ := Option.bind_eq_some_iff.mp valued
    obtain ⟨item, answers, extracted⟩ := request_answered client vault request value found
    refine ⟨before, entry, after, split, same, unnamed, request, requested, item, answers,
      extracted, fun stable => ?_⟩
    rw [extracted]
    exact (Extraction.extract_documented_iff item.opened item.plain (opened_holds item)).mpr stable
      client.values yields

variable (encryption : Encryption client.crypto) (account : Account client.crypto client.unicode)
  (versions : Vault → Prop) {ι : Type} [DecidableEq ι]

/-- The operator delivers the vault in the clear. Take an account, the versions its vault
has had, and a server that answers every request for the account honestly or not at all.
Create a client, and let any number of reconciles, refreshes and renewals run over it in any
order. Each body that is sent has exactly the keys of the resource its reconcile began with,
and there is one version of the vault, in the cache since that begin, in which each value is
that of an item that the entry asks for: the item of that name in the organization the entry
names, with the value that the documentation promises wherever the item determines it. -/
theorem vault_delivered_in_the_clear (owns : Owns client account) (yields : Yields client.values)
    (start now : Nat) (session : Session) (creation : List CreationEvent) (last : Operator ι)
    (events : List (Reconciler.Event ι))
    (created : run (create client) (start, .authenticating) creation =
      some (now, .returned (.ok session)))
    (ran : run (Reconciler.step client) (Operator.around ι now session) events = some last)
    (honestCreation : ∀ event ∈ creation,
      HonestCreationEvent client encryption account versions event)
    (honest : ∀ event ∈ events, HonestOperatorEvent client encryption account versions event)
    (id : ι) (body : SecretBody)
    (sent : (last.reconciles id).request.bind bodyOf = some body) :
    ∃ vws vault, versions vault ∧
      SeenSince client (Operator.around ι now session) events id vws
        (vault.cache client.unicode) ∧
      InTheClear client vault vws body := by
  have isInitial := OneSnapshot.created_initial client ι start now session creation created
  have brings : Brings client versions (SnapshotOf client versions) :=
    fun _ vault version => ⟨vault, version, rfl⟩
  have honestSession := created_honest client encryption account versions _ owns brings start now
    session creation honestCreation created
  obtain ⟨vws, holds⟩ := held_sent _ body sent
  obtain ⟨cache, seen, carries⟩ :=
    (run_known client now session last events isInitial ran id).holding vws body holds
  obtain ⟨before, moment, during, rest, middle, whole, reached, present⟩ := seen
  have honestMiddle := run_honest client encryption account versions _ owns brings _ middle
    (before ++ .start id moment vws :: during) (around_session_fits _ now session honestSession)
    (fun event member => honest event (by rw [whole]; exact List.mem_append_left rest member))
    reached
  obtain ⟨vault, version, rfl⟩ := honestMiddle.session.cached cache present
  exact ⟨vws, vault, version, ⟨before, moment, during, rest, middle, whole, reached, present⟩,
    carries_in_the_clear client yields vault vws body carries⟩

end

/-! ## The sample account -/

/-- The client of the sample account. -/
def accountClient : Client Unit where
  crypto := accountPrimitives
  unicode := asciiTables
  values := LastWins.values
  email := "ops@example.org"
  password := "secret"
  minRefreshInterval := 30 * secondNs

theorem creation_with_honest (vault : Vault) (sync : SyncResponse)
    (stores : Stores accountEncryption sampleFullKey vault sync) :
    ∀ event ∈ creationWith sync,
      HonestCreationEvent accountClient accountEncryption sampleAccount (· = vault) event := by
  have login : HonestLogin accountEncryption sampleAccount sampleLogin := by
    refine ⟨?_, ?_, ?_⟩
    · rintro pre ⟨⟩
      rfl
    · rintro token ⟨⟩ -
      exact sample_key_wrapped
    · rintro s ⟨⟩ nonempty
      exact absurd rfl nonempty
  intro event member
  simp only [creationWith, List.mem_cons, List.not_mem_nil, or_false] at member
  rcases member with rfl | rfl | rfl | rfl | rfl | rfl | rfl
  · exact login
  all_goals try trivial
  exact ⟨vault, rfl, stores⟩

/-- The session that this creation returns: the vault in the clear is its cache. -/
def sessionWith (vault : Vault) : Session where
  accessToken := "new-at"
  refreshToken := "new-rt"
  tokenExpiresAt := 3600 * secondNs
  symKey := sampleKey
  vault := some (vault.cache asciiTables)
  lastRefreshAt := 0

theorem creation_with_returns (vault : Vault) (sync : SyncResponse)
    (stores : Stores accountEncryption sampleFullKey vault sync) :
    run (create accountClient) (0, .authenticating) (creationWith sync) =
      some (0, .returned (.ok (sessionWith vault))) := by
  have served : authenticate accountClient.crypto accountClient.unicode accountClient.email
      accountClient.password sampleLogin = .ok ⟨"new-at", "new-rt", 3600, sampleKey⟩ :=
    served_login accountEncryption sampleAccount sampleLogin _ sample_login_served
  have opened : decryptVault accountClient.crypto accountClient.unicode sync sampleKey =
      .ok (vault.cache asciiTables, ⟨0, 0⟩) :=
    stored_vault_decrypts accountEncryption asciiTables sampleFullKey vault sync stores
  have login : create accountClient (0, .authenticating) (.signal (.login sampleLogin)) =
      some (0, .authenticated ⟨"new-at", "new-rt", 3600, sampleKey⟩) := by
    rw [create_signal, creation_login accountClient 0 sampleLogin _ served]
    rfl
  have answered : run (create accountClient)
      (0, .authenticated ⟨"new-at", "new-rt", 3600, sampleKey⟩)
      [.signal .proceed, .signal .proceed, .signal .proceed, .signal .proceed,
        .signal (.sync (.body sync))] =
      some (0, .syncing { sessionWith vault with vault := none } (.installing sync sampleKey)) := by
    have expiry : instantAfter 0 3600 = some (3600 * secondNs) := by decide
    have valid : ¬ 0 + 60 * secondNs ≥ 3600 * secondNs := by decide
    simp only [run, create, creationStep, expiry, refreshStep, renewalStep, valid, if_false,
      Option.map_some, Option.bind_some, afterFirstRefresh, aroundRenewal, fetchSync, sessionWith]
  have installed : create accountClient (0, .syncing { sessionWith vault with vault := none }
      (.installing sync sampleKey)) (.signal .proceed) =
      some (0, .returned (.ok (sessionWith vault))) := by
    rw [create_signal, creation_install accountClient 0 _ sync sampleKey _ _ opened]
    rfl
  have begun := run_next (create accountClient) _ _ _ ([.signal .proceed, .signal .proceed,
    .signal .proceed, .signal .proceed, .signal (.sync (.body sync))] ++ [.signal .proceed]) login
  have continued := run_append (create accountClient) _ _ _ [.signal .proceed] answered
  have ended := run_next (create accountClient) _ _ _ [] installed
  exact begun.trans (continued.trans ended)

/-- The session around the sample vault. -/
def honestSession : Session := sessionWith samplePlainVault

/-- The sample vault reaches a Secret. -/
theorem vault_delivered_in_the_clear_sample :
    ∃ last body,
      run (Reconciler.step accountClient) (Operator.around Bool 0 honestSession) sampleReconcile =
        some last ∧
      (last.reconciles false).request.bind bodyOf = some body ∧
      body.stringData.lookup "token" = some "db" ∧
      ∃ vws vault, vault = samplePlainVault ∧
        SeenSince accountClient (Operator.around Bool 0 honestSession) sampleReconcile false vws
          (vault.cache asciiTables) ∧
        InTheClear accountClient vault vws body := by
  have ran : ((run (Reconciler.step accountClient) (Operator.around Bool 0 honestSession)
      sampleReconcile).bind (fun last => ((last.reconciles false).request.bind bodyOf).map
        (fun body => body.stringData.lookup "token"))) = some (some "db") := by
    decide +kernel
  obtain ⟨last, ended, sends⟩ := Option.bind_eq_some_iff.mp ran
  obtain ⟨body, sent, value⟩ := Option.map_eq_some_iff.mp sends
  refine ⟨last, body, ended, sent, value, ?_⟩
  refine vault_delivered_in_the_clear accountClient accountEncryption sampleAccount
    (· = samplePlainVault) ⟨rfl, rfl⟩ (fun map => List.Perm.refl _) 0 0 honestSession
    (creationWith samplePersonalSync) last sampleReconcile
    (creation_with_returns samplePlainVault samplePersonalSync sample_vault_stored) ended
    (creation_with_honest samplePlainVault samplePersonalSync sample_vault_stored) ?_ false body
    sent
  intro event member
  simp only [sampleReconcile, List.mem_cons, List.not_mem_nil, or_false] at member
  rcases member with rfl | rfl | rfl | rfl <;> trivial

end VaultwardenOperator.HonestServer

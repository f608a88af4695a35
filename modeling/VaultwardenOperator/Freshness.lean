import VaultwardenOperator.HonestServer

/-!
# Updates of the vault arrive

From some moment on the server knows newer versions of the vault only. Answers that it gave
before may still be on their way into the cache, and reconciles that looked earlier may still
be writing. Once no refresh holds an earlier answer, the first refresh that ends after the
moment makes every later reconcile write newer versions only, whatever runs beside it.
-/

namespace VaultwardenOperator.Freshness

open Rust Crypto Sync Auth Machine VaultClient ClientSteps UserKey StoredVault StoredAccount
open Controller Reconciler SecretOrigin DataFlow HonestServer
open OneSnapshot (creationWith)

section
variable {RsaPrivateKey : Type} (client : Client RsaPrivateKey)
  (encryption : Encryption client.crypto) (account : Account client.crypto client.unicode)
  (versions newer : Vault → Prop)

/-! ## After the moment -/

/-- What a cache is known to be after a moment: that of a newer version, if it has been
refreshed since. -/
def NewerSince (moment refreshedAt : Nat) (cache : VaultCache) : Prop :=
  moment < refreshedAt → ∃ vault, newer vault ∧ cache = vault.cache client.unicode

/-- No refresh holds an answer. -/
def Unheld {ι : Type} (system : System ι) : Prop :=
  ∀ task sync symKey, refreshOf system task ≠ some (.installing sync symKey)

theorem newer_brings (moment : Nat) : Brings client newer (NewerSince client newer moment) :=
  fun _ vault version _ => ⟨vault, version, rfl⟩

/-- At the moment nothing is known of the cache, and all keys are the user key. -/
theorem moment_honest {ι : Type} (system : System ι) (allowed : Nat → VaultCache → Prop)
    (past : system.session.lastRefreshAt ≤ system.now) (unheld : Unheld system)
    (honest : SystemFits (honestPolicy client encryption account versions allowed) system) :
    SystemFits (honestPolicy client encryption account newer
      (NewerSince client newer system.now)) system := by
  have keys : ∀ symKey, (honestPolicy client encryption account versions allowed).key symKey →
      (honestPolicy client encryption account newer (NewerSince client newer system.now)).key
        symKey := fun _ fits => fits
  refine ⟨⟨trivial, trivial, honest.session.key, ?_⟩, ?_, ?_⟩
  · intro cache present refreshed
    exact absurd past (Nat.not_le_of_lt refreshed)
  · intro task refresh inside
    refine refresh_widens _ _ (fun _ _ => trivial) (fun _ _ => trivial) keys refresh ?_
      (honest.refreshes task refresh inside)
    rintro sync symKey rfl
    exact unheld task sync symKey inside
  · intro renewal renewing
    exact renewal_widens _ _ (fun _ _ => trivial) (fun _ _ => trivial) keys renewal
      (honest.tokenLoop renewal renewing)

/-! ## The time of the last refresh -/

variable {ι : Type} [DecidableEq ι]

/-- Over a run of the operator the last refresh never gets older. -/
theorem run_refreshed (operator last : Operator ι) (events : List (Reconciler.Event ι))
    (sound : Sound operator.client)
    (ran : run (Reconciler.step client) operator events = some last) :
    operator.client.session.lastRefreshAt ≤ last.client.session.lastRefreshAt := by
  have kept := run_invariant (VaultClient.step client)
    (fun system => Sound system ∧
      operator.client.session.lastRefreshAt ≤ system.session.lastRefreshAt) ?_ _ _ _
    ⟨sound, Nat.le_refl _⟩ (run_client client operator last events ran)
  · exact kept.2
  · rintro system event next ⟨sound, since⟩ taken
    have move := step_move client system next event taken
    exact ⟨move_sound client system next event sound move,
      Nat.le_trans since (move_clock client system next event sound move).2⟩

/-! ## After the refresh -/

/-- The cache has been refreshed since the moment, under a server that knows newer versions
only. -/
structure Refreshed (moment : Nat) (operator : Operator ι) : Prop where
  sound : Sound operator.client
  honest : SystemFits (honestPolicy client encryption account newer
    (NewerSince client newer moment)) operator.client
  since : moment < operator.client.session.lastRefreshAt

omit [DecidableEq ι] in
/-- The cache is that of a newer version. -/
theorem refreshed_cache (moment : Nat) (operator : Operator ι)
    (refreshed : Refreshed client encryption account newer moment operator) :
    ∃ vault, newer vault ∧ operator.client.session.vault = some (vault.cache client.unicode) := by
  obtain ⟨cache, present⟩ := refreshed.sound.cached
  obtain ⟨vault, version, rfl⟩ := refreshed.honest.session.cached cache present refreshed.since
  exact ⟨vault, version, present⟩

theorem refreshed_run (owns : Owns client account) (moment : Nat) (operator last : Operator ι)
    (events : List (Reconciler.Event ι))
    (refreshed : Refreshed client encryption account newer moment operator)
    (honest : ∀ event ∈ events, HonestOperatorEvent client encryption account newer event)
    (ran : run (Reconciler.step client) operator events = some last) :
    Refreshed client encryption account newer moment last where
  sound := run_keeps_sound client operator last events refreshed.sound ran
  honest := run_honest client encryption account newer _ owns (newer_brings client newer moment)
    operator last events refreshed.honest honest ran
  since := Nat.lt_of_lt_of_le refreshed.since
    (run_refreshed client operator last events refreshed.sound ran)

/-- A refresh that ends after a moment at which no answer was held. -/
theorem refreshed_since (owns : Owns client account) (start now : Nat) (session : Session)
    (creation : List CreationEvent) (moment fresh : Operator ι)
    (before refresh : List (Reconciler.Event ι))
    (created : run (create client) (start, .authenticating) creation =
      some (now, .returned (.ok session)))
    (reached : run (Reconciler.step client) (Operator.around ι now session) before = some moment)
    (refreshing : run (Reconciler.step client) moment refresh = some fresh)
    (honestCreation : ∀ event ∈ creation,
      HonestCreationEvent client encryption account versions event)
    (honestBefore : ∀ event ∈ before, HonestOperatorEvent client encryption account versions event)
    (honestSince : ∀ event ∈ refresh, HonestOperatorEvent client encryption account newer event)
    (unheld : Unheld moment.client)
    (since : moment.client.now < fresh.client.session.lastRefreshAt) :
    Refreshed client encryption account newer moment.client.now fresh := by
  have isInitial := OneSnapshot.created_initial client ι start now session creation created
  have soundMoment := run_sound client now session moment before isInitial reached
  have honestSession := created_honest client encryption account versions (fun _ _ => True) owns
    (fun _ _ _ => trivial) start now session creation honestCreation created
  have honestMoment := run_honest client encryption account versions (fun _ _ => True) owns
    (fun _ _ _ => trivial) _ moment before
    (around_session_fits _ now session honestSession) honestBefore reached
  refine ⟨run_keeps_sound client moment fresh refresh soundMoment refreshing, ?_, since⟩
  exact run_honest client encryption account newer _ owns
    (newer_brings client newer moment.client.now) moment fresh refresh
    (moment_honest client encryption account versions newer moment.client _ soundMoment.past unheld
      honestMoment) honestSince refreshing

/-! ## The update arrives -/

/-- Updates of the vault arrive. Take an account and a server that answers for it honestly
or not at all, and let the operator run up to a moment at which no refresh holds an answer.
From that moment on let the server know newer versions of the vault only. Once some refresh
has succeeded after the moment, by the clock of the client, every reconcile that begins then
sends newer versions only: there is one newer version, in the cache since its begin, in which
each value is that of an item that the entry asks for. Refreshes and renewals that were under
way at the moment, the failures of the server and the other reconciles change nothing of
that. -/
theorem updates_arrive (owns : Owns client account) (yields : Extraction.Yields client.values)
    (start now : Nat) (session : Session) (creation : List CreationEvent)
    (moment fresh last : Operator ι) (before refresh after : List (Reconciler.Event ι))
    (created : run (create client) (start, .authenticating) creation =
      some (now, .returned (.ok session)))
    (reached : run (Reconciler.step client) (Operator.around ι now session) before = some moment)
    (refreshing : run (Reconciler.step client) moment refresh = some fresh)
    (ran : run (Reconciler.step client) fresh after = some last)
    (honestCreation : ∀ event ∈ creation,
      HonestCreationEvent client encryption account versions event)
    (honestBefore : ∀ event ∈ before, HonestOperatorEvent client encryption account versions event)
    (honestSince : ∀ event ∈ refresh ++ after,
      HonestOperatorEvent client encryption account newer event)
    (unheld : Unheld moment.client)
    (since : moment.client.now < fresh.client.session.lastRefreshAt)
    (id : ι) (idle : fresh.reconciles id = .idle) (body : SecretBody)
    (sent : (last.reconciles id).request.bind bodyOf = some body) :
    ∃ vws vault, newer vault ∧
      SeenSince client fresh after id vws (vault.cache client.unicode) ∧
      InTheClear client vault vws body := by
  have refreshed := refreshed_since client encryption account versions newer owns start now session
    creation moment fresh before refresh created reached refreshing honestCreation honestBefore
    (fun event member => honestSince event (List.mem_append_left after member)) unheld since
  obtain ⟨vws, holds⟩ := held_sent _ body sent
  obtain ⟨cache, seen, carries⟩ :=
    (run_known_since client fresh last after refreshed.sound id idle ran).holding vws body holds
  obtain ⟨earlier, time, during, rest, middle, whole, looked, present⟩ := seen
  have honestDuring : ∀ event ∈ earlier ++ .start id time vws :: during,
      HonestOperatorEvent client encryption account newer event := by
    intro event member
    refine honestSince event (List.mem_append_right refresh ?_)
    rw [whole]
    exact List.mem_append_left rest member
  obtain ⟨vault, version, presentToo⟩ := refreshed_cache client encryption account newer _ middle
    (refreshed_run client encryption account newer owns _ fresh middle _ refreshed honestDuring
      looked)
  rw [present] at presentToo
  cases presentToo
  exact ⟨vws, vault, version, ⟨earlier, time, during, rest, middle, whole, looked, present⟩,
    carries_in_the_clear client yields vault vws body carries⟩

/-! ## A refresh of the cache loop -/

/-- A refresh of the cache loop under a valid token that is answered at once. -/
def backgroundRefresh (sync : SyncResponse) : List (Reconciler.Event ι) :=
  [.client (.cacheLoop .proceed), .client (.cacheLoop .proceed), .client (.cacheLoop .proceed),
    .client (.cacheLoop .proceed), .client (.cacheLoop (.sync (.body sync))),
    .client (.cacheLoop .proceed)]

/-- The operator after a refresh. -/
def refreshedWith (operator : Operator ι) (cache : VaultCache) : Operator ι :=
  { operator with client := { operator.client with
      session := { operator.client.session with
        vault := some cache, lastRefreshAt := operator.client.now }
      cacheLoop := .waiting } }

/-- Such a refresh brings what the answer opens to. -/
theorem background_refreshed (operator : Operator ι) (sync : SyncResponse) (cache : VaultCache)
    (skips : DecryptSkips) (waiting : operator.client.cacheLoop = .waiting)
    (valid : operator.client.now + 60 * secondNs < operator.client.session.tokenExpiresAt)
    (opened : decryptVault client.crypto client.unicode sync operator.client.session.symKey =
      .ok (cache, skips)) :
    run (Reconciler.step client) operator (backgroundRefresh sync) =
      some (refreshedWith operator cache) := by
  have lasting : ¬ operator.client.now + 60 * secondNs ≥ operator.client.session.tokenExpiresAt :=
    Nat.not_le_of_lt valid
  simp only [backgroundRefresh, run, Reconciler.step, clientStep, isCall, VaultClient.step,
    cacheLoopStep, waiting, refreshStep, renewalStep, lasting, if_false, Bool.false_eq_true,
    Option.map_some, Option.bind_some, aroundRenewal, afterBackground, fetchSync, opened,
    refreshedWith]

end

/-! ## An item is added -/

def emptyVault : Vault where
  organizations := []
  items := []
  distinct := List.nodup_nil

def emptySync : SyncResponse := { samplePersonalSync with ciphers := [] }

theorem empty_vault_stored : Stores accountEncryption sampleFullKey emptyVault emptySync :=
  ⟨.inl ⟨rfl, rfl⟩, .nil⟩

/-- The operator around the empty vault. -/
def emptyOperator : Operator Bool := Operator.around Bool 0 (sessionWith emptyVault)

/-- One nanosecond later a refresh of the cache loop has brought the sample vault. -/
def filledOperator : Operator Bool :=
  refreshedWith { emptyOperator with client := { emptyOperator.client with now := 1 } }
    (samplePlainVault.cache asciiTables)

theorem filled_operator_reached : run (Reconciler.step accountClient) emptyOperator
    (.client (.elapse 1) :: backgroundRefresh samplePersonalSync) = some filledOperator := by
  refine (run_next (Reconciler.step accountClient) emptyOperator _ _ _ rfl).trans ?_
  exact background_refreshed accountClient _ samplePersonalSync _ ⟨0, 0⟩ rfl (by decide)
    (stored_vault_decrypts accountEncryption asciiTables sampleFullKey samplePlainVault
      samplePersonalSync sample_vault_stored)

/-- The refresh and a reconcile after it, up to the patch of its status. -/
theorem filling_honest : ∀ event ∈ (.client (.elapse 1) :: backgroundRefresh samplePersonalSync) ++
    (sampleReconcile ++ [.wrote false "t3" (.ok ())]),
    HonestOperatorEvent accountClient accountEncryption sampleAccount (· = samplePlainVault)
      event := by
  intro event member
  simp only [backgroundRefresh, sampleReconcile, List.mem_append, List.mem_cons,
    List.not_mem_nil, or_false] at member
  rcases member with (rfl | rfl | rfl | rfl | rfl | rfl | rfl) | (rfl | rfl | rfl | rfl) | rfl <;>
    try trivial
  exact ⟨samplePlainVault, rfl, sample_vault_stored⟩

theorem empty_unheld : Unheld emptyOperator.client := by
  intro task sync symKey inside
  cases task <;> cases inside

/-- The sample item is added to an empty vault, and a reconcile that begins after the next
refresh of the cache loop writes it. -/
theorem updates_arrive_sample :
    ∃ last body,
      run (Reconciler.step accountClient) emptyOperator
        (.client (.elapse 1) :: backgroundRefresh samplePersonalSync) = some filledOperator ∧
      run (Reconciler.step accountClient) filledOperator sampleReconcile = some last ∧
      (last.reconciles false).request.bind bodyOf = some body ∧
      body.stringData.lookup "token" = some "db" ∧
      ∃ vws vault, vault = samplePlainVault ∧
        SeenSince accountClient filledOperator sampleReconcile false vws
          (vault.cache asciiTables) ∧
        InTheClear accountClient vault vws body := by
  have ran : ((run (Reconciler.step accountClient) filledOperator sampleReconcile).bind
      (fun last => ((last.reconciles false).request.bind bodyOf).map
        (fun body => body.stringData.lookup "token"))) = some (some "db") := by
    decide +kernel
  obtain ⟨last, ended, sends⟩ := Option.bind_eq_some_iff.mp ran
  obtain ⟨body, sent, value⟩ := Option.map_eq_some_iff.mp sends
  refine ⟨last, body, filled_operator_reached, ended, sent, value, ?_⟩
  refine updates_arrive accountClient accountEncryption sampleAccount (· = emptyVault)
    (· = samplePlainVault) ⟨rfl, rfl⟩ (fun map => List.Perm.refl _) 0 0 (sessionWith emptyVault)
    (creationWith emptySync) emptyOperator filledOperator last [] _ sampleReconcile
    (creation_with_returns emptyVault emptySync empty_vault_stored) rfl filled_operator_reached
    ended (creation_with_honest emptyVault emptySync empty_vault_stored)
    (fun _ member => by cases member) ?_ empty_unheld Nat.zero_lt_one false rfl body sent
  intro event member
  apply filling_honest event
  rw [← List.append_assoc]
  exact List.mem_append_left _ member

end VaultwardenOperator.Freshness

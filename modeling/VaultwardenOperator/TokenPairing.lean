import VaultwardenOperator.ClientSteps

/-!
# The token and the key of a refresh

A refresh reads the access token and the symmetric key one after the other, and
after a 401 it reads another token but no other key. The history remembers, for
each task, the key that the session held when the task last read a token, and
for each decryption that key beside the key that was used. They agree when no
other login is installed between the reads.
-/

namespace VaultwardenOperator.TokenPairing

open Rust Crypto Sync Auth Machine VaultClient ClientSteps

/-- A decryption: the key held with the token of the request, and the key used. -/
structure Decryption where
  held : SymmetricKey
  used : SymmetricKey
deriving DecidableEq

/-- The key held when a task last read its token, and the decryptions, newest first. -/
structure History (ι : Type) where
  held : Refresher ι → SymmetricKey
  decryptions : List Decryption

section
variable {RsaPrivateKey : Type} (client : Client RsaPrivateKey) {ι : Type} [DecidableEq ι]

/-- The history after a step. A token is read in two places; the key goes into
`decrypt_vault` where the snapshot is installed. -/
def record (history : History ι) (system : System ι) (event : Event ι) (_ : System ι) :
    History ι :=
  match taskOf event with
  | none => history
  | some task =>
    match refreshOf system task with
    | some .readingToken =>
      { history with held := Function.update history.held task system.session.symKey }
    | some (.rereadingToken _) =>
      { history with held := Function.update history.held task system.session.symKey }
    | some (.installing _ symKey) =>
      { history with decryptions := ⟨history.held task, symKey⟩ :: history.decryptions }
    | _ => history

/-- Where a step reads the second of a token and a key: the key of the first read
and the key now in the session. The key is read after the first token and before
the token that follows a 401. -/
def secondRead (pair : System ι × History ι) (event : Event ι) :
    Option (SymmetricKey × SymmetricKey) :=
  (taskOf event).bind (fun task =>
    match refreshOf pair.1 task with
    | some (.readingKey _) => some (pair.2.held task, pair.1.session.symKey)
    | some (.rereadingToken symKey) => some (symKey, pair.1.session.symKey)
    | _ => none)

/-- No login with another key is installed between the two reads. -/
def SameLogin (pair : System ι × History ι) (event : Event ι) : Prop :=
  ∀ keys ∈ secondRead pair event, keys.1 = keys.2

instance (pair : System ι × History ι) (event : Event ι) : Decidable (SameLogin pair event) :=
  inferInstanceAs (Decidable (∀ keys ∈ secondRead pair event, keys.1 = keys.2))

/-- The key a refresh carries to its request is the one held with the token. -/
def Keyed (held : SymmetricKey) : Refresh → Prop
  | .syncing _ symKey => symKey = held
  | .resyncing _ symKey => symKey = held
  | .installing _ symKey => symKey = held
  | _ => True

/-- Every decryption used the key held with the token. -/
def Paired (history : History ι) : Prop :=
  ∀ decryption ∈ history.decryptions, decryption.used = decryption.held

structure Kept (pair : System ι × History ι) : Prop where
  keyed : ∀ task refresh, refreshOf pair.1 task = some refresh → Keyed (pair.2.held task) refresh
  paired : Paired pair.2

/-- The held key of a task changes only when that task reads a token. -/
theorem record_held (history : History ι) (system next : System ι) (event : Event ι)
    (task : Refresher ι)
    (reads : taskOf event = some task → ∀ refresh, refreshOf system task = some refresh →
      refresh ≠ .readingToken ∧ ∀ symKey, refresh ≠ .rereadingToken symKey) :
    (record history system event next).held task = history.held task := by
  unfold record
  split
  · rfl
  · rename_i turn own
    by_cases same : task = turn
    · subst same
      split
      · rename_i at'
        exact absurd rfl (reads own _ at').1
      · rename_i symKey at'
        exact absurd rfl ((reads own _ at').2 symKey)
      · rfl
      · rfl
    · split
      · exact Function.update_of_ne same _ _
      · exact Function.update_of_ne same _ _
      · rfl
      · rfl

/-- The key a refresh carries stays the one held with its token. -/
theorem keyed_step (system next : System ι) (history : History ι) (event : Event ι)
    (kept : Kept (system, history)) (move : Move client system event next)
    (sameLogin : SameLogin (system, history) event) (task : Refresher ι) (refresh : Refresh)
    (running : refreshOf next task = some refresh) :
    Keyed ((record history system event next).held task) refresh := by
  have elsewhere : (∀ current, refreshOf system task = some current →
      current ≠ .readingToken ∧ ∀ symKey, current ≠ .rereadingToken symKey) →
      (record history system event next).held task = history.held task :=
    fun reads => record_held history system next event task (fun _ => reads)
  cases task_move client system next event move task with
  | still same other =>
    rw [same] at running
    rw [record_held history system next event task ?_]
    · exact kept.keyed task refresh running
    · intro own current at'
      rw [other own] at at'
      cases at'
  | begun own before after session =>
    rw [after] at running
    cases running
    trivial
  | moved own current signal progress before move after =>
    rw [after] at running
    have carried := kept.keyed task current before
    have same : ∀ keys, secondRead (system, history) event = some keys → keys.1 = keys.2 := sameLogin
    simp only [secondRead, own, before, Option.bind_some] at same
    generalize next.session = reached at move
    cases move with
    | ensure renewal _ session inner taken =>
      rcases inner with _ | (_ | _) <;> cases running <;> trivial
    | renew symKey renewal _ session inner taken =>
      rcases inner with _ | (_ | _) <;> cases running <;> trivial
    | readToken =>
      cases running
      trivial
    | readKey accessToken =>
      cases running
      rw [elsewhere (by rw [before]; simp)]
      exact (same _ rfl).symm
    | answered accessToken symKey answer response fetched =>
      cases running
      rw [elsewhere (by rw [before]; simp)]
      exact carried
    | refused accessToken symKey answer unauthorized =>
      cases running
      trivial
    | failed accessToken symKey answer error unanswered authorized => cases running
    | rereadToken symKey =>
      cases running
      simp only [Keyed, record, own, before, Function.update_self]
      exact same _ rfl
    | reanswered accessToken symKey answer response fetched =>
      cases running
      rw [elsewhere (by rw [before]; simp)]
      exact carried
    | refailed accessToken symKey answer error unanswered => cases running
    | install response symKey cache skips decrypted => cases running

omit [DecidableEq ι] in
theorem paired_cons (history : History ι) (held used : SymmetricKey) (paired : Paired history)
    (same : used = held) :
    Paired { history with decryptions := ⟨held, used⟩ :: history.decryptions } := by
  intro decryption made
  rcases List.mem_cons.mp made with rfl | earlier
  · exact same
  · exact paired decryption earlier

/-- A decryption uses the key its refresh carries. -/
theorem paired_step (system next : System ι) (history : History ι) (event : Event ι)
    (kept : Kept (system, history)) : Paired (record history system event next) := by
  unfold record
  split
  · exact kept.paired
  · rename_i task own
    split
    · exact kept.paired
    · exact kept.paired
    · rename_i response symKey at'
      exact paired_cons history _ symKey kept.paired (kept.keyed task _ at')
    · exact kept.paired

/-- Each step keeps the invariant, provided that it does not read a key from
another login than the token. -/
theorem kept_step : Preserves (observed (step client) record) (SameLogin (ι := ι)) Kept := by
  apply preserves_moves
  intro system next history event kept sameLogin move
  exact ⟨keyed_step client system next history event kept move sameLogin,
    paired_step system next history event kept⟩

/-- Token and key go together: in every run that never reads a key from another
login than the token, each decryption uses the key held with the token. -/
theorem decryptions_paired (system last : System ι) (before history : History ι)
    (events : List (Event ι)) (initial : Initial system) (none : before.decryptions = [])
    (met : Meets (observed (step client) record) SameLogin (system, before) events)
    (ran : run (observed (step client) record) (system, before) events = some (last, history)) :
    Paired history := by
  have kept : Kept (system, before) := by
    constructor
    · intro task refresh running
      rw [initial_refresh system initial task] at running
      cases running
    · intro decryption made
      rw [none] at made
      cases made
  exact (run_keeps _ _ _ (kept_step client) _ _ events kept met ran).paired

/-! ## Reads of two logins -/

/-- The step of a task that is given a signal. -/
def turn : Refresher ι → Signal → Event ι
  | .onDemand id, signal => .fetch id signal
  | .background, signal => .cacheLoop signal

omit [DecidableEq ι] in
theorem turn_task (task : Refresher ι) (signal : Signal) : taskOf (turn task signal) = some task := by
  cases task <;> rfl

/-- A step of its refresh is a step of the task. -/
theorem task_turn (system : System ι) (task : Refresher ι) (refresh : Refresh) (signal : Signal)
    (session : Session) (progress : Progress Refresh (Call VaultError Unit))
    (running : refreshOf system task = some refresh)
    (taken : refreshStep client system.now system.session refresh signal =
      some (session, progress)) :
    ∃ next, step client system (turn task signal) = some next ∧
      refreshOf next task = ongoing progress := by
  cases task with
  | onDemand id =>
    simp only [refreshOf] at running
    cases phase : system.fetches id with
    | refreshing requests miss current =>
      rw [phase] at running
      cases running
      have stepped : step client system (turn (.onDemand id) signal) =
          some { system.withFetch id (afterOnDemand requests miss progress) with
            session, refreshLock := lockAfter id progress } := by
        simp only [turn, step, fetchStep, phase, taken, Option.map_some]
      refine ⟨_, stepped, ?_⟩
      rw [← after_on_demand_refresh requests miss progress]
      exact congrArg fetchRefresh (with_fetch_self system id _)
    | _ =>
      rw [phase] at running
      cases running
  | background =>
    simp only [refreshOf] at running
    cases phase : system.cacheLoop with
    | refreshing current =>
      rw [phase] at running
      cases running
      have stepped : step client system (turn .background signal) =
          some { system with session, cacheLoop := afterBackground progress } := by
        simp only [turn, step, cacheLoopStep, phase, taken, Option.map_some]
      exact ⟨_, stepped, after_background_refresh progress⟩
    | _ =>
      rw [phase] at running
      cases running

/-- An answer to a request whose refresh carries another key than the one held with its
token is decrypted with the wrong key. -/
theorem answer_unpaired (system : System ι) (history : History ι) (task : Refresher ι)
    (refresh : Refresh) (accessToken : String) (symKey : SymmetricKey) (sync : SyncResponse)
    (running : refreshOf system task = some refresh)
    (carries : refresh = .syncing accessToken symKey ∨ refresh = .resyncing accessToken symKey)
    (differ : symKey ≠ history.held task) :
    ∃ last, run (observed (step client) record) (system, history)
        [turn task (.sync (.body sync)), turn task .proceed] = some last ∧ ¬ Paired last.2 := by
  have answered : refreshStep client system.now system.session refresh (.sync (.body sync)) =
      some (system.session, .running (.installing sync symKey)) := by
    rcases carries with rfl | rfl <;> rfl
  obtain ⟨next, taken, installing⟩ := task_turn client system task refresh _ _ _ running answered
  have installed : ∃ session, refreshStep client next.now next.session (.installing sync symKey)
      .proceed = some (session, .done (.ok ())) := by
    obtain ⟨orgKeys, skips, -, decrypted⟩ :=
      decrypt_vault_spec client.crypto client.unicode sync symKey
    simp only [refreshStep, decrypted]
    exact ⟨_, rfl⟩
  obtain ⟨session, installed⟩ := installed
  obtain ⟨last, replaced, -⟩ := task_turn client next task _ _ _ _ installing installed
  have unread : record history system (turn task (.sync (.body sync))) next = history := by
    rcases carries with rfl | rfl <;> simp only [record, turn_task, running]
  refine ⟨(last, record history next (turn task .proceed) last), ?_, fun paired => ?_⟩
  · simp only [run, observed, taken, Option.map_some, Option.bind_some, unread, replaced]
  · have made : (⟨history.held task, symKey⟩ : Decryption) ∈
        (record history next (turn task .proceed) last).decryptions := by
      simp only [record, turn_task, installing, ongoing]
      exact List.mem_cons_self
    exact differ (paired _ made)

/-- The condition is tight: after a step that reads a key of another login than the token,
the next answer to the refresh is decrypted with the wrong key. -/
theorem mismatch_unpaired (system next : System ι) (history : History ι) (event : Event ι)
    (sync : SyncResponse) (mismatched : ¬ SameLogin (system, history) event)
    (taken : step client system event = some next) :
    ∃ task last, run (observed (step client) record) (system, history)
        [event, turn task (.sync (.body sync)), turn task .proceed] = some last ∧
      ¬ Paired last.2 := by
  simp only [SameLogin, not_forall] at mismatched
  obtain ⟨⟨first, second⟩, read, differ⟩ := mismatched
  obtain ⟨task, own, reads⟩ := Option.bind_eq_some_iff.mp read
  have move := step_move client system next event taken
  have continued : ∀ refresh accessToken symKey, refreshOf next task = some refresh →
      (refresh = .syncing accessToken symKey ∨ refresh = .resyncing accessToken symKey) →
      symKey ≠ (record history system event next).held task →
      ∃ task last, run (observed (step client) record) (system, history)
          [event, turn task (.sync (.body sync)), turn task .proceed] = some last ∧
        ¬ Paired last.2 := by
    intro refresh accessToken symKey running carries wrong
    obtain ⟨last, ran, unpaired⟩ := answer_unpaired client next _ task refresh accessToken symKey
      sync running carries wrong
    refine ⟨task, last, ?_, unpaired⟩
    rw [run_next _ _ _ _ _ (observed_taken _ _ system next history event taken)]
    exact ran
  cases task_move client system next event move task with
  | still same other =>
    rw [other own] at reads
    cases reads
  | begun _ before after session =>
    rw [before] at reads
    cases reads
  | moved _ current signal progress before moved after =>
    rw [before] at reads
    generalize next.session = reached at moved
    cases moved with
    | readKey accessToken =>
      cases reads
      refine continued _ accessToken _ after (.inl rfl) ?_
      rw [record_held history system next event task (fun _ => by rw [before]; simp)]
      exact fun same => differ same.symm
    | rereadToken symKey =>
      cases reads
      refine continued _ _ _ after (.inr rfl) ?_
      simp only [record, own, before, Function.update_self]
      exact differ
    | _ => cases reads

end

/-- A background refresh up to its request for `/api/sync`. -/
def backgroundSync : List (Event Bool) :=
  [.cacheLoop .proceed, .cacheLoop .proceed, .cacheLoop .proceed, .cacheLoop .proceed]

/-- A key that the sample account no longer has. -/
def staleKey : SymmetricKey := ⟨List.replicate 32 3, List.replicate 32 4⟩

def unread : History Bool := ⟨fun _ => staleKey, []⟩

/-- A refresh that is answered at once. -/
def answeredSync : List (Event Bool) :=
  backgroundSync ++ [.cacheLoop (.sync (.body (sampleSync []))), .cacheLoop .proceed]

theorem decryptions_paired_sample :
    (run (observed (step sampleClient) record) (sampleSystem Bool, unread) answeredSync).map
      (fun pair => pair.2.decryptions) = some [⟨sampleKey, sampleKey⟩] ∧
    ∀ last history,
      run (observed (step sampleClient) record) (sampleSystem Bool, unread) answeredSync =
        some (last, history) → Paired history :=
  ⟨by decide +kernel, fun last history =>
    decryptions_paired sampleClient (sampleSystem Bool) last unread history answeredSync
      (sample_initial Bool) rfl (by decide +kernel)⟩

/-- A refresh under a login whose key has changed on the server: the request is
refused, so is the refresh grant, and the full login brings the new key. -/
def refusedSync : List (Event Bool) :=
  backgroundSync ++
    [.cacheLoop (.sync (.server 401 "")), .cacheLoop .proceed,
      .cacheLoop (.token (.server 400 "invalid_grant")), .cacheLoop (.login sampleLogin),
      .cacheLoop .proceed, .cacheLoop .proceed,
      .cacheLoop (.sync (.body (sampleSync [sampleCipher]))), .cacheLoop .proceed]

/-- The sample system in a session of the old key. -/
def staleSystem : System Bool :=
  { sampleSystem Bool with session := { (sampleSystem Bool).session with symKey := staleKey } }

/-- The answer obtained under the new login is decrypted with the old key, and the
cache that replaces the former one has lost its item. -/
theorem decryptions_unpaired :
    Initial staleSystem ∧
      ∃ last history,
        run (observed (step sampleClient) record) (staleSystem, unread) refusedSync =
          some (last, history) ∧
        last.session.symKey = sampleKey ∧ last.session.vault.map VaultCache.items = some [] ∧
        ¬ Paired history := by
  have ran : (run (observed (step sampleClient) record) (staleSystem, unread) refusedSync).map
      (fun pair => (pair.1.session.symKey, pair.1.session.vault.map VaultCache.items,
        pair.2.decryptions)) = some (sampleKey, some [], [⟨sampleKey, staleKey⟩]) := by
    decide +kernel
  obtain ⟨⟨last, history⟩, ended, same⟩ := Option.map_eq_some_iff.mp ran
  obtain ⟨key, items, made⟩ : last.session.symKey = sampleKey ∧
      last.session.vault.map VaultCache.items = some [] ∧
      history.decryptions = [⟨sampleKey, staleKey⟩] := by
    simpa using same
  refine ⟨⟨⟨_, rfl⟩, Nat.zero_le _, rfl, fun _ => rfl, rfl, rfl⟩, last, history, ended, key,
    items, ?_⟩
  intro paired
  exact absurd (paired ⟨sampleKey, staleKey⟩ (by rw [made]; exact List.mem_cons_self)) (by decide)

end VaultwardenOperator.TokenPairing

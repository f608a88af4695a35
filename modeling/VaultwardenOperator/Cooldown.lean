import VaultwardenOperator.ClientSteps

/-!
# The cooldown of on-demand refreshes

A history of the on-demand refreshes is kept beside the system: when each
started, when the one before it had ended, and whether the last one failed. The
cooldown is measured from `last_refresh_at`, which only a refresh that succeeds
moves. So the spacing of the starts is guaranteed after a success and absent
after a failure.
-/

namespace VaultwardenOperator.Cooldown

open Rust Sync Machine VaultClient ClientSteps

/-- The start of an on-demand refresh, and the end of the one before it. -/
structure Start where
  time : Nat
  previousEnd : Option Nat
deriving DecidableEq

/-- The on-demand refreshes so far, newest first. -/
structure History where
  lastEnd : Option Nat
  failed : Bool
  starts : List Start
deriving DecidableEq

def noHistory : History := ⟨none, false, []⟩

section
variable {RsaPrivateKey : Type} (client : Client RsaPrivateKey) {ι : Type}

/-- The history after a step. -/
def record (history : History) (system : System ι) (event : Event ι) (next : System ι) :
    History :=
  match event with
  | .fetch id _ =>
    match refreshOf system (.onDemand id), refreshOf next (.onDemand id) with
    | none, some _ => { history with starts := ⟨system.now, history.lastEnd⟩ :: history.starts }
    | some _, none =>
      { history with lastEnd := some system.now, failed := !isRetrying (next.fetches id) }
    | _, _ => history
  | _ => history

/-- The event lets a call past its cooldown check. -/
def startsRefresh (system : System ι) : Event ι → Bool
  | .fetch id .proceed =>
    match system.fetches id with
    | .checking _ _ =>
      !decide (system.now - system.session.lastRefreshAt < client.minRefreshInterval)
    | _ => false
  | _ => false

/-- No call is let past its cooldown check sooner than the cooldown after a failed on-demand
refresh. -/
def AfterFailure (pair : System ι × History) (event : Event ι) : Prop :=
  startsRefresh client pair.1 event = true → pair.2.failed = true →
    ∀ lastEnd ∈ pair.2.lastEnd, lastEnd + client.minRefreshInterval ≤ pair.1.now

instance (pair : System ι × History) (event : Event ι) :
    Decidable (AfterFailure client pair event) :=
  inferInstanceAs (Decidable (_ → _ → _))

/-- The cooldown has passed at every start since the end of the refresh before it,
and since the start of every refresh before it. -/
structure Spaced (history : History) : Prop where
  ends : ∀ start ∈ history.starts, ∀ previousEnd, start.previousEnd = some previousEnd →
    previousEnd + client.minRefreshInterval ≤ start.time
  starts : history.starts.Pairwise (fun later earlier =>
    earlier.time + client.minRefreshInterval ≤ later.time)

/-- What the steps keep: refreshes that started have ended unless one is still
running, and after a success the cooldown is measured from no earlier than its end. -/
structure Kept (pair : System ι × History) : Prop where
  sound : Sound pair.1
  ended : ∀ start ∈ pair.2.starts, (∃ id, (refreshOf pair.1 (.onDemand id)).isSome) ∨
    ∃ lastEnd, pair.2.lastEnd = some lastEnd ∧ start.time ≤ lastEnd
  past : ∀ start ∈ pair.2.starts, start.time ≤ pair.1.now
  measured : pair.2.failed = false → ∀ lastEnd, pair.2.lastEnd = some lastEnd →
    lastEnd ≤ pair.1.session.lastRefreshAt
  spaced : Spaced client pair.2

/-- A step that neither starts nor ends an on-demand refresh. -/
theorem kept_quiet (system next : System ι) (history : History)
    (kept : Kept client (system, history)) (sound : Sound next)
    (clock : system.now ≤ next.now)
    (refreshed : system.session.lastRefreshAt ≤ next.session.lastRefreshAt)
    (running : ∀ id, (refreshOf system (.onDemand id)).isSome →
      (refreshOf next (.onDemand id)).isSome) : Kept client (next, history) where
  sound := sound
  ended start started := by
    rcases kept.ended start started with ⟨id, runs⟩ | ended
    · exact .inl ⟨id, running id runs⟩
    · exact .inr ended
  past start started := le_trans (kept.past start started) clock
  measured well lastEnd last := le_trans (kept.measured well lastEnd last) refreshed
  spaced := kept.spaced

/-- A call that is being checked holds the lock, so no call runs a refresh. -/
theorem checking_alone (system : System ι) (sound : Sound system) (id : ι)
    (requests : List SecretRequest) (miss : LookupError)
    (checking : system.fetches id = .checking requests miss) (other : ι) :
    refreshOf system (.onDemand other) = none := by
  cases running : refreshOf system (.onDemand other) with
  | none => rfl
  | some refresh =>
    have inside : Inside (system.fetches other) :=
      refreshing_inside system other (by rw [running]; rfl)
    have same : other = id := inside_unique system sound id other (by rw [checking]; trivial) inside
    subst same
    simp only [refreshOf, checking] at running
    cases running

/-- A start is spaced after a success, and after a failure if it has waited. -/
theorem kept_start (system next : System ι) (history : History) (id : ι)
    (kept : Kept client (system, history)) (sound : Sound next) (clock : next.now = system.now)
    (refreshed : next.session.lastRefreshAt = system.session.lastRefreshAt)
    (alone : ∀ other, refreshOf system (.onDemand other) = none)
    (running : (refreshOf next (.onDemand id)).isSome)
    (due : ¬ system.now - system.session.lastRefreshAt < client.minRefreshInterval)
    (afterFailure : history.failed = true → ∀ lastEnd ∈ history.lastEnd,
      lastEnd + client.minRefreshInterval ≤ system.now) :
    Kept client
      (next, { history with starts := ⟨system.now, history.lastEnd⟩ :: history.starts }) := by
  have past : system.session.lastRefreshAt ≤ system.now := kept.sound.past
  have waited : ∀ lastEnd, history.lastEnd = some lastEnd →
      lastEnd + client.minRefreshInterval ≤ system.now := by
    intro lastEnd last
    cases failed : history.failed with
    | true => exact afterFailure failed lastEnd last
    | false =>
      have measured : lastEnd ≤ system.session.lastRefreshAt := kept.measured failed lastEnd last
      omega
  refine ⟨sound, fun start _ => .inl ⟨id, running⟩, ?_, ?_, ?_, ?_⟩
  · intro start started
    rcases List.mem_cons.mp started with rfl | earlier
    · exact le_of_eq clock.symm
    · rw [clock]
      exact kept.past start earlier
  · intro stillWell lastEnd last
    rw [refreshed]
    exact kept.measured stillWell lastEnd last
  · intro start started previousEnd previous
    rcases List.mem_cons.mp started with rfl | earlier
    · exact waited previousEnd previous
    · exact kept.spaced.ends start earlier previousEnd previous
  · refine List.pairwise_cons.mpr ⟨?_, kept.spaced.starts⟩
    intro earlier started
    rcases kept.ended earlier started with ⟨other, runs⟩ | ⟨lastEnd, last, before⟩
    · rw [alone other] at runs
      cases runs
    · have spaced := waited lastEnd last
      simp only
      omega

/-- The end of a refresh. If it succeeded, the cooldown is measured from now. -/
theorem kept_end (system next : System ι) (history : History) (failed : Bool)
    (kept : Kept client (system, history)) (sound : Sound next) (clock : next.now = system.now)
    (measured : failed = false → next.session.lastRefreshAt = system.now) :
    Kept client (next, { history with lastEnd := some system.now, failed := failed }) where
  sound := sound
  ended start started := .inr ⟨system.now, rfl, kept.past start started⟩
  past start started := by
    rw [clock]
    exact kept.past start started
  measured well lastEnd last := by
    cases last
    exact le_of_eq (measured well).symm
  spaced := ⟨kept.spaced.ends, kept.spaced.starts⟩

/-- A step of a call that is in no refresh before and after it records nothing. -/
theorem record_apart (history : History) (system next : System ι) (id : ι) (signal : Signal)
    (before : fetchRefresh (system.fetches id) = none)
    (after : fetchRefresh (next.fetches id) = none) :
    record history system (.fetch id signal) next = history := by
  simp only [record, refreshOf, before, after]

theorem kept_initially (system : System ι) (initial : Initial system) :
    Kept client (system, noHistory) where
  sound := initial_sound system initial
  ended start started := by cases started
  past start started := by cases started
  measured well lastEnd last := by cases last
  spaced :=
    { ends := fun start started => by cases started
      starts := List.Pairwise.nil }

end

section
variable {RsaPrivateKey : Type} (client : Client RsaPrivateKey) {ι : Type} [DecidableEq ι]

/-- A step that is not a step of an on-demand refresh stops none of them. -/
theorem still_running (system next : System ι) (event : Event ι)
    (move : Move client system event next)
    (apart : ∀ id, taskOf event = some (.onDemand id) → refreshOf system (.onDemand id) = none)
    (id : ι) (runs : (refreshOf system (.onDemand id)).isSome) :
    (refreshOf next (.onDemand id)).isSome := by
  cases task_move client system next event move (.onDemand id) with
  | still same other =>
    rw [same]
    exact runs
  | begun own before after session =>
    rw [after]
    rfl
  | moved own refresh signal progress before move after =>
    rw [apart id own] at before
    cases before

/-- A step of the refresh of a call keeps the invariant: it goes on, or it ends. -/
theorem kept_on_demand (system next : System ι) (history : History) (id : ι)
    (requests : List SecretRequest) (miss : LookupError) (refresh : Refresh) (signal : Signal)
    (session : Session) (progress : Progress Refresh (Call VaultError Unit))
    (kept : Kept client (system, history)) (sound : Sound next) (clock : system.now ≤ next.now)
    (refreshed : system.session.lastRefreshAt ≤ next.session.lastRefreshAt)
    (refreshing : system.fetches id = .refreshing requests miss refresh)
    (taken : refreshStep client system.now system.session refresh signal =
      some (session, progress))
    (moved : next = { system.withFetch id (afterOnDemand requests miss progress) with
      session, refreshLock := lockAfter id progress }) :
    Kept client (next, record history system (.fetch id signal) next) := by
  have before : refreshOf system (.onDemand id) = some refresh := by
    simp [refreshOf, refreshing, fetchRefresh]
  subst moved
  cases progress with
  | running later =>
    have written : record history system (.fetch id signal)
        { system.withFetch id (afterOnDemand requests miss (.running later)) with
          session, refreshLock := lockAfter id (.running later) } = history := by
      simp only [record, before]
      simp [refreshOf, afterOnDemand, fetchRefresh]
    rw [written]
    apply kept_quiet client system _ history kept sound clock refreshed
    intro other runs
    by_cases own : other = id
    · subst own
      simp [refreshOf, afterOnDemand, fetchRefresh]
    · simpa [refreshOf, own] using runs
  | done result =>
    have written : record history system (.fetch id signal)
        { system.withFetch id (afterOnDemand requests miss (.done result)) with
          session, refreshLock := lockAfter id (.done result) } =
        { history with
          lastEnd := some system.now
          failed := !isRetrying (afterOnDemand requests miss (.done result)) } := by
      simp only [record, before]
      simp [refreshOf, after_on_demand_refresh, ongoing]
    rw [written]
    apply kept_end client system _ history _ kept sound rfl
    intro well
    rcases refresh_move_cache client system.now system.session session refresh signal _
      (refresh_move client system.now system.session session refresh signal _ taken) with
      ⟨-, -, unfinished⟩ | ⟨-, -, installed, -⟩
    · rcases result with (_ | _) | _
      · simp [isRetrying, afterOnDemand] at well
      · simp [isRetrying, afterOnDemand] at well
      · exact absurd rfl unfinished
    · exact installed

/-- A step of a call keeps the invariant. -/
theorem kept_fetch (system next : System ι) (history : History) (id : ι) (signal : Signal)
    (kept : Kept client (system, history)) (move : Move client system (.fetch id signal) next)
    (afterFailure : AfterFailure client (system, history) (.fetch id signal)) :
    Kept client (next, record history system (.fetch id signal) next) := by
  have sound := move_sound client system next _ kept.sound move
  obtain ⟨clock, refreshed⟩ := move_clock client system next _ kept.sound move
  have quiet : refreshOf system (.onDemand id) = none → refreshOf next (.onDemand id) = none →
      Kept client (next, record history system (.fetch id signal) next) := by
    intro before after
    rw [record_apart history system next id signal before after]
    apply kept_quiet client system next history kept sound clock refreshed
    apply still_running client system next _ move
    intro other own
    cases own
    exact before
  cases move with
  | look _ requests looking =>
    apply quiet
    · simp [refreshOf, looking, fetchRefresh]
    · simp [refreshOf, after_first_lookup_refresh]
  | lock _ requests miss queued free =>
    apply quiet
    · simp [refreshOf, queued, fetchRefresh]
    · simp [refreshOf, fetchRefresh]
  | skip _ requests miss checking cooling =>
    apply quiet
    · simp [refreshOf, checking, fetchRefresh]
    · simp [refreshOf, fetchRefresh]
  | retry _ requests retrying =>
    apply quiet
    · simp [refreshOf, retrying, fetchRefresh]
    · simp [refreshOf, settled_refresh]
  | start _ requests miss checking due =>
    have written : record history system (.fetch id .proceed)
        (system.withFetch id (.refreshing requests miss (.ensuring .checking))) =
          { history with starts := ⟨system.now, history.lastEnd⟩ :: history.starts } := by
      simp [record, refreshOf, checking, fetchRefresh]
    rw [written]
    exact kept_start client system _ history id kept sound rfl rfl
      (checking_alone system kept.sound id requests miss checking)
      (by simp [refreshOf, fetchRefresh]) due
      (afterFailure (by simpa [startsRefresh, checking] using due))
  | onDemand _ requests miss refresh _ session progress refreshing taken =>
    exact kept_on_demand client system _ history id requests miss refresh signal session progress
      kept sound clock refreshed refreshing taken rfl

/-- Each step keeps the invariant, provided that no call is let past its cooldown check
too soon after a failed refresh. -/
theorem kept_step :
    Preserves (observed (step client) record) (AfterFailure client (ι := ι)) (Kept client) := by
  apply preserves_moves
  intro system next history event kept afterFailure move
  have quiet : (∀ id, taskOf event ≠ some (.onDemand id)) → Kept client (next, history) := by
    intro apart
    obtain ⟨clock, refreshed⟩ := move_clock client system next event kept.sound move
    exact kept_quiet client system next history kept
      (move_sound client system next event kept.sound move) clock refreshed
      (still_running client system next event move (fun id own => absurd own (apart id)))
  cases event with
  | fetch id signal => exact kept_fetch client system next history id signal kept move afterFailure
  | elapse duration => exact quiet (by simp [taskOf])
  | arrive id requests => exact quiet (by simp [taskOf])
  | cacheLoop signal => exact quiet (by simp [taskOf])
  | tokenLoop signal => exact quiet (by simp [taskOf])

/-- A step after which the starts are still spaced had waited after a failure. -/
theorem spaced_after_failure (pair next : System ι × History) (event : Event ι)
    (taken : observed (step client) record pair event = some next)
    (spaced : Spaced client next.2) : AfterFailure client pair event := by
  obtain ⟨moved, written⟩ := observed_step _ _ pair next event taken
  obtain ⟨system, history⟩ := pair
  obtain ⟨reached, recorded⟩ := next
  intro starts _ lastEnd last
  have started : recorded.starts = ⟨system.now, history.lastEnd⟩ :: history.starts := by
    have move := step_move client system reached event moved
    dsimp only at written starts
    rw [written]
    cases event with
    | fetch id signal =>
      cases move with
      | start _ requests miss checking due => simp [record, refreshOf, checking, fetchRefresh]
      | skip _ requests miss checking cooling =>
        simp only [startsRefresh, checking, cooling, decide_true, Bool.not_true] at starts
        cases starts
      | look _ requests phase => simp [startsRefresh, phase] at starts
      | lock _ requests miss phase free => simp [startsRefresh, phase] at starts
      | retry _ requests phase => simp [startsRefresh, phase] at starts
      | onDemand _ requests miss refresh _ session progress phase taken =>
        cases signal <;> simp [startsRefresh, phase] at starts
    | _ => cases starts
  exact spaced.ends ⟨system.now, history.lastEnd⟩ (by rw [started]; exact List.mem_cons_self)
    lastEnd last

/-- The cooldown caps on-demand refreshes: in every state of a run each has started at least
`min_refresh_interval` after the end of the one before, if and only if no call of the run is
let past its cooldown check sooner than that after a failed one. -/
theorem on_demand_spaced (system : System ι) (last : System ι × History) (events : List (Event ι))
    (initial : Initial system)
    (ran : run (observed (step client) record) (system, noHistory) events = some last) :
    Meets (observed (step client) record) (AfterFailure client) (system, noHistory) events ↔
      ∀ before middle, before <+: events →
        run (observed (step client) record) (system, noHistory) before = some middle →
          Spaced client middle.2 :=
  meets_iff_safe (observed (step client) record) (AfterFailure client) (Kept client)
    (fun pair => Spaced client pair.2) (kept_step client) (fun _ kept => kept.spaced)
    (fun pair event next _ => spaced_after_failure client pair next event) _ last events
    (kept_initially client system initial) ran

end

/-- Two calls miss half a minute apart. The refresh of the first fails, that of the second
brings a snapshot. -/
def spacedBatch : List (Event Bool) :=
  missedLookup false ++ [.fetch false (.sync (.http "connection refused")),
    .elapse (30 * secondNs)] ++ missedLookup true ++
    [.fetch true (.sync (.body (sampleSync []))), .fetch true .proceed]

theorem on_demand_spaced_sample : ∃ last,
    run (observed (step sampleClient) record) (sampleSystem Bool, noHistory) spacedBatch =
        some last ∧
      last.2.starts.map Start.time = [90 * secondNs, 60 * secondNs] ∧
      ∀ before middle, before <+: spacedBatch →
        run (observed (step sampleClient) record) (sampleSystem Bool, noHistory) before =
            some middle →
          Spaced sampleClient middle.2 := by
  have ran : (run (observed (step sampleClient) record) (sampleSystem Bool, noHistory)
      spacedBatch).map (fun last => last.2.starts.map Start.time) =
        some [90 * secondNs, 60 * secondNs] := by
    decide
  obtain ⟨last, ended, times⟩ := Option.map_eq_some_iff.mp ran
  exact ⟨last, ended, times, (on_demand_spaced sampleClient (sampleSystem Bool) last spacedBatch
    (sample_initial Bool) ended).mp (by decide)⟩

/-- Two calls miss together and the server is down: the second is let past its
cooldown check when the refresh of the first has failed. -/
def failingBatch : List (Event Bool) :=
  [.arrive true [⟨"db", none⟩], .fetch true .proceed] ++ missedLookup false ++
    [.fetch false (.sync (.http "connection refused")), .fetch true .proceed, .fetch true .proceed]

/-- The second refresh starts at the very instant at which the first one fails. -/
theorem on_demand_unspaced :
    0 < sampleClient.minRefreshInterval ∧ Initial (sampleSystem Bool) ∧
      ∃ last history,
        run (observed (step sampleClient) record) (sampleSystem Bool, noHistory) failingBatch =
          some (last, history) ∧ ¬ Spaced sampleClient history := by
  have ran : (run (observed (step sampleClient) record) (sampleSystem Bool, noHistory)
      failingBatch).map Prod.snd = some
        { lastEnd := some (60 * secondNs)
          failed := true
          starts := [⟨60 * secondNs, some (60 * secondNs)⟩, ⟨60 * secondNs, none⟩] } := by
    decide
  obtain ⟨⟨last, history⟩, ended, rfl⟩ := Option.map_eq_some_iff.mp ran
  refine ⟨by decide, sample_initial Bool, last, _, ended, ?_⟩
  intro spaced
  have tooSoon := spaced.ends _ List.mem_cons_self _ rfl
  exact absurd tooSoon (by decide)

end VaultwardenOperator.Cooldown

import VaultwardenOperator.ClientSteps

/-!
# One login per session

Three kinds of tasks renew the token: the token loop, the cache loop and the calls
that refresh on demand. A renewal reads the refresh token, lets go of the session,
and writes what the server answers. In between another task may log in again; the
tokens of the old login then overwrite those of the new one, beside its key.

Logins are numbered in the order in which they are installed; the first session is
of login 0. The history remembers from which login the tokens and the key of the
session descend, and for each task the login of the refresh token it has read.
-/

namespace VaultwardenOperator.OneLogin

open Rust Crypto Sync Auth Machine VaultClient ClientSteps

/-! ## The tasks that renew -/

/-- Who runs `do_refresh_or_reauth`: a cache refresh, or the token loop. -/
inductive Renewer (ι : Type) where
  | refresher (task : Refresher ι)
  | tokenLoop
deriving DecidableEq

/-- The task whose turn an event is. -/
def turnOf {ι : Type} : Event ι → Option (Renewer ι)
  | .tokenLoop _ => some .tokenLoop
  | event => (taskOf event).map .refresher

/-- The renewal that a refresh is in. -/
def refreshRenewal : Refresh → Option Renewal
  | .ensuring renewal => some renewal
  | .renewing _ renewal => some renewal
  | _ => none

/-- The renewal that the token loop is in. -/
def loopRenewal : TokenLoop → Option Renewal
  | .renewing renewal => some renewal
  | _ => none

/-- The renewal that a task is in. -/
def renewalOf {ι : Type} (system : System ι) : Renewer ι → Option Renewal
  | .refresher task => (refreshOf system task).bind refreshRenewal
  | .tokenLoop => loopRenewal system.tokenLoop

/-- The renewal that goes on after a step. -/
def renewing : Progress Renewal (Call AuthError Unit) → Option Renewal
  | .running renewal => some renewal
  | .done _ => none

/-- In an initial system no task is in a renewal. -/
theorem initial_renewal {ι : Type} (system : System ι) (initial : Initial system)
    (task : Renewer ι) : renewalOf system task = none := by
  cases task with
  | refresher task => simp only [renewalOf, initial_refresh system initial task, Option.bind_none]
  | tokenLoop => simp only [renewalOf, initial.planning, loopRenewal]

section
variable {RsaPrivateKey : Type} (client : Client RsaPrivateKey) {ι : Type} [DecidableEq ι]

/-- What a step of the system does to the renewal of one task: nothing, its start, or a
step of that renewal on the session of the system. -/
inductive RenewerMove (system next : System ι) (event : Event ι) (task : Renewer ι) : Prop where
  | still (same : renewalOf next task = renewalOf system task)
      (other : turnOf event = some task → renewalOf system task = none)
  | begun (own : turnOf event = some task) (before : renewalOf system task = none)
      (renewal : Renewal) (start : renewal = .checking ∨ renewal = .reading)
      (after : renewalOf next task = some renewal)
  | moved (own : turnOf event = some task) (renewal : Renewal) (signal : Signal)
      (progress : Progress Renewal (Call AuthError Unit))
      (before : renewalOf system task = some renewal)
      (taken : renewalStep client system.now system.session renewal signal =
        some (next.session, progress))
      (after : renewalOf next task = renewing progress)

theorem around_renewing (stay : Renewal → Refresh) (goOn : Refresh)
    (progress : Progress Renewal (Call AuthError Unit))
    (stays : ∀ renewal, refreshRenewal (stay renewal) = some renewal)
    (goesOn : refreshRenewal goOn = none) :
    (ongoing (aroundRenewal stay goOn progress)).bind refreshRenewal = renewing progress := by
  rcases progress with renewal | (_ | _)
  · exact stays renewal
  · rfl
  · exact goesOn

omit [DecidableEq ι] in
theorem refresher_move (system next : System ι) (event : Event ι) (task : Refresher ι)
    (move : TaskMove client system next event task) :
    RenewerMove client system next event (.refresher task) := by
  have turn : ∀ event : Event ι, turnOf event = some (.refresher task) →
      taskOf event = some task := by
    intro event own
    cases event <;> simp_all [turnOf]
  have back : ∀ event : Event ι, taskOf event = some task →
      turnOf event = some (.refresher task) := by
    intro event own
    cases event <;> simp_all [turnOf, taskOf]
  cases move with
  | still same other =>
    refine .still (by simp only [renewalOf, same]) (fun own => ?_)
    simp only [renewalOf, other (turn event own), Option.bind_none]
  | begun own before after session =>
    exact .begun (back event own) (by simp only [renewalOf, before, Option.bind_none]) .checking
      (.inl rfl) (by simp only [renewalOf, after, Option.bind_some, refreshRenewal])
  | moved own refresh signal progress before move after =>
    have inside : renewalOf system (.refresher task) = refreshRenewal refresh := by
      simp only [renewalOf, before, Option.bind_some]
    have outside : renewalOf next (.refresher task) = (ongoing progress).bind refreshRenewal := by
      simp only [renewalOf, after]
    generalize reached : next.session = session at move
    cases move with
    | ensure renewal signal session inner taken =>
      refine .moved (back event own) renewal signal inner inside (by rw [reached]; exact taken) ?_
      rw [outside, around_renewing _ _ inner (fun _ => rfl) rfl]
    | renew symKey renewal signal session inner taken =>
      refine .moved (back event own) renewal signal inner inside (by rw [reached]; exact taken) ?_
      rw [outside, around_renewing _ _ inner (fun _ => rfl) rfl]
    | refused accessToken symKey answer unauthorized =>
      exact .begun (back event own) inside .reading (.inr rfl) outside
    | _ => exact .still (by rw [inside, outside]; rfl) (fun _ => inside)

omit [DecidableEq ι] in
theorem token_loop_move (system : System ι) (signal : Signal) (session : Session)
    (tokenLoop : TokenLoop)
    (taken : tokenLoopStep client system.now system.session system.tokenLoop signal =
      some (session, tokenLoop)) :
    RenewerMove client system { system with session, tokenLoop } (.tokenLoop signal)
      .tokenLoop := by
  have apart : loopRenewal system.tokenLoop = none → loopRenewal tokenLoop = none →
      RenewerMove client system { system with session, tokenLoop } (.tokenLoop signal)
        .tokenLoop := by
    intro inside outside
    exact .still (by simp only [renewalOf, inside, outside]) (fun _ => inside)
  have move := loop_move client system.now system.session session system.tokenLoop tokenLoop signal
    taken
  generalize phase : system.tokenLoop = loop at move apart
  cases move with
  | wake wakeAt due =>
    exact .begun rfl (by simp only [renewalOf, phase, loopRenewal]) .checking (.inl rfl) rfl
  | renew renewal signal session progress renewed =>
    refine .moved rfl renewal signal progress (by simp only [renewalOf, phase, loopRenewal])
      renewed ?_
    rcases progress with running | (_ | _) | _ <;> rfl
  | _ => exact apart rfl rfl

/-- Only a step of the token loop changes the token loop. -/
theorem token_loop_kept (system next : System ι) (event : Event ι)
    (move : Move client system event next) (apart : turnOf event ≠ some .tokenLoop) :
    next.tokenLoop = system.tokenLoop := by
  cases move with
  | tokenLoop signal session tokenLoop taken => exact absurd rfl apart
  | _ => rfl

theorem renewer_move (system next : System ι) (event : Event ι)
    (move : Move client system event next) (task : Renewer ι) :
    RenewerMove client system next event task := by
  cases task with
  | refresher task =>
    exact refresher_move client system next event task (task_move client system next event move task)
  | tokenLoop =>
    by_cases own : turnOf event = some .tokenLoop
    · cases move with
      | tokenLoop signal session tokenLoop taken =>
        exact token_loop_move client system signal session tokenLoop taken
      | _ => cases own
    · have same := token_loop_kept client system next event move own
      exact .still (by simp only [renewalOf, same]) (fun turn => absurd turn own)

/-! ## What is written -/

section
variable {α : Type} (field : Session → α) (write : Nat → Session → Renewal → α)
variable (uncached : ∀ session cache at',
  field { session with vault := some cache, lastRefreshAt := at' } = field session)
variable (renewed : ∀ now session next renewal signal progress,
  renewalStep client now session renewal signal = some (next, progress) →
    field next = write now session renewal)
include uncached renewed

/-- What a step of a refresh writes outside the cache is what its renewal writes. -/
theorem refresh_move_written (now : Nat) (session next : Session) (refresh : Refresh)
    (signal : Signal) (progress : Progress Refresh (Call VaultError Unit))
    (move : RefreshMove client now session refresh signal next progress) :
    field next = (refreshRenewal refresh).elim (field session) (write now session) := by
  cases move with
  | ensure renewal signal next inner taken =>
    exact renewed now session next renewal signal inner taken
  | renew symKey renewal signal next inner taken =>
    exact renewed now session next renewal signal inner taken
  | install response symKey cache skips decrypted => exact uncached session cache now
  | _ => rfl

/-- A step of the system writes outside the cache where it is a step of a renewal, and
nowhere else. -/
theorem field_written (system next : System ι) (event : Event ι)
    (move : Move client system event next) :
    field next.session = ((turnOf event).bind (renewalOf system)).elim
      (field system.session) (write system.now system.session) := by
  cases move with
  | elapse duration => rfl
  | arrive id requests idle => rfl
  | look id requests phase | lock id requests miss phase | skip id requests miss phase
  | start id requests miss phase | retry id requests phase =>
    simp only [turnOf, taskOf, Option.map_some, Option.bind_some, renewalOf, refreshOf, phase,
      fetchRefresh, Option.bind_none, Option.elim_none]
    rfl
  | tick phase | stop phase =>
    simp only [turnOf, taskOf, Option.map_some, Option.bind_some, renewalOf, refreshOf, phase,
      loopRefresh, Option.bind_none, Option.elim_none]
  | onDemand id requests miss refresh signal session progress phase taken =>
    simp only [turnOf, taskOf, Option.map_some, Option.bind_some, renewalOf, refreshOf, phase,
      fetchRefresh]
    exact refresh_move_written client field write uncached renewed system.now system.session session
      refresh signal progress
      (refresh_move client system.now system.session session refresh signal progress taken)
  | background refresh signal session progress phase taken =>
    simp only [turnOf, taskOf, Option.map_some, Option.bind_some, renewalOf, refreshOf, phase,
      loopRefresh]
    exact refresh_move_written client field write uncached renewed system.now system.session session
      refresh signal progress
      (refresh_move client system.now system.session session refresh signal progress taken)
  | tokenLoop signal session tokenLoop taken =>
    simp only [turnOf, Option.bind_some, renewalOf]
    have move := loop_move client system.now system.session session system.tokenLoop tokenLoop
      signal taken
    generalize system.tokenLoop = loop at move
    cases move with
    | renew renewal signal session progress inner =>
      exact renewed system.now system.session session renewal signal progress inner
    | _ => rfl

end

/-! ## Origins -/

/-- The number of installed logins, the logins from which the credentials of the session
descend, and for each task the login of the refresh token it has read and the number of
installed logins when it read it. -/
structure History (ι : Type) where
  installs : Nat
  access : Nat
  refresh : Nat
  key : Nat
  origin : Renewer ι → Nat
  readAt : Renewer ι → Nat

/-- The history after a step of a renewal. A grant descends from the login of the refresh
token it was obtained with; without a new refresh token the session keeps its own. -/
def History.after (history : History ι) (now : Nat) (task : Renewer ι) : Renewal → History ι
  | .reading =>
    { history with
      origin := Function.update history.origin task history.refresh
      readAt := Function.update history.readAt task history.installs }
  | .granted grant =>
    { history with
      access := history.origin task
      refresh := match grant.refreshToken with
        | some _ => history.origin task
        | none => history.refresh }
  | .authenticated login =>
    { history with
      installs := history.installs + 1
      access := history.installs + 1
      refresh := history.installs + 1
      key := match instantAfter now login.expiresIn with
        | some _ => history.installs + 1
        | none => history.key }
  | _ => history

def record (history : History ι) (system : System ι) (event : Event ι) (_ : System ι) :
    History ι :=
  match turnOf event with
  | none => history
  | some task => (renewalOf system task).elim history (history.after system.now task)

/-- The tokens and the key of the session descend from one login. -/
def OfOneLogin (pair : System ι × History ι) : Prop :=
  pair.2.access = pair.2.key ∧ pair.2.refresh = pair.2.key

/-- An install that is in time: no login has been installed since the refresh token of a
grant was read, and the expiry of a login is an instant. -/
def Timely (pair : System ι × History ι) (event : Event ι) : Prop :=
  ∀ task, turnOf event = some task →
    (∀ grant, renewalOf pair.1 task = some (.granted grant) →
      pair.2.readAt task = pair.2.installs) ∧
    (∀ login, renewalOf pair.1 task = some (.authenticated login) →
      instantAfter pair.1.now login.expiresIn ≠ none)

omit [DecidableEq ι] in
instance (pair : System ι × History ι) (event : Event ι) : Decidable (Timely pair event) :=
  match turn : turnOf event with
  | none => isTrue (by simp [Timely, turn])
  | some task =>
    match phase : renewalOf pair.1 task with
    | some (.granted _) =>
      decidable_of_iff (pair.2.readAt task = pair.2.installs) (by simp [Timely, turn, phase])
    | some (.authenticated login) =>
      decidable_of_iff (instantAfter pair.1.now login.expiresIn ≠ none)
        (by simp [Timely, turn, phase])
    | none => isTrue (by simp [Timely, turn, phase])
    | some .checking => isTrue (by simp [Timely, turn, phase])
    | some .reading => isTrue (by simp [Timely, turn, phase])
    | some (.granting _) => isTrue (by simp [Timely, turn, phase])
    | some .authenticating => isTrue (by simp [Timely, turn, phase])

/-- A renewal that has read its refresh token. -/
def HasRead : Renewal → Prop
  | .granting _ => True
  | .granted _ => True
  | _ => False

/-- The session is of the login installed last, and so is the refresh token of a task at
the time it read it. -/
structure Kept (pair : System ι × History ι) : Prop where
  one : OfOneLogin pair
  newest : pair.2.key = pair.2.installs
  read : ∀ task renewal, renewalOf pair.1 task = some renewal → HasRead renewal →
    pair.2.origin task = pair.2.readAt task ∧ pair.2.readAt task ≤ pair.2.installs

/-- A renewal comes to its grant by reading the refresh token. -/
theorem renewal_step_read (now : Nat) (session next : Session) (renewal after : Renewal)
    (signal : Signal)
    (taken : renewalStep client now session renewal signal = some (next, .running after))
    (hasRead : HasRead after) : renewal = .reading ∨ HasRead renewal := by
  cases renewal_move client now session next renewal signal _ taken with
  | due => cases hasRead
  | read => exact .inl rfl
  | grant => exact .inr trivial
  | refuse => exact .inr trivial
  | login => cases hasRead

/-- Logins are only ever added. -/
theorem record_installs (history : History ι) (system next : System ι) (event : Event ι) :
    history.installs ≤ (record history system event next).installs := by
  unfold record
  split
  · exact le_refl _
  · rename_i task own
    cases renewalOf system task with
    | none => exact le_refl _
    | some renewal => cases renewal <;> simp [History.after]

/-- What a task has read is replaced only where that task reads again. -/
theorem record_read (history : History ι) (system next : System ι) (event : Event ι)
    (task : Renewer ι)
    (apart : turnOf event = some task → renewalOf system task ≠ some .reading) :
    (record history system event next).origin task = history.origin task ∧
      (record history system event next).readAt task = history.readAt task := by
  unfold record
  split
  · exact ⟨rfl, rfl⟩
  · rename_i turn own
    cases phase : renewalOf system turn with
    | none => exact ⟨rfl, rfl⟩
    | some renewal =>
      cases renewal with
      | reading =>
        have distinct : task ≠ turn := fun same => apart (same ▸ own) (same ▸ phase)
        exact ⟨Function.update_of_ne distinct _ _, Function.update_of_ne distinct _ _⟩
      | _ => exact ⟨rfl, rfl⟩

/-- What a task has read stays as old as it is. -/
theorem read_step (system next : System ι) (history : History ι) (event : Event ι)
    (kept : Kept (system, history)) (move : Move client system event next) (task : Renewer ι)
    (renewal : Renewal) (running : renewalOf next task = some renewal)
    (hasRead : HasRead renewal) :
    (record history system event next).origin task =
        (record history system event next).readAt task ∧
      (record history system event next).readAt task ≤
        (record history system event next).installs := by
  have grows := record_installs history system next event
  have stays : ∀ current, renewalOf system task = some current → HasRead current →
      (record history system event next).origin task =
          (record history system event next).readAt task ∧
        (record history system event next).readAt task ≤
          (record history system event next).installs := by
    intro current phase readBefore
    obtain ⟨origin, readAt⟩ := record_read history system next event task (fun _ reading => by
      rw [phase] at reading
      cases reading
      exact readBefore)
    obtain ⟨same, past⟩ := kept.read task current phase readBefore
    rw [origin, readAt]
    exact ⟨same, le_trans past grows⟩
  cases renewer_move client system next event move task with
  | still same other => exact stays renewal (same ▸ running) hasRead
  | begun own before first start after =>
    rw [running] at after
    cases after
    rcases start with rfl | rfl <;> cases hasRead
  | moved own current signal progress before taken after =>
    rw [running] at after
    cases progress with
    | done result => cases after
    | running following =>
      cases after
      rcases renewal_step_read client _ _ _ current renewal signal taken hasRead with rfl | readBefore
      · have written : record history system event next =
            history.after system.now task .reading := by
          simp only [record, own, before, Option.elim_some]
        rw [written]
        simp only [History.after, Function.update_self]
        exact ⟨kept.one.2.trans kept.newest, le_refl _⟩
      · exact stays current before readBefore

/-- A timely step keeps the session one login's. -/
theorem login_step (system next : System ι) (history : History ι) (event : Event ι)
    (kept : Kept (system, history)) (timely : Timely (system, history) event) :
    OfOneLogin (next, record history system event next) ∧
      (record history system event next).key = (record history system event next).installs := by
  have same : OfOneLogin (next, history) ∧ history.key = history.installs := ⟨kept.one, kept.newest⟩
  unfold record
  split
  · exact same
  · rename_i task own
    obtain ⟨grants, logins⟩ := timely task own
    cases phase : renewalOf system task with
    | none => exact same
    | some renewal =>
      cases renewal with
      | granted grant =>
        have newest := kept.newest
        have refreshed := kept.one.2
        have read := (kept.read task _ phase trivial).1
        have inTime := grants grant phase
        simp only at newest refreshed read inTime
        refine ⟨⟨?_, ?_⟩, newest⟩
        · simp only [Option.elim_some, History.after]
          omega
        · simp only [Option.elim_some, History.after]
          cases grant.refreshToken <;> simp only <;> omega
      | authenticated login =>
        obtain ⟨expiresAt, expiry⟩ := Option.ne_none_iff_exists'.mp (logins login phase)
        simp only at expiry
        simp only [Option.elim_some, History.after, OfOneLogin, expiry, and_self]
      | _ => exact same

/-- Each step keeps the invariant, provided that it is timely. -/
theorem kept_step : Preserves (observed (step client) record) (Timely (ι := ι)) Kept := by
  apply preserves_moves
  intro system next history event kept timely move
  obtain ⟨one, newest⟩ := login_step system next history event kept timely
  exact ⟨one, newest, read_step client system next history event kept move⟩

/-- An install that is not timely leaves a session of two logins. -/
theorem login_step_timely (system next : System ι) (history : History ι) (event : Event ι)
    (kept : Kept (system, history))
    (one : OfOneLogin (next, record history system event next)) :
    Timely (system, history) event := by
  intro task own
  have newest := kept.newest
  constructor
  · intro grant phase
    have read := (kept.read task _ phase trivial).1
    have same := one.1
    simp only [record, own, phase, Option.elim_some, History.after] at same
    simp only at newest read ⊢
    omega
  · intro login phase overflow
    have same := one.1
    simp only at overflow
    simp only [record, own, phase, Option.elim_some, History.after, overflow] at same
    simp only at newest
    omega

/-- The session of the first login, before any renewal. -/
def firstLogin (ι : Type) : History ι := ⟨0, 0, 0, 0, fun _ => 0, fun _ => 0⟩

/-- In every run the tokens and the key of the session are always one login's if and only
if every install is timely. -/
theorem one_login_iff (system : System ι) (last : System ι × History ι) (events : List (Event ι))
    (initial : Initial system)
    (ran : run (observed (step client) record) (system, firstLogin ι) events = some last) :
    Meets (observed (step client) record) Timely (system, firstLogin ι) events ↔
      ∀ before middle, before <+: events →
        run (observed (step client) record) (system, firstLogin ι) before = some middle →
          OfOneLogin middle := by
  refine meets_iff_safe _ Timely Kept OfOneLogin (kept_step client) (fun _ kept => kept.one) ?_
    (system, firstLogin ι) last events ?_ ran
  · rintro ⟨state, history⟩ event ⟨next, recorded⟩ kept taken one
    obtain ⟨-, written⟩ := observed_step (step client) record _ _ event taken
    dsimp only at written
    subst written
    exact login_step_timely state next history event kept one
  · refine ⟨⟨rfl, rfl⟩, rfl, ?_⟩
    intro task renewal running
    rw [initial_renewal system initial task] at running
    cases running

end

/-! ## A late answer -/

/-- The token has expired. The cache loop asks for a new one; before it takes the answer,
the token loop's own attempt is rejected, and it logs in again. -/
def lateGrant : List (Event Bool) :=
  [.elapse (3600 * secondNs),
    .cacheLoop .proceed, .cacheLoop .proceed, .cacheLoop .proceed,
    .tokenLoop .proceed, .tokenLoop .proceed, .tokenLoop .proceed, .tokenLoop .proceed,
    .cacheLoop (.token (.body ⟨"old-at", 3600, "old-rt", ""⟩)),
    .tokenLoop (.token (.server 400 "invalid_grant")), .tokenLoop (.login sampleLogin),
    .tokenLoop .proceed, .cacheLoop .proceed]

/-- Both loops renew the expired token. The cache loop installs its grant before the token
loop's attempt is rejected, and only then does the token loop log in again. -/
def timelyRenewals : List (Event Bool) :=
  [.elapse (3600 * secondNs),
    .cacheLoop .proceed, .cacheLoop .proceed, .cacheLoop .proceed,
    .tokenLoop .proceed, .tokenLoop .proceed, .tokenLoop .proceed, .tokenLoop .proceed,
    .cacheLoop (.token (.body ⟨"at2", 3600, "rt2", ""⟩)), .cacheLoop .proceed,
    .tokenLoop (.token (.server 400 "invalid_grant")), .tokenLoop (.login sampleLogin),
    .tokenLoop .proceed]

theorem one_login_iff_sample : ∃ last,
    run (observed (step sampleClient) record) (sampleSystem Bool, firstLogin Bool)
        timelyRenewals = some last ∧
      last.2.installs = 1 ∧
      ∀ before middle, before <+: timelyRenewals →
        run (observed (step sampleClient) record) (sampleSystem Bool, firstLogin Bool) before =
          some middle → OfOneLogin middle := by
  have installs : (run (observed (step sampleClient) record) (sampleSystem Bool, firstLogin Bool)
      timelyRenewals).map (·.2.installs) = some 1 := by
    decide +kernel
  obtain ⟨last, ran, once⟩ := Option.map_eq_some_iff.mp installs
  exact ⟨last, ran, once, (one_login_iff sampleClient (sampleSystem Bool) last timelyRenewals
    (sample_initial Bool) ran).mp (by decide +kernel)⟩

/-- The tokens of the first login end beside the key of the second. -/
theorem late_grant_two_logins : ∃ last,
    run (observed (step sampleClient) record) (sampleSystem Bool, firstLogin Bool) lateGrant =
        some last ∧
      last.1.session.accessToken = "old-at" ∧ last.1.session.refreshToken = "old-rt" ∧
      last.2.access = 0 ∧ last.2.refresh = 0 ∧ last.2.key = 1 ∧ ¬ OfOneLogin last := by
  have ran : (run (observed (step sampleClient) record) (sampleSystem Bool, firstLogin Bool)
      lateGrant).map (fun pair => (pair.1.session.accessToken, pair.1.session.refreshToken,
        pair.2.access, pair.2.refresh, pair.2.key)) = some ("old-at", "old-rt", 0, 0, 1) := by
    decide +kernel
  obtain ⟨last, ended, same⟩ := Option.map_eq_some_iff.mp ran
  obtain ⟨accessToken, refreshToken, access, refresh, key⟩ :
      last.1.session.accessToken = "old-at" ∧ last.1.session.refreshToken = "old-rt" ∧
        last.2.access = 0 ∧ last.2.refresh = 0 ∧ last.2.key = 1 := by
    simpa using same
  refine ⟨last, ended, accessToken, refreshToken, access, refresh, key, ?_⟩
  rintro ⟨one, -⟩
  rw [access, key] at one
  cases one

end VaultwardenOperator.OneLogin

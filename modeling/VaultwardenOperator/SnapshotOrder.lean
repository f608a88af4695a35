import VaultwardenOperator.ClientSteps

/-!
# The order of installed snapshots

The history numbers the `/api/sync` answers as the server gives them, remembers
which answer each refresh is about to install and lists the installs. Refreshes
of one kind do not overlap: there is one cache loop, and on-demand refreshes
exclude each other through `refresh_lock`. A background refresh takes no lock,
so an on-demand one can overlap with it in any way.
-/

namespace VaultwardenOperator.SnapshotOrder

open Rust Sync Machine VaultClient ClientSteps

/-- The two kinds of refreshes. -/
inductive Kind where
  | onDemand
  | background
deriving DecidableEq

def kindOf {ι : Type} : Refresher ι → Kind
  | .onDemand _ => .onDemand
  | .background => .background

/-- An install of a numbered answer. -/
structure Install where
  kind : Kind
  number : Nat
deriving DecidableEq

/-- The number of answers so far, the number each refresher last got, and the
installs, newest first. The snapshot of the start counts as answer zero. -/
structure History (ι : Type) where
  produced : Nat
  number : Refresher ι → Nat
  installs : List Install

def noHistory (ι : Type) : History ι := ⟨0, fun _ => 0, []⟩

/-- The refresh has an answer and is about to install it. -/
def isInstalling : Option Refresh → Bool
  | some (.installing _ _) => true
  | _ => false

section
variable {RsaPrivateKey : Type} (client : Client RsaPrivateKey) {ι : Type} [DecidableEq ι]

/-- The history after a step: an answer arrives where a refresh becomes ready to
install, and is installed by the step after. -/
def record (history : History ι) (system : System ι) (event : Event ι) (next : System ι) :
    History ι :=
  match taskOf event with
  | none => history
  | some task =>
    if isInstalling (refreshOf system task) then
      { history with installs := ⟨kindOf task, history.number task⟩ :: history.installs }
    else if isInstalling (refreshOf next task) then
      { history with
        produced := history.produced + 1
        number := Function.update history.number task (history.produced + 1) }
    else history

/-- Among refreshes of one kind, later installs have later answers. -/
def OrderedByKind (history : History ι) : Prop :=
  history.installs.Pairwise (fun later earlier =>
    later.kind = earlier.kind → earlier.number < later.number)

structure Kept (pair : System ι × History ι) : Prop where
  sound : Sound pair.1
  /-- installed answers have been given, after the start -/
  numbered : ∀ install ∈ pair.2.installs,
    0 < install.number ∧ install.number ≤ pair.2.produced
  /-- an answer about to be installed is later than all installed ones of its kind -/
  ready : ∀ task, isInstalling (refreshOf pair.1 task) = true →
    0 < pair.2.number task ∧ pair.2.number task ≤ pair.2.produced ∧
      ∀ install ∈ pair.2.installs, install.kind = kindOf task →
        install.number < pair.2.number task
  ordered : OrderedByKind pair.2

/-- Two refreshes of one kind do not run together. -/
theorem kind_unique {ι : Type} (system : System ι) (sound : Sound system)
    (task other : Refresher ι) (same : kindOf task = kindOf other)
    (running : (refreshOf system task).isSome) (alsoRunning : (refreshOf system other).isSome) :
    task = other := by
  cases task with
  | background =>
    cases other with
    | background => rfl
    | onDemand id => cases same
  | onDemand id =>
    cases other with
    | background => cases same
    | onDemand otherId =>
      rw [inside_unique system sound otherId id (refreshing_inside system otherId alsoRunning)
        (refreshing_inside system id running)]

/-- A step that gives no answer and installs nothing. -/
theorem kept_quiet {ι : Type} (system next : System ι) (history : History ι)
    (kept : Kept (system, history)) (sound : Sound next)
    (installing : ∀ task, isInstalling (refreshOf next task) = true →
      isInstalling (refreshOf system task) = true) : Kept (next, history) where
  sound := sound
  numbered := kept.numbered
  ready task ready := kept.ready task (installing task ready)
  ordered := kept.ordered

/-- A new answer is later than everything installed. -/
theorem kept_answer (system next : System ι) (history : History ι) (task : Refresher ι)
    (kept : Kept (system, history)) (sound : Sound next)
    (others : ∀ other, other ≠ task → refreshOf next other = refreshOf system other) :
    Kept (next, { history with
      produced := history.produced + 1
      number := Function.update history.number task (history.produced + 1) }) where
  sound := sound
  numbered install installed :=
    ⟨(kept.numbered install installed).1, Nat.le_succ_of_le (kept.numbered install installed).2⟩
  ready other ready := by
    by_cases own : other = task
    · subst own
      simp only [Function.update_self]
      refine ⟨Nat.succ_pos _, le_refl _, fun install installed _ => ?_⟩
      exact Nat.lt_succ_of_le (kept.numbered install installed).2
    · rw [others other own] at ready
      simp only [Function.update_of_ne own]
      obtain ⟨positive, given, later⟩ := kept.ready other ready
      exact ⟨positive, Nat.le_succ_of_le given, later⟩
  ordered := kept.ordered

/-- An install puts the answer of its task on top; no other refresh of the kind is
about to install. -/
theorem kept_install {ι : Type} (system next : System ι) (history : History ι)
    (task : Refresher ι) (kept : Kept (system, history)) (sound : Sound next)
    (installing : isInstalling (refreshOf system task) = true)
    (ended : refreshOf next task = none)
    (others : ∀ other, other ≠ task → refreshOf next other = refreshOf system other) :
    Kept (next, { history with
      installs := ⟨kindOf task, history.number task⟩ :: history.installs }) := by
  have running : ∀ other, isInstalling (refreshOf system other) = true →
      (refreshOf system other).isSome := by
    intro other ready
    cases at' : refreshOf system other with
    | none =>
      rw [at'] at ready
      cases ready
    | some refresh => rfl
  obtain ⟨positive, given, later⟩ := kept.ready task installing
  refine ⟨sound, ?_, ?_, ?_⟩
  · intro install installed
    rcases List.mem_cons.mp installed with rfl | earlier
    · exact ⟨positive, given⟩
    · exact kept.numbered install earlier
  · intro other ready
    have distinct : other ≠ task := by
      rintro rfl
      rw [ended] at ready
      cases ready
    rw [others other distinct] at ready
    obtain ⟨otherPositive, otherGiven, otherLater⟩ := kept.ready other ready
    refine ⟨otherPositive, otherGiven, fun install installed same => ?_⟩
    rcases List.mem_cons.mp installed with rfl | earlier
    · exact absurd (kind_unique system kept.sound task other same (running task installing)
        (running other ready)).symm distinct
    · exact otherLater install earlier same
  · refine List.pairwise_cons.mpr ⟨?_, kept.ordered⟩
    intro earlier installed same
    exact later earlier installed same.symm

/-- A refresh that is about to install has one step left. -/
theorem installing_over (now : Nat) (session next : Session) (refresh : Refresh) (signal : Signal)
    (progress : Progress Refresh (Call VaultError Unit))
    (move : RefreshMove client now session refresh signal next progress)
    (installing : isInstalling (some refresh) = true) : ongoing progress = none := by
  cases move with
  | install response symKey cache skips decrypted => rfl
  | _ => cases installing

/-- Each step keeps the invariant. -/
theorem kept_step : Preserves (observed (step client) record) (fun _ _ => True) (Kept (ι := ι)) := by
  apply preserves_moves
  intro system next history event kept _ move
  have sound := move_sound client system next event kept.sound move
  have apart := task_apart client system next event move
  unfold record
  split
  · rename_i noTask
    refine kept_quiet system next history kept sound (fun task ready => ?_)
    rwa [apart task (by rw [noTask]; simp)] at ready
  · rename_i task own
    have others : ∀ other, other ≠ task → refreshOf next other = refreshOf system other := by
      intro other distinct
      apply apart other
      rw [own]
      exact fun same => distinct (Option.some.inj same).symm
    split_ifs with installing answered
    · refine kept_install system next history task kept sound installing ?_ others
      cases task_move client system next event move task with
      | still same other => rw [same, other own]
      | begun _ before after session =>
        rw [before] at installing
        cases installing
      | moved _ refresh signal progress before move after =>
        rw [before] at installing
        rw [after]
        exact installing_over client _ _ _ refresh signal progress move installing
    · exact kept_answer system next history task kept sound others
    · refine kept_quiet system next history kept sound (fun other ready => ?_)
      by_cases same : other = task
      · subst same
        exact absurd ready answered
      · rwa [others other same] at ready

/-- The order of installs: in every run, whatever overlaps with what, later
installs of one kind have later answers. Only a background refresh and an
on-demand one can put an older snapshot in the place of a newer one. -/
theorem installs_ordered_by_kind (system last : System ι) (history : History ι)
    (events : List (Event ι)) (initial : Initial system)
    (ran : run (observed (step client) record) (system, noHistory ι) events =
      some (last, history)) : OrderedByKind history := by
  have kept : Kept (system, noHistory ι) := by
    refine ⟨initial_sound system initial, ?_, ?_, List.Pairwise.nil⟩
    · intro install installed
      cases installed
    · intro task ready
      rw [initial_refresh system initial task] at ready
      cases ready
  exact (run_keeps _ _ Kept (kept_step client) _ _ events kept (meets_trivial _ _ events)
    ran).ordered

end

/-- The cache loop has its answer and is slow to install it. Meanwhile a call that
misses the new item refreshes and installs a later answer, which has it. -/
def overlappingRefreshes : List (Event Bool) :=
  [.cacheLoop .proceed, .cacheLoop .proceed, .cacheLoop .proceed, .cacheLoop .proceed,
    .cacheLoop (.sync (.body (sampleSync [])))] ++ missedLookup false ++
    [.fetch false (.sync (.body (sampleSync [sampleCipher]))), .fetch false .proceed,
      .cacheLoop .proceed]

/-- The first answer replaces the second, and the item is gone from the cache. -/
theorem installs_out_of_order :
    Initial (sampleSystem Bool) ∧
      ∃ last history,
        run (observed (step sampleClient) record) (sampleSystem Bool, noHistory Bool)
          overlappingRefreshes = some (last, history) ∧
        last.session.vault.map VaultCache.items = some [] ∧
        ¬ history.installs.Pairwise (fun later earlier => earlier.number < later.number) := by
  have ran : (run (observed (step sampleClient) record) (sampleSystem Bool, noHistory Bool)
      overlappingRefreshes).map
        (fun pair => (pair.1.session.vault.map VaultCache.items, pair.2.installs)) =
      some (some [], [⟨.background, 1⟩, ⟨.onDemand, 2⟩]) := by
    decide +kernel
  obtain ⟨⟨last, history⟩, ended, same⟩ := Option.map_eq_some_iff.mp ran
  obtain ⟨items, installed⟩ : last.session.vault.map VaultCache.items = some [] ∧
      history.installs = [⟨.background, 1⟩, ⟨.onDemand, 2⟩] := by
    simpa using same
  refine ⟨sample_initial Bool, last, history, ended, items, ?_⟩
  rw [installed]
  decide

/-- In that run the installs of each kind are in order. -/
theorem installs_ordered_by_kind_sample :
    ∃ last history,
      run (observed (step sampleClient) record) (sampleSystem Bool, noHistory Bool)
        overlappingRefreshes = some (last, history) ∧ OrderedByKind history := by
  have ran : (run (observed (step sampleClient) record) (sampleSystem Bool, noHistory Bool)
      overlappingRefreshes).isSome = true := by
    decide +kernel
  obtain ⟨⟨last, history⟩, ended⟩ := Option.isSome_iff_exists.mp ran
  exact ⟨last, history, ended, installs_ordered_by_kind sampleClient (sampleSystem Bool) last
    history overlappingRefreshes (sample_initial Bool) ended⟩

end VaultwardenOperator.SnapshotOrder

import VaultwardenOperator.Controller
import Mathlib.Data.List.Induction
import Mathlib.Data.Set.Lattice

/-!
# The keys of the managed Secret

The Secret is created by a POST and afterwards updated by server-side applies,
both of which carry `stringData` and no `data`. An apply deletes a field only
when the same manager applied that very field before, so it never deletes a key
of `data`: the Secret keeps every key that any version of the spec has had.
-/

namespace VaultwardenOperator.ManagedSecret

open Rust Sync Duration VaultClient Crd Status Json Machine Controller

/-! ## Accumulation -/

section
universe u v
variable {α : Type u} {β : Type v} (part : α → Set β)

/-- Everything that some item of the list has. -/
def union (items : List α) : Set β := {element | ∃ item ∈ items, element ∈ part item}

theorem union_snoc (before : List α) (item : α) :
    union part (before ++ [item]) = union part before ∪ part item := by
  ext element
  simp [union, or_and_right, exists_or]

theorem union_singleton (item : α) : union part [item] = part item := by
  ext element
  simp [union]

/-- After every nonempty part of the list the union is the last item alone. -/
def LastIsUnion (items : List α) : Prop :=
  ∀ before item, before ++ [item] <+: items → union part (before ++ [item]) = part item

/-- The union is always the last item if and only if the items grow. -/
theorem last_is_union_iff (items : List α) :
    LastIsUnion part items ↔
      items.Pairwise (fun earlier later => part earlier ⊆ part later) := by
  constructor
  · intro last
    induction items using List.reverseRecOn with
    | nil => exact List.Pairwise.nil
    | append_singleton before item inductionHypothesis =>
      have grows := inductionHypothesis (fun front item' isPrefix =>
        last front item' (isPrefix.trans (List.prefix_append before [item])))
      refine List.pairwise_append.mpr ⟨grows, List.pairwise_singleton _ _, ?_⟩
      intro earlier member later isItem element has
      rw [List.mem_singleton.mp isItem, ← last before item (List.prefix_refl _)]
      exact ⟨earlier, List.mem_append_left _ member, has⟩
  · intro grows before item isPrefix
    have grown := (List.pairwise_append.mp (grows.sublist isPrefix.sublist)).2.2
    rw [union_snoc]
    apply Set.union_eq_right.mpr
    rintro element ⟨earlier, member, has⟩
    exact grown earlier member item (List.mem_singleton_self item) has

end

/-! ## The server -/

/-- A field of a Secret that a manager can own. -/
inductive Field where
  | data (key : String)
  | stringData (key : String)
deriving DecidableEq

/-- What a state of the server says about the Secret: whether it exists, the keys of
its data, and the fields that the operator has applied. -/
structure View (σ : Type) where
  present : σ → Prop
  keys : σ → Set String
  applied : σ → Set Field

def bodyKeys (body : SecretBody) : Set String := {key | key ∈ body.stringData}

/-- The documented behaviour of the server. `stringData` is copied over the data and
never stored; a create does not count as an apply; an apply records the fields
of its body, and deletes no field that was not applied before. -/
structure Documented {σ : Type} (api : Api σ) (view : View σ) : Prop where
  exists_iff : ∀ state found, api.secretExists state = .ok found →
    (found = true ↔ view.present state)
  create_present : ∀ state body next, api.createSecret state body = .ok next → view.present next
  create_keys : ∀ state body next, api.createSecret state body = .ok next →
    view.keys next = bodyKeys body
  create_applied : ∀ state body next, api.createSecret state body = .ok next →
    view.applied next = ∅
  apply_present : ∀ state body next, api.applySecret state body = .ok next → view.present next
  apply_copies : ∀ state body next, api.applySecret state body = .ok next →
    bodyKeys body ⊆ view.keys next
  apply_adds : ∀ state body next, api.applySecret state body = .ok next →
    view.keys next ⊆ view.keys state ∪ bodyKeys body
  apply_deletes : ∀ state body next, api.applySecret state body = .ok next →
    ∀ key ∈ view.keys state, key ∉ view.keys next → .data key ∈ view.applied state
  apply_applied : ∀ state body next, api.applySecret state body = .ok next →
    view.applied next = Set.image .stringData (bodyKeys body)

/-! ## Reconciles after edits -/

/-- A version of the resource and the reconcile that follows the edit. -/
structure Edit where
  vws : VaultwardenSecret
  fetcher : Fetcher
  now : String

/-- The keys of `spec.data`. -/
def specKeys (edit : Edit) : Set String := {key | ∃ item ∈ edit.vws.spec.data, item.key = key}

/-- With a value for each entry, the body has exactly the keys of the spec. -/
theorem secret_body_keys (edit : Edit) (values : List String)
    (aligned : values.length = edit.vws.spec.data.length) :
    bodyKeys (secretBody edit.vws values) = specKeys edit := by
  ext key
  change key ∈ secretData edit.vws.spec values ↔ _
  rw [secret_data_inserted, LastWins.mem_built]
  have items : (edit.vws.spec.data.zip values).map Prod.fst = edit.vws.spec.data :=
    List.map_fst_zip (by omega)
  simp only [List.mem_map, exists_exists_and_eq_and]
  constructor
  · rintro ⟨entry, member, same⟩
    exact ⟨entry.1, (List.of_mem_zip member).1, same⟩
  · rintro ⟨item, member, same⟩
    rw [← items] at member
    obtain ⟨entry, inZip, isItem⟩ := List.mem_map.mp member
    exact ⟨entry, inZip, by rw [isItem, same]⟩

section
variable {σ : Type} (api : Api σ) (unicode : UnicodeTables)

/-- An edit and the reconcile after it. It succeeds when the values are fetched and
the reconcile returns an action; otherwise the step is refused. -/
def reconciled : Step (Cluster σ) Edit := fun cluster edit =>
  (fetchedValues unicode edit.fetcher edit.vws.spec).bind fun _ =>
    match reconcileApply api unicode edit.fetcher edit.now edit.vws cluster with
    | (after, .ok _) => some after
    | (_, .error _) => none

/-- A successful reconcile has written the Secret with the keys of the spec. -/
theorem reconciled_writes (cluster after : Cluster σ) (edit : Edit)
    (taken : reconciled api unicode cluster edit = some after) :
    ∃ body, bodyKeys body = specKeys edit ∧
      writeSecret api cluster.secrets body = .ok after.secrets := by
  obtain ⟨values, fetched, succeeded⟩ := Option.bind_eq_some_iff.mp taken
  have aligned := fetched_values_length unicode edit.fetcher edit.vws.spec values fetched
  refine ⟨secretBody edit.vws values, secret_body_keys edit values aligned, ?_⟩
  rcases prepare_cases unicode edit.fetcher edit.vws with
    ⟨-, -, nothing⟩ | ⟨-, -, -, nothing⟩ | ⟨interval, values', prepared, -, same⟩
  · simp [fetched] at nothing
  · simp [fetched] at nothing
  · rw [fetched] at same
    cases same
    simp only [reconcileApply, prepared] at succeeded
    cases written : writeSecret api cluster.secrets (secretBody edit.vws values) with
    | error error => simp [written] at succeeded
    | ok secrets =>
      simp only [written, finish] at succeeded
      cases merged : api.mergeStatus cluster.resource (statusPatch
          (setReadyStatus edit.vws.status (edit.vws.generation.getD 0) edit.now)) with
      | error error => simp [merged] at succeeded
      | ok resource =>
        simp only [merged, Option.some.injEq] at succeeded
        rw [← succeeded]

variable (view : View σ)

/-- The Secret exists, has the given keys, and no key of its data was ever applied. -/
structure Managed (keys : Set String) (state : σ) : Prop where
  present : view.present state
  keys : view.keys state = keys
  unapplied : ∀ key, .data key ∉ view.applied state

variable (documented : Documented api view)
include documented

/-- A write of an absent Secret creates it. -/
theorem write_absent (state next : σ) (body : SecretBody) (absent : ¬ view.present state)
    (written : writeSecret api state body = .ok next) :
    Managed view (bodyKeys body) next := by
  unfold writeSecret at written
  cases found : api.secretExists state with
  | error error => simp [found] at written
  | ok answer =>
    have answerIs := documented.exists_iff state answer found
    cases answer with
    | true => exact absurd (answerIs.mp rfl) absent
    | false =>
      simp only [found] at written
      refine ⟨documented.create_present state body next written,
        documented.create_keys state body next written, fun key applied => ?_⟩
      rw [documented.create_applied state body next written] at applied
      exact applied

/-- A write of a managed Secret adds the keys of the body, and removes none. -/
theorem write_present (state next : σ) (body : SecretBody) (keys : Set String)
    (managed : Managed view keys state) (written : writeSecret api state body = .ok next) :
    Managed view (keys ∪ bodyKeys body) next := by
  unfold writeSecret at written
  cases found : api.secretExists state with
  | error error => simp [found] at written
  | ok answer =>
    have answerIs := documented.exists_iff state answer found
    cases answer with
    | false => exact absurd (answerIs.mpr managed.present) (by simp)
    | true =>
      simp only [found] at written
      refine ⟨documented.apply_present state body next written, ?_, ?_⟩
      · have adds := documented.apply_adds state body next written
        rw [managed.keys] at adds
        refine subset_antisymm adds (Set.union_subset ?_
          (documented.apply_copies state body next written))
        intro key before
        rw [← managed.keys] at before
        by_contra gone
        -- Only a key applied as a field of `data` could be deleted, and there is none.
        exact managed.unapplied key
          (documented.apply_deletes state body next written key before gone)
      · rintro key applied
        rw [documented.apply_applied state body next written] at applied
        obtain ⟨_, -, equal⟩ := applied
        cases equal

/-- After a nonempty run from no Secret, the keys are those of all the edits. -/
theorem run_managed (initial last : Cluster σ) (first : Edit) (rest : List Edit)
    (absent : ¬ view.present initial.secrets)
    (ran : run (reconciled api unicode) initial (first :: rest) = some last) :
    Managed view (union specKeys (first :: rest)) last.secrets := by
  induction rest using List.reverseRecOn generalizing last with
  | nil =>
    obtain ⟨next, taken, ended⟩ := run_cons _ initial last first [] ran
    cases ended
    obtain ⟨body, same, written⟩ := reconciled_writes api unicode initial last first taken
    have created := write_absent api view documented _ _ body absent written
    rw [same] at created
    rwa [union_singleton]
  | append_singleton before edit inductionHypothesis =>
    rw [← List.cons_append] at ran ⊢
    obtain ⟨middle, reached, following⟩ := run_prefix _ initial last (first :: before) [edit] ran
    obtain ⟨next, taken, ended⟩ := run_cons _ middle last edit [] following
    cases ended
    obtain ⟨body, same, written⟩ := reconciled_writes api unicode middle last edit taken
    have added := write_present api view documented _ _ body _ (inductionHypothesis middle reached)
      written
    rwa [same, ← union_snoc] at added

/-- In a run from no Secret, every reconcile leaves exactly the keys of its spec if
and only if no edit drops a key that an earlier spec had. -/
theorem exact_keys_iff (initial last : Cluster σ) (edits : List Edit)
    (absent : ¬ view.present initial.secrets)
    (ran : run (reconciled api unicode) initial edits = some last) :
    (∀ before edit after, before ++ [edit] <+: edits →
        run (reconciled api unicode) initial (before ++ [edit]) = some after →
        view.keys after.secrets = specKeys edit) ↔
      edits.Pairwise (fun earlier later => specKeys earlier ⊆ specKeys later) := by
  have keysAre : ∀ before edit after,
      run (reconciled api unicode) initial (before ++ [edit]) = some after →
      view.keys after.secrets = union specKeys (before ++ [edit]) := by
    intro before edit after reached
    obtain ⟨first, rest, same⟩ := List.exists_cons_of_ne_nil
      (List.append_ne_nil_of_right_ne_nil before (List.cons_ne_nil edit []))
    rw [same] at reached ⊢
    exact (run_managed api unicode view documented initial after first rest absent reached).keys
  rw [← last_is_union_iff]
  constructor
  · intro exact before edit isPrefix
    obtain ⟨suffix, whole⟩ := isPrefix
    rw [← whole] at ran
    obtain ⟨after, reached, -⟩ := run_prefix _ initial last (before ++ [edit]) suffix ran
    rw [← keysAre before edit after reached]
    exact exact before edit after ⟨suffix, whole⟩ reached
  · intro lastIsUnion before edit after isPrefix reached
    rw [keysAre before edit after reached]
    exact lastIsUnion before edit isPrefix

end

/-! ## A server -/

/-- A Secret of the sample server: the keys of its data, and the fields that the
operator has applied. -/
structure StoredSecret where
  keys : List String
  applied : List Field
deriving DecidableEq

/-- A server as documented. An apply deletes the keys of the data that were applied
and that the body does not carry, and copies the keys of the body. -/
def sampleServer : Api (Option StoredSecret) where
  secretExists stored := .ok stored.isSome
  createSecret stored body :=
    if stored.isSome then .error ⟨"already exists"⟩ else .ok (some ⟨body.stringData.keys, []⟩)
  applySecret stored body :=
    let before := stored.getD ⟨[], []⟩
    .ok (some ⟨before.keys.filter (fun key => .data key ∉ before.applied) ∪ body.stringData.keys,
      body.stringData.keys.map .stringData⟩)
  mergeStatus resource patch := .ok (mergePatch resource patch)

def sampleView : View (Option StoredSecret) where
  present stored := stored.isSome = true
  keys stored := {key | key ∈ (stored.getD ⟨[], []⟩).keys}
  applied stored := {field | field ∈ (stored.getD ⟨[], []⟩).applied}

theorem sample_documented : Documented sampleServer sampleView where
  exists_iff := by
    rintro state found ⟨⟩
    rfl
  create_present state body next created := by
    simp only [sampleServer] at created
    split_ifs at created
    cases created
    rfl
  create_keys state body next created := by
    simp only [sampleServer] at created
    split_ifs at created
    cases created
    rfl
  create_applied state body next created := by
    simp only [sampleServer] at created
    split_ifs at created
    cases created
    simp [sampleView]
  apply_present := by
    rintro state body next ⟨⟩
    rfl
  apply_copies := by
    rintro state body next ⟨⟩ key member
    exact List.mem_union_iff.mpr (.inr member)
  apply_adds := by
    rintro state body next ⟨⟩ key member
    rcases List.mem_union_iff.mp member with kept | copied
    · exact .inl (List.mem_filter.mp kept).1
    · exact .inr copied
  apply_deletes := by
    rintro state body next ⟨⟩ key before gone
    by_contra unapplied
    apply gone
    apply List.mem_union_iff.mpr
    exact .inl (List.mem_filter.mpr ⟨before, decide_eq_true unapplied⟩)
  apply_applied := by
    rintro state body next ⟨⟩
    ext field
    exact List.mem_map

/-- A version of the sample resource with the given keys. -/
def sampleEdit (keys : List String) : Edit := ⟨sampleResource keys, sampleFetcher, "t1"⟩

/-- No Secret yet, and no status. -/
def sampleCluster : Cluster (Option StoredSecret) := ⟨none, .obj []⟩

/-- An edit that adds a key. -/
theorem exact_keys_iff_sample :
    ∃ last, run (reconciled sampleServer asciiTables) sampleCluster
        [sampleEdit ["a"], sampleEdit ["a", "b"]] = some last ∧
      ((∀ before edit after, before ++ [edit] <+: [sampleEdit ["a"], sampleEdit ["a", "b"]] →
          run (reconciled sampleServer asciiTables) sampleCluster (before ++ [edit]) = some after →
          sampleView.keys after.secrets = specKeys edit) ↔
        [sampleEdit ["a"], sampleEdit ["a", "b"]].Pairwise
          (fun earlier later => specKeys earlier ⊆ specKeys later)) := by
  have ran : (run (reconciled sampleServer asciiTables) sampleCluster
      [sampleEdit ["a"], sampleEdit ["a", "b"]]).isSome = true := by
    decide +kernel
  obtain ⟨last, ended⟩ := Option.isSome_iff_exists.mp ran
  exact ⟨last, ended, exact_keys_iff sampleServer asciiTables sampleView sample_documented
    sampleCluster last _ (by simp [sampleView, sampleCluster]) ended⟩

/-- An edit that removes a key. Its reconcile succeeds, and the key stays. -/
theorem removed_key_stays :
    Documented sampleServer sampleView ∧ ¬ sampleView.present sampleCluster.secrets ∧
      ∃ last, run (reconciled sampleServer asciiTables) sampleCluster
          [sampleEdit ["a", "b"], sampleEdit ["a"]] = some last ∧
        sampleView.keys last.secrets ≠ specKeys (sampleEdit ["a"]) := by
  have ran : (run (reconciled sampleServer asciiTables) sampleCluster
      [sampleEdit ["a", "b"], sampleEdit ["a"]]).map Cluster.secrets =
        some (some ⟨["b", "a"], [.stringData "a"]⟩) := by
    decide +kernel
  obtain ⟨last, ended, stored⟩ := Option.map_eq_some_iff.mp ran
  refine ⟨sample_documented, by simp [sampleView, sampleCluster], last, ended, fun same => ?_⟩
  have stays : "b" ∈ sampleView.keys last.secrets := by
    rw [stored]
    simp [sampleView]
  rw [same] at stays
  simp [specKeys, sampleEdit, sampleResource] at stays

end VaultwardenOperator.ManagedSecret

import Mathlib
import Provisioner.Proofs.Operation.Outcome
import Provisioner.Provider

/-!
# When a change replaces an object

A plan marks every change that needs a replacement; an update refuses the first such change and also
one that its kind does not list as updatable. Both look at the same names, and each configurable
name of every kind is on exactly one of the two sides. So an update is refused for its names exactly
if the plan requires a replacement, and before anything is sent.
-/

namespace Provisioner

set_option autoImplicit false

open Http (Wire)
open Operation (bind_of_ok bind_of_error)

namespace Schema

variable (schema : Schema) (prior config : Json)

theorem paths_plan :
    (schema.plan (some prior) config).changes.map Change.path =
      schema.changedNames prior (schema.mergeComputed prior config) := by
  unfold plan planChange Plan.ofChanges
  rw [List.map_map]
  exact List.map_id _

theorem requiresReplace_plan_iff :
    (schema.plan (some prior) config).requiresReplace = true ↔
      ∃ name ∈ schema.changedNames prior (schema.mergeComputed prior config),
        schema.isForceNew name = true := by
  unfold plan planChange Plan.ofChanges
  simp only [List.any_map, List.any_eq_true, Function.comp_apply]

end Schema

/-- Of a kind's configurable names exactly those that replace nothing are updatable. -/
def Kind.Covers {σ : Type} (kind : Kind σ) : Prop :=
  ∀ name ∈ kind.schema.configurableNames,
    kind.schema.isForceNew name = true ↔ name ∉ kind.updatable

instance {σ : Type} (kind : Kind σ) : Decidable kind.Covers :=
  inferInstanceAs (Decidable (∀ name ∈ kind.schema.configurableNames, _ ↔ _))

theorem covers_of_mem_kinds {kind : Kind Wire} (member : kind ∈ kinds) : kind.Covers := by
  simp only [kinds, List.mem_cons, List.not_mem_nil, or_false] at member
  rcases member with rfl | rfl | rfl | rfl | rfl | rfl | rfl
  all_goals decide

namespace Lifecycle

variable {σ : Type} {l : Lifecycle σ}

/-- What an update says to a change that is only possible by replacement. -/
def replacementRefusal (name : String) : Failure :=
  .validation ("'" ++ name
    ++ "' cannot be changed in place; changing it requires replacing the resource")

/-- Names that are updatable unless they replace the object are refused for the latter reason only.
-/
theorem guardUpdate_eq {changed : List String}
    (covered : ∀ name ∈ changed, l.kind.schema.isForceNew name = true ∨ name ∈ l.kind.updatable) :
    l.guardUpdate changed =
      match changed.find? l.kind.schema.isForceNew with
      | none => .ok ()
      | some name => refuse (replacementRefusal name) := by
  induction changed with
  | nil => rfl
  | cons name rest ih =>
    have here := covered name List.mem_cons_self
    have later := ih fun other member => covered other (List.mem_cons_of_mem _ member)
    unfold guardUpdate
    cases forced : l.kind.schema.isForceNew name with
    | true =>
      rw [if_pos rfl, List.find?_cons_of_pos forced]
      rfl
    | false =>
      have updatable : l.kind.updatable.contains name = true := by
        rw [forced] at here
        simpa using here
      rw [List.find?_cons_of_neg (by simp [forced]), if_neg (by decide), updatable,
        if_neg (by decide)]
      exact later

theorem update_of_guard [Peer σ] {context : Context} {priorState config : Json}
    {prior desired : l.kind.State} {error : Error}
    (decodedPrior : l.kind.decode.fromState priorState = .ok prior)
    (valid : l.kind.schema.ensureValid config = .ok ())
    (decoded : l.kind.decode.fromState (l.kind.schema.mergeComputed priorState config) =
      .ok desired)
    (guarded : l.guardUpdate (l.kind.schema.changedNames priorState
      (l.kind.schema.mergeComputed priorState config)) = .error error) (w : World σ) :
    l.update context priorState config w =
      (.error (error.about l.kind.name (some (l.kind.id prior))), w) := by
  have refused : l.prepareUpdate priorState config prior = .error error := by
    unfold prepareUpdate
    simp only [valid, decoded, guarded, bind, Except.bind]
  unfold update
  rw [bind_of_ok (Op.about_ok_iff.mpr (Operation.ofExcept_ok_iff.mpr ⟨decodedPrior, rfl⟩))]
  apply Op.about_error_iff.mpr
  refine ⟨error, ?_, rfl⟩
  rw [refused]
  rfl

end Lifecycle

section Agreement

variable {kind : Kind Wire} (member : kind ∈ kinds) (waits : Transition → Option WaitOptions)
  (priorState config : Json)

include member

theorem guardUpdate_changed_eq :
    let changed := kind.schema.changedNames priorState
      (kind.schema.mergeComputed priorState config)
    Lifecycle.guardUpdate ⟨kind, waits⟩ changed =
      match changed.find? kind.schema.isForceNew with
      | none => .ok ()
      | some name => refuse (Lifecycle.replacementRefusal name) := by
  apply Lifecycle.guardUpdate_eq
  intro name changed
  have configurable := (List.mem_filter.mp changed).1
  have exclusive := covers_of_mem_kinds member name configurable
  by_cases forced : kind.schema.isForceNew name = true
  · exact Or.inl forced
  · exact Or.inr (Classical.byContradiction fun other => forced (exclusive.mpr other))

theorem replaced_of_guard {error : Error}
    (guarded : Lifecycle.guardUpdate ⟨kind, waits⟩ (kind.schema.changedNames priorState
      (kind.schema.mergeComputed priorState config)) = .error error) :
    ∃ name ∈ kind.schema.changedNames priorState (kind.schema.mergeComputed priorState config),
      kind.schema.isForceNew name = true ∧
        error = { failure := Lifecycle.replacementRefusal name } := by
  rw [guardUpdate_changed_eq member] at guarded
  split at guarded
  · cases guarded
  · next name found =>
    refine ⟨name, List.mem_of_find?_eq_some found, List.find?_some found, ?_⟩
    exact (Except.error.inj guarded).symm

theorem guard_refuses_iff :
    (∃ error, Lifecycle.guardUpdate ⟨kind, waits⟩ (kind.schema.changedNames priorState
      (kind.schema.mergeComputed priorState config)) = .error error) ↔
      (kind.schema.plan (some priorState) config).requiresReplace = true := by
  rw [kind.schema.requiresReplace_plan_iff]
  constructor
  · intro refused
    obtain ⟨error, guarded⟩ := refused
    obtain ⟨name, changed, forced, _⟩ := replaced_of_guard member waits priorState config guarded
    exact ⟨name, changed, forced⟩
  · intro replaced
    obtain ⟨name, changed, forced⟩ := replaced
    rw [guardUpdate_changed_eq member]
    split
    · next none =>
      exact absurd forced (by simpa using List.find?_eq_none.mp none name changed)
    · exact ⟨_, rfl⟩

end Agreement

/-- A plan and an update decide alike whether a change replaces an object. Of the configurable names
of a kind exactly those that replace nothing are updatable; both sides find the same names changed;
an update refuses them exactly if the plan requires a replacement, always for a name that does; and
then it ends with that refusal and leaves the world as it was. -/
theorem replacement_agrees (kind : Kind Wire) (member : kind ∈ kinds)
    (waits : Transition → Option WaitOptions) (priorState config : Json) :
    let l : Lifecycle Wire := ⟨kind, waits⟩
    let plan := kind.schema.plan (some priorState) config
    let merged := kind.schema.mergeComputed priorState config
    let changed := kind.schema.changedNames priorState merged
    (∀ name ∈ kind.schema.configurableNames,
      kind.schema.isForceNew name = true ↔ name ∉ kind.updatable) ∧
    plan.changes.map Change.path = changed ∧
    ((∃ error, l.guardUpdate changed = .error error) ↔ plan.requiresReplace = true) ∧
    (∀ error, l.guardUpdate changed = .error error →
      ∃ name ∈ changed, kind.schema.isForceNew name = true ∧
        error = { failure := Lifecycle.replacementRefusal name }) ∧
    ∀ prior desired, kind.decode.fromState priorState = .ok prior →
      kind.schema.ensureValid config = .ok () → kind.decode.fromState merged = .ok desired →
      plan.requiresReplace = true →
        ∃ name ∈ changed, kind.schema.isForceNew name = true ∧ ∀ context w,
          l.update context priorState config w =
            (.error {
              failure := Lifecycle.replacementRefusal name
              subject := some ⟨kind.name, kind.id prior⟩ }, w) := by
  intro l plan merged changed
  refine ⟨covers_of_mem_kinds member, kind.schema.paths_plan priorState config,
    guard_refuses_iff member waits priorState config,
    fun error => replaced_of_guard member waits priorState config, ?_⟩
  intro prior desired decodedPrior valid decoded replaces
  obtain ⟨error, guarded⟩ := (guard_refuses_iff member waits priorState config).mpr replaces
  obtain ⟨name, isChanged, forced, rfl⟩ :=
    replaced_of_guard member waits priorState config guarded
  refine ⟨name, isChanged, forced, ?_⟩
  intro context w
  exact Lifecycle.update_of_guard (l := l) decodedPrior valid decoded guarded w

namespace ServiceAccount

def deployer : State := ⟨"sa-1", "deployer", ""⟩

def deployerJson : Json := .obj [("display_name", .str "deployer"), ("id", .str "sa-1")]

def renamedConfig : Json := .obj [("display_name", .str "releaser")]

/-- A new name for a service account needs a replacement and is refused as an update. -/
theorem rename_replaces :
    (schema.plan (some deployerJson) renamedConfig).requiresReplace = true ∧
      ∃ name ∈ schema.changedNames deployerJson (schema.mergeComputed deployerJson renamedConfig),
        schema.isForceNew name = true ∧ ∀ context w,
          Lifecycle.update ⟨kind, fun _ => none⟩ context deployerJson renamedConfig w =
            (.error {
              failure := Lifecycle.replacementRefusal name
              subject := some ⟨"confluent_service_account", "sa-1"⟩ }, w) := by
  have replaces : (schema.plan (some deployerJson) renamedConfig).requiresReplace = true := by cbv
  have agrees := replacement_agrees kind (by simp [kinds]) (fun _ => none) deployerJson
    renamedConfig
  refine ⟨replaces, ?_⟩
  exact agrees.2.2.2.2 deployer ⟨"sa-1", "releaser", ""⟩ rfl (by cbv) rfl replaces

end ServiceAccount

end Provisioner

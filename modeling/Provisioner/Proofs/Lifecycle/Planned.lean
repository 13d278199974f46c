import Mathlib
import Provisioner.Proofs.Http.Requests
import Provisioner.Proofs.Kinds.Accepted

/-!
# Planning and applying

A host may hand an update the configuration or what was planned for it. Both come to the same: what
was planned is valid, planning it again gives the same plan, and the update decides everything it
does from the merged configuration.
-/

namespace Provisioner

set_option autoImplicit false

open Http (Wire)

/-- An update to the planned state and an update to the configuration that was planned are the same
operation: from every world, with every answer, they send the same requests at the same times, log
the same states and end alike. -/
theorem update_follows_plan (kind : Kind Wire) (member : kind ∈ kinds)
    (waits : Transition → Option WaitOptions) (context : Context) (state : kind.State)
    (config : Json) (single : kind.schema.SingleBlocks (kind.encode state))
    (wellFormed : config.WellFormed) (valid : kind.schema.ensureValid config = .ok ()) :
    let l : Lifecycle Wire := ⟨kind, waits⟩
    let prior := kind.encode state
    let plan := kind.schema.plan (some prior) config
    kind.schema.ensureValid plan.plannedState = .ok () ∧
      kind.schema.plan (some prior) plan.plannedState = plan ∧
      ∀ w, (l.update context prior config).sent w =
          (l.update context prior plan.plannedState).sent w ∧
        l.update context prior config w = l.update context prior plan.plannedState w := by
  intro l prior plan
  obtain ⟨source, encoded, accepts⟩ := accepts_of_mem_kinds member single
  have planned : plan.plannedState = kind.schema.mergeComputed (.obj source) config := by
    rw [← encoded]
    rfl
  have same : l.update context prior plan.plannedState = l.update context prior config := by
    rw [planned, show prior = .obj source from encoded]
    exact l.update_planned accepts wellFormed valid context
  refine ⟨?_, kind.schema.plan_idempotent prior wellFormed, ?_⟩
  · rw [planned]
    exact accepts.ensureValid_merge valid
  · intro w
    rw [same]
    exact ⟨rfl, rfl⟩

namespace Environment

def governed : State := ⟨"env-1", "a", [⟨"ESSENTIALS"⟩], "crn-1"⟩

def newName : Json := .obj [("display_name", .str "b")]

/-- What is planned for a new name keeps the rest of the environment, and updating to it is updating
to the new name. -/
theorem rename_follows_plan :
    (schema.plan (some governed.encode) newName).plannedState =
        State.encode ⟨"env-1", "b", [⟨"ESSENTIALS"⟩], "crn-1"⟩ ∧
      ∀ context w, Lifecycle.update ⟨kind, fun _ => none⟩ context governed.encode newName w =
        Lifecycle.update ⟨kind, fun _ => none⟩ context governed.encode
          (schema.plan (some governed.encode) newName).plannedState w := by
  have single : schema.SingleBlocks governed.encode := by
    intro b member items given
    have this : b ∈ [_] := member
    obtain rfl := List.mem_singleton.mp this
    cases given
    decide
  have wellFormed : Json.WellFormed newName := ⟨List.pairwise_singleton _ _, trivial, trivial⟩
  refine ⟨rfl, ?_⟩
  intro context w
  exact ((update_follows_plan kind (by simp [kinds]) (fun _ => none) context governed newName
    single wellFormed (by cbv)).2.2 w).2

end Environment

end Provisioner

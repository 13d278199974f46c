import Provisioner.Proofs.Http.Stopping
import Provisioner.Proofs.Lifecycle.Requests

/-!
# Stop requests during a transition

Every transition of every kind can be interrupted at every time, between two writes, between the two
GETs of a read and in the final read as well. The error of a stop names the object in all of them.
-/

namespace Provisioner

set_option autoImplicit false

open Error (IsCancellation IsCancelled)
open Operation (Interruptible)

theorem Reading.interruptible_run {ρ : Type} (session : Session) (reading : Reading ρ) :
    (reading.run session).Interruptible session.context.client.retry IsCancellation := by
  cases reading with
  | one path decode => exact session.interruptible_call .get path none decode
  | two path decode second decodeSecond combine =>
    apply Interruptible.bind (session.interruptible_call .get path none decode)
    intro first
    apply Interruptible.bind (session.interruptible_call .get second none decodeSecond)
    intro rest
    exact .pure _

theorem Session.interruptible_tellAll (session : Session) (writes : List Write) :
    (session.tellAll writes).Interruptible session.context.client.retry IsCancellation := by
  induction writes with
  | nil => exact .pure ()
  | cons write rest ih =>
    apply Interruptible.bind (session.interruptible_tell write.method write.path write.body)
    intro _
    exact ih

namespace Api

variable (api : Api) (waits : Transition → Option WaitOptions) (session : Session)
  (context : Context)

section Calls

variable (state : api.kind.State)

theorem interruptible_create :
    (api.kind.create session state).Interruptible session.context.client.retry
      IsCancellation := by
  rw [api.create_eq]
  apply Interruptible.bind (.ofExcept _)
  intro path
  exact session.interruptible_call .post path _ _

theorem interruptible_read :
    (api.kind.read session state).Interruptible session.context.client.retry
      IsCancellation := by
  rw [api.read_eq]
  apply Interruptible.bind (.ofExcept _)
  intro path
  exact (api.reading path).interruptible_run session

theorem interruptible_update (prior : api.kind.State) (changed : List String) :
    (api.kind.update session prior state changed).Interruptible session.context.client.retry
      IsCancellation := by
  rw [api.update_eq]
  apply Interruptible.bind (.ofExcept _)
  intro writes
  exact session.interruptible_tellAll writes

theorem interruptible_delete :
    (api.kind.delete session state).Interruptible session.context.client.retry
      IsCancellation := by
  rw [api.delete_eq]
  apply Interruptible.bind (.ofExcept _)
  intro path
  exact session.interruptible_tell .delete path none

end Calls

section Steps

variable (expected : api.kind.State)

theorem interruptible_poll :
    (Lifecycle.poll ⟨api.kind, waits⟩ session expected).Interruptible session.context.client.retry
      IsCancellation := by
  apply Interruptible.bind (api.interruptible_read session expected)
  intro remote
  apply Interruptible.bind (.ofExcept _)
  intro state
  exact .pure _

theorem interruptible_settle (transition : Transition) :
    (Lifecycle.settle ⟨api.kind, waits⟩ session expected transition).Interruptible
      session.context.client.retry IsCancellation := by
  have polls := api.interruptible_poll waits session expected
  apply Interruptible.bind (Wait.interruptible_awaitState polls _ _)
  intro observation
  split
  · exact Op.interruptible_fail _
  · exact .pure _

theorem interruptible_finish (step : String) :
    (Lifecycle.finish ⟨api.kind, waits⟩ session expected step).Interruptible
      session.context.client.retry IsCancellation := by
  apply Interruptible.bind (api.interruptible_read session expected)
  intro remote
  exact .bind (.record _ _) fun _ => .pure _

theorem interruptible_refresh (isNew : Bool) :
    (Lifecycle.refresh ⟨api.kind, waits⟩ context expected isNew).Interruptible context.client.retry
      IsCancellation := by
  apply (api.interruptible_read ⟨context, _⟩ expected).bind_outcome
  · intro error final
    simp [Error.isNotFound_of_final final]
  · intro result
    cases result with
    | error error =>
      simp only
      split
      · exact .pure none
      · exact .fail error
    | ok remote =>
      apply Interruptible.bind (.ofExcept _)
      intro state
      split
      · exact .pure none
      · exact .bind (.record _ _) fun _ => .pure _

end Steps

theorem interruptible_submit (config : Json) :
    (Lifecycle.submit ⟨api.kind, waits⟩ context config).Interruptible context.client.retry
      IsCancellation := by
  apply Interruptible.bind (.ofExcept _)
  intro desired
  apply Interruptible.bind (.ofExcept _)
  intro _
  apply Interruptible.bind (.record _ _)
  intro _
  apply Interruptible.bind (api.interruptible_create _ desired)
  intro created
  exact .pure _

theorem interruptible_create_transition (config : Json) :
    (Lifecycle.create ⟨api.kind, waits⟩ context config).Interruptible context.client.retry
      (IsCancelled api.kind.name) := by
  apply Interruptible.bind (Op.interruptible_about (api.interruptible_submit waits context config)
    api.kind.name none)
  rintro ⟨desired, accepted⟩
  apply Op.interruptible_about
  apply Interruptible.bind (api.interruptible_settle waits _ accepted .create)
  intro _
  exact api.interruptible_finish waits _ accepted "Created"

theorem interruptible_read_transition (state : Json) :
    (Lifecycle.read ⟨api.kind, waits⟩ context state).Interruptible context.client.retry
      (IsCancelled api.kind.name) := by
  apply Interruptible.bind (Op.interruptible_about_ofExcept _ _ _)
  intro known
  apply Op.interruptible_about
  exact api.interruptible_refresh waits context known false

theorem interruptible_update_transition (prior config : Json) :
    (Lifecycle.update ⟨api.kind, waits⟩ context prior config).Interruptible context.client.retry
      (IsCancelled api.kind.name) := by
  apply Interruptible.bind (Op.interruptible_about_ofExcept _ _ _)
  intro known
  apply Op.interruptible_about
  apply Interruptible.bind (.ofExcept _)
  rintro ⟨desired, changed⟩
  simp only
  have finishes := api.interruptible_finish waits
    ⟨context, api.kind.credentials context desired⟩ desired "Updated"
  split
  · exact finishes
  · apply Interruptible.bind (api.interruptible_update _ desired known changed)
    intro _
    apply Interruptible.bind (api.interruptible_settle waits _ desired .update)
    intro _
    exact finishes

theorem interruptible_delete_transition (state : Json) :
    (Lifecycle.delete ⟨api.kind, waits⟩ context state).Interruptible context.client.retry
      (IsCancelled api.kind.name) := by
  apply Interruptible.bind (Op.interruptible_about_ofExcept _ _ _)
  intro known
  apply Op.interruptible_about
  apply Interruptible.bind (api.interruptible_delete _ known)
  intro _
  have polls := api.interruptible_poll waits
    ⟨context, api.kind.credentials context known⟩ known
  apply Interruptible.bind (Wait.interruptible_awaitState polls _ _)
  intro _
  exact .pure ()

theorem interruptible_import (key : String) :
    (Lifecycle.importKey ⟨api.kind, waits⟩ context key).Interruptible context.client.retry
      (IsCancelled api.kind.name) := by
  apply Op.interruptible_about
  apply Interruptible.bind (.ofExcept _)
  intro parsed
  apply Interruptible.bind (api.interruptible_refresh waits context _ true)
  intro found
  cases found with
  | none => exact Op.interruptible_fail _
  | some state => exact .pure state

end Api

end Provisioner

import Provisioner.Proofs.Http.Failures
import Provisioner.Proofs.Kinds.Api

/-!
# Errors of the steps of a transition

The errors that a read, a wait and the final read of an object can end with, put together from those
of a run, of a search for the object's path that fails, and of a judgement that fails.
-/

namespace Provisioner.AdmitsRuns

set_option autoImplicit false

open Http
open Operation (FailsOnly)

variable {allowed : Error → Prop} (admits : AdmitsRuns allowed)

include admits

theorem reading {ρ : Type} (session : Session) (reading : Reading ρ) :
    (reading.run session).FailsOnly allowed := by
  cases reading with
  | one path decode => exact admits.call session .get path none decode
  | two path decode second decodeSecond combine =>
    apply FailsOnly.bind (admits.call session .get path none decode)
    intro first
    apply FailsOnly.bind (admits.call session .get second none decodeSecond)
    intro rest
    exact .pure _

theorem tellAll (session : Session) (writes : List Write) :
    (session.tellAll writes).FailsOnly allowed := by
  induction writes with
  | nil => exact .pure ()
  | cons write rest ih =>
    apply FailsOnly.bind (admits.tell session write.method write.path write.body)
    intro _
    exact ih

section Read

variable {api : Api} (waits : Transition → Option WaitOptions) (session : Session)
  {expected : api.kind.State}
  (missing : ∀ error, api.object session.context expected = .error error → allowed error)

include missing

theorem read : (api.kind.read session expected).FailsOnly allowed := by
  rw [api.read_eq]
  apply FailsOnly.bind (.ofExcept missing)
  intro path
  exact admits.reading session (api.reading path)

theorem finish (step : String) :
    (Lifecycle.finish ⟨api.kind, waits⟩ session expected step).FailsOnly allowed := by
  apply FailsOnly.bind (admits.read session missing)
  intro remote
  exact .of_total fun w => ⟨_, _, rfl⟩

variable (unjudged : ∀ remote error,
  api.kind.classify remote expected = .error error → allowed error)

include unjudged

theorem poll : (Lifecycle.poll ⟨api.kind, waits⟩ session expected).FailsOnly allowed := by
  apply FailsOnly.bind (admits.read session missing)
  intro remote
  apply FailsOnly.bind (.ofExcept (unjudged remote))
  intro state
  exact .pure _

theorem settle (transition : Transition) :
    (Lifecycle.settle ⟨api.kind, waits⟩ session expected transition).FailsOnly allowed := by
  have polls := admits.poll waits session missing unjudged
  apply FailsOnly.bind (admits.awaitState polls _ _)
  intro observation
  split
  · exact .fail (admits.remoteFailed _)
  · exact .pure ()

end Read

end Provisioner.AdmitsRuns

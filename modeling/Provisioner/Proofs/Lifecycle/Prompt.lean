import Provisioner.Proofs.Kinds.Api
import Provisioner.Proofs.Lifecycle.Runs

/-!
# Transitions on answers in time

What a creation or an update gives when every answer is a success that comes in time, the first poll
finds the object settled, and the host does not ask to stop.
-/

namespace Provisioner.Api

set_option autoImplicit false

open Http

variable (api : Api) (waits : Transition → Option WaitOptions) (session : Session)
  {context : Context} {w : World Wire} {rest polled looked : List Answer}
  {expected : api.kind.State} {path : String} {seen final : api.kind.Remote}

theorem waits_of_ready (accepting : session.context.client.retry.Accepting)
    (found : api.object session.context expected = .ok path)
    (answered : (api.reading path).Answered polled seen) {state : LifecycleState}
    (classified : api.kind.classify seen expected = .ok state)
    (settled : state ∈ [LifecycleState.stable, .failed]) (transition : Transition)
    (ready : Ready w (polled ++ rest)) :
    ∃ poll : Wait.Poll Wire api.kind.Remote,
      Lifecycle.Waits ⟨api.kind, waits⟩ session expected transition w [poll]
        (.ok ⟨state, some seen⟩, poll.finish) ∧
      Lifecycle.Found ⟨api.kind, waits⟩ session expected poll seen state ∧
      Ready poll.finish rest := by
  obtain ⟨after, read, readyAfter⟩ := read_of_ready accepting found answered ready
  have polling : Lifecycle.poll ⟨api.kind, waits⟩ session expected w =
      (.ok ⟨state, some seen⟩, after) :=
    Lifecycle.poll_ok_iff.mpr ⟨seen, state, read, classified, rfl⟩
  refine ⟨⟨w, .ok ⟨state, some seen⟩, after⟩, ?_, ⟨read, classified⟩, readyAfter⟩
  apply Wait.course_of_reached ready.isStopped _ settled
  rw [Wait.observe_eq_read (by decide)]
  exact polling

theorem settles_of_ready (accepting : session.context.client.retry.Accepting)
    (found : api.object session.context expected = .ok path)
    (answered : (api.reading path).Answered polled seen)
    (classified : api.kind.classify seen expected = .ok .stable) (transition : Transition)
    (ready : Ready w (polled ++ rest)) :
    ∃ poll : Wait.Poll Wire api.kind.Remote,
      Lifecycle.Settles ⟨api.kind, waits⟩ session expected transition w [] poll seen ∧
      Lifecycle.settle ⟨api.kind, waits⟩ session expected transition w = (.ok (), poll.finish) ∧
      Ready poll.finish rest := by
  obtain ⟨poll, waiting, stable, readyAfter⟩ :=
    waits_of_ready api waits session accepting found answered classified (by simp) transition ready
  refine ⟨poll, ⟨waiting, by simp, stable⟩, ?_, readyAfter⟩
  unfold Lifecycle.settle
  rw [Operation.bind_of_ok waiting.await_eq]
  rfl

theorem finish_of_ready (accepting : session.context.client.retry.Accepting)
    (found : api.object session.context expected = .ok path)
    (answered : (api.reading path).Answered looked final) (step : String)
    (ready : Ready w looked) :
    ∃ after, Lifecycle.finish ⟨api.kind, waits⟩ session expected step w =
      (.ok (api.kind.encode (api.kind.toState final expected)), after) := by
  rw [← List.append_nil looked] at ready
  obtain ⟨after, read, _⟩ := read_of_ready accepting found answered ready
  exact ⟨_, Lifecycle.finish_ok_iff.mpr ⟨final, after, read, rfl, rfl⟩⟩

theorem submit_of_ready {config : Json} {desired : api.kind.State} {created : api.kind.Remote}
    (accepting : context.client.retry.Accepting)
    (decoded : Lifecycle.decodeValid ⟨api.kind, waits⟩ config = .ok desired)
    (valid : api.kind.validateCreate desired = .ok ())
    (found : api.collection context desired = .ok path) {answer : Answer}
    (gives : answer.Gives api.created created) (ready : Ready w (answer :: rest)) :
    ∃ after, Lifecycle.submit ⟨api.kind, waits⟩ context config w =
      (.ok (desired, api.kind.toState created desired), after) ∧ Ready after rest := by
  have readyLogged : Ready (Lifecycle.logged ⟨api.kind, waits⟩ "Creating" desired w)
      (answer :: rest) := ⟨ready.running, ready.next⟩
  let session : Session := ⟨context, api.kind.credentials context desired⟩
  have acceptingHere : session.context.client.retry.Accepting := accepting
  obtain ⟨after, creating, readyAfter⟩ := create_of_ready acceptingHere found gives readyLogged
  exact ⟨after, Lifecycle.submit_ok_iff.mpr ⟨decoded, valid, created, creating, rfl⟩,
    readyAfter⟩

/-- A creation whose POST is accepted, whose first poll finds the object stable and whose last look
is answered waits for that poll alone and gives the state of that look. -/
theorem create_of_answers {config : Json} {desired : api.kind.State} {created : api.kind.Remote}
    (accepting : context.client.retry.Accepting)
    (decoded : Lifecycle.decodeValid ⟨api.kind, waits⟩ config = .ok desired)
    (valid : api.kind.validateCreate desired = .ok ()) {collection : String}
    (posted : api.collection context desired = .ok collection) {answer : Answer}
    (gives : answer.Gives api.created created)
    (found : api.object context (api.kind.toState created desired) = .ok path)
    (answered : (api.reading path).Answered polled seen)
    (classified : api.kind.classify seen (api.kind.toState created desired) = .ok .stable)
    (answeredLast : (api.reading path).Answered looked final)
    (ready : Ready w (answer :: (polled ++ looked))) :
    ∃ submitted poll after,
      Lifecycle.submit ⟨api.kind, waits⟩ context config w =
        (.ok (desired, api.kind.toState created desired), submitted) ∧
      Lifecycle.Settles ⟨api.kind, waits⟩ ⟨context, api.kind.credentials context desired⟩
        (api.kind.toState created desired) .create submitted [] poll seen ∧
      Lifecycle.create ⟨api.kind, waits⟩ context config w =
        (.ok (api.kind.encode (api.kind.toState final (api.kind.toState created desired))),
          after) := by
  obtain ⟨submitted, submission, readySubmitted⟩ :=
    submit_of_ready api waits accepting decoded valid posted gives ready
  obtain ⟨poll, settles, settling, readySettled⟩ :=
    settles_of_ready api waits ⟨context, api.kind.credentials context desired⟩ accepting found
      answered classified .create readySubmitted
  obtain ⟨after, finishing⟩ :=
    finish_of_ready api waits ⟨context, api.kind.credentials context desired⟩ accepting found
      answeredLast "Created" readySettled
  exact ⟨submitted, poll, after, submission, settles, Lifecycle.create_ok_iff.mpr
    ⟨desired, _, submitted, poll.finish, submission, settling, finishing⟩⟩

/-- An update of one write that is accepted, whose first poll finds the object stable and whose last
look is answered gives the state of that look. -/
theorem update_of_answers {priorState config : Json} {prior desired : api.kind.State}
    {changed : List String} (accepting : context.client.retry.Accepting)
    (decoded : api.kind.decode.fromState priorState = .ok prior)
    (prepared : Lifecycle.prepareUpdate ⟨api.kind, waits⟩ priorState config prior =
      .ok (desired, changed)) (changes : changed ≠ []) {write : Write}
    (only : api.writes context prior desired changed = .ok [write]) {answer : Answer}
    {result : Option Json} (succeeds : answer.Succeeds result)
    (found : api.object context desired = .ok path)
    (answered : (api.reading path).Answered polled seen)
    (classified : api.kind.classify seen desired = .ok .stable)
    (answeredLast : (api.reading path).Answered looked final)
    (ready : Ready w (answer :: (polled ++ looked))) :
    ∃ after, Lifecycle.update ⟨api.kind, waits⟩ context priorState config w =
      (.ok (api.kind.encode (api.kind.toState final desired)), after) := by
  let session : Session := ⟨context, api.kind.credentials context desired⟩
  have acceptingHere : session.context.client.retry.Accepting := accepting
  obtain ⟨told, telling, readyTold, _⟩ := update_of_ready acceptingHere only succeeds ready
  obtain ⟨poll, _, settling, readySettled⟩ :=
    settles_of_ready api waits session acceptingHere found answered classified .update readyTold
  obtain ⟨after, finishing⟩ :=
    finish_of_ready api waits session acceptingHere found answeredLast "Updated" readySettled
  refine ⟨after, Lifecycle.update_ok_iff.mpr
    ⟨prior, desired, changed, poll.finish, decoded, prepared, ?_, finishing⟩⟩
  rw [if_neg changes]
  exact ⟨told, telling, settling⟩

theorem refresh_of_answers {known : api.kind.State} (accepting : context.client.retry.Accepting)
    (found : api.object context known = .ok path)
    (answered : (api.reading path).Answered looked final) {phase : LifecycleState}
    (classified : api.kind.classify final known = .ok phase) (present : phase ≠ .deleted)
    (ready : Ready w looked) (isNew : Bool) :
    ∃ after, Lifecycle.refresh ⟨api.kind, waits⟩ context known isNew w =
      (.ok (some (api.kind.encode (api.kind.toState final known))), after) := by
  let session : Session := ⟨context, api.kind.credentials context known⟩
  have acceptingHere : session.context.client.retry.Accepting := accepting
  rw [← List.append_nil looked] at ready
  obtain ⟨finished, reading, _⟩ := read_of_ready acceptingHere found answered ready
  exact ⟨Lifecycle.logged ⟨api.kind, waits⟩ "Read" (api.kind.toState final known) finished,
    Lifecycle.refresh_some_iff.mpr
      ⟨final, phase, finished, reading, classified, fun gone => present gone.1, rfl, rfl⟩⟩

theorem read_of_answers {state : Json} {known : api.kind.State}
    (accepting : context.client.retry.Accepting)
    (decoded : api.kind.decode.fromState state = .ok known)
    (found : api.object context known = .ok path)
    (answered : (api.reading path).Answered looked final) {phase : LifecycleState}
    (classified : api.kind.classify final known = .ok phase) (present : phase ≠ .deleted)
    (ready : Ready w looked) :
    ∃ after, Lifecycle.read ⟨api.kind, waits⟩ context state w =
      (.ok (some (api.kind.encode (api.kind.toState final known))), after) := by
  obtain ⟨after, refreshed⟩ :=
    api.refresh_of_answers waits accepting found answered classified present ready false
  exact ⟨after, Lifecycle.read_ok_iff.mpr ⟨known, decoded, refreshed⟩⟩

end Provisioner.Api

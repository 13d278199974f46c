import Provisioner.Proofs.Kinds.Route
import Provisioner.Proofs.Lifecycle.Failures
import Provisioner.Proofs.Lifecycle.Requests
import Provisioner.Proofs.Lifecycle.Runs

/-!
# Transitions that refuse

Every transition but a creation refuses before its first request or not at all: what it asks for
after that is where it has asked before. A creation goes on with what the answer to its POST says.
So it refuses after that request exactly if the answer takes away the path of the new object and the
host has not asked to stop by then.
-/

namespace Provisioner

set_option autoImplicit false

open Http
open Error (IsFault admitsRuns_isFault)
open Op (RefusesFirst faults_about)
open Operation (FailsOnly bind_of_ok bind_of_error)

namespace Route

variable (route : Route) (waits : Transition → Option WaitOptions) (session : Session)
  (context : Context)

theorem read_first (known : route.api.kind.State) :
    (route.api.kind.read session known).RefusesFirst := by
  rw [route.api.read_eq]
  apply RefusesFirst.after
  intro path _
  exact .of_faults (admitsRuns_isFault.reading session (route.api.reading path))

section Located

variable {expected : route.api.kind.State} {path : String}
  (located : route.api.object session.context expected = .ok path)

include located

theorem faults_object (error : Error)
    (missing : route.api.object session.context expected = .error error) : error.IsFault := by
  rw [located] at missing
  cases missing

theorem poll_faults :
    (Lifecycle.poll ⟨route.api.kind, waits⟩ session expected).FailsOnly IsFault :=
  admitsRuns_isFault.poll waits session (route.faults_object session located)
    fun _ _ => route.fault_of_classify

theorem settle_faults (transition : Transition) :
    (Lifecycle.settle ⟨route.api.kind, waits⟩ session expected transition).FailsOnly IsFault :=
  admitsRuns_isFault.settle waits session (route.faults_object session located)
    (fun _ _ => route.fault_of_classify) transition

theorem finish_faults (step : String) :
    (Lifecycle.finish ⟨route.api.kind, waits⟩ session expected step).FailsOnly IsFault :=
  admitsRuns_isFault.finish waits session (route.faults_object session located) step

end Located

theorem finish_first (expected : route.api.kind.State) (step : String) :
    (Lifecycle.finish ⟨route.api.kind, waits⟩ session expected step).RefusesFirst := by
  apply (route.read_first session expected).before_faults
  intro w middle remote _
  exact .of_total fun w => ⟨_, _, rfl⟩

theorem refresh_first (known : route.api.kind.State) (isNew : Bool) :
    (Lifecycle.refresh ⟨route.api.kind, waits⟩ context known isNew).RefusesFirst := by
  unfold Lifecycle.refresh
  apply (route.read_first _ known).bind_outcome
  · intro error
    simp only
    by_cases gone : (error.isNotFound && !isNew) = true
    · exact Or.inl ⟨none, if_pos gone⟩
    · exact Or.inr (if_neg gone)
  · intro remote
    apply FailsOnly.bind (.ofExcept fun error failed => route.fault_of_classify failed)
    intro state
    split
    · exact .pure none
    · exact .of_total fun w => ⟨_, _, rfl⟩

theorem read_state_first (state : Json) :
    (Lifecycle.read ⟨route.api.kind, waits⟩ context state).RefusesFirst := by
  apply RefusesFirst.after_about
  intro known _
  exact (route.refresh_first waits context known false).about _ _

theorem importKey_first (raw : String) :
    (Lifecycle.importKey ⟨route.api.kind, waits⟩ context raw).RefusesFirst := by
  apply RefusesFirst.about
  apply RefusesFirst.after
  intro key _
  apply (route.refresh_first waits context (route.api.kind.ofKey key) true).before_faults
  intro w middle found _
  cases found with
  | none => exact .fail rfl
  | some state => exact .pure state

theorem delete_first (state : Json) :
    (Lifecycle.delete ⟨route.api.kind, waits⟩ context state).RefusesFirst := by
  apply RefusesFirst.after_about
  intro known _
  apply RefusesFirst.about
  simp only [Lifecycle.session]
  rw [route.api.delete_eq, bind_assoc]
  apply RefusesFirst.after
  intro path located
  apply RefusesFirst.of_faults
  apply FailsOnly.bind (admitsRuns_isFault.tell _ .delete path none)
  intro _
  have polls := route.poll_faults waits ⟨context, route.api.kind.credentials context known⟩ located
  apply FailsOnly.bind (admitsRuns_isFault.awaitState polls _ _)
  intro _
  exact .pure ()

theorem update_first (priorState config : Json) :
    (Lifecycle.update ⟨route.api.kind, waits⟩ context priorState config).RefusesFirst := by
  apply RefusesFirst.after_about
  intro prior _
  apply RefusesFirst.about
  apply RefusesFirst.after
  intro prepared _
  obtain ⟨desired, changed⟩ := prepared
  simp only [Lifecycle.session]
  split
  · exact route.finish_first waits _ desired "Updated"
  · rw [route.api.update_eq, bind_assoc]
    apply RefusesFirst.after
    intro writes found
    -- What is to be written to was found, so the polls after the writes find it too.
    obtain ⟨path, located⟩ := route.object_of_writes found
    let session : Session := ⟨context, route.api.kind.credentials context desired⟩
    apply RefusesFirst.of_faults
    apply FailsOnly.bind (admitsRuns_isFault.tellAll session writes)
    intro _
    apply FailsOnly.bind (route.settle_faults waits session located .update)
    intro _
    exact route.finish_faults waits session located "Updated"

theorem submit_first (config : Json) :
    (Lifecycle.submit ⟨route.api.kind, waits⟩ context config).RefusesFirst := by
  apply RefusesFirst.after
  intro desired _
  apply RefusesFirst.after
  intro _ _
  apply RefusesFirst.after_silent fun _ => rfl
  intro _ _ _ _
  simp only [Lifecycle.session]
  rw [route.api.create_eq, bind_assoc]
  apply RefusesFirst.after
  intro path _
  apply RefusesFirst.of_faults
  apply FailsOnly.bind (admitsRuns_isFault.call _ .post path _ route.api.created)
  intro created
  exact .pure _

theorem settle_of_missing {expected : route.api.kind.State} {error : Error}
    (missing : route.api.object session.context expected = .error error) (transition : Transition)
    (w : World Wire) :
    Lifecycle.settle ⟨route.api.kind, waits⟩ session expected transition w =
      (.error (if w.isStopped then { failure := .cancelled } else error), w) := by
  let l : Lifecycle Wire := ⟨route.api.kind, waits⟩
  have reading : route.api.kind.read session expected w = (.error error, w) := by
    rw [route.api.read_eq, missing]
    rfl
  have polling : l.poll session expected w = (.error error, w) := bind_of_error reading _
  obtain ⟨reads, limit⟩ := Nat.exists_eq_succ_of_ne_zero
    (Nat.ne_of_gt (Wait.readLimit_pos (l.waitOptions transition) w.peer))
  have awaited : Wait.awaitState (l.poll session expected) [.stable, .failed]
      (l.waitOptions transition) w =
        (.error (if w.isStopped then { failure := .cancelled } else error), w) := by
    have stops : ∃ polls, l.Waits session expected transition w polls
        (.error (if w.isStopped then { failure := .cancelled } else error), w) := by
      unfold Lifecycle.Waits
      rw [limit]
      cases stopped : w.isStopped with
      | true => exact ⟨[], .stopped stopped⟩
      | false =>
        refine ⟨_, .failed stopped ?_⟩
        rw [Wait.observe_eq_read (by decide)]
        exact polling
    obtain ⟨polls, waits⟩ := stops
    exact waits.await_eq
  unfold Lifecycle.settle
  exact bind_of_error awaited _

variable {route waits context}

/-- A creation that is accepted by an answer which takes away the path of the new object, while the
host has not asked to stop. -/
def LosesNew (route : Route) (waits : Transition → Option WaitOptions) (context : Context)
    (config : Json) (w : World Wire) : Prop :=
  ∃ desired created submitted,
    Lifecycle.submit ⟨route.api.kind, waits⟩ context config w =
      (.ok (desired, route.api.kind.toState created desired), submitted) ∧
    submitted.isStopped = false ∧ route.Loses context desired created

section Submitted

variable {config : Json} {w submitted : World Wire} {desired accepted : route.api.kind.State}
  (submission : Lifecycle.submit ⟨route.api.kind, waits⟩ context config w =
    (.ok (desired, accepted), submitted))

include submission

theorem posted_of_submit :
    ∃ exchanges path, exchanges ≠ [] ∧ Transcript w.peer exchanges submitted.peer ∧
      route.api.collection context desired = .ok path ∧
      ∀ exchange ∈ exchanges, exchange.sent.request.method = .post ∧
        exchange.sent.request.url = context.client.url path := by
  obtain ⟨_, _, created, creating, _⟩ := Lifecycle.submit_ok_iff.mp submission
  obtain ⟨exchanges, transcript, path, found, called⟩ := Api.posted_of_create creating
  obtain ⟨earlier, last, _, split, _⟩ := called.answered
  have some : exchanges ≠ [] := by simp [split]
  refine ⟨exchanges, path, some, transcript, found, ?_⟩
  intro exchange member
  have request := called.only exchange member
  rw [request]
  exact ⟨rfl, rfl⟩

theorem create_of_submit :
    Lifecycle.create ⟨route.api.kind, waits⟩ context config w =
      Op.about route.api.kind.name (some (route.api.kind.id accepted)) (do
        Lifecycle.settle ⟨route.api.kind, waits⟩
          ⟨context, route.api.kind.credentials context desired⟩ accepted .create
        Lifecycle.finish ⟨route.api.kind, waits⟩
          ⟨context, route.api.kind.credentials context desired⟩ accepted "Created") submitted := by
  unfold Lifecycle.create
  rw [bind_of_ok (Op.about_ok_iff.mpr submission)]
  rfl

/-- A new object without a path is refused after its POST, unless the host has asked to stop. -/
theorem create_of_missing {error : Error}
    (missing : route.api.object context accepted = .error error) :
    Lifecycle.create ⟨route.api.kind, waits⟩ context config w =
      (.error ((if submitted.isStopped then { failure := .cancelled } else error).about
        route.api.kind.name (some (route.api.kind.id accepted))), submitted) := by
  let session : Session := ⟨context, route.api.kind.credentials context desired⟩
  have missingHere : route.api.object session.context accepted = .error error := missing
  have settling := route.settle_of_missing waits session missingHere .create submitted
  rw [create_of_submit submission]
  exact Op.about_error_iff.mpr ⟨_, bind_of_error settling _, rfl⟩

theorem create_faults_of_object {path : String}
    (located : route.api.object context accepted = .ok path) {error : Error} {after : World Wire}
    (failed : Lifecycle.create ⟨route.api.kind, waits⟩ context config w = (.error error, after)) :
    error.IsFault := by
  let session : Session := ⟨context, route.api.kind.credentials context desired⟩
  have locatedHere : route.api.object session.context accepted = .ok path := located
  rw [create_of_submit submission] at failed
  have bounded : (do
      Lifecycle.settle ⟨route.api.kind, waits⟩ session accepted .create
      Lifecycle.finish ⟨route.api.kind, waits⟩ session accepted "Created" : Op Wire Json).FailsOnly
        IsFault := by
    apply FailsOnly.bind (route.settle_faults waits session locatedHere .create)
    intro _
    exact route.finish_faults waits session locatedHere "Created"
  exact (faults_about bounded _ _).allowed_of_run failed

end Submitted

variable (route waits context) in
theorem create_refuses_late_iff (config : Json) (w : World Wire) :
    (∃ error after, Lifecycle.create ⟨route.api.kind, waits⟩ context config w =
        (.error error, after) ∧ error.isRefusal = true ∧
      (Lifecycle.create ⟨route.api.kind, waits⟩ context config).sent w ≠ []) ↔
      route.LosesNew waits context config w := by
  constructor
  · intro late
    obtain ⟨error, after, failed, refusal, some⟩ := late
    rcases submission : Lifecycle.submit ⟨route.api.kind, waits⟩ context config w with
      ⟨fault | ⟨desired, accepted⟩, submitted⟩
    · have creating := Lifecycle.create_of_unsubmitted submission
      rw [failed] at creating
      cases creating
      rw [Error.isRefusal_about] at refusal
      -- The first part refuses before the POST or not at all.
      have kept := (route.submit_first waits context config).peer_of_refusal submission refusal
      exact absurd (Operation.sent_of_peer_eq (by rw [failed]; exact kept)) some
    · obtain ⟨_, _, created, _, rfl⟩ := Lifecycle.submit_ok_iff.mp submission
      obtain ⟨_, _, _, _, posted, _⟩ := posted_of_submit submission
      rcases located : route.api.object context (route.api.kind.toState created desired) with
        missing | path
      · have creating := create_of_missing submission located
        rw [failed] at creating
        cases stopped : submitted.isStopped with
        | true =>
          rw [stopped, if_pos rfl] at creating
          cases creating
          rw [Error.isRefusal_about] at refusal
          cases refusal
        | false =>
          exact ⟨desired, created, submitted, submission, stopped,
            (route.lost_iff posted created).mp ⟨missing, located⟩⟩
      · have fault : error.isRefusal = false := create_faults_of_object submission located failed
        rw [fault] at refusal
        cases refusal
  · intro loses
    obtain ⟨desired, created, submitted, submission, running, lost⟩ := loses
    obtain ⟨exchanges, _, some, transcript, posted, _⟩ := posted_of_submit submission
    obtain ⟨error, missing⟩ := (route.lost_iff posted created).mpr lost
    have creating := create_of_missing submission missing
    rw [running] at creating
    refine ⟨_, _, creating, ?_, ?_⟩
    · rw [if_neg (by decide), Error.isRefusal_about]
      exact route.refusal_of_object missing
    · rw [Operation.sent_of_transcript (by rw [creating]; exact transcript)]
      simpa using some

end Route

end Provisioner

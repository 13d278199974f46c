import Provisioner.Lifecycle
import Provisioner.Proofs.Wait.Course

/-!
# How a transition succeeds

Each transition is a chain of steps, and it succeeds exactly if every step does. The lemmas here
take a transition that gave a result apart into its steps, so that no later proof opens a transition
again.
-/

namespace Provisioner.Lifecycle

set_option autoImplicit false

open Operation (bind_ok_iff bind_ofExcept_ok_iff)

variable {σ : Type} {l : Lifecycle σ} {context : Context} {w after : World σ}

/-- The world in which a state has been logged. -/
def logged (l : Lifecycle σ) (step : String) (state : l.kind.State) (w : World σ) : World σ :=
  { w with snapshots := w.snapshots ++ [⟨step, l.kind.schema.redact (l.kind.encode state)⟩] }

@[simp] theorem peer_logged (l : Lifecycle σ) (step : String) (state : l.kind.State)
    (w : World σ) : (l.logged step state w).peer = w.peer := rfl

theorem run_log (step : String) (state : l.kind.State) :
    l.log step state w = (.ok (), l.logged step state w) := rfl

/-- A read of the object that was understood. -/
def Found (l : Lifecycle σ) (session : Session) (expected : l.kind.State)
    (poll : Wait.Poll σ l.kind.Remote) (remote : l.kind.Remote) (state : LifecycleState) : Prop :=
  l.kind.read session expected poll.start = (.ok remote, poll.finish) ∧
    l.kind.classify remote expected = .ok state

theorem poll_ok_iff {session : Session} {expected : l.kind.State}
    {seen : Observation l.kind.Remote} :
    l.poll session expected w = (.ok seen, after) ↔
      ∃ remote state, l.kind.read session expected w = (.ok remote, after) ∧
        l.kind.classify remote expected = .ok state ∧ seen = ⟨state, some remote⟩ := by
  unfold poll
  constructor
  · intro run
    obtain ⟨remote, middle, read, judged⟩ := bind_ok_iff.mp run
    obtain ⟨state, classified, result⟩ := bind_ofExcept_ok_iff.mp judged
    obtain ⟨rfl, rfl⟩ := Operation.pure_ok_iff.mp result
    exact ⟨remote, state, read, classified, rfl⟩
  · intro parts
    rcases parts with ⟨remote, state, read, classified, rfl⟩
    exact bind_ok_iff.mpr ⟨remote, after, read,
      bind_ofExcept_ok_iff.mpr ⟨state, classified, rfl⟩⟩

/-- The course of a wait for an object to settle. -/
def Waits [Peer σ] (l : Lifecycle σ) (session : Session) (expected : l.kind.State)
    (transition : Transition) (start : World σ) (polls : List (Wait.Poll σ l.kind.Remote))
    (result : Except Error (Observation l.kind.Remote) × World σ) : Prop :=
  Wait.Course (l.poll session expected) [.stable, .failed] (l.waitOptions transition) start.now
    (Wait.readLimit (l.waitOptions transition) start.peer) start polls result

section Waits

variable [Peer σ] {session : Session} {expected : l.kind.State} {transition : Transition}
  {polls : List (Wait.Poll σ l.kind.Remote)}
  {result : Except Error (Observation l.kind.Remote) × World σ}

theorem Waits.poll_run (waits : l.Waits session expected transition w polls result)
    {poll : Wait.Poll σ l.kind.Remote} (member : poll ∈ polls) :
    l.poll session expected poll.start = (poll.outcome, poll.finish) := by
  have run := (Wait.Course.poll_run waits member).2
  rw [Wait.observe_eq_read (by decide)] at run
  exact run

theorem Waits.found (waits : l.Waits session expected transition w polls result)
    {poll : Wait.Poll σ l.kind.Remote} (member : poll ∈ polls)
    {seen : Observation l.kind.Remote} (outcome : poll.outcome = .ok seen) :
    ∃ remote, l.Found session expected poll remote seen.state := by
  have run := waits.poll_run member
  rw [outcome] at run
  obtain ⟨remote, state, read, classified, rfl⟩ := poll_ok_iff.mp run
  exact ⟨remote, read, classified⟩

theorem Waits.outcome_of_found (waits : l.Waits session expected transition w polls result)
    {poll : Wait.Poll σ l.kind.Remote} (member : poll ∈ polls) {remote : l.kind.Remote}
    {state : LifecycleState} (found : l.Found session expected poll remote state) :
    poll.outcome = .ok ⟨state, some remote⟩ := by
  have run := waits.poll_run member
  rw [poll_ok_iff.mpr ⟨remote, state, found.1, found.2, rfl⟩] at run
  simp only [Prod.mk.injEq, and_true] at run
  exact run.symm

theorem Waits.await_eq (waits : l.Waits session expected transition w polls result) :
    Wait.awaitState (l.poll session expected) [.stable, .failed] (l.waitOptions transition) w
      = result := by
  obtain ⟨polls', course⟩ := Wait.awaitState_course (l.poll session expected) [.stable, .failed]
    (l.waitOptions transition) w
  exact (course.unique waits).2

end Waits

/-- A wait that ended with the object stable. -/
structure Settles [Peer σ] (l : Lifecycle σ) (session : Session) (expected : l.kind.State)
    (transition : Transition) (start : World σ) (earlier : List (Wait.Poll σ l.kind.Remote))
    (last : Wait.Poll σ l.kind.Remote) (seen : l.kind.Remote) : Prop where
  course : l.Waits session expected transition start (earlier ++ [last])
    (.ok ⟨.stable, some seen⟩, last.finish)
  moving : ∀ poll ∈ earlier, ∃ remote state, l.Found session expected poll remote state ∧
    state ≠ .stable ∧ state ≠ .failed
  stable : l.Found session expected last seen .stable

theorem settles_of_settle [Peer σ] {session : Session} {expected : l.kind.State}
    {transition : Transition}
    (run : l.settle session expected transition w = (.ok (), after)) :
    ∃ earlier last seen, l.Settles session expected transition w earlier last seen ∧
      last.finish = after := by
  unfold settle at run
  obtain ⟨seen, middle, awaited, judged⟩ := bind_ok_iff.mp run
  obtain ⟨polls, course⟩ := Wait.awaitState_course (l.poll session expected) [.stable, .failed]
    (l.waitOptions transition) w
  rw [awaited] at course
  obtain ⟨earlier, last, rfl, outcome, rfl, target, others⟩ := course.of_ok
  have notFailed : seen.state ≠ .failed := by
    intro failed
    rw [if_pos failed] at judged
    cases judged
  rw [if_neg notFailed] at judged
  have stable : seen.state = .stable := by simpa [notFailed] using target
  obtain ⟨remote, found⟩ := Waits.found course (by simp) outcome
  rw [stable] at found
  have seenIs : seen = ⟨.stable, some remote⟩ := by
    have again := Waits.outcome_of_found course (by simp) found
    rw [outcome] at again
    exact Except.ok.inj again
  subst seenIs
  refine ⟨earlier, last, remote, ⟨course, ?_, found⟩, ?_⟩
  · intro poll member
    obtain ⟨before, given, missed⟩ := others poll member
    obtain ⟨remote', found'⟩ := Waits.found course (by simp [member]) given
    simp only [List.mem_cons, List.not_mem_nil, or_false, not_or] at missed
    exact ⟨remote', before.state, found', missed⟩
  · exact (Operation.pure_ok_iff.mp judged).2

theorem settle_of_failed [Peer σ] {session : Session} {expected : l.kind.State}
    {transition : Transition} {polls : List (Wait.Poll σ l.kind.Remote)}
    {result : Except Error (Observation l.kind.Remote) × World σ}
    (waits : l.Waits session expected transition w polls result)
    {poll : Wait.Poll σ l.kind.Remote} (member : poll ∈ polls) {remote : l.kind.Remote}
    (found : l.Found session expected poll remote .failed) :
    l.settle session expected transition w =
      (.error { failure := .remoteFailed (l.kind.failureReason remote) }, poll.finish) := by
  have ending := Wait.Course.result_of_target waits member (waits.outcome_of_found member found)
    (by simp)
  have awaited := waits.await_eq
  rw [ending] at awaited
  unfold settle
  rw [Operation.bind_of_ok awaited, if_pos rfl]
  rfl

theorem finish_ok_iff {session : Session} {expected : l.kind.State} {step : String}
    {state : Json} :
    l.finish session expected step w = (.ok state, after) ↔
      ∃ remote finished, l.kind.read session expected w = (.ok remote, finished) ∧
        state = l.kind.encode (l.kind.toState remote expected) ∧
        after = l.logged step (l.kind.toState remote expected) finished := by
  unfold finish
  constructor
  · intro run
    obtain ⟨remote, finished, read, rest⟩ := bind_ok_iff.mp run
    rw [Operation.bind_of_ok (run_log step _)] at rest
    obtain ⟨rfl, rfl⟩ := Operation.pure_ok_iff.mp rest
    exact ⟨remote, finished, read, rfl, rfl⟩
  · intro parts
    rcases parts with ⟨remote, finished, read, rfl, rfl⟩
    rw [Operation.bind_of_ok read]
    rfl

theorem decodeValid_ok_iff {config : Json} {desired : l.kind.State} :
    l.decodeValid config = .ok desired ↔
      l.kind.schema.ensureValid config = .ok () ∧ l.kind.decode.fromState config = .ok desired := by
  unfold decodeValid
  cases l.kind.schema.ensureValid config with
  | error error =>
    constructor
    · intro impossible
      cases impossible
    · intro parts
      cases parts.1
  | ok _ => exact ⟨fun decoded => ⟨rfl, decoded⟩, fun parts => parts.2⟩

theorem submit_ok_iff {config : Json} {desired accepted : l.kind.State} :
    l.submit context config w = (.ok (desired, accepted), after) ↔
      l.decodeValid config = .ok desired ∧ l.kind.validateCreate desired = .ok () ∧
        ∃ created, l.kind.create (l.session context desired) desired
            (l.logged "Creating" desired w) = (.ok created, after) ∧
          accepted = l.kind.toState created desired := by
  unfold submit
  constructor
  · intro run
    obtain ⟨decoded, decoding, rest⟩ := bind_ofExcept_ok_iff.mp run
    obtain ⟨_, checking, rest⟩ := bind_ofExcept_ok_iff.mp rest
    rw [Operation.bind_of_ok (run_log "Creating" decoded)] at rest
    obtain ⟨created, middle, creating, result⟩ := bind_ok_iff.mp rest
    obtain ⟨same, rfl⟩ := Operation.pure_ok_iff.mp result
    obtain ⟨rfl, rfl⟩ := Prod.mk.inj same
    exact ⟨decoding, checking, created, creating, rfl⟩
  · intro parts
    rcases parts with ⟨decoding, checking, created, creating, rfl⟩
    refine bind_ofExcept_ok_iff.mpr ⟨desired, decoding, ?_⟩
    refine bind_ofExcept_ok_iff.mpr ⟨(), checking, ?_⟩
    rw [Operation.bind_of_ok (run_log "Creating" desired), Operation.bind_of_ok creating]
    rfl

theorem submit_of_checked {config : Json} {desired : l.kind.State}
    (decoded : l.decodeValid config = .ok desired)
    (checked : l.kind.validateCreate desired = .ok ()) :
    l.submit context config w = (do
      let created ← l.kind.create (l.session context desired) desired
      pure (desired, l.kind.toState created desired)) (l.logged "Creating" desired w) := by
  have passed : (Operation.ofExcept (l.kind.validateCreate desired) : Op σ Unit) w =
      (.ok (), w) := by
    rw [checked]
    rfl
  unfold submit
  rw [decoded]
  refine (Operation.bind_of_ok (Operation.run_ofExcept _ w) _).trans ?_
  refine (Operation.bind_of_ok passed _).trans ?_
  exact Operation.bind_of_ok (run_log "Creating" desired) _

/-- A creation that is not accepted is about an object without an identifier. -/
theorem create_of_unsubmitted [Peer σ] {config : Json} {error : Error}
    (failed : l.submit context config w = (.error error, after)) :
    l.create context config w = (.error (error.about l.kind.name none), after) := by
  have named : Op.about l.kind.name none (l.submit context config) w =
      (.error (error.about l.kind.name none), after) :=
    Op.about_error_iff.mpr ⟨error, failed, rfl⟩
  exact Operation.bind_of_error named _

theorem create_ok_iff [Peer σ] {config state : Json} :
    l.create context config w = (.ok state, after) ↔
      ∃ desired accepted submitted settled,
        l.submit context config w = (.ok (desired, accepted), submitted) ∧
        l.settle (l.session context desired) accepted .create submitted = (.ok (), settled) ∧
        l.finish (l.session context desired) accepted "Created" settled = (.ok state, after) := by
  unfold create
  rw [Op.bind_about_ok_iff]
  constructor
  · intro run
    obtain ⟨⟨desired, accepted⟩, submitted, submitting, rest⟩ := bind_ok_iff.mp run
    obtain ⟨_, settled, settling, finishing⟩ := bind_ok_iff.mp (Op.about_ok_iff.mp rest)
    exact ⟨desired, accepted, submitted, settled, submitting, settling, finishing⟩
  · intro parts
    rcases parts with ⟨desired, accepted, submitted, settled, submitting, settling, finishing⟩
    refine bind_ok_iff.mpr ⟨(desired, accepted), submitted, submitting, ?_⟩
    exact Op.about_ok_iff.mpr (bind_ok_iff.mpr ⟨(), settled, settling, finishing⟩)

/-- An update that gave a state, with what it changed. Without a change it is the final read alone.
-/
theorem update_ok_iff [Peer σ] {priorState config state : Json} :
    l.update context priorState config w = (.ok state, after) ↔
      ∃ prior desired changed settled,
        l.kind.decode.fromState priorState = .ok prior ∧
        l.prepareUpdate priorState config prior = .ok (desired, changed) ∧
        (if changed = [] then settled = w else ∃ told,
          l.kind.update (l.session context desired) prior desired changed w = (.ok (), told) ∧
          l.settle (l.session context desired) desired .update told = (.ok (), settled)) ∧
        l.finish (l.session context desired) desired "Updated" settled = (.ok state, after) := by
  unfold update
  rw [Op.bind_about_ok_iff]
  constructor
  · intro run
    obtain ⟨prior, decoding, rest⟩ := bind_ofExcept_ok_iff.mp run
    obtain ⟨⟨desired, changed⟩, preparing, rest⟩ :=
      bind_ofExcept_ok_iff.mp (Op.about_ok_iff.mp rest)
    simp only at rest
    cases changed with
    | nil => exact ⟨prior, desired, [], w, decoding, preparing, rfl, rest⟩
    | cons name others =>
      simp only [List.isEmpty_cons, Bool.false_eq_true, if_false] at rest
      obtain ⟨_, told, telling, rest⟩ := bind_ok_iff.mp rest
      obtain ⟨_, settled, settling, finishing⟩ := bind_ok_iff.mp rest
      exact ⟨prior, desired, name :: others, settled, decoding, preparing,
        by simpa using ⟨told, telling, settling⟩, finishing⟩
  · intro parts
    rcases parts with ⟨prior, desired, changed, settled, decoding, preparing, writing, finishing⟩
    refine bind_ofExcept_ok_iff.mpr ⟨prior, decoding, Op.about_ok_iff.mpr ?_⟩
    refine bind_ofExcept_ok_iff.mpr ⟨(desired, changed), preparing, ?_⟩
    cases changed with
    | nil =>
      rw [if_pos rfl] at writing
      subst writing
      exact finishing
    | cons name others =>
      simp only [reduceCtorEq, if_false] at writing
      obtain ⟨told, telling, settling⟩ := writing
      simp only [List.isEmpty_cons, Bool.false_eq_true, if_false]
      rw [Operation.bind_of_ok telling, Operation.bind_of_ok settling]
      exact finishing

theorem refresh_some_iff {known : l.kind.State} {isNew : Bool} {state : Json} :
    l.refresh context known isNew w = (.ok (some state), after) ↔
      ∃ remote found finished,
        l.kind.read (l.session context known) known w = (.ok remote, finished) ∧
        l.kind.classify remote known = .ok found ∧ ¬(found = .deleted ∧ !isNew) ∧
        state = l.kind.encode (l.kind.toState remote known) ∧
        after = l.logged "Read" (l.kind.toState remote known) finished := by
  unfold refresh
  rw [Operation.bind_of_ok (Operation.run_outcome _ w)]
  rcases l.kind.read (l.session context known) known w with ⟨error | remote, finished⟩
  · simp only [Prod.mk.injEq, reduceCtorEq, false_and, exists_false, iff_false]
    split
    · simp
    · exact fun impossible => by cases impossible
  · simp only
    constructor
    · intro run
      obtain ⟨found, classified, rest⟩ := bind_ofExcept_ok_iff.mp run
      by_cases gone : found = .deleted ∧ !isNew
      · rw [if_pos gone] at rest
        cases rest
      · rw [if_neg gone, Operation.bind_of_ok (run_log "Read" _)] at rest
        obtain ⟨same, rfl⟩ := Operation.pure_ok_iff.mp rest
        exact ⟨remote, found, finished, rfl, classified, gone, (Option.some.inj same).symm, rfl⟩
    · intro parts
      rcases parts with ⟨_, found, _, ⟨⟩, classified, present, rfl, rfl⟩
      refine bind_ofExcept_ok_iff.mpr ⟨found, classified, ?_⟩
      rw [if_neg present]
      rfl

theorem read_ok_iff {known : Json} {result : Option Json} :
    l.read context known w = (.ok result, after) ↔
      ∃ state, l.kind.decode.fromState known = .ok state ∧
        l.refresh context state false w = (.ok result, after) := by
  unfold read
  rw [Op.bind_about_ok_iff, bind_ofExcept_ok_iff]
  simp only [Op.about_ok_iff]

theorem importKey_ok_iff {raw : String} {state : Json} :
    l.importKey context raw w = (.ok state, after) ↔
      ∃ key, ImportKey.parse raw l.kind.keyNames = .ok key ∧
        l.refresh context (l.kind.ofKey key) true w = (.ok (some state), after) := by
  unfold importKey
  rw [Op.about_ok_iff, bind_ofExcept_ok_iff]
  constructor
  · intro parts
    rcases parts with ⟨key, parsing, rest⟩
    obtain ⟨found, middle, refreshed, result⟩ := bind_ok_iff.mp rest
    cases found with
    | none => cases result
    | some value =>
      obtain ⟨rfl, rfl⟩ := Operation.pure_ok_iff.mp result
      exact ⟨key, parsing, refreshed⟩
  · intro parts
    rcases parts with ⟨key, parsing, refreshed⟩
    exact ⟨key, parsing, bind_ok_iff.mpr ⟨some state, after, refreshed, rfl⟩⟩

end Provisioner.Lifecycle

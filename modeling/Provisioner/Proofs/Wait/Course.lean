import Provisioner.Proofs.Operation.Outcome
import Provisioner.Wait

/-!
# The course of a wait

A wait is described by the reads it makes, in order, each with the world in which it began, what it
gave and the world it left. The relation has one rule for each way in which a wait goes on or ends;
every wait has a course, and only one.

The main statements: a wait that succeeds does so with its last read, and no read before it found a
target; and a read that finds a target is the last one and gives the result.
-/

namespace Provisioner.Wait

set_option autoImplicit false

variable {σ ρ : Type}

structure Poll (σ ρ : Type) where
  start : World σ
  outcome : Except Error (Observation ρ)
  finish : World σ

/-- The polls of a wait that began at the time `start` and may still read a number of times, from a
world on, with its result. -/
inductive Course (read : Op σ (Observation ρ)) (targets : List LifecycleState)
    (options : WaitOptions) (start : Nat) :
    Nat → World σ → List (Poll σ ρ) → Except Error (Observation ρ) × World σ → Prop where
  | spent (w : World σ) : Course read targets options start 0 w []
      (.error { failure := .timeout none (.ofMilliseconds (w.now - start)) }, w)
  | stopped {reads : Nat} {w : World σ} (stop : w.isStopped = true) :
      Course read targets options start (reads + 1) w [] (.error { failure := .cancelled }, w)
  | failed {reads : Nat} {w after : World σ} {error : Error} (running : w.isStopped = false)
      (fault : observe read targets w = (.error error, after)) :
      Course read targets options start (reads + 1) w [⟨w, .error error, after⟩]
        (.error error, after)
  | reached {reads : Nat} {w after : World σ} {seen : Observation ρ}
      (running : w.isStopped = false) (observed : observe read targets w = (.ok seen, after))
      (target : seen.state ∈ targets) :
      Course read targets options start (reads + 1) w [⟨w, .ok seen, after⟩] (.ok seen, after)
  | late {reads : Nat} {w after : World σ} {seen : Observation ρ}
      (running : w.isStopped = false) (observed : observe read targets w = (.ok seen, after))
      (missed : seen.state ∉ targets) (ended : nextPause? options (after.now - start) = none) :
      Course read targets options start (reads + 1) w [⟨w, .ok seen, after⟩]
        (.error { failure :=
          .timeout (some seen.state) (.ofMilliseconds (after.now - start)) }, after)
  | interrupted {reads : Nat} {w after resumed : World σ} {seen : Observation ρ} {duration : Nat}
      {error : Error} (running : w.isStopped = false)
      (observed : observe read targets w = (.ok seen, after)) (missed : seen.state ∉ targets)
      (next : nextPause? options (after.now - start) = some duration)
      (paused : Op.pause duration after = (.error error, resumed)) :
      Course read targets options start (reads + 1) w [⟨w, .ok seen, after⟩]
        (.error error, resumed)
  | again {reads : Nat} {w after resumed : World σ} {seen : Observation ρ} {duration : Nat}
      {polls : List (Poll σ ρ)} {result : Except Error (Observation ρ) × World σ}
      (running : w.isStopped = false) (observed : observe read targets w = (.ok seen, after))
      (missed : seen.state ∉ targets)
      (next : nextPause? options (after.now - start) = some duration)
      (paused : Op.pause duration after = (.ok (), resumed))
      (rest : Course read targets options start reads resumed polls result) :
      Course read targets options start (reads + 1) w (⟨w, .ok seen, after⟩ :: polls) result

variable {read : Op σ (Observation ρ)} {targets : List LifecycleState} {options : WaitOptions}
  {start : Nat}

theorem loop_course (reads : Nat) (w : World σ) :
    ∃ polls, Course read targets options start reads w polls
      (loop read targets options start reads w) := by
  -- By induction on the reads left, with one case for each rule.
  induction reads generalizing w with
  | zero => exact ⟨[], .spent w⟩
  | succ reads ih =>
    unfold loop
    rcases Op.checkpoint_cases w with ⟨running, passed⟩ | ⟨stop, refused⟩
    · rw [Operation.bind_of_ok passed]
      rcases observed : observe read targets w with ⟨error | seen, after⟩
      · rw [Operation.bind_of_error observed]
        exact ⟨_, .failed running observed⟩
      · rw [Operation.bind_of_ok observed]
        by_cases target : seen.state ∈ targets
        · rw [if_pos (by simpa using target)]
          exact ⟨_, .reached running observed target⟩
        · rw [if_neg (by simpa using target), Operation.bind_of_ok (Operation.run_now after)]
          cases next : nextPause? options (after.now - start) with
          | none => exact ⟨_, .late running observed target next⟩
          | some duration =>
            simp only
            rcases paused : Op.pause duration after with ⟨error | _, resumed⟩
            · rw [Operation.bind_of_error paused]
              exact ⟨_, .interrupted running observed target next paused⟩
            · obtain ⟨polls, rest⟩ := ih resumed
              rw [Operation.bind_of_ok paused]
              exact ⟨_, .again running observed target next paused rest⟩
    · rw [Operation.bind_of_error refused]
      exact ⟨[], .stopped stop⟩

namespace Course

theorem unique {reads : Nat} {w : World σ} {polls polls' : List (Poll σ ρ)}
    {result result' : Except Error (Observation ρ) × World σ}
    (left : Course read targets options start reads w polls result)
    (right : Course read targets options start reads w polls' result') :
    polls = polls' ∧ result = result' := by
  induction left generalizing polls' with
  | spent => cases right; exact ⟨rfl, rfl⟩
  | stopped => cases right <;> simp_all
  | failed => cases right <;> simp_all
  | reached => cases right <;> simp_all
  | late => cases right <;> simp_all
  | interrupted => cases right <;> simp_all
  | again running observed missed next paused rest ih =>
    cases right with
    | again running' observed' missed' next' paused' rest' =>
      rw [observed] at observed'
      cases observed'
      rw [next] at next'
      cases next'
      rw [paused] at paused'
      cases paused'
      obtain ⟨rfl, rfl⟩ := ih rest'
      exact ⟨rfl, rfl⟩
    | _ => simp_all

/-- A wait that succeeds does so with its last read, and no earlier one found a target. -/
theorem of_ok {reads : Nat} {w after : World σ} {polls : List (Poll σ ρ)} {seen : Observation ρ}
    (course : Course read targets options start reads w polls (.ok seen, after)) :
    ∃ earlier last, polls = earlier ++ [last] ∧ last.outcome = .ok seen ∧ last.finish = after ∧
      seen.state ∈ targets ∧
      ∀ poll ∈ earlier, ∃ before, poll.outcome = .ok before ∧ before.state ∉ targets := by
  generalize ending : ((.ok seen, after) : Except Error (Observation ρ) × World σ) = result
    at course
  induction course with
  | spent => cases ending
  | stopped => cases ending
  | failed => cases ending
  | late => cases ending
  | interrupted => cases ending
  | reached _ _ target =>
    cases ending
    exact ⟨[], _, rfl, rfl, rfl, target, by simp⟩
  | again _ _ missed _ _ _ ih =>
    obtain ⟨earlier, last, split, outcome, finish, target, others⟩ := ih ending
    refine ⟨_ :: earlier, last, by rw [split]; rfl, outcome, finish, target, ?_⟩
    intro poll member
    rcases List.mem_cons.mp member with rfl | inEarlier
    · exact ⟨_, rfl, missed⟩
    · exact others poll inEarlier

theorem result_of_target {reads : Nat} {w : World σ} {polls : List (Poll σ ρ)}
    {result : Except Error (Observation ρ) × World σ}
    (course : Course read targets options start reads w polls result) {poll : Poll σ ρ}
    {seen : Observation ρ} (member : poll ∈ polls) (outcome : poll.outcome = .ok seen)
    (target : seen.state ∈ targets) : result = (.ok seen, poll.finish) := by
  induction course with
  | spent => simp at member
  | stopped => simp at member
  | failed =>
    rw [List.mem_singleton.mp member] at outcome
    cases outcome
  | reached =>
    rw [List.mem_singleton.mp member] at outcome ⊢
    cases outcome
    rfl
  | late _ _ missed =>
    rw [List.mem_singleton.mp member] at outcome
    cases outcome
    exact absurd target missed
  | interrupted _ _ missed =>
    rw [List.mem_singleton.mp member] at outcome
    cases outcome
    exact absurd target missed
  | again _ _ missed _ _ _ ih =>
    rcases List.mem_cons.mp member with rfl | inRest
    · cases outcome
      exact absurd target missed
    · exact ih inRest

theorem poll_run {reads : Nat} {w : World σ} {polls : List (Poll σ ρ)}
    {result : Except Error (Observation ρ) × World σ}
    (course : Course read targets options start reads w polls result) {poll : Poll σ ρ}
    (member : poll ∈ polls) :
    poll.start.isStopped = false ∧
      observe read targets poll.start = (poll.outcome, poll.finish) := by
  induction course with
  | spent => simp at member
  | stopped => simp at member
  | failed running fault => rw [List.mem_singleton.mp member]; exact ⟨running, fault⟩
  | reached running observed => rw [List.mem_singleton.mp member]; exact ⟨running, observed⟩
  | late running observed => rw [List.mem_singleton.mp member]; exact ⟨running, observed⟩
  | interrupted running observed => rw [List.mem_singleton.mp member]; exact ⟨running, observed⟩
  | again running observed _ _ _ _ ih =>
    rcases List.mem_cons.mp member with rfl | inRest
    · exact ⟨running, observed⟩
    · exact ih inRest

end Course

theorem Course.loop_eq {reads : Nat} {w : World σ} {polls : List (Poll σ ρ)}
    {result : Except Error (Observation ρ) × World σ}
    (course : Course read targets options start reads w polls result) :
    loop read targets options start reads w = result := by
  have runs : ∃ polls, Course read targets options start reads w polls
      (loop read targets options start reads w) := loop_course reads w
  obtain ⟨polls', run⟩ := runs
  exact (run.unique course).2

theorem observe_of_ok {w after : World σ} {seen : Observation ρ}
    (found : read w = (.ok seen, after)) : observe read targets w = (.ok seen, after) := by
  unfold observe
  rw [Operation.bind_of_ok (Operation.run_outcome read w), found]
  rfl

theorem observe_of_gone {w after : World σ} {error : Error}
    (failed : read w = (.error error, after)) (target : .deleted ∈ targets)
    (missing : error.isNotFound = true) :
    observe read targets w = (.ok Observation.gone, after) := by
  unfold observe
  rw [Operation.bind_of_ok (Operation.run_outcome read w), failed]
  have counts : (targets.contains .deleted && error.isNotFound) = true := by simp [target, missing]
  simp only [counts]
  rfl

theorem observe_of_error {w after : World σ} {error : Error}
    (failed : read w = (.error error, after))
    (reported : ¬(.deleted ∈ targets ∧ error.isNotFound = true)) :
    observe read targets w = (.error error, after) := by
  unfold observe
  rw [Operation.bind_of_ok (Operation.run_outcome read w), failed]
  have counts : (targets.contains .deleted && error.isNotFound) = false := by
    simpa using reported
  simp only [counts]
  rfl

theorem observe_eq_read (notDeleted : LifecycleState.deleted ∉ targets) :
    observe read targets = read := by
  funext w
  unfold observe
  rw [Operation.bind_of_ok (Operation.run_outcome read w)]
  rcases read w with ⟨error | seen, after⟩
  · have ignored : targets.contains LifecycleState.deleted = false := by simpa using notDeleted
    simp only [ignored]
    rfl
  · rfl

theorem awaitState_course [Peer σ] (read : Op σ (Observation ρ)) (targets : List LifecycleState)
    (options : WaitOptions) (w : World σ) :
    ∃ polls, Course read targets options w.now (readLimit options w.peer) w polls
      (awaitState read targets options w) :=
  loop_course _ w

theorem readLimit_pos [Peer σ] (options : WaitOptions) (peer : σ) :
    0 < readLimit options peer := by
  unfold readLimit
  generalize options.timeout / max (min options.pollInterval longestTimer) 1 = intervals
  omega

theorem course_of_reached [Peer σ] {w after : World σ} {seen : Observation ρ}
    (running : w.isStopped = false) (observed : observe read targets w = (.ok seen, after))
    (target : seen.state ∈ targets) :
    Course read targets options w.now (readLimit options w.peer) w [⟨w, .ok seen, after⟩]
      (.ok seen, after) := by
  obtain ⟨reads, limit⟩ :=
    Nat.exists_eq_succ_of_ne_zero (Nat.ne_of_gt (readLimit_pos options w.peer))
  rw [limit]
  exact .reached running observed target

end Provisioner.Wait

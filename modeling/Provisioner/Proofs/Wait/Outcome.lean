import Mathlib.Data.Nat.Find
import Provisioner.Proofs.Wait.Course
import Provisioner.Proofs.Wait.Timeline

/-!
# How a wait ends

A wait is run against a series of reads that is given in advance: whatever each of them gives, and
however long it takes. The first read that finds a target, fails or ends late decides the wait. If
the host asks to stop, no read begins after that, and the wait is cancelled unless every read up to
the deciding one began before.
-/

namespace Provisioner.Wait

set_option autoImplicit false

variable {ρ : Type}

/-- A series of reads, with the times at which the reads made so far began. -/
structure Series (ρ : Type) where
  looks : Nat → Look ρ
  starts : List Nat := []

instance : Peer (Series ρ) := ⟨fun _ => 0⟩

namespace Series

/-- The next read. Its time passes, stop request or not. -/
def read : Op (Series ρ) (Observation ρ) := fun w =>
  ((w.peer.looks w.peer.starts.length).outcome,
    { w with
      now := w.now + (w.peer.looks w.peer.starts.length).duration
      peer := { w.peer with starts := w.peer.starts ++ [w.now] } })

def world (looks : Nat → Look ρ) (start : Nat) (stop : Option Nat) : World (Series ρ) where
  now := start
  stopAt := stop
  peer := { looks }

end Series

variable (looks : Nat → Look ρ) (targets : List LifecycleState) (options : WaitOptions)
  (start : Nat) (stop : Option Nat)

/-- Whether a read ends the wait: it finds a target, it fails, or it ends late. -/
def Decides (n : Nat) : Prop :=
  (∃ seen, (looks n).outcome = .ok seen ∧ seen.state ∈ targets) ∨
    (∃ error, (looks n).outcome = .error error) ∨ options.timeout ≤ ends looks options n

/-- What a wait makes of what the deciding read gives. -/
def verdict (outcome : Except Error (Observation ρ)) (elapsed : Nat) :
    Except Error (Observation ρ) :=
  match outcome with
  | .ok seen =>
    if seen.state ∈ targets then .ok seen
    else .error { failure := .timeout (some seen.state) (.ofMilliseconds elapsed) }
  | .error error =>
    if .deleted ∈ targets ∧ error.isNotFound = true then .ok Observation.gone else .error error

/-- When the reads before the given one began. -/
def begun (n : Nat) : List Nat := (List.range n).map fun k => start + begins looks options k

/-- The world in which a read begins. -/
def reached (n : Nat) : World (Series ρ) where
  now := start + begins looks options n
  stopAt := stop
  peer := ⟨looks, begun looks options start n⟩

/-- The world that a read leaves. -/
def left (n : Nat) : World (Series ρ) where
  now := start + ends looks options n
  stopAt := stop
  peer := ⟨looks, begun looks options start (n + 1)⟩

theorem read_reached (n : Nat) :
    Series.read (reached looks options start stop n) =
      ((looks n).outcome, left looks options start stop n) := by
  have index : (begun looks options start n).length = n := by simp [begun]
  have extended : begun looks options start n ++ [start + begins looks options n] =
      begun looks options start (n + 1) := by
    unfold begun
    rw [List.range_succ, List.map_append]
    rfl
  unfold Series.read reached left
  simp only [index, extended]
  rw [Nat.add_assoc]
  rfl

variable {looks targets options start stop}

theorem running_iff {n : Nat} :
    (reached looks options start stop n).isStopped = false ↔
      ∀ time, stop = some time → start + begins looks options n < time := by
  unfold World.isStopped reached
  cases stop with
  | none => simp
  | some time => simp

theorem early_of_undecided {n : Nat} (undecided : ¬Decides looks targets options n) :
    ends looks options n < options.timeout :=
  Nat.lt_of_not_le fun late => undecided (Or.inr (Or.inr late))

variable (start stop) in
theorem observed_of_undecided {n : Nat} (undecided : ¬Decides looks targets options n) :
    ∃ seen, seen.state ∉ targets ∧
      observe Series.read targets (reached looks options start stop n) =
        (.ok seen, left looks options start stop n) := by
  have reading := read_reached looks options start stop n
  rcases given : (looks n).outcome with error | seen
  · exact absurd (Or.inr (Or.inl ⟨error, given⟩)) undecided
  · rw [given] at reading
    exact ⟨seen, fun target => undecided (Or.inl ⟨seen, given, target⟩), observe_of_ok reading⟩

section Pause

variable {n : Nat} (early : ends looks options n < options.timeout)

include early

theorem nextPause_left :
    nextPause? options ((left looks options start stop n).now - start) =
      some (min options.pollInterval (options.timeout - ends looks options n)) := by
  have elapsed : (left looks options start stop n).now - start = ends looks options n :=
    Nat.add_sub_cancel_left _ _
  unfold nextPause?
  rw [elapsed, if_neg (Nat.not_le.mpr early)]

omit early in
theorem timerEnd_left :
    (left looks options start stop n).timerEnd
        (min options.pollInterval (options.timeout - ends looks options n)) =
      start + begins looks options (n + 1) :=
  Nat.add_assoc _ _ _

omit early in
theorem pause_left
    (waits : ∀ time, stop = some time → start + begins looks options (n + 1) ≤ time) :
    Op.pause (min options.pollInterval (options.timeout - ends looks options n))
        (left looks options start stop n) =
      (.ok (), reached looks options start stop (n + 1)) := by
  rw [← timerEnd_left] at waits
  rw [Op.pause_of_waits waits, timerEnd_left]
  rfl

omit early in
theorem pause_left_stopped {time : Nat} (asked : time < start + begins looks options (n + 1)) :
    ∃ after, Op.pause (min options.pollInterval (options.timeout - ends looks options n))
        (left looks options start (some time) n) = (.error { failure := .cancelled }, after) := by
  rw [← timerEnd_left] at asked
  exact ⟨_, Op.pause_of_stopped rfl asked⟩

end Pause

theorem course_of_decides {n : Nat} (decides : Decides looks targets options n)
    (running : (reached looks options start stop n).isStopped = false) (reads : Nat) :
    ∃ polls, Course Series.read targets options start (reads + 1)
      (reached looks options start stop n) polls
      (verdict targets (looks n).outcome (ends looks options n),
        left looks options start stop n) := by
  have reading := read_reached looks options start stop n
  unfold verdict
  rcases given : (looks n).outcome with error | seen
  · rw [given] at reading
    by_cases gone : .deleted ∈ targets ∧ error.isNotFound = true
    · have observed := observe_of_gone reading gone.1 gone.2
      simp only [if_pos gone]
      exact ⟨_, .reached running observed gone.1⟩
    · have observed := observe_of_error reading gone
      simp only [if_neg gone]
      exact ⟨_, .failed running observed⟩
  · rw [given] at reading
    have observed : observe Series.read targets _ = (.ok seen, _) := observe_of_ok reading
    by_cases target : seen.state ∈ targets
    · simp only [if_pos target]
      exact ⟨_, .reached running observed target⟩
    · -- The read found nothing, so it decides because it ended late.
      have late : options.timeout ≤ ends looks options n := by
        rcases decides with ⟨other, same, found⟩ | ⟨error, same⟩ | late
        · rw [given] at same
          cases same
          exact absurd found target
        · rw [given] at same
          cases same
        · exact late
      have elapsed : (left looks options start stop n).now - start = ends looks options n :=
        Nat.add_sub_cancel_left _ _
      have ended : nextPause? options ((left looks options start stop n).now - start) = none := by
        unfold nextPause?
        rw [elapsed, if_pos late]
      have course : Course Series.read targets options start (reads + 1) _ _ _ :=
        .late running observed target ended
      rw [elapsed] at course
      simp only [if_neg target]
      exact ⟨_, course⟩

variable (looks targets options start stop) in
/-- From one read to the deciding one, if the host has not asked to stop when the last of them
begins. By induction on the reads between them. -/
theorem course_from (between first : Nat) {reads : Nat}
    (undecided : ∀ k, first ≤ k → k < first + between → ¬Decides looks targets options k)
    (decides : Decides looks targets options (first + between))
    (running : ∀ k, first ≤ k → k ≤ first + between →
      (reached looks options start stop k).isStopped = false)
    (enough : between < reads) :
    ∃ polls, Course Series.read targets options start reads
      (reached looks options start stop first) polls
      (verdict targets (looks (first + between)).outcome (ends looks options (first + between)),
        left looks options start stop (first + between)) := by
  induction between generalizing first reads with
  | zero =>
    obtain ⟨others, rfl⟩ := Nat.exists_eq_succ_of_ne_zero (Nat.ne_of_gt enough)
    exact course_of_decides decides (running first (Nat.le_refl _) (Nat.le_refl _)) others
  | succ between ih =>
    obtain ⟨others, rfl⟩ := Nat.exists_eq_succ_of_ne_zero (show reads ≠ 0 by omega)
    have here := undecided first (Nat.le_refl _) (by omega)
    have next := running (first + 1) (by omega) (by omega)
    obtain ⟨seen, missed, observed⟩ := observed_of_undecided start stop here
    have early := early_of_undecided here
    have paused := pause_left fun time asked => Nat.le_of_lt (running_iff.mp next time asked)
    have same : first + (between + 1) = first + 1 + between := by omega
    rw [same] at decides ⊢
    obtain ⟨polls, rest⟩ := ih (first + 1)
      (fun k lower upper => undecided k (by omega) (by omega)) decides
      (fun k lower upper => running k (by omega) (by omega)) (show between < others by omega)
    exact ⟨_, .again (running first (Nat.le_refl _) (by omega)) observed missed
      (nextPause_left early) paused rest⟩

variable (looks targets options start) in
/-- From one read to the first that the stop request prevents. By induction on the reads between
them. -/
theorem course_until (between first : Nat) {reads time : Nat}
    (before : ∀ k, first ≤ k → k < first + between → ¬Decides looks targets options k ∧
      start + begins looks options k < time)
    (asked : time ≤ start + begins looks options (first + between)) (enough : between < reads) :
    ∃ polls after, Course Series.read targets options start reads
      (reached looks options start (some time) first) polls
      (.error { failure := .cancelled }, after) ∧
      after.peer.starts = begun looks options start (first + between) := by
  induction between generalizing first reads with
  | zero =>
    obtain ⟨others, rfl⟩ := Nat.exists_eq_succ_of_ne_zero (Nat.ne_of_gt enough)
    have stopped : (reached looks options start (some time) first).isStopped = true :=
      decide_eq_true asked
    exact ⟨[], _, .stopped stopped, rfl⟩
  | succ between ih =>
    obtain ⟨others, rfl⟩ := Nat.exists_eq_succ_of_ne_zero (show reads ≠ 0 by omega)
    obtain ⟨here, inTime⟩ := before first (Nat.le_refl _) (by omega)
    have running : (reached looks options start (some time) first).isStopped = false := by
      apply running_iff.mpr
      intro other same
      cases same
      exact inTime
    obtain ⟨seen, missed, observed⟩ := observed_of_undecided start (some time) here
    have early := early_of_undecided here
    have same : first + (between + 1) = first + 1 + between := by omega
    rw [same] at asked ⊢
    by_cases interrupts : time < start + begins looks options (first + 1)
    · -- The request ends the pause, so no further read was to begin before it.
      have last : between = 0 := by
        rcases Nat.eq_zero_or_pos between with none | some
        · exact none
        · have later := (before (first + 1) (by omega) (by omega)).2
          omega
      subst last
      obtain ⟨after, paused⟩ := pause_left_stopped interrupts
      refine ⟨_, after, .interrupted running observed missed (nextPause_left early) paused, ?_⟩
      rw [Op.peer_of_pause paused]
      rfl
    · have waits : ∀ other, some time = some other →
          start + begins looks options (first + 1) ≤ other := by
        intro other same
        cases same
        exact Nat.le_of_not_lt interrupts
      have paused := pause_left waits
      obtain ⟨polls, after, rest, starts⟩ :=
        ih (first + 1) (fun k lower upper => before k (by omega) (by omega)) asked
          (show between < others by omega)
      exact ⟨_, after, .again running observed missed (nextPause_left early) paused rest, starts⟩

variable (looks targets options) in
/-- The first read that decides a wait. There is one however short the reads are. -/
theorem exists_deciding (interval : 0 < options.pollInterval) :
    ∃ n, Decides looks targets options n ∧ (∀ k < n, ¬Decides looks targets options k) ∧
      n < readLimit options (Series.mk looks []) := by
  classical
  have some : ∃ n, Decides looks targets options n := by
    obtain ⟨n, late⟩ := exists_late looks interval
    exact ⟨n, Or.inr (Or.inr late)⟩
  have first : ∀ k < Nat.find some, ¬Decides looks targets options k := fun k less =>
    Nat.find_min some less
  refine ⟨Nat.find some, Nat.find_spec some, first, ?_⟩
  apply early_reads_lt_readLimit _ interval
  intro k less
  exact early_of_undecided (first k less)

section Run

variable {n : Nat} (decides : Decides looks targets options n)
  (undecided : ∀ k < n, ¬Decides looks targets options k)
  (allowed : n < readLimit options (Series.mk looks []))

include decides undecided allowed

theorem awaitState_of_running
    (running : ∀ k ≤ n, ∀ time, stop = some time → start + begins looks options k < time) :
    awaitState Series.read targets options (Series.world looks start stop) =
      (verdict targets (looks n).outcome (ends looks options n),
        left looks options start stop n) := by
  obtain ⟨polls, course⟩ := course_from looks targets options start stop n 0
    (fun k _ less => undecided k (by omega)) (by rwa [Nat.zero_add])
    (fun k _ less => running_iff.mpr (running k (by omega))) allowed
  rw [Nat.zero_add] at course
  exact course.loop_eq

omit decides in
theorem awaitState_of_stopped {time : Nat} (given : stop = some time)
    (asked : ∃ k ≤ n, time ≤ start + begins looks options k) :
    ∃ after, awaitState Series.read targets options (Series.world looks start stop) =
        (.error { failure := .cancelled }, after) ∧
      ∀ begin ∈ after.peer.starts, begin < time := by
  classical
  subst given
  have some : ∃ k, time ≤ start + begins looks options k := by
    obtain ⟨k, _, late⟩ := asked
    exact ⟨k, late⟩
  obtain ⟨k, bound, late⟩ := asked
  have least : Nat.find some ≤ n := Nat.le_trans (Nat.find_min' some late) bound
  have before : ∀ j < Nat.find some, start + begins looks options j < time := fun j less =>
    Nat.lt_of_not_le (Nat.find_min some less)
  obtain ⟨polls, after, course, starts⟩ := course_until looks targets options start
    (Nat.find some) 0
    (fun j _ less => ⟨undecided j (by omega), before j (by omega)⟩)
    (by rw [Nat.zero_add]; exact Nat.find_spec some)
    (Nat.lt_of_le_of_lt least allowed)
  rw [Nat.zero_add] at starts
  refine ⟨after, course.loop_eq, ?_⟩
  intro begin member
  rw [starts] at member
  obtain ⟨j, inside, rfl⟩ := List.mem_map.mp member
  exact before j (List.mem_range.mp inside)

end Run

/-- How every wait ends: with the verdict of the first read that decides it, or cancelled if the
host asks to stop before a read up to that one would have begun. No read begins after that. -/
theorem awaitState_outcome (looks : Nat → Look ρ) (targets : List LifecycleState)
    (options : WaitOptions) (interval : 0 < options.pollInterval) (start : Nat) :
    ∃ n, Decides looks targets options n ∧ (∀ k < n, ¬Decides looks targets options k) ∧
      (∃ after, awaitState Series.read targets options (Series.world looks start none) =
          (verdict targets (looks n).outcome (ends looks options n), after) ∧
        after.now = start + ends looks options n ∧ after.peer.starts.length = n + 1) ∧
      ∀ stop, ∃ result after,
        awaitState Series.read targets options (Series.world looks start (some stop)) =
          (result, after) ∧
        (∀ begin ∈ after.peer.starts, begin ≤ stop) ∧
        ((∃ k ≤ n, stop < start + begins looks options k) →
          result = .error { failure := .cancelled }) ∧
        ((∀ k ≤ n, start + begins looks options k < stop) →
          result = verdict targets (looks n).outcome (ends looks options n)) := by
  obtain ⟨n, decides, undecided, allowed⟩ :=
    exists_deciding looks targets options interval
  refine ⟨n, decides, undecided,
    ⟨_, awaitState_of_running decides undecided allowed ?_, rfl, ?_⟩, ?_⟩
  · intro k _ time impossible
    cases impossible
  · simp [left, begun]
  · intro stop
    by_cases asked : ∃ k ≤ n, stop ≤ start + begins looks options k
    · obtain ⟨after, run, early⟩ := awaitState_of_stopped undecided allowed rfl asked
      refine ⟨_, after, run, ?_, fun _ => rfl, ?_⟩
      · intro begin member
        exact Nat.le_of_lt (early begin member)
      · intro unasked
        obtain ⟨k, bound, late⟩ := asked
        exact absurd (unasked k bound) (Nat.not_lt.mpr late)
    · have running : ∀ k ≤ n, start + begins looks options k < stop := by
        intro k bound
        exact Nat.lt_of_not_le fun late => asked ⟨k, bound, late⟩
      refine ⟨_, _, awaitState_of_running decides undecided allowed ?_, ?_, ?_,
        fun _ => rfl⟩
      · intro k bound time same
        cases same
        exact running k bound
      · intro begin member
        obtain ⟨j, inside, rfl⟩ := List.mem_map.mp member
        exact Nat.le_of_lt (running j (by have := List.mem_range.mp inside; omega))
      · intro late
        obtain ⟨k, bound, after⟩ := late
        exact absurd (running k bound) (Nat.not_lt.mpr (Nat.le_of_lt after))

/-- An object that is still there at first and missing from then on. -/
def vanishing : Nat → Look Unit
  | 0 => ⟨.ok ⟨.deprovisioning, some ()⟩, 10⟩
  | _ => ⟨.error { failure := .notFound "gone", subject := some ⟨"confluent_network", "n-1"⟩ }, 5⟩

/-- A wait for it to be gone ends well with its second read, and does not make it if the host asks
to stop during the pause before. -/
theorem awaitState_outcome_vanishing :
    0 < (⟨60, 20⟩ : WaitOptions).pollInterval ∧
      (∃ after, awaitState Series.read [.deleted] ⟨60, 20⟩ (Series.world vanishing 7 none) =
        (.ok Observation.gone, after) ∧ after.now = 42) ∧
      ∃ after, awaitState Series.read [.deleted] ⟨60, 20⟩ (Series.world vanishing 7 (some 30)) =
        (.error { failure := .cancelled }, after) := by
  obtain ⟨n, decides, undecided, ⟨after, run, time, _⟩, stopping⟩ :=
    awaitState_outcome vanishing [.deleted] ⟨60, 20⟩ (by decide) 7
  have notFirst : n ≠ 0 := by
    rintro rfl
    rcases decides with ⟨seen, given, found⟩ | ⟨error, given⟩ | late
    · cases given
      simp at found
    · cases given
    · exact absurd late (by decide)
  have notLater : ¬1 < n := fun less => undecided 1 less (Or.inr (Or.inl ⟨_, rfl⟩))
  obtain rfl : n = 1 := by omega
  obtain ⟨result, stopped, runStopped, _, cancelled, _⟩ := stopping 30
  refine ⟨by decide, ⟨after, run, by rw [time]; decide⟩, stopped, ?_⟩
  rw [runStopped, cancelled ⟨1, Nat.le_refl 1, by decide⟩]

end Provisioner.Wait

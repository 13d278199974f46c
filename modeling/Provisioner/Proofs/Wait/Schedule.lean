import Provisioner.Proofs.Wait.Outcome

/-!
# The schedule of a wait

When the reads of a wait begin: the first at once, each later one a pause after the end of the one
before it, and none after the deadline. So many reads fit before the deadline and no more. The pause
is the poll interval as long as that is no longer than the longest timer. Of a longer interval only
that much is kept, which shows if the timeout is longer than the timer, too.
-/

namespace Provisioner.Wait

set_option autoImplicit false

variable {ρ : Type}

/-- When the reads of a wait began that nobody asked to stop. -/
def readTimes (looks : Nat → Look ρ) (targets : List LifecycleState) (options : WaitOptions)
    (start : Nat) : List Nat :=
  (awaitState Series.read targets options (Series.world looks start none)).2.peer.starts

/-- The schedule of a wait whose pauses have the given length but end at the deadline. -/
structure OnSchedule (looks : Nat → Look ρ) (targets : List LifecycleState)
    (options : WaitOptions) (length : Nat) (start : Nat) (times : List Nat) : Prop where
  first : times.head? = some start
  next : ∀ {k now later : Nat}, times[k]? = some now → times[k + 1]? = some later →
    later = now + (looks k).duration
      + min length (options.timeout - (now + (looks k).duration - start))
  inTime : ∀ time ∈ times, time ≤ start + options.timeout
  spaced : ∀ {k now later : Nat}, times[k]? = some now → times[k + 1]? = some later →
    now + length ≤ later ∨ later = start + options.timeout
  bounded : times.length ≤ (options.timeout + length - 1) / length + 1
  /-- Instantaneous reads that decide nothing before the deadline go on until the deadline. -/
  last : (∀ k, (looks k).duration = 0) →
    (∀ k now, times[k]? = some now → now < start + options.timeout →
      ∃ seen, (looks k).outcome = .ok seen ∧ seen.state ∉ targets) →
    times.getLast? = some (start + options.timeout)

/-- The times of a wait are those of its timeline up to the deciding read. -/
theorem readTimes_eq (looks : Nat → Look ρ) (targets : List LifecycleState) {options : WaitOptions}
    (interval : 0 < options.pollInterval) (start : Nat) :
    ∃ n, Decides looks targets options n ∧ (∀ k < n, ends looks options k < options.timeout) ∧
      readTimes looks targets options start = begun looks options start (n + 1) := by
  obtain ⟨n, decides, undecided, allowed⟩ :=
    exists_deciding looks targets options interval
  refine ⟨n, decides, fun k less => early_of_undecided (undecided k less), ?_⟩
  unfold readTimes
  rw [awaitState_of_running decides undecided allowed
    fun k _ time impossible => by cases impossible]
  rfl

theorem getElem?_begun_iff {looks : Nat → Look ρ} {options : WaitOptions} {start n k time : Nat} :
    (begun looks options start n)[k]? = some time ↔
      k < n ∧ time = start + begins looks options k := by
  unfold begun
  rw [List.getElem?_map]
  by_cases inside : k < n
  · rw [List.getElem?_range inside]
    simp [inside, eq_comm]
  · rw [List.getElem?_eq_none (by simpa using inside)]
    simp [inside]

theorem onSchedule_of_paced (looks : Nat → Look ρ) (targets : List LifecycleState)
    {options : WaitOptions} {length : Nat} (interval : 0 < options.pollInterval)
    (paced : Paced options length) (start : Nat) :
    OnSchedule looks targets options length start (readTimes looks targets options start) := by
  obtain ⟨n, decides, early, times⟩ := readTimes_eq looks targets interval start
  rw [times]
  constructor
  · rw [List.head?_eq_getElem?]
    exact getElem?_begun_iff.mpr ⟨Nat.succ_pos n, rfl⟩
  · intro k now later here there
    obtain ⟨_, rfl⟩ := getElem?_begun_iff.mp here
    obtain ⟨_, rfl⟩ := getElem?_begun_iff.mp there
    have elapsed : start + begins looks options k + (looks k).duration - start =
        ends looks options k := by
      unfold ends
      omega
    rw [elapsed, begins_succ, paced.gap_eq]
    unfold ends
    omega
  · intro time member
    obtain ⟨k, inside, rfl⟩ := List.mem_map.mp member
    have bound := List.mem_range.mp inside
    have inTime : begins looks options k ≤ options.timeout :=
      begins_le_timeout fun j less => early j (by omega)
    omega
  · intro k now later here there
    obtain ⟨_, rfl⟩ := getElem?_begun_iff.mp here
    obtain ⟨bound, rfl⟩ := getElem?_begun_iff.mp there
    rcases begins_apart paced (early k (by omega)) with apart | deadline
    · left
      omega
    · right
      rw [deadline]
  · have bounded := early_reads_le paced early
    simp only [begun, List.length_map, List.length_range]
    omega
  · intro instant undecided
    have deadline : begins looks options n = options.timeout := by
      have inTime := begins_le_timeout early
      have atOnce : ends looks options n = begins looks options n := by
        unfold ends
        rw [instant n]
        rfl
      apply Classical.byContradiction
      intro before
      obtain ⟨seen, given, missed⟩ := undecided n (start + begins looks options n)
        (getElem?_begun_iff.mpr ⟨Nat.lt_succ_self n, rfl⟩) (by omega)
      rcases decides with ⟨other, same, found⟩ | ⟨error, same⟩ | late
      · rw [given] at same
        cases same
        exact missed found
      · rw [given] at same
        cases same
      · omega
    rw [List.getLast?_eq_getElem?]
    apply getElem?_begun_iff.mpr
    simp [begun, deadline]

/-- An object that never gets anywhere, read in no time. -/
def unchanging : Nat → Look ρ := fun _ => ⟨.ok ⟨.provisioning, none⟩, 0⟩

theorem not_onSchedule_of_long {options : WaitOptions} (timeout : longestTimer < options.timeout)
    (interval : longestTimer < options.pollInterval) (start : Nat) :
    ¬OnSchedule (ρ := ρ) unchanging [.stable] options options.pollInterval start
      (readTimes (ρ := ρ) unchanging [.stable] options start) := by
  intro schedule
  obtain ⟨n, decides, _, times⟩ :=
    readTimes_eq (ρ := ρ) unchanging [.stable] (show 0 < options.pollInterval by omega) start
  have later : n ≠ 0 := by
    rintro rfl
    rcases decides with ⟨seen, given, found⟩ | ⟨error, given⟩ | late
    · cases given
      simp at found
    · cases given
    · have atOnce : ends (ρ := ρ) unchanging options 0 = 0 := rfl
      omega
  have second : begins (ρ := ρ) unchanging options 1 = longestTimer := by
    show 0 + 0 + gap options (0 + 0) = longestTimer
    unfold gap
    omega
  rw [times] at schedule
  have atFirst : (begun (ρ := ρ) unchanging options start (n + 1))[0]? = some start :=
    getElem?_begun_iff.mpr ⟨Nat.succ_pos n, rfl⟩
  have atSecond : (begun (ρ := ρ) unchanging options start (n + 1))[0 + 1]? =
      some (start + longestTimer) :=
    getElem?_begun_iff.mpr ⟨by omega, by rw [second]⟩
  have expected := schedule.next atFirst atSecond
  have instant : (unchanging (ρ := ρ) 0).duration = 0 := rfl
  rw [instant] at expected
  omega

/-- Every wait is on the schedule of pauses that are the poll interval, cut at the longest timer. It
is on that of the whole interval, whatever it reads, exactly if the interval or the timeout is no
longer than the timer. -/
theorem read_schedule (options : WaitOptions) (interval : 1 ≤ options.pollInterval) :
    (∀ (looks : Nat → Look ρ) targets start,
      OnSchedule looks targets options (min options.pollInterval longestTimer) start
        (readTimes looks targets options start)) ∧
    ((∀ (looks : Nat → Look ρ) targets start,
      OnSchedule looks targets options options.pollInterval start
        (readTimes looks targets options start)) ↔
      options.timeout ≤ longestTimer ∨ options.pollInterval ≤ longestTimer) := by
  constructor
  · intro looks targets start
    exact onSchedule_of_paced looks targets interval (paced_min interval) start
  · constructor
    · intro scheduled
      apply Classical.byContradiction
      intro long
      exact not_onSchedule_of_long (ρ := ρ) (show longestTimer < options.timeout by omega)
        (by omega) 0 (scheduled unchanging [.stable] 0)
    · intro short looks targets start
      exact onSchedule_of_paced looks targets interval (paced_interval interval short) start

/-- A timeout of two and a half intervals takes at most four reads, of which the last begins when it
is over. -/
theorem read_schedule_halves :
    1 ≤ (WaitOptions.ofSeconds 25 10).pollInterval ∧
      (readTimes (ρ := Unit) unchanging [.stable] (.ofSeconds 25 10) 0).length ≤ 4 ∧
      (readTimes (ρ := Unit) unchanging [.stable] (.ofSeconds 25 10) 0).getLast? = some 25000 := by
  have schedule :=
    (read_schedule (ρ := Unit) (.ofSeconds 25 10) (by decide)).1 unchanging [.stable] 0
  refine ⟨by decide, schedule.bounded, schedule.last (fun _ => rfl) ?_⟩
  intro k now _ _
  exact ⟨_, rfl, by simp⟩

/-- An interval one millisecond longer than the longest timer. -/
def longOptions : WaitOptions := ⟨longestTimer + 1, longestTimer + 1⟩

/-- A wait whose second of three reads begins before its interval is over. -/
theorem read_schedule_cut :
    ¬OnSchedule (ρ := Unit) unchanging [.stable] longOptions longOptions.pollInterval 0
      (readTimes (ρ := Unit) unchanging [.stable] longOptions 0) :=
  not_onSchedule_of_long (by decide) (by decide) 0

end Provisioner.Wait

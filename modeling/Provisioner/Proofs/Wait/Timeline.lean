import Provisioner.Wait

/-!
# The timeline of a wait

When the reads of a wait begin and end, given how long each of them takes. A read begins one pause
after the end of the one before it. The pause is the poll interval, but it ends at the deadline at
the latest, and no timer runs longer than the longest one. A wait therefore reaches its deadline
after a number of reads that depends on its options alone.
-/

namespace Provisioner.Wait

set_option autoImplicit false

variable {ρ : Type}

/-- What one read gives, and how long it takes in milliseconds. -/
structure Look (ρ : Type) where
  outcome : Except Error (Observation ρ)
  duration : Nat

/-- How long a wait pauses after a read that ended at the given time. -/
def gap (options : WaitOptions) (elapsed : Nat) : Nat :=
  min (min options.pollInterval (options.timeout - elapsed)) longestTimer

/-- When a read begins, counted from the beginning of the wait, if the wait gets that far. -/
def begins (looks : Nat → Look ρ) (options : WaitOptions) : Nat → Nat
  | 0 => 0
  | n + 1 =>
    begins looks options n + (looks n).duration
      + gap options (begins looks options n + (looks n).duration)

/-- When a read ends, counted from the beginning of the wait. -/
def ends (looks : Nat → Look ρ) (options : WaitOptions) (n : Nat) : Nat :=
  begins looks options n + (looks n).duration

/-- Every pause is of the given length, or else ends at the deadline. -/
structure Paced (options : WaitOptions) (length : Nat) : Prop where
  positive : 0 < length
  gap_eq : ∀ elapsed, gap options elapsed = min length (options.timeout - elapsed)

theorem paced_min {options : WaitOptions} (interval : 0 < options.pollInterval) :
    Paced options (min options.pollInterval longestTimer) where
  positive := Nat.lt_min.mpr ⟨interval, by decide⟩
  gap_eq elapsed := by
    unfold gap
    omega

theorem paced_interval {options : WaitOptions} (interval : 0 < options.pollInterval)
    (short : options.timeout ≤ longestTimer ∨ options.pollInterval ≤ longestTimer) :
    Paced options options.pollInterval where
  positive := interval
  gap_eq elapsed := by
    unfold gap
    omega

variable {looks : Nat → Look ρ} {options : WaitOptions}

theorem begins_succ (n : Nat) :
    begins looks options (n + 1) = ends looks options n + gap options (ends looks options n) := rfl

variable (looks options) in
theorem begins_le_ends (n : Nat) : begins looks options n ≤ ends looks options n :=
  Nat.le_add_right _ _

theorem begins_le_timeout {n : Nat} (early : ∀ k < n, ends looks options k < options.timeout) :
    begins looks options n ≤ options.timeout := by
  cases n with
  | zero => exact Nat.zero_le _
  | succ n =>
    have before := early n (Nat.lt_succ_self n)
    rw [begins_succ]
    unfold gap
    omega

section Paced

variable {length : Nat} (paced : Paced options length)

include paced

theorem begins_apart {n : Nat} (early : ends looks options n < options.timeout) :
    begins looks options n + length ≤ begins looks options (n + 1) ∨
      begins looks options (n + 1) = options.timeout := by
  have ordered := begins_le_ends looks options n
  rw [begins_succ, paced.gap_eq]
  omega

/-- The carried invariant: as long as no read ends late, every read but one at the deadline begins
that many whole lengths after the first. -/
theorem lengths_le_begins {n : Nat} (early : ∀ k < n, ends looks options k < options.timeout) :
    n * length ≤ begins looks options n ∨ begins looks options n = options.timeout := by
  induction n with
  | zero => exact Or.inl (by rw [Nat.zero_mul]; exact Nat.zero_le _)
  | succ n ih =>
    have before := early n (Nat.lt_succ_self n)
    have ordered := begins_le_ends looks options n
    rcases ih fun k less => early k (Nat.lt_succ_of_lt less) with lengths | deadline
    · rcases begins_apart paced before with apart | deadline
      · left
        rw [Nat.succ_mul]
        omega
      · exact Or.inr deadline
    · omega

/-- How many reads may end early. -/
theorem early_reads_le {n : Nat} (early : ∀ k < n, ends looks options k < options.timeout) :
    n ≤ (options.timeout + length - 1) / length := by
  cases n with
  | zero => exact Nat.zero_le _
  | succ n =>
    have positive := paced.positive
    have before := early n (Nat.lt_succ_self n)
    have ordered := begins_le_ends looks options n
    have lengths : n * length < options.timeout := by
      rcases lengths_le_begins paced fun k less => early k (Nat.lt_succ_of_lt less) with
        lengths | deadline
      · omega
      · omega
    rw [Nat.le_div_iff_mul_le positive, Nat.succ_mul]
    omega

end Paced

/-- Some read ends late, however short the reads are. -/
theorem exists_late (looks : Nat → Look ρ) (interval : 0 < options.pollInterval) :
    ∃ n, options.timeout ≤ ends looks options n := by
  apply Classical.byContradiction
  intro none
  have early : ∀ n, ends looks options n < options.timeout := by
    intro n
    exact Nat.lt_of_not_le fun late => none ⟨n, late⟩
  have bounded := fun n => early_reads_le (paced_min interval) (n := n) fun k _ => early k
  exact absurd (bounded _) (Nat.not_succ_le_self _)

theorem early_reads_lt_readLimit {σ : Type} [Peer σ] (peer : σ)
    (interval : 0 < options.pollInterval) {n : Nat}
    (early : ∀ k < n, ends looks options k < options.timeout) : n < readLimit options peer := by
  let length := min options.pollInterval longestTimer
  have paced : Paced options length := paced_min interval
  have positive := paced.positive
  have bounded := early_reads_le paced early
  have rounded : (options.timeout + length - 1) / length ≤ options.timeout / length + 1 := by
    rw [← Nat.add_div_right _ positive]
    exact Nat.div_le_div_right (Nat.sub_le _ _)
  have limit : readLimit options peer = options.timeout / length + 2 + Peer.pending peer := by
    unfold readLimit
    rw [Nat.max_eq_left (show 1 ≤ min options.pollInterval longestTimer from positive)]
  omega

end Provisioner.Wait

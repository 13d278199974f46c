import Provisioner.Decimal.Shortest

/-!
# Intervals of doubles

The reals that round to a double form an interval. The interval of each magnitude ends where that of
the next one begins, and the end they share belongs to the one with the even significand. So no
decimal reads as two magnitudes.
-/

namespace Provisioner.Double

set_option autoImplicit false

theorem binade_size : Nat.pow 2 52 = 4503599627370496 := rfl

/-- The magnitude of a rank in steps. -/
def stepsAt (rank : Nat) : Nat :=
  if rank / Nat.pow 2 52 = 0 then rank
  else (Nat.pow 2 52 + rank % Nat.pow 2 52) * Nat.pow 2 (rank / Nat.pow 2 52 - 1)

/-- The number of steps from the magnitude of a rank to the next one. -/
def gapAt (rank : Nat) : Nat := Nat.pow 2 (rank / Nat.pow 2 52 - 1)

theorem steps_eq (x : Double) : x.steps = stepsAt x.rank := by
  unfold steps stepsAt significand exponent
  split
  · next small =>
    rw [small]
    exact Nat.mul_one _
  · rfl

theorem gapAt_pos (rank : Nat) : 0 < gapAt rank := Nat.two_pow_pos _

theorem stepsAt_succ (rank : Nat) : stepsAt (rank + 1) = stepsAt rank + gapAt rank := by
  have binade := Nat.div_add_mod rank (Nat.pow 2 52)
  have place : rank % Nat.pow 2 52 < Nat.pow 2 52 := Nat.mod_lt rank (Nat.two_pow_pos 52)
  unfold stepsAt gapAt
  rw [binade_size] at binade place ⊢
  by_cases last : rank % 4503599627370496 = 4503599627370495
  · have next : (rank + 1) / 4503599627370496 = rank / 4503599627370496 + 1 := by omega
    have first : (rank + 1) % 4503599627370496 = 0 := by omega
    rw [next, first, if_neg (by omega)]
    cases quotient : rank / 4503599627370496 with
    | zero =>
      rw [if_pos rfl]
      show (4503599627370496 + 0) * 1 = rank + 1
      omega
    | succ k =>
      rw [if_neg (by omega), last]
      show (4503599627370496 + 0) * 2 ^ (k + 1) =
        (4503599627370496 + 4503599627370495) * 2 ^ k + 2 ^ k
      rw [Nat.pow_succ]
      omega
  · have same : (rank + 1) / 4503599627370496 = rank / 4503599627370496 := by omega
    have later : (rank + 1) % 4503599627370496 = rank % 4503599627370496 + 1 := by omega
    rw [same, later]
    split
    · next small => rw [small]
    · rw [← Nat.add_assoc, Nat.succ_mul]

theorem stepsAt_lt {low high : Nat} (less : low < high) : stepsAt low < stepsAt high := by
  induction high with
  | zero => omega
  | succ high ih =>
    have step := stepsAt_succ high
    have gap := gapAt_pos high
    rcases Nat.lt_or_eq_of_le (Nat.le_of_lt_succ less) with earlier | rfl
    · have := ih earlier
      omega
    · omega

/-- Where the interval of a rank ends and that of the next one begins. -/
def boundary (rank : Nat) : Nat := 2 * (stepsAt rank + stepsAt (rank + 1))

theorem upperEnd_eq (x : Double) : x.upperEnd = boundary x.rank := by
  have gap : Nat.pow 2 x.exponent = gapAt x.rank := rfl
  unfold upperEnd center boundary
  rw [stepsAt_succ, steps_eq, gap]
  omega

/-- Below a power of two the gap is half of the one above it. -/
theorem lowerEnd_eq {x : Double} {rank : Nat} (next : x.rank = rank + 1) :
    x.lowerEnd = boundary rank := by
  have steps := stepsAt_succ rank
  unfold lowerEnd center boundary
  rw [steps_eq, next, steps]
  by_cases first : x.significand = Nat.pow 2 52 ∧ 0 < x.exponent
  · rw [if_pos first]
    have gap : Nat.pow 2 x.exponent = 2 * gapAt rank := by
      obtain ⟨isFirst, positive⟩ := first
      unfold significand at isFirst
      unfold exponent at positive ⊢
      rw [next, binade_size] at *
      have binade : (rank + 1) / 4503599627370496 = rank / 4503599627370496 + 1 := by
        split at isFirst
        · omega
        · omega
      rw [binade]
      unfold gapAt
      rw [binade_size]
      have later : 0 < rank / 4503599627370496 := by omega
      show 2 ^ (rank / 4503599627370496 + 1 - 1) = 2 * 2 ^ (rank / 4503599627370496 - 1)
      rw [← Nat.pow_succ']
      congr 1
      omega
    rw [gap]
    omega
  · rw [if_neg first]
    have gap : Nat.pow 2 x.exponent = gapAt rank := by
      unfold significand exponent at first
      unfold gapAt exponent
      congr 1
      rw [next, binade_size] at *
      split at first
      · omega
      · omega
    rw [gap]
    omega

theorem boundary_lt {low high : Nat} (less : low < high) : boundary low < boundary high := by
  have here := stepsAt_lt less
  have next := stepsAt_lt (Nat.add_lt_add_right less 1)
  unfold boundary
  omega

/-- Significands alternate between even and odd. -/
theorem significand_mod_two (x : Double) : x.significand % 2 = x.rank % 2 := by
  unfold significand
  rw [binade_size]
  split <;> omega

theorem scaled_den_pos (d : Decimal) : 0 < d.scaled.2 := by
  unfold Decimal.scaled
  split
  · exact Nat.one_pos
  · exact Nat.pow_pos (by decide)

theorem within_of_readsAs {x : Double} {d : Decimal} (reads : x.readsAs d = true) :
    x.lowerEnd * d.scaled.2 ≤ d.scaled.1 ∧ d.scaled.1 ≤ x.upperEnd * d.scaled.2 := by
  unfold readsAs at reads
  simp only at reads
  split at reads
  · simpa using reads
  · have inside : x.lowerEnd * d.scaled.2 < d.scaled.1 ∧
        d.scaled.1 < x.upperEnd * d.scaled.2 := by
      simpa using reads
    exact ⟨Nat.le_of_lt inside.1, Nat.le_of_lt inside.2⟩

theorem inside_of_readsAs {x : Double} {d : Decimal} (odd : x.significand % 2 ≠ 0)
    (reads : x.readsAs d = true) :
    x.lowerEnd * d.scaled.2 < d.scaled.1 ∧ d.scaled.1 < x.upperEnd * d.scaled.2 := by
  unfold readsAs at reads
  simp only [if_neg odd] at reads
  simpa using reads

theorem not_readsAs_of_lt {x y : Double} {d : Decimal} (less : x.rank < y.rank)
    (reads : x.readsAs d = true) : ¬y.readsAs d = true := by
  intro other
  obtain ⟨rank, next⟩ : ∃ rank, y.rank = rank + 1 := ⟨y.rank - 1, by omega⟩
  have den := scaled_den_pos d
  have above := (within_of_readsAs reads).2
  have below := (within_of_readsAs other).1
  rw [upperEnd_eq] at above
  rw [lowerEnd_eq next] at below
  have shared : boundary rank ≤ boundary x.rank :=
    Nat.le_of_mul_le_mul_right (Nat.le_trans below above) den
  have adjacent : rank = x.rank := by
    rcases Nat.lt_or_eq_of_le (show x.rank ≤ rank by omega) with apart | same
    · have := boundary_lt apart
      omega
    · exact same.symm
  subst adjacent
  -- One of the two neighbours has an odd significand and leaves out the end they share.
  have parityX := significand_mod_two x
  have parityY := significand_mod_two y
  by_cases odd : x.significand % 2 = 0
  · have strict := (inside_of_readsAs (x := y) (by omega) other).1
    rw [lowerEnd_eq next] at strict
    omega
  · have strict := (inside_of_readsAs odd reads).2
    rw [upperEnd_eq] at strict
    omega

theorem rank_eq_of_readsAs {x y : Double} {d : Decimal} (reads : x.readsAs d = true)
    (other : y.readsAs d = true) : x.rank = y.rank := by
  rcases Nat.lt_trichotomy x.rank y.rank with less | same | greater
  · exact absurd other (not_readsAs_of_lt less reads)
  · exact same
  · exact absurd reads (not_readsAs_of_lt greater other)

end Provisioner.Double

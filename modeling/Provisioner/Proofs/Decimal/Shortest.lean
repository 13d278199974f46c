import Provisioner.Proofs.Decimal.Interval

/-!
# The shortest decimal reads back

Whichever grid the search ends on, what it finds reads as the double that it was started for, and
dropping zeros at the end changes how a decimal is written but not its value.
-/

namespace Provisioner.Double

set_option autoImplicit false

/-- Two decimals with the same value. -/
def Decimal.Same (a b : Decimal) : Prop := a.scaled.1 * b.scaled.2 = b.scaled.1 * a.scaled.2

theorem Decimal.same_self (d : Decimal) : d.Same d := rfl

theorem Decimal.Same.symm {a b : Decimal} (same : a.Same b) : b.Same a := Eq.symm same

theorem Decimal.Same.trans {a b c : Decimal} (first : a.Same b) (second : b.Same c) :
    a.Same c := by
  unfold Same at *
  apply Nat.eq_of_mul_eq_mul_right (scaled_den_pos b)
  calc
    a.scaled.1 * c.scaled.2 * b.scaled.2 = a.scaled.1 * b.scaled.2 * c.scaled.2 :=
      Nat.mul_right_comm _ _ _
    _ = b.scaled.1 * c.scaled.2 * a.scaled.2 := by rw [first, Nat.mul_right_comm]
    _ = c.scaled.1 * a.scaled.2 * b.scaled.2 := by rw [second, Nat.mul_right_comm]

theorem Decimal.same_shift (digits : Nat) (power : Int) :
    Decimal.Same ⟨digits * 10, power⟩ ⟨digits, power + 1⟩ := by
  unfold Same scaled
  rcases power with places | places
  · show digits * 10 * 10 ^ places * quarterSteps * 1 =
      digits * 10 ^ (places + 1) * quarterSteps * 1
    rw [Nat.pow_succ', ← Nat.mul_assoc digits]
  · cases places with
    | zero =>
      show digits * 10 * quarterSteps * 1 = digits * 1 * quarterSteps * 10
      rw [Nat.mul_one, Nat.mul_one, Nat.mul_right_comm]
    | succ places =>
      show digits * 10 * quarterSteps * 10 ^ (places + 1) =
        digits * quarterSteps * 10 ^ (places + 1 + 1)
      rw [Nat.pow_succ' (n := places + 1), ← Nat.mul_assoc, Nat.mul_right_comm digits]

theorem Decimal.same_shifts (digits zeros : Nat) (power : Int) :
    Decimal.Same ⟨digits * Nat.pow 10 zeros, power⟩ ⟨digits, power + zeros⟩ := by
  induction zeros generalizing power with
  | zero =>
    rw [show Nat.pow 10 0 = 1 from rfl, Nat.mul_one, Int.natCast_zero, Int.add_zero]
    exact same_self _
  | succ zeros ih =>
    rw [show Nat.pow 10 (zeros + 1) = Nat.pow 10 zeros * 10 from rfl, ← Nat.mul_assoc]
    have later := ih (power + 1)
    rw [show power + 1 + (zeros : Int) = power + ((zeros + 1 : Nat) : Int) by omega] at later
    exact (same_shift _ _).trans later

theorem same_stripZeros (fuel : Nat) (d : Decimal) : (stripZeros fuel d).Same d := by
  induction fuel generalizing d with
  | zero => exact d.same_self
  | succ fuel ih =>
    unfold stripZeros
    split
    · next whole =>
      have tenfold : d = ⟨d.digits / 10 * 10, d.power⟩ := by
        rw [Nat.div_mul_cancel (Nat.dvd_of_mod_eq_zero whole.1)]
      have shifted := Decimal.same_shift (d.digits / 10) d.power
      rw [← tenfold] at shifted
      exact (ih _).trans shifted.symm
    · exact d.same_self

variable {x : Double}

theorem readsAs_of_same {a b : Decimal} (same : a.Same b) (reads : x.readsAs a = true) :
    x.readsAs b = true := by
  have denA := scaled_den_pos a
  have denB := scaled_den_pos b
  have below : ∀ bound, bound * a.scaled.2 * b.scaled.2 = bound * b.scaled.2 * a.scaled.2 :=
    fun bound => Nat.mul_right_comm _ _ _
  unfold Decimal.Same at same
  unfold readsAs at reads ⊢
  simp only at reads ⊢
  split at reads
  · next even =>
    rw [Bool.and_eq_true, decide_eq_true_eq, decide_eq_true_eq] at reads
    rw [if_pos even, Bool.and_eq_true, decide_eq_true_eq, decide_eq_true_eq]
    constructor
    · apply Nat.le_of_mul_le_mul_right _ denA
      rw [← below, ← same]
      exact Nat.mul_le_mul_right _ reads.1
    · apply Nat.le_of_mul_le_mul_right _ denA
      rw [← below, ← same]
      exact Nat.mul_le_mul_right _ reads.2
  · next odd =>
    rw [Bool.and_eq_true, decide_eq_true_eq, decide_eq_true_eq] at reads
    rw [if_neg odd, Bool.and_eq_true, decide_eq_true_eq, decide_eq_true_eq]
    constructor
    · apply Nat.lt_of_mul_lt_mul_right (a := a.scaled.2)
      rw [← below, ← same]
      exact Nat.mul_lt_mul_of_pos_right reads.1 denB
    · apply Nat.lt_of_mul_lt_mul_right (a := a.scaled.2)
      rw [← below, ← same]
      exact Nat.mul_lt_mul_of_pos_right reads.2 denB

theorem readsAs_of_onGrid {power : Int} {d : Decimal} (found : x.onGrid power = some d) :
    x.readsAs d = true := by
  unfold onGrid at found
  simp only at found
  split at found
  · next low _ =>
    cases found
    exact low
  · next _ high =>
    cases found
    exact high
  · cases found
  · next low high =>
    split at found
    · cases found
      exact low
    · split at found
      · cases found
        exact high
      · split at found
        · cases found
          exact low
        · cases found
          exact high

theorem center_between (x : Double) :
    x.lowerEnd ≤ x.center ∧ x.center < x.upperEnd ∧
      (x.significand % 2 ≠ 0 → x.lowerEnd < x.center) := by
  have gap : 0 < Nat.pow 2 x.exponent := Nat.two_pow_pos _
  have steps : x.center = 4 * (x.significand * Nat.pow 2 x.exponent) := rfl
  unfold lowerEnd upperEnd
  refine ⟨?_, by omega, ?_⟩
  · split <;> omega
  · intro odd
    have some : Nat.pow 2 x.exponent ≤ x.significand * Nat.pow 2 x.exponent :=
      Nat.le_mul_of_pos_left _ (by omega)
    split <;> omega

theorem Decimal.scaled_negSucc (digits places : Nat) :
    Decimal.scaled ⟨digits, .negSucc places⟩ =
      (digits * quarterSteps, Nat.pow 10 (places + 1)) := rfl

theorem exact_scale (steps places : Nat) :
    steps * Nat.pow 5 places * (4 * Nat.pow 2 places) = 4 * steps * Nat.pow 10 places := by
  show steps * 5 ^ places * (4 * 2 ^ places) = 4 * steps * 10 ^ places
  have ten : (10 : Nat) ^ places = 5 ^ places * 2 ^ places := by rw [← Nat.mul_pow]
  rw [ten]
  simp only [Nat.mul_assoc, Nat.mul_left_comm]

/-- The exact value is a decimal, since a step is one. -/
theorem readsAs_exact (x : Double) : x.readsAs x.exactDecimal = true := by
  have value : x.exactDecimal.scaled.1 = x.center * x.exactDecimal.scaled.2 := by
    have power : (-1074 : Int) = .negSucc 1073 := rfl
    unfold exactDecimal center
    rw [power, Decimal.scaled_negSucc]
    unfold quarterSteps
    dsimp only [Nat.reduceAdd]
    generalize 1074 = places
    exact exact_scale x.steps places
  have den := scaled_den_pos x.exactDecimal
  obtain ⟨low, high, strict⟩ := x.center_between
  unfold readsAs
  simp only [value]
  split
  · rw [Bool.and_eq_true, decide_eq_true_eq, decide_eq_true_eq]
    exact ⟨Nat.mul_le_mul_right _ low, Nat.mul_le_mul_right _ (Nat.le_of_lt high)⟩
  · next odd =>
    rw [Bool.and_eq_true, decide_eq_true_eq, decide_eq_true_eq]
    exact ⟨Nat.mul_lt_mul_of_pos_right (strict odd) den, Nat.mul_lt_mul_of_pos_right high den⟩

/-- The shortest decimal of a double reads as that double. -/
theorem readsAs_shortest (x : Double) : x.readsAs x.shortest = true := by
  unfold shortest
  simp only
  apply readsAs_of_same (same_stripZeros 1100 _).symm
  cases search : List.findSome? x.onGrid ((List.range 17).map fun (i : Nat) =>
      x.leadingPower - i) with
  | none => exact x.readsAs_exact
  | some found =>
    obtain ⟨_, _, onGrid⟩ := List.exists_of_findSome?_eq_some search
    exact readsAs_of_onGrid onGrid

end Provisioner.Double

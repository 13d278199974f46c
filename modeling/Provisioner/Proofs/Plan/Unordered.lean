import Provisioner.Plan
import Provisioner.Proofs.Json.Compact

/-!
# Sets in any order

A plan puts the items of a set in the order of their compact texts before it compares them. Values
that differ are printed differently, so that two lists with the same items are one list then. The
converse needs equality: a negative zero is printed differently from the zero that it is equal to,
and without it values that are the same are equal.
-/

namespace Provisioner

set_option autoImplicit false

theorem unordered_of_perm {items others : List Json} (perm : items.Perm others) :
    unordered (.arr items) = unordered (.arr others) := by
  have trans : ∀ a b c : Json, decide (a.compact ≤ b.compact) = true →
      decide (b.compact ≤ c.compact) = true → decide (a.compact ≤ c.compact) = true := by
    intro a b c first second
    exact decide_eq_true (String.le_trans (of_decide_eq_true first) (of_decide_eq_true second))
  have total : ∀ a b : Json,
      (decide (a.compact ≤ b.compact) || decide (b.compact ≤ a.compact)) = true := by
    intro a b
    simpa using String.le_total a.compact b.compact
  refine congrArg Json.arr (List.Perm.eq_of_pairwise ?_ (List.pairwise_mergeSort trans total _)
    (List.pairwise_mergeSort trans total _) ?_)
  · intro a b _ _ below above
    exact Json.compact_injective
      (String.le_antisymm (of_decide_eq_true below) (of_decide_eq_true above))
  · exact (List.mergeSort_perm _ _).trans (perm.trans (List.mergeSort_perm _ _).symm)

theorem Double.eq_of_same {x y : Double} (unsigned : x.negative = true → x.isZero = false)
    (unsignedOther : y.negative = true → y.isZero = false) (same : x.same y = true) : x = y := by
  unfold Double.same at same
  rw [Bool.or_eq_true, Bool.and_eq_true, beq_iff_eq] at same
  rcases same with equal | ⟨zero, zeroOther⟩
  · exact equal
  · have positive : x.negative = false := by
      apply Bool.eq_false_iff.mpr
      intro negative
      rw [unsigned negative] at zero
      cases zero
    have positiveOther : y.negative = false := by
      apply Bool.eq_false_iff.mpr
      intro negative
      rw [unsignedOther negative] at zeroOther
      cases zeroOther
    cases x
    cases y
    simp only [Double.isZero, beq_iff_eq] at zero zeroOther
    simp only at positive positiveOther
    subst zero zeroOther positive positiveOther
    rfl

namespace Json

mutual

/-- No number in the value is the negative zero. -/
def Unsigned : Json → Prop
  | .num (.double x) => x.negative = true → x.isZero = false
  | .arr items => UnsignedItems items
  | .obj entries => UnsignedEntries entries
  | _ => True

def UnsignedItems : List Json → Prop
  | [] => True
  | item :: rest => item.Unsigned ∧ UnsignedItems rest

def UnsignedEntries : List (String × Json) → Prop
  | [] => True
  | (_, value) :: rest => value.Unsigned ∧ UnsignedEntries rest

end

theorem unsignedItems_iff {items : List Json} :
    UnsignedItems items ↔ ∀ item ∈ items, item.Unsigned := by
  induction items with
  | nil => simp [UnsignedItems]
  | cons item rest ih => rw [UnsignedItems, ih, List.forall_mem_cons]

mutual

/-- Without negative zeros equality leaves nothing open. -/
theorem eq_of_same : ∀ {a b : Json}, a.Unsigned → b.Unsigned → a.same b = true → a = b
  | .null, .null, _, _, _ => rfl
  | .bool _, .bool _, _, _, same => by
    rw [Json.same, beq_iff_eq] at same
    rw [same]
  | .num (.integer _), .num (.integer _), _, _, same => by
    rw [Json.same, Number.same, beq_iff_eq] at same
    rw [same]
  | .num (.double _), .num (.double _), unsigned, unsignedOther, same => by
    rw [Json.same, Number.same] at same
    rw [Unsigned] at unsigned unsignedOther
    rw [Double.eq_of_same unsigned unsignedOther same]
  | .str _, .str _, _, _, same => by
    rw [Json.same, beq_iff_eq] at same
    rw [same]
  | .arr items, .arr others, unsigned, unsignedOther, same => by
    rw [Json.same] at same
    rw [Unsigned] at unsigned unsignedOther
    rw [eq_of_sameItems unsigned unsignedOther same]
  | .obj entries, .obj others, unsigned, unsignedOther, same => by
    rw [Json.same] at same
    rw [Unsigned] at unsigned unsignedOther
    rw [eq_of_sameEntries unsigned unsignedOther same]

theorem eq_of_sameItems : ∀ {items others : List Json}, UnsignedItems items →
    UnsignedItems others → sameItems items others = true → items = others
  | [], [], _, _, _ => rfl
  | item :: rest, other :: others, unsigned, unsignedOther, same => by
    rw [sameItems, Bool.and_eq_true] at same
    rw [UnsignedItems] at unsigned unsignedOther
    rw [eq_of_same unsigned.1 unsignedOther.1 same.1,
      eq_of_sameItems unsigned.2 unsignedOther.2 same.2]

theorem eq_of_sameEntries : ∀ {entries others : List (String × Json)}, UnsignedEntries entries →
    UnsignedEntries others → sameEntries entries others = true → entries = others
  | [], [], _, _, _ => rfl
  | (key, value) :: rest, (key', value') :: others, unsigned, unsignedOther, same => by
    rw [sameEntries, Bool.and_eq_true, Bool.and_eq_true, beq_iff_eq] at same
    rw [UnsignedEntries] at unsigned unsignedOther
    rw [same.1.1, eq_of_same unsigned.1 unsignedOther.1 same.1.2,
      eq_of_sameEntries unsigned.2 unsignedOther.2 same.2]

end

end Json

end Provisioner

import Provisioner.Decimal.Notation
import Provisioner.Proofs.Decimal.Shortest

/-!
# Reading back the text of a double

The decimal that a text of digits stands for is read off its whole part, its fraction and its
exponent. What is read off the text of a double reads as that double, so no two doubles are written
alike.
-/

namespace Provisioner.Double

set_option autoImplicit false

/-- What stands before the first occurrence of a mark, and what stands after it. -/
def cutAt (mark : Char) (text : List Char) : List Char × List Char :=
  (text.takeWhile (· != mark), (text.dropWhile (· != mark)).drop 1)

theorem cutAt_append {mark : Char} {left : List Char} (absent : mark ∉ left)
    (right : List Char) : cutAt mark (left ++ mark :: right) = (left, right) := by
  have before : ∀ c ∈ left, (c != mark) = true := by
    intro c member
    rw [bne_iff_ne]
    rintro rfl
    exact absent member
  unfold cutAt
  rw [List.takeWhile_append_of_pos before, List.dropWhile_append_of_pos before,
    List.takeWhile_cons_of_neg (by simp), List.dropWhile_cons_of_neg (by simp), List.append_nil]
  rfl

theorem cutAt_of_not_mem {mark : Char} {text : List Char} (absent : mark ∉ text) :
    cutAt mark text = (text, []) := by
  have before : ∀ c ∈ text, (c != mark) = true := by
    intro c member
    rw [bne_iff_ne]
    rintro rfl
    exact absent member
  unfold cutAt
  rw [← List.append_nil text, List.takeWhile_append_of_pos before,
    List.dropWhile_append_of_pos before]
  simp

/-- The value of a signed exponent; without one it is zero. -/
def readPower : List Char → Int
  | '-' :: digits => -(Nat.ofDigitChars 10 digits 0 : Int)
  | '+' :: digits => Nat.ofDigitChars 10 digits 0
  | _ => 0

/-- The decimal that a text stands for. -/
def readDecimal (text : List Char) : Decimal :=
  let (mantissa, power) := cutAt 'e' text
  let (whole, fraction) := cutAt '.' mantissa
  ⟨Nat.ofDigitChars 10 (whole ++ fraction) 0, readPower power - fraction.length⟩

def AllDigits (text : List Char) : Prop := ∀ c ∈ text, c.isDigit = true

theorem AllDigits.append {a b : List Char} (first : AllDigits a) (second : AllDigits b) :
    AllDigits (a ++ b) := by
  intro c member
  rcases List.mem_append.mp member with left | right
  · exact first c left
  · exact second c right

theorem allDigits_zeros (count : Nat) : AllDigits (List.replicate count '0') := by
  intro c member
  rw [(List.mem_replicate.mp member).2]
  rfl

theorem allDigits_toDigits (n : Nat) : AllDigits (Nat.toDigits 10 n) :=
  fun _ member => Nat.isDigit_of_mem_toDigits (by decide) (by decide) member

theorem AllDigits.not_mem {text : List Char} (digits : AllDigits text) {mark : Char}
    (noDigit : mark.isDigit = false) : mark ∉ text := by
  intro member
  rw [digits mark member] at noDigit
  cases noDigit

theorem readDecimal_plain {whole fraction : List Char} (wholeDigits : AllDigits whole)
    (fractionDigits : AllDigits fraction) :
    readDecimal (whole ++ '.' :: fraction) =
      ⟨Nat.ofDigitChars 10 (whole ++ fraction) 0, -(fraction.length : Int)⟩ := by
  have noExponent : 'e' ∉ whole ++ '.' :: fraction := by
    rw [List.mem_append, List.mem_cons]
    rintro (inWhole | isPoint | inFraction)
    · exact wholeDigits.not_mem rfl inWhole
    · exact absurd isPoint (by decide)
    · exact fractionDigits.not_mem rfl inFraction
  have point : '.' ∉ whole := wholeDigits.not_mem rfl
  unfold readDecimal
  rw [cutAt_of_not_mem noExponent]
  simp only [cutAt_append point, readPower, Int.zero_sub]

theorem read_positional {digits : List Char} (isDigits : AllDigits digits) (point : Int) :
    (readDecimal (positional digits point)).Same
      ⟨Nat.ofDigitChars 10 digits 0, point - digits.length⟩ := by
  unfold positional
  split
  · next before =>
    have zeros := (allDigits_zeros (-point).toNat).append isDigits
    have zero : AllDigits ['0'] := allDigits_zeros 1
    have read := readDecimal_plain zero zeros
    have value : Nat.ofDigitChars 10 (['0'] ++ (List.replicate (-point).toNat '0' ++ digits)) 0 =
        Nat.ofDigitChars 10 digits 0 := by
      rw [Nat.ofDigitChars_append, Nat.ofDigitChars_append, Nat.ofDigitChars_replicate_zero]
      rfl
    have power : -((List.replicate (-point).toNat '0' ++ digits).length : Int) =
        point - digits.length := by
      rw [List.length_append, List.length_replicate]
      omega
    rw [value, power] at read
    show (readDecimal (['0'] ++ '.' :: (List.replicate (-point).toNat '0' ++ digits))).Same _
    rw [read]
    exact Decimal.same_self _
  · next inside =>
    simp only
    split
    · next short =>
      -- The zeros up to the point and the one behind it are zeros at the end.
      have whole := isDigits.append (allDigits_zeros (point.toNat - digits.length))
      have read := readDecimal_plain whole (allDigits_zeros 1)
      have value : Nat.ofDigitChars 10
          (digits ++ List.replicate (point.toNat - digits.length) '0' ++ ['0']) 0 =
            Nat.ofDigitChars 10 digits 0 * 10 ^ (point.toNat - digits.length + 1) := by
        rw [List.append_assoc, Nat.ofDigitChars_append, ← List.replicate_succ',
          Nat.ofDigitChars_replicate_zero, Nat.mul_comm]
      have shifted := Decimal.same_shifts (Nat.ofDigitChars 10 digits 0)
        (point.toNat - digits.length + 1) (-1)
      rw [show -1 + ((point.toNat - digits.length + 1 : Nat) : Int) = point - digits.length by
        omega] at shifted
      rw [show List.replicate 1 '0' = ['0'] from rfl, value] at read
      show (readDecimal (digits ++ List.replicate (point.toNat - digits.length) '0' ++
        '.' :: ['0'])).Same _
      rw [read]
      exact shifted
    · next long =>
      have front : AllDigits (digits.take point.toNat) :=
        fun c member => isDigits c (List.mem_of_mem_take member)
      have back : AllDigits (digits.drop point.toNat) :=
        fun c member => isDigits c (List.mem_of_mem_drop member)
      have read := readDecimal_plain front back
      rw [List.take_append_drop, List.length_drop,
        show -((digits.length - point.toNat : Nat) : Int) = point - digits.length by omega] at read
      rw [List.append_assoc]
      show (readDecimal (digits.take point.toNat ++ '.' :: digits.drop point.toNat)).Same _
      rw [read]
      exact Decimal.same_self _

/-- The sign and the digits of an exponent. -/
def exponentText (power : Int) : List Char :=
  (if power < 0 then ['-'] else ['+']) ++ Nat.toDigits 10 power.natAbs

theorem readPower_exponentText (power : Int) : readPower (exponentText power) = power := by
  unfold exponentText
  split
  · show -(Nat.ofDigitChars 10 (Nat.toDigits 10 power.natAbs) 0 : Int) = power
    rw [Nat.ofDigitChars_ten_toDigits]
    omega
  · show (Nat.ofDigitChars 10 (Nat.toDigits 10 power.natAbs) 0 : Int) = power
    rw [Nat.ofDigitChars_ten_toDigits]
    omega

/-- The first digit, and the others as a fraction. -/
def mantissaText : List Char → List Char
  | first :: second :: rest => first :: '.' :: second :: rest
  | short => short

theorem scientific_eq (digits : List Char) (point : Int) :
    scientific digits point = mantissaText digits ++ 'e' :: exponentText (point - 1) := by
  have mark : (if point - 1 < 0 then ['e', '-'] else ['e', '+']) =
      'e' :: if point - 1 < 0 then ['-'] else ['+'] := by
    split <;> rfl
  unfold scientific exponentText
  simp only [mark, List.append_assoc, List.cons_append]
  rfl

theorem not_mem_mantissaText {digits : List Char} (isDigits : AllDigits digits) :
    'e' ∉ mantissaText digits := by
  have noMark : 'e' ∉ digits := isDigits.not_mem rfl
  rcases digits with _ | ⟨first, _ | ⟨second, rest⟩⟩
  · exact noMark
  · exact noMark
  · rw [List.mem_cons, not_or] at noMark
    unfold mantissaText
    rw [List.mem_cons, List.mem_cons, not_or, not_or]
    exact ⟨noMark.1, by decide, noMark.2⟩

theorem read_scientific {digits : List Char} (isDigits : AllDigits digits) (some : digits ≠ [])
    (point : Int) :
    readDecimal (scientific digits point) =
      ⟨Nat.ofDigitChars 10 digits 0, point - digits.length⟩ := by
  unfold readDecimal
  rw [scientific_eq, cutAt_append (not_mem_mantissaText isDigits)]
  simp only [readPower_exponentText]
  have noPoint : '.' ∉ digits := isDigits.not_mem rfl
  rcases digits with _ | ⟨first, _ | ⟨second, rest⟩⟩
  · exact absurd rfl some
  · simp only [mantissaText, cutAt_of_not_mem noPoint, List.append_nil, List.length_cons,
      List.length_nil]
    refine congrArg (Decimal.mk _) ?_
    omega
  · have single : '.' ∉ [first] :=
      fun member => noPoint (List.mem_singleton.mp member ▸ List.mem_cons_self)
    have cut := cutAt_append single (second :: rest)
    simp only [mantissaText]
    rw [show first :: '.' :: second :: rest = [first] ++ '.' :: second :: rest from rfl, cut]
    refine congrArg (Decimal.mk _) ?_
    simp only [List.length_cons]
    omega

/-- What is read off the text of a magnitude reads as that magnitude. -/
theorem readsAs_magnitudeText (layout : Layout) (x : Double) :
    x.readsAs (readDecimal (x.magnitudeText layout)) = true := by
  unfold magnitudeText
  split
  · next zero =>
    have rank : x.rank = 0 := by simpa [isZero] using zero
    have significand : x.significand = 0 := by
      unfold Double.significand
      rw [rank]
      rfl
    have low : x.lowerEnd = 0 := by
      unfold lowerEnd center steps
      rw [significand, if_neg (by rintro ⟨impossible, _⟩; cases impossible)]
      omega
    have read : readDecimal ['0', '.', '0'] = ⟨0, .negSucc 0⟩ := by decide
    unfold readsAs
    rw [read, significand, low, Decimal.scaled_negSucc]
    simp
  · have digits := allDigits_toDigits x.shortest.digits
    have value : (⟨Nat.ofDigitChars 10 (Nat.toDigits 10 x.shortest.digits) 0,
        x.shortest.power + (Nat.toDigits 10 x.shortest.digits).length -
          (Nat.toDigits 10 x.shortest.digits).length⟩ : Decimal) = x.shortest := by
      rw [Nat.ofDigitChars_ten_toDigits, Int.add_sub_cancel]
    simp only
    split
    · have same := read_positional digits
        (x.shortest.power + (Nat.toDigits 10 x.shortest.digits).length)
      rw [value] at same
      exact readsAs_of_same same.symm x.readsAs_shortest
    · rw [read_scientific digits Nat.toDigits_ne_nil, value]
      exact x.readsAs_shortest

theorem magnitudeText_head (layout : Layout) (x : Double) :
    ∃ first rest, x.magnitudeText layout = first :: rest ∧ first.isDigit = true := by
  obtain ⟨first, rest, form⟩ := List.exists_cons_of_ne_nil
    (Nat.toDigits_ne_nil (b := 10) (n := x.shortest.digits))
  have isDigit : first.isDigit = true :=
    allDigits_toDigits x.shortest.digits first (form ▸ List.mem_cons_self)
  unfold magnitudeText
  split
  · exact ⟨_, _, rfl, rfl⟩
  · simp only [form]
    split
    · unfold positional
      split
      · exact ⟨_, _, rfl, rfl⟩
      · simp only
        split
        · exact ⟨_, _, rfl, isDigit⟩
        · next inside _ =>
          obtain ⟨before, positive⟩ : ∃ before, (x.shortest.power +
              ((first :: rest).length : Int)).toNat = before + 1 :=
            ⟨_, (Nat.sub_add_cancel (by omega)).symm⟩
          rw [positive]
          exact ⟨_, _, rfl, isDigit⟩
    · rw [scientific_eq]
      cases rest with
      | nil => exact ⟨_, _, rfl, isDigit⟩
      | cons => exact ⟨_, _, rfl, isDigit⟩

theorem mem_positional {digits : List Char} (isDigits : AllDigits digits) {point : Int} {c : Char}
    (member : c ∈ positional digits point) : c.isDigit = true ∨ c = '.' := by
  have zero : ∀ count, c ∈ List.replicate count '0' → c.isDigit = true :=
    fun count inside => allDigits_zeros count c inside
  unfold positional at member
  split at member
  · simp only [List.mem_append, List.mem_cons, List.not_mem_nil, or_false] at member
    rcases member with ((rfl | isPoint) | inZeros) | inDigits
    · exact Or.inl rfl
    · exact Or.inr isPoint
    · exact Or.inl (zero _ inZeros)
    · exact Or.inl (isDigits c inDigits)
  · simp only at member
    split at member
    · simp only [List.mem_append, List.mem_cons, List.not_mem_nil, or_false] at member
      rcases member with (inDigits | inZeros) | isPoint | rfl
      · exact Or.inl (isDigits c inDigits)
      · exact Or.inl (zero _ inZeros)
      · exact Or.inr isPoint
      · exact Or.inl rfl
    · simp only [List.mem_append, List.mem_cons, List.not_mem_nil, or_false] at member
      rcases member with (before | isPoint) | behind
      · exact Or.inl (isDigits c (List.mem_of_mem_take before))
      · exact Or.inr isPoint
      · exact Or.inl (isDigits c (List.mem_of_mem_drop behind))

theorem mem_mantissaText {digits : List Char} (isDigits : AllDigits digits) {c : Char}
    (member : c ∈ mantissaText digits) : c.isDigit = true ∨ c = '.' := by
  rcases digits with _ | ⟨first, _ | ⟨second, rest⟩⟩
  · cases member
  · exact Or.inl (isDigits c member)
  · rcases List.mem_cons.mp member with rfl | later
    · exact Or.inl (isDigits c List.mem_cons_self)
    · rcases List.mem_cons.mp later with isPoint | inRest
      · exact Or.inr isPoint
      · exact Or.inl (isDigits c (List.mem_cons_of_mem first inRest))

theorem mem_exponentText {power : Int} {c : Char} (member : c ∈ exponentText power) :
    c.isDigit = true ∨ c = '-' ∨ c = '+' := by
  rcases List.mem_append.mp member with sign | inDigits
  · split at sign
    · exact Or.inr (Or.inl (List.mem_singleton.mp sign))
    · exact Or.inr (Or.inr (List.mem_singleton.mp sign))
  · exact Or.inl (allDigits_toDigits _ c inDigits)

theorem mem_magnitudeText {layout : Layout} {x : Double} {c : Char}
    (member : c ∈ x.magnitudeText layout) :
    c.isDigit = true ∨ c ∈ ['-', '+', '.', 'e'] := by
  have digits := allDigits_toDigits x.shortest.digits
  have point : c.isDigit = true ∨ c = '.' → c.isDigit = true ∨ c ∈ ['-', '+', '.', 'e'] := by
    rintro (isDigit | rfl)
    · exact Or.inl isDigit
    · exact Or.inr (by decide)
  unfold magnitudeText at member
  split at member
  · simp only [List.mem_cons, List.not_mem_nil, or_false] at member
    rcases member with rfl | rfl | rfl
    · exact Or.inl rfl
    · exact Or.inr (by decide)
    · exact Or.inl rfl
  · simp only at member
    split at member
    · exact point (mem_positional digits member)
    · rw [scientific_eq, List.mem_append, List.mem_cons] at member
      rcases member with inMantissa | rfl | inExponent
      · exact point (mem_mantissaText digits inMantissa)
      · exact Or.inr (by decide)
      · rcases mem_exponentText inExponent with isDigit | rfl | rfl
        · exact Or.inl isDigit
        · exact Or.inr (by decide)
        · exact Or.inr (by decide)

theorem point_mem_positional (digits : List Char) (point : Int) :
    '.' ∈ positional digits point := by
  unfold positional
  split
  · simp
  · simp only
    split <;> simp

/-- A double is never written as a whole number is. -/
theorem mark_mem_magnitudeText (layout : Layout) (x : Double) :
    '.' ∈ x.magnitudeText layout ∨ 'e' ∈ x.magnitudeText layout := by
  unfold magnitudeText
  split
  · exact Or.inl (by decide)
  · simp only
    split
    · exact Or.inl (point_mem_positional _ _)
    · rw [scientific_eq]
      exact Or.inr (List.mem_append_right _ List.mem_cons_self)

/-- No two doubles are written alike, not even the two zeros. -/
theorem text_injective {x y : Double} (same : x.text = y.text) : x = y := by
  have forms := String.ofList_inj.mp same
  obtain ⟨first, rest, headX, digitX⟩ := magnitudeText_head .standard x
  obtain ⟨first', rest', headY, digitY⟩ := magnitudeText_head .standard y
  have together : x.negative = y.negative ∧
      x.magnitudeText .standard = y.magnitudeText .standard := by
    cases signX : x.negative with
    | true =>
      cases signY : y.negative with
      | true =>
        rw [signX, signY] at forms
        exact ⟨rfl, (List.cons.inj forms).2⟩
      | false =>
        rw [signX, signY, headY] at forms
        rw [← (List.cons.inj forms).1] at digitY
        exact absurd digitY (by decide)
    | false =>
      cases signY : y.negative with
      | true =>
        rw [signX, signY, headX] at forms
        rw [(List.cons.inj forms).1] at digitX
        exact absurd digitX (by decide)
      | false =>
        rw [signX, signY] at forms
        exact ⟨rfl, forms⟩
  have readX := readsAs_magnitudeText .standard x
  have readY := readsAs_magnitudeText .standard y
  rw [together.2] at readX
  have ranks := rank_eq_of_readsAs readX readY
  cases x
  cases y
  obtain rfl := together.1
  obtain rfl := ranks
  rfl

end Provisioner.Double

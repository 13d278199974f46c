import Provisioner.Text.Percent

/-!
# Percent encoding loses nothing

An encoded text is a code over the bytes of its UTF-8 form in which no byte's form begins another's.
So two texts with the same encoding are equal. An encoding is spelled with unreserved characters and
escapes alone, so no separator of a URL occurs in it.
-/

namespace Provisioner.Text

set_option autoImplicit false

/-- A code in which no form begins another's loses nothing. -/
theorem flatMap_injective {α β : Type} {form : α → List β} (some : ∀ item, form item ≠ [])
    (prefixed : ∀ {a b : α} {rest other : List β}, form a ++ rest = form b ++ other →
      a = b ∧ rest = other) {left right : List α}
    (same : left.flatMap form = right.flatMap form) : left = right := by
  induction left generalizing right with
  | nil =>
    cases right with
    | nil => rfl
    | cons item rest =>
      simp only [List.flatMap_nil, List.flatMap_cons] at same
      exact absurd (List.append_eq_nil_iff.mp same.symm).1 (some item)
  | cons item rest ih =>
    cases right with
    | nil =>
      simp only [List.flatMap_nil, List.flatMap_cons] at same
      exact absurd (List.append_eq_nil_iff.mp same).1 (some item)
    | cons item' rest' =>
      simp only [List.flatMap_cons] at same
      obtain ⟨rfl, later⟩ := prefixed same
      rw [ih later]

namespace Percent

/-- The form of one byte: the character it is, if that may stand for itself, or its escape. -/
def byteForm (byte : UInt8) : List Char :=
  if byte.toNat < 128 ∧ isUnreserved (Char.ofNat byte.toNat) = true then [Char.ofNat byte.toNat]
  else escapeByte byte

theorem toNat_ofNat_of_ascii {n : Nat} (ascii : n < 128) : (Char.ofNat n).toNat = n := by
  have valid : n.isValidChar := Or.inl (by omega)
  unfold Char.ofNat
  rw [dif_pos valid]
  rfl

theorem toNat_lt_of_unreserved {c : Char} (unreserved : isUnreserved c = true) :
    c.toNat < 128 := by
  unfold isUnreserved at unreserved
  simp only [Bool.or_eq_true, beq_iff_eq] at unreserved
  rcases unreserved with (((alphanumeric | rfl) | rfl) | rfl) | rfl
  · have ranges : ((decide ('A'.val ≤ c.val ∧ c.val ≤ 'Z'.val) ||
        (decide ('a'.val ≤ c.val) && decide (c.val ≤ 'z'.val))) ||
        (decide ('0'.val ≤ c.val) && decide (c.val ≤ '9'.val))) = true := alphanumeric
    simp only [Bool.or_eq_true, Bool.and_eq_true, decide_eq_true_eq, UInt32.le_iff_toNat_le]
      at ranges
    have value : c.toNat = c.val.toNat := rfl
    have upper : 'Z'.val.toNat = 90 := rfl
    have lower : 'z'.val.toNat = 122 := rfl
    have digit : '9'.val.toNat = 57 := rfl
    omega
  all_goals decide

theorem utf8_of_ascii {c : Char} (ascii : c.toNat < 128) :
    String.utf8EncodeChar c = [UInt8.ofNat c.toNat] := by
  unfold String.utf8EncodeChar
  exact if_pos (Nat.le_of_lt_succ ascii)

theorem le_of_mem_utf8 {c : Char} {byte : UInt8} (wide : 128 ≤ c.toNat)
    (member : byte ∈ String.utf8EncodeChar c) : 128 ≤ byte.toNat := by
  have value : c.toNat = c.val.toNat := rfl
  unfold String.utf8EncodeChar at member
  simp only at member
  split at member
  · omega
  · split at member
    · simp only [List.mem_cons, List.not_mem_nil, or_false] at member
      rcases member with rfl | rfl
      all_goals
        rw [UInt8.toNat_ofNat']
        omega
    · split at member
      · simp only [List.mem_cons, List.not_mem_nil, or_false] at member
        rcases member with rfl | rfl | rfl
        all_goals
          rw [UInt8.toNat_ofNat']
          omega
      · simp only [List.mem_cons, List.not_mem_nil, or_false] at member
        rcases member with rfl | rfl | rfl | rfl
        all_goals
          rw [UInt8.toNat_ofNat']
          omega

theorem encodeChar_eq (c : Char) : encodeChar c = (String.utf8EncodeChar c).flatMap byteForm := by
  by_cases ascii : c.toNat < 128
  · have byte : (UInt8.ofNat c.toNat).toNat = c.toNat := by
      rw [UInt8.toNat_ofNat']
      omega
    unfold encodeChar
    simp only [utf8_of_ascii ascii, List.flatMap_cons, List.flatMap_nil, List.append_nil, byteForm,
      byte, ascii, true_and, Char.ofNat_toNat]
  · -- No byte of a wide character is ASCII, so each of them is escaped.
    have reserved : isUnreserved c = false := by
      rw [Bool.eq_false_iff]
      intro unreserved
      exact ascii (toNat_lt_of_unreserved unreserved)
    unfold encodeChar
    rw [reserved, if_neg Bool.false_ne_true]
    rw [List.flatMap_def, List.flatMap_def]
    congr 1
    apply List.map_congr_left
    intro byte member
    have wide := le_of_mem_utf8 (Nat.not_lt.mp ascii) member
    unfold byteForm
    rw [if_neg]
    omega

theorem digit_injective {m n : Nat} (mBound : m < 16) (nBound : n < 16)
    (same : digit m = digit n) : m = n := by
  have table : ∀ i : Fin 16, ∀ j : Fin 16, digit i = digit j → i = j := by decide
  exact congrArg Fin.val (table ⟨m, mBound⟩ ⟨n, nBound⟩ same)

theorem not_unreserved_percent : isUnreserved '%' = false := by decide

theorem byteForm_append {a b : UInt8} {rest other : List Char}
    (same : byteForm a ++ rest = byteForm b ++ other) : a = b ∧ rest = other := by
  have aBound := a.toNat_lt
  have bBound := b.toNat_lt
  unfold byteForm at same
  split at same
  · next literal =>
    split at same
    · next literal' =>
      simp only [List.singleton_append, List.cons.injEq] at same
      refine ⟨?_, same.2⟩
      have values := congrArg Char.toNat same.1
      rw [toNat_ofNat_of_ascii literal.1, toNat_ofNat_of_ascii literal'.1] at values
      exact UInt8.toNat_inj.mp values
    · simp only [escapeByte, List.cons_append, List.nil_append, List.cons.injEq] at same
      rw [same.1, not_unreserved_percent] at literal
      simp at literal
  · split at same
    · next literal' =>
      simp only [escapeByte, List.cons_append, List.nil_append, List.cons.injEq] at same
      rw [← same.1, not_unreserved_percent] at literal'
      simp at literal'
    · simp only [escapeByte, List.cons_append, List.nil_append, List.cons.injEq, true_and] at same
      have high := digit_injective (by omega) (by omega) same.1
      have low := digit_injective (by omega) (by omega) same.2.1
      exact ⟨UInt8.toNat_inj.mp (by omega), same.2.2⟩

theorem byteForm_ne_nil (byte : UInt8) : byteForm byte ≠ [] := by
  unfold byteForm escapeByte
  split <;> simp

theorem toList_encode (text : String) :
    (encode text).toList = (text.toList.flatMap String.utf8EncodeChar).flatMap byteForm := by
  unfold encode
  rw [String.toList_ofList, List.flatMap_assoc]
  congr 1
  funext c
  exact encodeChar_eq c

theorem encode_injective {a b : String} (same : encode a = encode b) : a = b := by
  have forms := congrArg String.toList same
  rw [toList_encode, toList_encode] at forms
  have bytes := flatMap_injective byteForm_ne_nil byteForm_append forms
  have encoded : a.toList.utf8Encode = b.toList.utf8Encode := by
    unfold List.utf8Encode
    rw [bytes]
  rw [← String.ofList_toList (s := a), ← String.ofList_toList (s := b)]
  apply String.toByteArray_inj.mp
  rw [String.toByteArray_ofList, String.toByteArray_ofList, encoded]

/-- The digits of an escape. -/
def digits : List Char := "0123456789ABCDEF".toList

/-- A text in which every character either stands for itself or belongs to an escape of one byte. -/
inductive Spelled : List Char → Prop where
  | done : Spelled []
  | literal {c : Char} {rest : List Char} (unreserved : isUnreserved c = true)
      (later : Spelled rest) : Spelled (c :: rest)
  | escape {high low : Char} {rest : List Char} (highDigit : high ∈ digits)
      (lowDigit : low ∈ digits) (later : Spelled rest) : Spelled ('%' :: high :: low :: rest)

theorem digit_mem_digits {n : Nat} (bound : n < 16) : digit n ∈ digits := by
  have table : ∀ i : Fin 16, digit i ∈ digits := by decide
  exact table ⟨n, bound⟩

theorem spelled_byteForm_append (byte : UInt8) {rest : List Char} (later : Spelled rest) :
    Spelled (byteForm byte ++ rest) := by
  have bound := byte.toNat_lt
  unfold byteForm
  split
  · next literal => exact .literal literal.2 later
  · exact .escape (digit_mem_digits (by omega)) (digit_mem_digits (by omega)) later

theorem spelled_encode (text : String) : Spelled (encode text).toList := by
  rw [toList_encode]
  induction text.toList.flatMap String.utf8EncodeChar with
  | nil => exact .done
  | cons byte rest ih => exact spelled_byteForm_append byte ih

theorem Spelled.unreserved_or_percent {chars : List Char} (spelled : Spelled chars) {c : Char}
    (member : c ∈ chars) : isUnreserved c = true ∨ c = '%' := by
  induction spelled with
  | done => cases member
  | literal unreserved _ ih =>
    rcases List.mem_cons.mp member with rfl | inRest
    · exact Or.inl unreserved
    · exact ih inRest
  | escape highDigit lowDigit _ ih =>
    have unreserved : ∀ digit ∈ digits, isUnreserved digit = true :=
      List.all_eq_true.mp (by decide)
    simp only [List.mem_cons] at member
    rcases member with rfl | rfl | rfl | inRest
    · exact Or.inr rfl
    · exact Or.inl (unreserved _ highDigit)
    · exact Or.inl (unreserved _ lowDigit)
    · exact ih inRest

/-- The marks that separate the parts of a URL. -/
def marks : List Char := ['/', '?', '#', '&', '=']

theorem reserved_of_mem_marks {mark : Char} (separates : mark ∈ marks) :
    isUnreserved mark = false ∧ mark ≠ '%' := by
  simp only [marks, List.mem_cons, List.not_mem_nil, or_false] at separates
  rcases separates with rfl | rfl | rfl | rfl | rfl
  all_goals decide

theorem not_mem_of_unreserved {text : List Char} (unreserved : text.all isUnreserved = true)
    {mark : Char} (separates : mark ∈ marks) : mark ∉ text := by
  intro member
  have stands := List.all_eq_true.mp unreserved mark member
  rw [(reserved_of_mem_marks separates).1] at stands
  cases stands

theorem not_mem_encode {mark : Char} (separates : mark ∈ marks) (text : String) :
    mark ∉ (encode text).toList := by
  intro member
  obtain ⟨reserved, notPercent⟩ := reserved_of_mem_marks separates
  rcases (spelled_encode text).unreserved_or_percent member with unreserved | percent
  · rw [reserved] at unreserved
    cases unreserved
  · exact notPercent percent

end Percent

end Provisioner.Text

import Provisioner.Json.Printer
import Provisioner.Proofs.Decimal.Notation
import Provisioner.Proofs.Text.Percent

/-!
# Compact texts tell values apart

No text of a value begins the text of another one, as long as what follows can not go on a number.
So a text leaves no choice where a value ends, and two values with the same compact text are one
value.
-/

namespace Provisioner.Json

set_option autoImplicit false

/-- The value of a hexadecimal digit in lower case. -/
def hexDigitValue (c : Char) : Nat :=
  if c.toNat < 0x61 then c.toNat - 0x30 else c.toNat - 0x61 + 10

/-- The character behind a backslash that stands for another one. -/
def marked (mark : Char) : Char :=
  if mark = 'b' then Char.ofNat 0x8
  else if mark = 'f' then Char.ofNat 0xC
  else if mark = 'n' then '\n'
  else if mark = 'r' then '\r'
  else if mark = 't' then '\t'
  else mark

/-- Reads one character of an escaped text, and what is left of it. -/
def unescaped : List Char → Option (Char × List Char)
  | '\\' :: 'u' :: _ :: _ :: high :: low :: rest =>
    some (Char.ofNat (hexDigitValue high * 16 + hexDigitValue low), rest)
  | '\\' :: mark :: rest => some (marked mark, rest)
  | c :: rest => some (c, rest)
  | [] => none

theorem unescaped_hex {c : Char} (control : c.toNat < 0x20) (rest : List Char) :
    unescaped (['\\', 'u', '0', '0', hexDigit (c.toNat / 16), hexDigit (c.toNat % 16)] ++ rest) =
      some (c, rest) := by
  have table : ∀ n : Fin 32,
      hexDigitValue (hexDigit (n.val / 16)) * 16 + hexDigitValue (hexDigit (n.val % 16)) =
        n.val := by
    decide
  show some (Char.ofNat (_ * 16 + _), rest) = some (c, rest)
  rw [table ⟨c.toNat, control⟩]
  exact congrArg (fun found => some (found, rest)) (Char.ofNat_toNat c)

theorem unescaped_literal {c : Char} (plain : c ≠ '\\') (rest : List Char) :
    unescaped (c :: rest) = some (c, rest) := by
  unfold unescaped
  split
  · next same => exact absurd (List.cons.inj same).1 plain
  · next same => exact absurd (List.cons.inj same).1 plain
  · next same =>
    obtain ⟨rfl, rfl⟩ := List.cons.inj same
    rfl
  · next none => cases none

theorem unescaped_escapedChar (c : Char) (rest : List Char) :
    unescaped (escapedChar c ++ rest) = some (c, rest) := by
  have code : ∀ {n : Nat}, c.toNat = n → Char.ofNat n = c := by
    rintro n rfl
    exact Char.ofNat_toNat c
  unfold escapedChar
  by_cases quote : c = '"'
  · subst quote
    rfl
  by_cases backslash : c = '\\'
  · subst backslash
    rfl
  rw [if_neg quote, if_neg backslash]
  split
  · next backspace =>
    rw [← code backspace]
    rfl
  split
  · next feed =>
    rw [← code feed]
    rfl
  split
  · next newline =>
    subst newline
    rfl
  split
  · next back =>
    subst back
    rfl
  split
  · next tab =>
    subst tab
    rfl
  split
  · next control => exact unescaped_hex control rest
  · exact unescaped_literal backslash rest

theorem escapedChar_append {a b : Char} {rest other : List Char}
    (same : escapedChar a ++ rest = escapedChar b ++ other) : a = b ∧ rest = other := by
  have read := unescaped_escapedChar a rest
  rw [same, unescaped_escapedChar b other] at read
  obtain ⟨rfl, rfl⟩ := Prod.mk.inj (Option.some.inj read)
  exact ⟨rfl, rfl⟩

theorem escapedChar_ne_nil (c : Char) : escapedChar c ≠ [] := by
  intro none
  have read := unescaped_escapedChar c []
  rw [none] at read
  cases read

theorem escapedChar_head (c : Char) :
    ∃ first later, escapedChar c = first :: later ∧ first ≠ '"' := by
  obtain ⟨first, later, form⟩ := List.exists_cons_of_ne_nil (escapedChar_ne_nil c)
  refine ⟨first, later, form, ?_⟩
  rintro rfl
  have read := unescaped_escapedChar c []
  rw [List.append_nil, form, unescaped_literal (by decide)] at read
  obtain ⟨rfl, rfl⟩ := Prod.mk.inj (Option.some.inj read)
  cases form

/-- A quote that is not escaped ends a text. -/
theorem escapes_append {a b rest other : List Char}
    (same : a.flatMap escapedChar ++ '"' :: rest = b.flatMap escapedChar ++ '"' :: other) :
    a = b ∧ rest = other := by
  induction a generalizing b with
  | nil =>
    cases b with
    | nil => exact ⟨rfl, (List.cons.inj same).2⟩
    | cons c later =>
      obtain ⟨first, _, head, noQuote⟩ := escapedChar_head c
      rw [List.flatMap_nil, List.flatMap_cons, head] at same
      exact absurd (List.cons.inj same).1.symm noQuote
  | cons c later ih =>
    cases b with
    | nil =>
      obtain ⟨first, _, head, noQuote⟩ := escapedChar_head c
      rw [List.flatMap_nil, List.flatMap_cons, head] at same
      exact absurd (List.cons.inj same).1 noQuote
    | cons c' later' =>
      rw [List.flatMap_cons, List.flatMap_cons, List.append_assoc, List.append_assoc] at same
      obtain ⟨rfl, remaining⟩ := escapedChar_append same
      obtain ⟨rfl, ends⟩ := ih remaining
      exact ⟨rfl, ends⟩

theorem escaped_append {a b : String} {rest other : List Char}
    (same : escaped a ++ rest = escaped b ++ other) : a = b ∧ rest = other := by
  have bodies : a.toList.flatMap escapedChar ++ '"' :: rest =
      b.toList.flatMap escapedChar ++ '"' :: other := by
    simpa [escaped] using same
  obtain ⟨texts, ends⟩ := escapes_append bodies
  exact ⟨String.toList_inj.mp texts, ends⟩

/-- The characters that numbers are written with. -/
def isNumberChar (c : Char) : Bool := c.isDigit || ['-', '+', '.', 'e'].contains c

theorem isNumberChar_of_isDigit {c : Char} (digit : c.isDigit = true) : isNumberChar c = true := by
  unfold isNumberChar
  rw [digit]
  rfl

theorem toList_toString (value : Int) :
    (toString value).toList =
      (if value < 0 then ['-'] else []) ++ Nat.toDigits 10 value.natAbs := by
  rw [Int.toString_eq_repr]
  cases value with
  | ofNat n =>
    have notNegative : ¬Int.ofNat n < 0 := Int.not_lt.mpr (Int.natCast_nonneg n)
    show (Nat.repr n).toList = _
    rw [Nat.toList_repr, if_neg notNegative]
    rfl
  | negSucc n =>
    show ("-" ++ Nat.repr (n + 1)).toList = _
    rw [String.toList_append, Nat.toList_repr, if_pos (Int.negSucc_lt_zero n)]
    rfl

theorem toString_injective {a b : Int} (same : (toString a).toList = (toString b).toList) :
    a = b := by
  have signed : ∀ n : Nat, '-' ∉ Nat.toDigits 10 n :=
    fun n => (Double.allDigits_toDigits n).not_mem rfl
  have digits : ∀ {m n : Nat}, Nat.toDigits 10 m = Nat.toDigits 10 n → m = n := by
    intro m n equal
    rw [← Nat.ofDigitChars_ten_toDigits (n := m), equal, Nat.ofDigitChars_ten_toDigits]
  rw [toList_toString, toList_toString] at same
  by_cases negative : a < 0
  · by_cases other : b < 0
    · rw [if_pos negative, if_pos other] at same
      have := digits (List.cons.inj same).2
      omega
    · rw [if_pos negative, if_neg other, List.nil_append] at same
      exact absurd (same ▸ List.mem_cons_self) (signed b.natAbs)
  · by_cases other : b < 0
    · rw [if_neg negative, if_pos other, List.nil_append] at same
      exact absurd (same ▸ List.mem_cons_self) (signed a.natAbs)
    · rw [if_neg negative, if_neg other] at same
      have := digits same
      omega

theorem toList_text (x : Double) :
    x.text.toList = (if x.negative then ['-'] else []) ++ x.magnitudeText .standard := by
  unfold Double.text
  rw [String.toList_ofList]
  split <;> rfl

theorem isNumberChar_of_mem {number : Number} {c : Char} (member : c ∈ numberChars number) :
    isNumberChar c = true := by
  cases number with
  | integer value =>
    have written : c ∈ (toString value).toList := member
    rw [toList_toString, List.mem_append] at written
    rcases written with sign | inDigits
    · split at sign
      · rw [List.mem_singleton.mp sign]
        rfl
      · cases sign
    · exact isNumberChar_of_isDigit (Double.allDigits_toDigits _ c inDigits)
  | double value =>
    have written : c ∈ value.text.toList := member
    rw [toList_text, List.mem_append] at written
    rcases written with sign | inMagnitude
    · split at sign
      · rw [List.mem_singleton.mp sign]
        rfl
      · cases sign
    · rcases Double.mem_magnitudeText inMagnitude with digit | mark
      · exact isNumberChar_of_isDigit digit
      · unfold isNumberChar
        rw [List.contains_iff_mem.mpr mark, Bool.or_true]

theorem toString_ne_text (value : Int) (x : Double) :
    (toString value).toList ≠ x.text.toList := by
  intro same
  have unmarked : ∀ mark : Char, mark.isDigit = false → mark ≠ '-' →
      mark ∉ (toString value).toList := by
    intro mark noDigit noSign
    rw [toList_toString, List.mem_append, not_or]
    refine ⟨?_, (Double.allDigits_toDigits _).not_mem noDigit⟩
    split
    · rwa [List.mem_singleton]
    · exact List.not_mem_nil
  rw [same, toList_text] at unmarked
  rcases Double.mark_mem_magnitudeText .standard x with point | exponent
  · exact unmarked '.' rfl (by decide) (List.mem_append_right _ point)
  · exact unmarked 'e' rfl (by decide) (List.mem_append_right _ exponent)

theorem numberChars_injective {a b : Number} (same : numberChars a = numberChars b) : a = b := by
  cases a with
  | integer value =>
    cases b with
    | integer other => rw [toString_injective same]
    | double other => exact absurd same (toString_ne_text value other)
  | double value =>
    cases b with
    | integer other => exact absurd same.symm (toString_ne_text other value)
    | double other => rw [Double.text_injective (String.toList_inj.mp same)]

/-- What can not go on a number. -/
def Ended (rest : List Char) : Prop := ∀ c later, rest = c :: later → isNumberChar c = false

theorem ended_nil : Ended [] := fun _ _ impossible => by cases impossible

theorem ended_cons {c : Char} (ends : isNumberChar c = false) (later : List Char) :
    Ended (c :: later) := by
  intro c' later' same
  rw [← (List.cons.inj same).1]
  exact ends

theorem takeWhile_ended {rest : List Char} (ended : Ended rest) :
    rest.takeWhile isNumberChar = [] := by
  cases rest with
  | nil => rfl
  | cons c later => exact List.takeWhile_cons_of_neg (by simp [ended c later rfl])

theorem numberChars_append {a b : Number} {rest other : List Char} (ended : Ended rest)
    (endedOther : Ended other) (same : numberChars a ++ rest = numberChars b ++ other) :
    a = b ∧ rest = other := by
  have cut : ∀ (number : Number) {rest : List Char}, Ended rest →
      (numberChars number ++ rest).takeWhile isNumberChar = numberChars number := by
    intro number rest ended
    rw [List.takeWhile_append_of_pos fun c member => isNumberChar_of_mem member,
      takeWhile_ended ended, List.append_nil]
  have left := cut a ended
  have right := cut b endedOther
  have texts : numberChars a = numberChars b := left.symm.trans ((congrArg _ same).trans right)
  rw [texts] at same
  exact ⟨numberChars_injective texts, List.append_cancel_left same⟩

theorem numberChars_head (number : Number) :
    ∃ first later, numberChars number = first :: later ∧ isNumberChar first = true := by
  have some : numberChars number ≠ [] := by
    cases number with
    | integer value =>
      show (toString value).toList ≠ []
      rw [toList_toString]
      exact fun none => Nat.toDigits_ne_nil (List.append_eq_nil_iff.mp none).2
    | double value =>
      obtain ⟨first, rest, form, _⟩ := Double.magnitudeText_head .standard value
      show value.text.toList ≠ []
      rw [toList_text, form]
      exact fun none => absurd (List.append_eq_nil_iff.mp none).2 (List.cons_ne_nil _ _)
  obtain ⟨first, later, form⟩ := List.exists_cons_of_ne_nil some
  exact ⟨first, later, form, isNumberChar_of_mem (form ▸ List.mem_cons_self)⟩

/-- A character that stands for all those that a value of one sort begins with. -/
def lead : Json → Char
  | .null => 'n'
  | .bool _ => 't'
  | .num _ => '0'
  | .str _ => '"'
  | .arr _ => '['
  | .obj _ => '\x7b'

def leadOf (first : Char) : Char :=
  if first = 'f' then 't' else if isNumberChar first then '0' else first

theorem chars_head (value : Json) :
    ∃ first later, value.chars = first :: later ∧ leadOf first = value.lead := by
  cases value with
  | null => exact ⟨_, _, rfl, rfl⟩
  | bool flag => cases flag <;> exact ⟨_, _, rfl, rfl⟩
  | num number =>
    obtain ⟨first, later, form, isNumber⟩ := numberChars_head number
    refine ⟨first, later, form, ?_⟩
    unfold leadOf
    rw [if_neg, if_pos isNumber]
    · rfl
    · rintro rfl
      cases isNumber
  | str => exact ⟨_, _, rfl, rfl⟩
  | arr => exact ⟨_, _, rfl, rfl⟩
  | obj => exact ⟨_, _, rfl, rfl⟩

theorem lead_eq_of_chars {a b : Json} {rest other : List Char}
    (same : a.chars ++ rest = b.chars ++ other) : a.lead = b.lead := by
  obtain ⟨first, later, form, leads⟩ := a.chars_head
  obtain ⟨first', later', form', leads'⟩ := b.chars_head
  rw [form, form'] at same
  rw [← leads, ← leads', (List.cons.inj same).1]

theorem chars_ne_end {value : Json} {mark : Char} (ends : mark = ']' ∨ mark = '\x7d')
    (rest other : List Char) : value.chars ++ rest ≠ mark :: other := by
  intro same
  obtain ⟨first, later, form, leads⟩ := value.chars_head
  rw [form] at same
  rw [(List.cons.inj same).1] at leads
  rcases ends with rfl | rfl
  · cases value <;> simp [lead, leadOf, isNumberChar] at leads
  · cases value <;> simp [lead, leadOf, isNumberChar] at leads

/-- What follows an item in a list. -/
def moreItems : List Json → List Char
  | [] => []
  | item :: rest => ',' :: itemChars (item :: rest)

theorem itemChars_cons (item : Json) (rest : List Json) :
    itemChars (item :: rest) = item.chars ++ moreItems rest := by
  cases rest with
  | nil => rw [itemChars, moreItems, List.append_nil]
  | cons => rw [itemChars, moreItems]

/-- What follows an entry in an object. -/
def moreEntries : List (String × Json) → List Char
  | [] => []
  | entry :: rest => ',' :: entryChars (entry :: rest)

theorem entryChars_cons (key : String) (value : Json) (rest : List (String × Json)) :
    entryChars ((key, value) :: rest) =
      escaped key ++ ':' :: (value.chars ++ moreEntries rest) := by
  cases rest with
  | nil => rw [entryChars, moreEntries, List.append_nil]
  | cons => rw [entryChars, moreEntries, List.append_assoc, List.cons_append]

theorem ended_moreItems (items : List Json) (rest : List Char) :
    Ended (moreItems items ++ ']' :: rest) := by
  cases items with
  | nil => exact ended_cons rfl _
  | cons => exact ended_cons rfl _

theorem ended_moreEntries (entries : List (String × Json)) (rest : List Char) :
    Ended (moreEntries entries ++ '\x7d' :: rest) := by
  cases entries with
  | nil => exact ended_cons rfl _
  | cons => exact ended_cons rfl _

mutual

/-- A text leaves no choice where a value ends. -/
theorem chars_append : ∀ (a b : Json) {rest other : List Char}, Ended rest → Ended other →
    a.chars ++ rest = b.chars ++ other → a = b ∧ rest = other
  | .null, b, _, _, _, _, same => by
    cases b with
    | null => exact ⟨rfl, List.append_cancel_left same⟩
    | _ => exact absurd (lead_eq_of_chars same) (by simp [lead])
  | .bool flag, b, _, _, _, _, same => by
    cases b with
    | bool flag' =>
      cases flag <;> cases flag'
      · exact ⟨rfl, List.append_cancel_left same⟩
      · exact absurd (List.cons.inj same).1 (by decide)
      · exact absurd (List.cons.inj same).1 (by decide)
      · exact ⟨rfl, List.append_cancel_left same⟩
    | _ => exact absurd (lead_eq_of_chars same) (by simp [lead])
  | .num number, b, _, _, ended, endedOther, same => by
    cases b with
    | num number' =>
      obtain ⟨rfl, ends⟩ := numberChars_append ended endedOther same
      exact ⟨rfl, ends⟩
    | _ => exact absurd (lead_eq_of_chars same) (by simp [lead])
  | .str text, b, _, _, _, _, same => by
    cases b with
    | str text' =>
      obtain ⟨rfl, ends⟩ := escaped_append same
      exact ⟨rfl, ends⟩
    | _ => exact absurd (lead_eq_of_chars same) (by simp [lead])
  | .arr items, b, rest, other, _, _, same => by
    cases b with
    | arr items' =>
      have bodies : itemChars items ++ ']' :: rest = itemChars items' ++ ']' :: other := by
        simpa [chars] using same
      obtain ⟨rfl, ends⟩ := itemChars_append items items' bodies
      exact ⟨rfl, ends⟩
    | _ => exact absurd (lead_eq_of_chars same) (by simp [lead])
  | .obj entries, b, rest, other, _, _, same => by
    cases b with
    | obj entries' =>
      have bodies : entryChars entries ++ '\x7d' :: rest =
          entryChars entries' ++ '\x7d' :: other := by
        simpa [chars] using same
      obtain ⟨rfl, ends⟩ := entryChars_append entries entries' bodies
      exact ⟨rfl, ends⟩
    | _ => exact absurd (lead_eq_of_chars same) (by simp [lead])

theorem itemChars_append : ∀ (items items' : List Json) {rest other : List Char},
    itemChars items ++ ']' :: rest = itemChars items' ++ ']' :: other →
      items = items' ∧ rest = other
  | [], [], _, _, same => ⟨rfl, (List.cons.inj same).2⟩
  | [], item' :: later', _, _, same => by
    rw [itemChars_cons, List.append_assoc] at same
    exact absurd same.symm (chars_ne_end (Or.inl rfl) _ _)
  | item :: later, [], _, _, same => by
    rw [itemChars_cons, List.append_assoc] at same
    exact absurd same (chars_ne_end (Or.inl rfl) _ _)
  | item :: later, item' :: later', _, _, same => by
    rw [itemChars_cons, itemChars_cons, List.append_assoc, List.append_assoc] at same
    obtain ⟨rfl, remaining⟩ := chars_append item item' (ended_moreItems later _)
      (ended_moreItems later' _) same
    cases later with
    | nil =>
      cases later' with
      | nil => exact ⟨rfl, (List.cons.inj remaining).2⟩
      | cons => exact absurd (List.cons.inj remaining).1 (by decide)
    | cons next rest =>
      cases later' with
      | nil => exact absurd (List.cons.inj remaining).1 (by decide)
      | cons next' rest' =>
        obtain ⟨others, ends⟩ := itemChars_append (next :: rest) (next' :: rest')
          (List.cons.inj remaining).2
        rw [others]
        exact ⟨rfl, ends⟩

theorem entryChars_append : ∀ (entries entries' : List (String × Json)) {rest other : List Char},
    entryChars entries ++ '\x7d' :: rest = entryChars entries' ++ '\x7d' :: other →
      entries = entries' ∧ rest = other
  | [], [], _, _, same => ⟨rfl, (List.cons.inj same).2⟩
  | [], (key', value') :: later', _, _, same => by
    rw [entryChars_cons] at same
    exact absurd (List.cons.inj same).1 (by decide)
  | (key, value) :: later, [], _, _, same => by
    rw [entryChars_cons] at same
    exact absurd (List.cons.inj same).1 (by decide)
  | (key, value) :: later, (key', value') :: later', _, _, same => by
    rw [entryChars_cons, entryChars_cons, List.append_assoc, List.append_assoc] at same
    obtain ⟨rfl, behind⟩ := escaped_append same
    rw [List.cons_append, List.cons_append, List.append_assoc, List.append_assoc] at behind
    obtain ⟨rfl, remaining⟩ := chars_append value value' (ended_moreEntries later _)
      (ended_moreEntries later' _) (List.cons.inj behind).2
    cases later with
    | nil =>
      cases later' with
      | nil => exact ⟨rfl, (List.cons.inj remaining).2⟩
      | cons => exact absurd (List.cons.inj remaining).1 (by decide)
    | cons next rest =>
      cases later' with
      | nil => exact absurd (List.cons.inj remaining).1 (by decide)
      | cons next' rest' =>
        obtain ⟨others, ends⟩ := entryChars_append (next :: rest) (next' :: rest')
          (List.cons.inj remaining).2
        rw [others]
        exact ⟨rfl, ends⟩

end

/-- Values with the same compact text are one value. -/
theorem compact_injective {a b : Json} (same : a.compact = b.compact) : a = b := by
  have texts : a.chars ++ [] = b.chars ++ [] := by
    rw [List.append_nil, List.append_nil]
    exact String.ofList_inj.mp same
  exact (chars_append a b ended_nil ended_nil texts).1

end Provisioner.Json

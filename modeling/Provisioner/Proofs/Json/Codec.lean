import Provisioner.Kinds.Reference
import Provisioner.Proofs.Json.Same
import Provisioner.Proofs.Keyed

/-!
# Writing and reading back

A decoder inverts an encoder if it reads every value back from what was written, also after null
entries have been dropped, and nothing is written as null. The law passes from the parts of a value
to the whole, and from the decoders of the fields to a record.
-/

namespace Provisioner

set_option autoImplicit false

namespace Json

theorem isNull_dropNulls (value : Json) : value.dropNulls.isNull = value.isNull := by
  cases value <;> rfl

theorem dropNullsItems_eq_map (items : List Json) :
    dropNullsItems items = items.map dropNulls := by
  induction items with
  | nil => rfl
  | cons item rest ih =>
    rw [dropNullsItems, ih]
    rfl

theorem dropNullsEntries_texts (entries : List (String × String)) :
    dropNullsEntries (entries.map fun entry => (entry.1, .str entry.2)) =
      entries.map fun entry => (entry.1, .str entry.2) := by
  induction entries with
  | nil => rfl
  | cons head rest ih =>
    rw [List.map_cons, dropNullsEntries, ih]
    rfl

end Json

namespace Decoder

variable {α : Type}

structure Inverts (decode : Decoder α) (encode : α → Json) : Prop where
  notNull : ∀ value, (encode value).isNull = false
  read : ∀ value, decode (encode value).dropNulls = .ok value

theorem text_inverts : text.Inverts .str where
  notNull _ := rfl
  read _ := rfl

theorem integerIn_of_within {low high value : Int} {wanted : Shape}
    (within : low ≤ value ∧ value ≤ high) :
    integerIn low high wanted (.int value) = .ok value := if_pos within

theorem integer64_inverts : integer64.Inverts .int64 where
  notNull _ := rfl
  read value := by
    have within : Int64.minValue.toInt ≤ value.toInt ∧ value.toInt ≤ Int64.maxValue.toInt :=
      ⟨value.le_toInt, value.toInt_le⟩
    show (integerIn _ _ _ (.int value.toInt)).map Int64.ofInt = .ok value
    rw [integerIn_of_within within]
    show Except.ok (Int64.ofInt value.toInt) = .ok value
    rw [Int64.ofInt_toInt]

theorem integer64_ok_iff {given : Json} {value : Int64} :
    integer64 given = .ok value ↔ given = .int64 value := by
  constructor
  · intro read
    cases given with
    | num number =>
      cases number with
      | double => cases read
      | integer number =>
        unfold integer64 integerIn at read
        simp only at read
        split at read
        · next within =>
          rw [Int64.toInt_minValue, Int64.toInt_maxValue] at within
          have kept : (Int64.ofInt number).toInt = number :=
            Int64.toInt_ofInt_of_le within.1 (by omega)
          rw [← Except.ok.inj read, Json.int64, kept]
          rfl
        · cases read
    | _ => cases read
  · rintro rfl
    exact integer64_inverts.read value

theorem items_encode {decode : Decoder α} {encode : α → Json} (inverts : decode.Inverts encode)
    (values : List α) : items decode ((values.map encode).map Json.dropNulls) = .ok values := by
  induction values with
  | nil => rfl
  | cons value rest ih =>
    rw [List.map_cons, List.map_cons, items, inverts.read value]
    simp only
    rw [ih]

theorem blockList_inverts {decode : Decoder α} {encode : α → Json}
    (inverts : decode.Inverts encode) :
    (blockList decode).Inverts fun values => .arr (values.map encode) where
  notNull _ := rfl
  read values := by
    show items decode (Json.dropNullsItems (values.map encode)) = .ok values
    rw [Json.dropNullsItems_eq_map]
    exact items_encode inverts values

theorem textEntries_texts (entries : List (String × String)) :
    textEntries (entries.map fun entry => (entry.1, .str entry.2)) = .ok entries := by
  induction entries with
  | nil => rfl
  | cons head rest ih =>
    rw [List.map_cons, textEntries]
    simp only [text]
    rw [ih]

theorem settings_inverts (empty : Settings) :
    (nullAs empty settings).Inverts Settings.encode where
  notNull _ := rfl
  read value := by
    show (textEntries (Json.dropNullsEntries _)).map Settings.ofList = .ok value
    rw [Json.dropNullsEntries_texts, textEntries_texts]
    apply congrArg Except.ok
    apply Settings.eq_of_entries_eq
    exact Keyed.ofList_of_sorted value.sorted

end Decoder

namespace Fields

variable {α : Type} {name : String} {absent : Option α} {decode : Decoder α} {encode : α → Json}
  {entries : List (String × Json)} {value : α}

theorem single_of_written (inverts : decode.Inverts encode) (sorted : Keyed.Sorted entries)
    (written : entries.lookup name = some (encode value)) :
    (single name absent decode).ofEntries (Json.dropNullsEntries entries) = .ok value := by
  apply (single_dropNulls_ok_iff sorted).mpr
  exact Or.inl ⟨encode value, written, inverts.notNull value, inverts.read value⟩

theorem optional_of_written {value : Option α} (inverts : decode.Inverts encode)
    (sorted : Keyed.Sorted entries)
    (written : entries.lookup name = some (Json.option (value.map encode))) :
    (Fields.optional name decode).ofEntries (Json.dropNullsEntries entries) = .ok value := by
  apply (single_dropNulls_ok_iff sorted).mpr
  cases value with
  | none => exact Or.inr ⟨Or.inr written, rfl⟩
  | some value =>
    refine Or.inl ⟨encode value, written, inverts.notNull value, ?_⟩
    have read := inverts.read value
    have notNull : (encode value).dropNulls.isNull = false := by
      rw [Json.isNull_dropNulls]
      exact inverts.notNull value
    simp only [notNull, read]
    rfl

end Fields

end Provisioner

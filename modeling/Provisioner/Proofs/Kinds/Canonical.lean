import Provisioner.Proofs.Kinds.Readable
import Provisioner.Proofs.Plan.Matching

/-!
# Configurations in the form of states

What a state is decoded from is what is written for it: a text, an integer and a list of them have
one form only, and so has a nested item that sets nothing its block does not declare. So a plan that
compares a state with the configuration it was decoded from has nothing to tell apart but what the
configuration leaves out.
-/

namespace Provisioner

set_option autoImplicit false

namespace Keyed

theorem eq_singleton {α : Type} {entries : List (String × α)} {key : String} {value : α}
    (sorted : Sorted entries) (only : ∀ entry ∈ entries, entry.1 = key)
    (found : entries.lookup key = some value) : entries = [(key, value)] := by
  apply eq_of_lookup_eq sorted (List.pairwise_singleton _ _)
  intro query
  by_cases here : query = key
  · rw [here, found, List.lookup_cons, beq_self_eq_true]
  · have absent : entries.lookup query = none := by
      rw [List.lookup_eq_none_iff]
      intro entry member
      rw [only entry member]
      exact bne_iff_ne.mpr here
    rw [absent, List.lookup_cons, beq_false_of_ne here]
    rfl

end Keyed

namespace Decoder

variable {α β : Type} {decode : Decoder α} {encode : α → Json}

/-- What decodes to a value is what is written for it. -/
def Canonical (decode : Decoder α) (encode : α → Json) (given : Json) : Prop :=
  ∀ value, decode given.dropNulls = .ok value → given = encode value

theorem text_canonical (given : Json) : text.Canonical .str given := by
  intro value decoded
  cases given with
  | str => rw [← Except.ok.inj decoded]
  | _ => cases decoded

theorem integer64_canonical (given : Json) : integer64.Canonical .int64 given := by
  intro value decoded
  have written := integer64_ok_iff.mp decoded
  cases given with
  | num => exact written
  | _ => cases written

theorem items_canonical {given : List Json}
    (canonical : ∀ item ∈ given, decode.Canonical encode item) {values : List α}
    (decoded : items decode (Json.dropNullsItems given) = .ok values) :
    given = values.map encode := by
  induction given generalizing values with
  | nil =>
    cases decoded
    rfl
  | cons item rest ih =>
    rw [Json.dropNullsItems, items] at decoded
    split at decoded
    · cases decoded
    · next first read =>
      split at decoded
      · cases decoded
      · next others readLater =>
        cases decoded
        rw [List.map_cons, ← canonical item List.mem_cons_self first read,
          ← ih (fun other later => canonical other (List.mem_cons_of_mem _ later)) readLater]

theorem blockList_canonical {given : Json} (notNull : given.isNull = false)
    (canonical : ∀ items, given = .arr items → ∀ item ∈ items, decode.Canonical encode item) :
    (blockList decode).Canonical (fun values => .arr (values.map encode)) given := by
  intro values decoded
  cases given with
  | arr items => exact congrArg Json.arr (items_canonical (canonical items rfl) decoded)
  | null => cases notNull
  | _ => cases decoded

theorem record_canonical {name key : String} {make : α → β} {write : β → Json}
    (writes : ∀ value, write (make value) = .obj [(key, encode value)])
    (canonical : ∀ given, decode.Canonical encode given) {entries : List (String × Json)}
    (sorted : Keyed.Sorted entries) (only : ∀ entry ∈ entries, entry.1 = key) :
    (record name (make <$> Fields.required key decode)).Canonical write (.obj entries) := by
  intro result decoded
  obtain ⟨value, field, rfl⟩ :=
    Fields.map_ofEntries_ok_iff.mp (record_obj_ok_iff.mp decoded)
  rcases (Fields.single_dropNulls_ok_iff sorted).mp field with ⟨given, found, _, read⟩ | ⟨_, none⟩
  · rw [Keyed.eq_singleton sorted only found, writes, canonical given value read]
  · cases none

end Decoder

/-- How a configuration gives a value: as it is written, or not at all if it is the empty one. -/
inductive Stated {α : Type} (encode : α → Json) (empty : α) : Option Json → α → Prop
  | written (value : α) : Stated encode empty (some (encode value)) value
  | missing : Stated encode empty none empty
  | null : Stated encode empty (some .null) empty

namespace Stated

variable {α : Type} {decode : Decoder α} {encode : α → Json} {empty value : α}
  {entries : List (String × Json)} {name : String}

theorem of_single {absent : Option α} (sorted : Keyed.Sorted entries)
    (canonical : ∀ given, entries.lookup name = some given → given.isNull = false →
      decode.Canonical encode given) (absentIs : ∀ value, absent = some value → value = empty)
    (decoded : (Fields.single name absent decode).ofEntries (Json.dropNullsEntries entries) =
      .ok value) : Stated encode empty (entries.lookup name) value := by
  rcases (Fields.single_dropNulls_ok_iff sorted).mp decoded with
    ⟨given, found, notNull, read⟩ | ⟨missing | null, absent⟩
  · rw [found, canonical given found notNull value read]
    exact .written value
  · rw [missing, absentIs value absent]
    exact .missing
  · rw [null, absentIs value absent]
    exact .null

theorem of_required_text {value : String} (sorted : Keyed.Sorted entries)
    (decoded : (Fields.required name Decoder.text).ofEntries (Json.dropNullsEntries entries) =
      .ok value) : Stated .str "" (entries.lookup name) value :=
  of_single sorted (fun given _ _ => Decoder.text_canonical given)
    (fun _ impossible => by cases impossible) decoded

theorem of_text {value : String} (sorted : Keyed.Sorted entries)
    (decoded : (Fields.defaulted name "" Decoder.text).ofEntries (Json.dropNullsEntries entries) =
      .ok value) : Stated .str "" (entries.lookup name) value :=
  of_single sorted (fun given _ _ => Decoder.text_canonical given)
    (fun _ given => (Option.some.inj given).symm) decoded

theorem of_texts {values : List String} (sorted : Keyed.Sorted entries)
    (decoded : (Fields.defaulted name [] (Decoder.blockList Decoder.text)).ofEntries
      (Json.dropNullsEntries entries) = .ok values) :
    Stated .strings [] (entries.lookup name) values :=
  of_single sorted
    (fun _ _ notNull => Decoder.blockList_canonical notNull
      fun _ _ item _ => Decoder.text_canonical item)
    (fun _ given => (Option.some.inj given).symm) decoded

theorem of_integer {value : Option Int64} (sorted : Keyed.Sorted entries)
    (decoded : (Fields.optional name Decoder.integer64).ofEntries (Json.dropNullsEntries entries) =
      .ok value) :
    Stated (fun value => Json.option (value.map .int64)) none (entries.lookup name) value := by
  refine of_single sorted ?_ (fun _ given => (Option.some.inj given).symm) decoded
  intro given _ notNull result read
  simp only [Json.isNull_dropNulls, notNull, Bool.false_eq_true, if_false] at read
  cases integer : Decoder.integer64 given.dropNulls with
  | error fault =>
    rw [integer] at read
    cases read
  | ok number =>
    rw [integer] at read
    rw [← Except.ok.inj read]
    exact Decoder.integer64_canonical given number integer

theorem eq_written {given : Option Json} (stated : Stated encode empty given value)
    (notEmpty : value ≠ empty) : given = some (encode value) := by
  cases stated with
  | written => rfl
  | missing => exact absurd rfl notEmpty
  | null => exact absurd rfl notEmpty

/-- A value is given as blank if it is the empty one, provided that the same holds of what is
written. -/
theorem isBlank_iff (blank : ∀ value, isBlank (some (encode value)) = true ↔ value = empty)
    {given : Option Json} (stated : Stated encode empty given value) :
    isBlank given = true ↔ value = empty := by
  cases stated with
  | written => exact blank value
  | missing => exact iff_of_true rfl rfl
  | null => exact iff_of_true rfl rfl

/-- A state agrees with a configuration under a name where it has the same value, and where it has
one that the configuration leaves to the server. -/
theorem agreesOn {schema : Schema} {prior : Json} {other : α}
    (stated : Stated encode empty (entries.lookup name) value)
    (blank : ∀ value, isBlank (some (encode value)) = true ↔ value = empty)
    (before : prior.get? name = some (encode other))
    (kept : schema.Alike name (encode other) (encode value) ∨
      name ∈ schema.computedNames ∧ value = empty)
    (filled : name ∈ schema.computedNames → isBlank (entries.lookup name) = false) :
    schema.agreesOn prior (.obj entries) name = true := by
  by_cases given : value = empty
  · have blankAfter := (stated.isBlank_iff blank).mpr given
    rcases kept with alike | ⟨computed, _⟩
    · have blankBefore : isBlank (prior.get? name) = true := by
        rw [before, alike.isBlank_eq]
        exact (blank value).mpr given
      exact Schema.agreesOn_of_blank blankBefore blankAfter
    · rw [filled computed] at blankAfter
      cases blankAfter
  · rcases kept with alike | ⟨_, isEmpty⟩
    · exact alike.agreesOn before (stated.eq_written given)
    · exact absurd isEmpty given

theorem isSet_items {values : List α} {given : Option Json}
    (stated : Stated (fun values => .arr (values.map encode)) [] given values) :
    isSet given = !values.isEmpty := by
  cases stated with
  | written => simp [isSet]
  | missing => rfl
  | null => rfl

end Stated

theorem isBlank_str (text : String) : isBlank (some (.str text)) = true ↔ text = "" := by
  simp [isBlank]

theorem isBlank_strings (texts : List String) :
    isBlank (some (.strings texts)) = true ↔ texts = [] := by
  simp [isBlank, Json.strings]

theorem isBlank_items {α : Type} {encode : α → Json} (values : List α) :
    isBlank (some (.arr (values.map encode))) = true ↔ values = [] := by
  simp [isBlank]

theorem isBlank_integer (value : Option Int64) :
    isBlank (some (Json.option (value.map .int64))) = true ↔ value = none := by
  cases value with
  | none => exact iff_of_true rfl rfl
  | some number => exact iff_of_false Bool.false_ne_true nofun

def Block.names (block : Block) : List String :=
  block.attributes.map Prod.fst ++ block.blocks.map Prod.fst

namespace Schema

/-- The items of nested blocks set only what their block declares. -/
def DeclaresItems (schema : Schema) (config : Json) : Prop :=
  ∀ b ∈ schema.block.blocks, ∀ items, config.get? b.1 = some (.arr items) →
    ∀ entries, .obj entries ∈ items → ∀ entry ∈ entries, entry.1 ∈ b.2.2.names

/-- A valid configuration whose nested items set only what is declared. -/
structure Clean (schema : Schema) (target : List (String × Json)) : Prop where
  wellFormed : (Json.obj target).WellFormed
  valid : schema.validate (.obj target) = []
  declares : schema.DeclaresItems (.obj target)

namespace Clean

variable {schema : Schema} {target : List (String × Json)} (clean : schema.Clean target)
  {name : String} {nesting : Nesting} {block : Block}
  (member : (name, nesting, block) ∈ schema.block.blocks) {α : Type} {encode : α → Json}
  {values : List α}

include clean member

theorem checks {items : List Json} (found : target.lookup name = some (.arr items)) :
    nesting.check items (joinPath "" name) = [] ∧
      ∀ item ∈ items, ∃ path, block.check item path = [] := by
  have entry := (Block.check_obj_eq_nil_iff.mp clean.valid).2.1 _ member
  unfold Nesting.checkEntry at entry
  simp only [found] at entry
  obtain ⟨counted, each⟩ := List.append_eq_nil_iff.mp entry
  refine ⟨counted, ?_⟩
  intro item inside
  obtain ⟨position, valid⟩ := flatMap_zipIdx_eq_nil each inside
  exact ⟨_, valid⟩

theorem stated {decode : Decoder α} (notNull : ∀ value, decode .null ≠ .ok value)
    (canonical : ∀ entries, Keyed.Sorted entries → (∀ entry ∈ entries, entry.1 ∈ block.names) →
      decode.Canonical encode (.obj entries))
    (decoded : (Fields.defaulted name [] (Decoder.blockList decode)).ofEntries
      (Json.dropNullsEntries target) = .ok values) :
    Stated (fun values => .arr (values.map encode)) [] (target.lookup name) values := by
  refine Stated.of_single clean.wellFormed.1 ?_ (fun _ given => (Option.some.inj given).symm)
    decoded
  intro given found given_not_null
  apply Decoder.blockList_canonical given_not_null
  rintro items rfl item inside
  cases item with
  | obj entries =>
    have sorted := ((clean.wellFormed.of_lookup found).of_item inside).1
    exact canonical entries sorted (clean.declares _ member items found entries inside)
  | null =>
    intro value read
    exact absurd read (notNull value)
  | _ =>
    obtain ⟨path, valid⟩ := (clean.checks member found).2 _ inside
    obtain ⟨attributes, blocks, groups, description⟩ := block
    simp [Block.check] at valid

theorem length_le_one (limit : nesting.maxItems = 1)
    (stated : Stated (fun values => .arr (values.map encode)) [] (target.lookup name) values)
    (counted : ∀ items, target.lookup name = some (.arr items) → items.length < UInt32.size) :
    values.length ≤ 1 := by
  by_cases none : values = []
  · simp [none]
  · have found := stated.eq_written none
    have few := (clean.checks member found).1
    have small := counted _ found
    unfold Nesting.check at few
    rw [Nat.mod_eq_of_lt small] at few
    simp only [limit, List.length_map] at few
    apply Decidable.byContradiction
    intro many
    simp [Nat.lt_of_not_le many] at few

end Clean

end Schema

end Provisioner

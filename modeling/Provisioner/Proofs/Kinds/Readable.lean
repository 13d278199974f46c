import Mathlib.Tactic.Tauto
import Provisioner.Proofs.Json.Codec
import Provisioner.Proofs.Kinds.Fields
import Provisioner.Proofs.Plan.Replan

/-!
# What a valid configuration lacks to be read

The check of a schema and the decoder of a state look at a configuration separately. What passes the
check decodes, but for three things that the check leaves open: an integer may be one that has no
64 bits to be read into, what only the server sets may be of any type, and an item of a block may be
null.
-/

namespace Provisioner

set_option autoImplicit false

open Http (Wire)

/-- What the check of an attribute leaves open: an integer has to be one of 64 bits, and what only
the server sets has to be of its type all the same. -/
def Attribute.Readable (a : Attribute) : Option Json → Prop
  | none | some .null => True
  | some value =>
    (a.type = .int64 → ∃ number : Int64, value = .int64 number) ∧
      (a.flags.isComputedOnly = true → a.type.check value "" = [])

mutual

/-- What the check of a block leaves open: what it does of each attribute, and that no item of a
nested block is null. -/
def Block.Readable : Block → Json → Prop
  | ⟨attributes, blocks, _, _⟩, .obj entries =>
    (∀ a ∈ attributes, a.2.Readable (entries.lookup a.1)) ∧ ReadableNested blocks entries
  | _, value => value.isNull = false

def ReadableNested : List (String × Nesting × Block) → List (String × Json) → Prop
  | [], _ => True
  | (name, _, block) :: rest, entries =>
    (∀ items, entries.lookup name = some (.arr items) → ∀ item ∈ items, block.Readable item) ∧
      ReadableNested rest entries

end

/-- Every item of a nested block is readable. -/
def Block.ReadableItems (block : Block) (value : Option Json) : Prop :=
  ∀ items, value = some (.arr items) → ∀ item ∈ items, block.Readable item

theorem readableNested_iff {blocks : List (String × Nesting × Block)}
    {entries : List (String × Json)} :
    ReadableNested blocks entries ↔ ∀ b ∈ blocks, b.2.2.ReadableItems (entries.lookup b.1) := by
  induction blocks with
  | nil => simp [ReadableNested]
  | cons head rest ih =>
    obtain ⟨name, nesting, block⟩ := head
    rw [ReadableNested, ih, List.forall_mem_cons]
    rfl

theorem Block.readable_obj_iff {block : Block} {entries : List (String × Json)} :
    block.Readable (.obj entries) ↔
      (∀ a ∈ block.attributes, a.2.Readable (entries.lookup a.1)) ∧
        ∀ b ∈ block.blocks, b.2.2.ReadableItems (entries.lookup b.1) := by
  obtain ⟨attributes, blocks, groups, description⟩ := block
  rw [Block.Readable, readableNested_iff]

theorem Block.not_readable_null (block : Block) : ¬block.Readable .null := by
  obtain ⟨attributes, blocks, groups, description⟩ := block
  simp [Block.Readable, Json.isNull]

theorem Block.check_obj_eq_nil_iff {block : Block} {entries : List (String × Json)}
    {path : String} :
    block.check (.obj entries) path = [] ↔
      (∀ a ∈ block.attributes, a.2.check (entries.lookup a.1) (joinPath path a.1) = []) ∧
      (∀ b ∈ block.blocks,
        b.2.1.checkEntry b.2.2 (entries.lookup b.1) (joinPath path b.1) = []) ∧
      ∀ group ∈ block.exactlyOneOf, checkGroup entries path group = [] := by
  rw [block.check_obj, List.append_eq_nil_iff, List.append_eq_nil_iff, List.flatMap_eq_nil_iff,
    List.flatMap_eq_nil_iff, List.flatMap_eq_nil_iff, and_assoc]

namespace Json.WellFormed

variable {items : List Json} {entries : List (String × Json)} {value : Json}

theorem of_item (wellFormed : (Json.arr items).WellFormed) (member : value ∈ items) :
    value.WellFormed := by
  unfold Json.WellFormed at wellFormed
  induction items with
  | nil => cases member
  | cons head rest ih =>
    obtain ⟨here, later⟩ := wellFormed
    rcases List.mem_cons.mp member with rfl | member
    · exact here
    · exact ih member later

theorem of_lookup (wellFormed : (Json.obj entries).WellFormed) {key : String}
    (found : entries.lookup key = some value) : value.WellFormed := by
  obtain ⟨-, wellFormed⟩ := wellFormed
  induction entries with
  | nil => cases found
  | cons head rest ih =>
    obtain ⟨k, given⟩ := head
    obtain ⟨here, later⟩ := wellFormed
    rw [List.lookup_cons] at found
    split at found
    · cases found
      exact here
    · exact ih found later

end Json.WellFormed

namespace Fields

variable {α β : Type} {entries : List (String × Json)}

/-- Some value is read. -/
def Reads (fields : Fields α) (entries : List (String × Json)) : Prop :=
  ∃ value, fields.ofEntries entries = .ok value

@[simp] theorem reads_pure (value : α) : (Pure.pure value : Fields α).Reads entries := ⟨value, rfl⟩

@[simp] theorem reads_seq {f : Fields (α → β)} {a : Fields α} :
    (f <*> a).Reads entries ↔ f.Reads entries ∧ a.Reads entries := by
  simp only [Reads, seq_ofEntries_ok_iff]
  constructor
  · rintro ⟨_, g, x, first, second, _⟩
    exact ⟨⟨g, first⟩, ⟨x, second⟩⟩
  · rintro ⟨⟨g, first⟩, ⟨x, second⟩⟩
    exact ⟨g x, g, x, first, second, rfl⟩

@[simp] theorem reads_map {f : α → β} {a : Fields α} :
    (f <$> a).Reads entries ↔ a.Reads entries := by
  simp only [Reads, map_ofEntries_ok_iff]
  constructor
  · rintro ⟨_, x, found, _⟩
    exact ⟨x, found⟩
  · rintro ⟨x, found⟩
    exact ⟨f x, x, found, rfl⟩

/-- A field can do with what an entry holds. -/
def ReadsEntry (absent : Option α) (decode : Decoder α) : Option Json → Prop
  | none | some .null => absent.isSome = true
  | some given => ∃ value, decode given.dropNulls = .ok value

theorem reads_single_iff (sorted : Keyed.Sorted entries) {name : String} {absent : Option α}
    {decode : Decoder α} :
    (single name absent decode).Reads (Json.dropNullsEntries entries) ↔
      ReadsEntry absent decode (entries.lookup name) := by
  simp only [Reads, single_dropNulls_ok_iff sorted]
  cases entries.lookup name with
  | none => simp [ReadsEntry, Option.isSome_iff_exists]
  | some given => cases given <;> simp [ReadsEntry, Option.isSome_iff_exists, Json.isNull]

end Fields

theorem flatMap_zipIdx_eq_nil {α β : Type} {f : α × Nat → List β} {items : List α}
    (none : items.zipIdx.flatMap f = []) {item : α} (member : item ∈ items) :
    ∃ position, f (item, position) = [] := by
  obtain ⟨position, placed⟩ := List.mem_iff_getElem?.mp member
  rw [List.flatMap_eq_nil_iff] at none
  exact ⟨position, none (item, position) (List.mem_zipIdx_iff_getElem?.mpr placed)⟩

theorem exists_map_ok_iff {ε α β : Type} {f : α → β} {result : Except ε α} :
    (∃ value, result.map f = .ok value) ↔ ∃ value, result = .ok value := by
  cases result <;> simp [Except.map]

namespace Decoder

variable {α : Type}

theorem items_reads_iff {decode : Decoder α} {given : List Json} :
    (∃ values, items decode given = .ok values) ↔
      ∀ item ∈ given, ∃ value, decode item = .ok value := by
  induction given with
  | nil => simp [items]
  | cons item rest ih =>
    rw [List.forall_mem_cons, ← ih, items]
    cases decode item with
    | error fault => simp
    | ok head => cases items decode rest <;> simp

theorem blockList_arr_reads_iff {decode : Decoder α} {given : List Json} :
    (∃ values, blockList decode (Json.arr given).dropNulls = .ok values) ↔
      ∀ item ∈ given, ∃ value, decode item.dropNulls = .ok value := by
  refine Iff.trans items_reads_iff ?_
  rw [Json.dropNullsItems_eq_map, List.forall_mem_map]

theorem texts_of_check {given : Json} {path : String}
    (valid : (AttributeType.set .string).check given path = []) :
    ∃ values, blockList text given.dropNulls = .ok values := by
  cases given with
  | arr items =>
    rw [AttributeType.check] at valid
    apply blockList_arr_reads_iff.mpr
    intro item member
    obtain ⟨position, wanted⟩ := flatMap_zipIdx_eq_nil valid member
    cases item with
    | str value => exact ⟨value, rfl⟩
    | _ => simp [AttributeType.check] at wanted
  | _ => simp [AttributeType.check] at valid

theorem textEntries_of_texts {entries : List (String × Json)}
    (texts : ∀ entry ∈ entries, ∃ value, entry.2 = .str value) :
    ∃ values, textEntries (Json.dropNullsEntries entries) = .ok values := by
  induction entries with
  | nil => exact ⟨[], rfl⟩
  | cons head rest ih =>
    obtain ⟨key, given⟩ := head
    obtain ⟨⟨value, rfl⟩, others⟩ := List.forall_mem_cons.mp texts
    obtain ⟨values, read⟩ := ih others
    refine ⟨(key, value) :: values, ?_⟩
    simp [Json.dropNullsEntries, Json.isNull, Json.dropNulls, textEntries, text, read]

theorem settings_of_check (empty : Settings) {given : Json} {path : String}
    (valid : (AttributeType.map .string).check given path = []) :
    ∃ values, nullAs empty settings given.dropNulls = .ok values := by
  cases given with
  | obj entries =>
    rw [AttributeType.check, List.flatMap_eq_nil_iff] at valid
    have texts : ∀ entry ∈ entries, ∃ value, entry.2 = .str value := by
      intro entry member
      have wanted := valid entry member
      cases given : entry.2 with
      | str value => exact ⟨value, rfl⟩
      | _ => simp [given, AttributeType.check] at wanted
    obtain ⟨values, read⟩ := textEntries_of_texts texts
    refine ⟨.ofList values, ?_⟩
    show (textEntries _).map Settings.ofList = _
    rw [read]
    rfl
  | _ => simp [AttributeType.check] at valid

end Decoder

section Attributes

open Fields (ReadsEntry single reads_single_iff)

variable {α : Type} {entries : List (String × Json)} {name path : String} {a : Attribute}

theorem Fields.reads_single_text {absent : Option String} (sorted : Keyed.Sorted entries)
    (valid : a.check (entries.lookup name) path = []) (isText : a.type = .string)
    (present : absent.isSome = true ∨ a.flags.required = true) :
    (single name absent Decoder.text).Reads (Json.dropNullsEntries entries) ↔
      a.Readable (entries.lookup name) := by
  rw [reads_single_iff sorted]
  have required : a.flags.required = true → a.flags.isComputedOnly = false := by
    intro required
    simp [Flags.isComputedOnly, required]
  generalize entries.lookup name = value at valid ⊢
  unfold Attribute.check at valid
  rcases value with _ | given
  · simp only [ReadsEntry, Attribute.Readable, iff_true]
    rcases present with present | mandatory
    · exact present
    · simp [required mandatory, mandatory] at valid
  · cases given with
    | null =>
      simp only [ReadsEntry, Attribute.Readable, iff_true]
      rcases present with present | mandatory
      · exact present
      · simp [required mandatory, mandatory] at valid
    | str text => simp [ReadsEntry, Attribute.Readable, isText, Json.dropNulls, Decoder.text,
        AttributeType.check]
    | _ =>
      -- Another value is a fault unless only the server sets the attribute.
      cases only : a.flags.isComputedOnly with
      | true => simp [ReadsEntry, Attribute.Readable, isText, Json.dropNulls, Decoder.text, only,
          AttributeType.check]
      | false => simp [only, isText, AttributeType.check] at valid

theorem Fields.reads_text (sorted : Keyed.Sorted entries)
    (valid : a.check (entries.lookup name) path = []) (isText : a.type = .string) :
    (Fields.defaulted name "" Decoder.text).Reads (Json.dropNullsEntries entries) ↔
      a.Readable (entries.lookup name) :=
  reads_single_text sorted valid isText (.inl rfl)

theorem Fields.reads_required_text (sorted : Keyed.Sorted entries)
    (valid : a.check (entries.lookup name) path = []) (isText : a.type = .string)
    (mandatory : a.flags.required = true) :
    (Fields.required name Decoder.text).Reads (Json.dropNullsEntries entries) ↔
      a.Readable (entries.lookup name) :=
  reads_single_text sorted valid isText (.inr mandatory)

theorem Fields.reads_optional_integer (sorted : Keyed.Sorted entries)
    (valid : a.check (entries.lookup name) path = []) (isInteger : a.type = .int64)
    (configurable : a.flags.isComputedOnly = false) :
    (Fields.optional name Decoder.integer64).Reads (Json.dropNullsEntries entries) ↔
      a.Readable (entries.lookup name) := by
  rw [Fields.optional, Fields.defaulted, reads_single_iff sorted]
  generalize entries.lookup name = value at valid ⊢
  rcases value with _ | given
  · simp [ReadsEntry, Attribute.Readable]
  · cases given with
    | null => simp [ReadsEntry, Attribute.Readable]
    | num number =>
      simp [ReadsEntry, Attribute.Readable, isInteger, configurable, Json.dropNulls, Json.isNull,
        exists_map_ok_iff, Decoder.integer64_ok_iff]
    | _ => simp [Attribute.check, configurable, isInteger, AttributeType.check] at valid

theorem Fields.reads_integer (sorted : Keyed.Sorted entries)
    (valid : a.check (entries.lookup name) path = []) (isInteger : a.type = .int64)
    (mandatory : a.flags.required = true) :
    (Fields.required name Decoder.integer64).Reads (Json.dropNullsEntries entries) ↔
      a.Readable (entries.lookup name) := by
  rw [Fields.required, reads_single_iff sorted]
  have configurable : a.flags.isComputedOnly = false := by
    simp [Flags.isComputedOnly, mandatory]
  generalize entries.lookup name = value at valid ⊢
  rcases value with _ | given
  · simp [Attribute.check, configurable, mandatory] at valid
  · cases given with
    | null => simp [Attribute.check, configurable, mandatory] at valid
    | num number =>
      simp [ReadsEntry, Attribute.Readable, isInteger, configurable, Json.dropNulls,
        Decoder.integer64_ok_iff]
    | _ => simp [Attribute.check, configurable, isInteger, AttributeType.check] at valid

theorem Fields.reads_collection {empty : α} {decode : Decoder α}
    (reads : ∀ {given path}, a.type.check given path = [] →
      ∃ value, decode given.dropNulls = .ok value)
    (sorted : Keyed.Sorted entries) (valid : a.check (entries.lookup name) path = [])
    (notInteger : a.type ≠ .int64) (configurable : a.flags.isComputedOnly = false) :
    (Fields.defaulted name empty decode).Reads (Json.dropNullsEntries entries) ↔
      a.Readable (entries.lookup name) := by
  rw [Fields.defaulted, reads_single_iff sorted]
  generalize entries.lookup name = value at valid ⊢
  unfold Attribute.check at valid
  simp only [configurable, Bool.false_eq_true, if_false] at valid
  rcases value with _ | given
  · simp [ReadsEntry, Attribute.Readable]
  · cases given with
    | null => simp [ReadsEntry, Attribute.Readable]
    | _ => simpa [ReadsEntry, Attribute.Readable, notInteger, configurable] using reads valid

theorem Fields.reads_texts (sorted : Keyed.Sorted entries)
    (valid : a.check (entries.lookup name) path = []) (isSet : a.type = .set .string)
    (configurable : a.flags.isComputedOnly = false) :
    (Fields.defaulted name [] (Decoder.blockList Decoder.text)).Reads
        (Json.dropNullsEntries entries) ↔ a.Readable (entries.lookup name) := by
  apply reads_collection _ sorted valid (by simp [isSet]) configurable
  rw [isSet]
  exact Decoder.texts_of_check

theorem Fields.reads_settings (sorted : Keyed.Sorted entries)
    (valid : a.check (entries.lookup name) path = []) (isMap : a.type = .map .string)
    (configurable : a.flags.isComputedOnly = false) :
    (Fields.defaulted name .empty (Decoder.nullAs .empty Decoder.settings)).Reads
        (Json.dropNullsEntries entries) ↔ a.Readable (entries.lookup name) := by
  apply reads_collection _ sorted valid (by simp [isMap]) configurable
  rw [isMap]
  exact Decoder.settings_of_check .empty

end Attributes

namespace Block

open Fields (ReadsEntry)

variable {α : Type} {block : Block} {decode : Decoder α}

/-- Of the values that pass the block's check the decoder reads the readable ones. -/
structure ReadBy (block : Block) (decode : Decoder α) : Prop where
  decides : ∀ {value : Json} {path : String}, value.WellFormed → block.check value path = [] →
    ((∃ result, decode value.dropNulls = .ok result) ↔ block.Readable value)

/-- A record reads what each of its fields can do with. -/
theorem ReadBy.of_record {name : String} {fields : Fields α}
    (reads : ∀ {entries : List (String × Json)} {path : String},
      (Json.obj entries).WellFormed → block.check (.obj entries) path = [] →
      (fields.Reads (Json.dropNullsEntries entries) ↔ block.Readable (.obj entries))) :
    block.ReadBy (Decoder.record name fields) := by
  refine ⟨?_⟩
  intro value path wellFormed valid
  cases value with
  | obj entries =>
    rw [← reads wellFormed valid]
    simp only [Json.dropNulls, Decoder.record_obj_ok_iff, Fields.Reads]
  | null => simp [Json.dropNulls, Decoder.record, block.not_readable_null]
  | _ =>
    obtain ⟨attributes, blocks, groups, description⟩ := block
    simp [Block.check] at valid

theorem ReadBy.readsEntry (readBy : block.ReadBy decode) {nesting : Nesting} {value : Option Json}
    {path : String} (wellFormed : ∀ given, value = some given → given.WellFormed)
    (valid : nesting.checkEntry block value path = []) :
    ReadsEntry (some []) (Decoder.blockList decode) value ↔ block.ReadableItems value := by
  rcases value with _ | given
  · simp [ReadsEntry, ReadableItems]
  · cases given with
    | null => simp [ReadsEntry, ReadableItems]
    | arr items =>
      have items_valid := (List.append_eq_nil_iff.mp valid).2
      have each : ∀ item ∈ items,
          ((∃ result, decode item.dropNulls = .ok result) ↔ block.Readable item) := by
        intro item member
        obtain ⟨position, item_valid⟩ := flatMap_zipIdx_eq_nil items_valid member
        exact readBy.decides (Json.WellFormed.of_item (wellFormed _ rfl) member) item_valid
      simp only [ReadsEntry, Decoder.blockList_arr_reads_iff, ReadableItems, Option.some.injEq,
        Json.arr.injEq, forall_eq']
      exact forall₂_congr each
    | _ => simp [Nesting.checkEntry] at valid

end Block

theorem Block.ReadBy.reads {block : Block} {α : Type} {decode : Decoder α}
    (readBy : block.ReadBy decode) {entries : List (String × Json)} {name path : String}
    {nesting : Nesting} (wellFormed : (Json.obj entries).WellFormed)
    (valid : nesting.checkEntry block (entries.lookup name) path = []) :
    (Fields.defaulted name [] (Decoder.blockList decode)).Reads (Json.dropNullsEntries entries) ↔
      block.ReadableItems (entries.lookup name) :=
  (Fields.reads_single_iff wellFormed.1).trans
    (readBy.readsEntry (fun _ given => wellFormed.of_lookup given) valid)

open Fields (reads_seq reads_map reads_text reads_required_text reads_integer
  reads_optional_integer reads_texts reads_settings)

theorem Reference.readBy (name : String) (flags : Flags) (mandatory : flags.required = true) :
    (Block.reference flags).ReadBy (Reference.decodeAs name) := by
  apply Block.ReadBy.of_record
  intro entries path wellFormed valid
  simp only [Block.check_obj_eq_nil_iff, Block.reference, List.forall_mem_cons] at valid
  obtain ⟨⟨id, -⟩, -⟩ := valid
  rw [reads_map, reads_required_text wellFormed.1 id rfl mandatory]
  simp [Block.readable_obj_iff, Block.reference]

theorem Reference.reads_block {entries : List (String × Json)} {name path : String}
    {nesting : Nesting} (wellFormed : (Json.obj entries).WellFormed)
    (valid : nesting.checkEntry (.reference .mandatory) (entries.lookup name) path = []) :
    (Fields.defaulted name [] Reference.decodeBlock).Reads (Json.dropNullsEntries entries) ↔
      (Block.reference .mandatory).ReadableItems (entries.lookup name) :=
  (Reference.readBy "IdRef" .mandatory rfl).reads wellFormed valid

namespace Connector

theorem readBy : schema.block.ReadBy State.decode := by
  apply Block.ReadBy.of_record
  intro entries path wellFormed valid
  have sorted := wellFormed.1
  simp only [Block.check_obj_eq_nil_iff, schema, List.forall_mem_cons] at valid
  obtain ⟨⟨plain, secret, id, status, -⟩, ⟨environment, kafkaCluster, -⟩, -⟩ := valid
  simp only [reads_seq, reads_map, decodeSettings, reads_text sorted id rfl,
    reads_text sorted status rfl, Reference.reads_block wellFormed environment,
    Reference.reads_block wellFormed kafkaCluster,
    reads_settings sorted plain rfl rfl,
    reads_settings sorted secret rfl rfl,
    Block.readable_obj_iff, schema, List.forall_mem_cons]
  tauto

end Connector

namespace Environment

theorem governance_readBy (flags : Flags) (mandatory : flags.required = true) :
    (governanceBlock flags).2.2.ReadBy Governance.decode := by
  apply Block.ReadBy.of_record
  intro entries path wellFormed valid
  simp only [Block.check_obj_eq_nil_iff, governanceBlock, List.forall_mem_cons] at valid
  obtain ⟨⟨package, -⟩, -⟩ := valid
  rw [reads_map, reads_required_text wellFormed.1 package rfl mandatory]
  simp [Block.readable_obj_iff, governanceBlock]

theorem readBy : schema.block.ReadBy State.decode := by
  apply Block.ReadBy.of_record
  intro entries path wellFormed valid
  have sorted := wellFormed.1
  simp only [Block.check_obj_eq_nil_iff, schema, List.forall_mem_cons] at valid
  obtain ⟨⟨displayName, id, resourceName, -⟩, ⟨governance, -⟩, -⟩ := valid
  have reads := (governance_readBy .mandatory rfl).reads wellFormed governance
  simp only [reads_seq, reads_map, reads_required_text sorted displayName rfl rfl,
    reads_text sorted id rfl, reads_text sorted resourceName rfl,
    show (Fields.defaulted "stream_governance" [] _).Reads _ ↔ _ from reads,
    Block.readable_obj_iff, schema, List.forall_mem_cons]
  tauto

end Environment

namespace FlinkComputePool

theorem readBy : schema.block.ReadBy State.decode := by
  apply Block.ReadBy.of_record
  intro entries path wellFormed valid
  have sorted := wellFormed.1
  simp only [Block.check_obj_eq_nil_iff, schema, List.forall_mem_cons] at valid
  obtain ⟨⟨cloud, displayName, id, maxCfu, region, resourceName, -⟩, ⟨environment, -⟩, -⟩ := valid
  simp only [reads_seq, reads_map, reads_required_text sorted cloud rfl rfl,
    reads_required_text sorted displayName rfl rfl, reads_text sorted id rfl,
    reads_optional_integer sorted maxCfu rfl rfl, reads_required_text sorted region rfl rfl,
    reads_text sorted resourceName rfl, Reference.reads_block wellFormed environment,
    Block.readable_obj_iff, schema, List.forall_mem_cons]
  tauto

end FlinkComputePool

namespace KafkaCluster

theorem marker_readBy (name : String) : Block.ReadBy {} (decodeMarker name) := by
  apply Block.ReadBy.of_record
  intro entries path wellFormed valid
  simp [Block.readable_obj_iff]

theorem size_readBy (description : String) :
    Block.ReadBy { attributes := [("cku", (Attribute.integer .mandatory).described description)] }
      Size.decode := by
  apply Block.ReadBy.of_record
  intro entries path wellFormed valid
  simp only [Block.check_obj_eq_nil_iff, List.forall_mem_cons] at valid
  obtain ⟨⟨cku, -⟩, -⟩ := valid
  rw [reads_map, reads_integer wellFormed.1 cku rfl rfl]
  simp [Block.readable_obj_iff]

theorem readBy : schema.block.ReadBy State.decode := by
  apply Block.ReadBy.of_record
  intro entries path wellFormed valid
  have sorted := wellFormed.1
  simp only [Block.check_obj_eq_nil_iff, schema, List.forall_mem_cons] at valid
  obtain ⟨⟨availability, bootstrapEndpoint, cloud, displayName, id, region, resourceName,
    restEndpoint, -⟩, ⟨basic, dedicated, environment, network, standard, -⟩, -⟩ := valid
  simp only [reads_seq, reads_map, reads_required_text sorted availability rfl rfl,
    reads_text sorted bootstrapEndpoint rfl, reads_required_text sorted cloud rfl rfl,
    reads_required_text sorted displayName rfl rfl, reads_text sorted id rfl,
    reads_required_text sorted region rfl rfl, reads_text sorted resourceName rfl,
    reads_text sorted restEndpoint rfl, (marker_readBy "Basic").reads wellFormed basic,
    (size_readBy _).reads wellFormed dedicated, Reference.reads_block wellFormed environment,
    Reference.reads_block wellFormed network, (marker_readBy "Standard").reads wellFormed standard,
    Block.readable_obj_iff, schema, List.forall_mem_cons]
  tauto

end KafkaCluster

namespace KafkaTopic

theorem credentials_readBy :
    Block.ReadBy { attributes := [
        ("key", (Attribute.text .mandatory).secret),
        ("secret", (Attribute.text .mandatory).secret)] } decodeCredentials := by
  apply Block.ReadBy.of_record
  intro entries path wellFormed valid
  simp only [Block.check_obj_eq_nil_iff, List.forall_mem_cons] at valid
  obtain ⟨⟨key, secret, -⟩, -⟩ := valid
  rw [reads_seq, reads_map, reads_required_text wellFormed.1 key rfl rfl,
    reads_required_text wellFormed.1 secret rfl rfl]
  simp [Block.readable_obj_iff]

theorem readBy : schema.block.ReadBy State.decode := by
  apply Block.ReadBy.of_record
  intro entries path wellFormed valid
  have sorted := wellFormed.1
  simp only [Block.check_obj_eq_nil_iff, schema, List.forall_mem_cons] at valid
  obtain ⟨⟨config, id, partitions, restEndpoint, topicName, -⟩,
    ⟨credentials, kafkaCluster, -⟩, -⟩ := valid
  simp only [reads_seq, reads_map,
    reads_settings sorted config rfl rfl, reads_text sorted id rfl,
    reads_optional_integer sorted partitions rfl rfl, reads_text sorted restEndpoint rfl,
    reads_required_text sorted topicName rfl rfl,
    credentials_readBy.reads wellFormed credentials,
    Reference.reads_block wellFormed kafkaCluster,
    Block.readable_obj_iff, schema, List.forall_mem_cons]
  tauto

end KafkaTopic

namespace Network

theorem readBy : schema.block.ReadBy State.decode := by
  apply Block.ReadBy.of_record
  intro entries path wellFormed valid
  have sorted := wellFormed.1
  simp only [Block.check_obj_eq_nil_iff, schema, List.forall_mem_cons] at valid
  obtain ⟨⟨cidr, cloud, connectionTypes, displayName, id, region, resourceName, zones, -⟩,
    ⟨environment, -⟩, -⟩ := valid
  simp only [reads_seq, reads_map, reads_text sorted cidr rfl,
    reads_required_text sorted cloud rfl rfl,
    reads_texts sorted connectionTypes rfl rfl,
    reads_text sorted displayName rfl, reads_text sorted id rfl,
    reads_required_text sorted region rfl rfl, reads_text sorted resourceName rfl,
    reads_texts sorted zones rfl rfl,
    Reference.reads_block wellFormed environment,
    Block.readable_obj_iff, schema, List.forall_mem_cons]
  tauto

end Network

namespace ServiceAccount

theorem readBy : schema.block.ReadBy State.decode := by
  apply Block.ReadBy.of_record
  intro entries path wellFormed valid
  have sorted := wellFormed.1
  simp only [Block.check_obj_eq_nil_iff, schema, List.forall_mem_cons] at valid
  obtain ⟨⟨description, displayName, id, -⟩, -⟩ := valid
  simp only [reads_seq, reads_map, reads_text sorted description rfl,
    reads_required_text sorted displayName rfl rfl, reads_text sorted id rfl,
    Block.readable_obj_iff, schema, List.forall_mem_cons]
  tauto

end ServiceAccount

theorem readBy_of_mem_kinds {kind : Kind Wire} (member : kind ∈ kinds) :
    kind.schema.block.ReadBy kind.decode := by
  simp only [kinds, List.mem_cons, List.not_mem_nil, or_false] at member
  rcases member with rfl | rfl | rfl | rfl | rfl | rfl | rfl
  · exact Connector.readBy
  · exact Environment.readBy
  · exact FlinkComputePool.readBy
  · exact KafkaCluster.readBy
  · exact KafkaTopic.readBy
  · exact Network.readBy
  · exact ServiceAccount.readBy

/-- A configuration that the schema of its kind accepts is decoded exactly if it is readable, and
refused as one that does not match the schema exactly if it is not. -/
theorem accepted_decodes_iff (kind : Kind Wire) (member : kind ∈ kinds) (config : Json)
    (wellFormed : config.WellFormed) (valid : kind.schema.validate config = []) :
    ((∃ state, kind.decode.fromState config = .ok state) ↔ kind.schema.block.Readable config) ∧
    ((∃ reason, kind.decode.fromState config =
        refuse (.validation ("configuration does not match the schema: " ++ reason))) ↔
      ¬kind.schema.block.Readable config) := by
  have decides := (readBy_of_mem_kinds member).decides wellFormed valid
  rw [← decides]
  unfold Decoder.fromState
  cases kind.decode config.dropNulls with
  | ok state => simp [refuse]
  | error fault =>
    refine ⟨by simp [refuse], ?_⟩
    simp only [reduceCtorEq, exists_false, not_false_eq_true, iff_true]
    exact ⟨fault.message, rfl⟩

namespace FlinkComputePool

/-- A pool of a given size in one environment. -/
def sized (size environment : Json) : Json :=
  .obj [
    ("cloud", .str "AWS"),
    ("display_name", .str "pool"),
    ("environment", .arr [environment]),
    ("max_cfu", size),
    ("region", .str "eu-1")]

/-- The double 10. -/
def wholeTen : Json :=
  .num (.double { negative := false, rank := 1026 * Nat.pow 2 52 + Nat.pow 2 50 })

def homeEnvironment : Json := .obj [("id", .str "env-1")]

theorem sized_wellFormed {size environment : Json} (one : size.WellFormed)
    (other : environment.WellFormed) : (sized size environment).WellFormed := by
  have sorted : Keyed.Sorted [("cloud", Json.str "AWS"), ("display_name", .str "pool"),
      ("environment", .arr [environment]), ("max_cfu", size), ("region", .str "eu-1")] :=
    Keyed.sorted_of_keys ["cloud", "display_name", "environment", "max_cfu", "region"] rfl
      (by decide)
  exact ⟨sorted, trivial, trivial, ⟨other, trivial⟩, one, trivial, trivial⟩

theorem accepts_wholeTen : schema.validate (sized wholeTen homeEnvironment) = [] := by
  decide +kernel

/-- The schema takes a size given as a whole double, and a null item for an environment. Neither is
decoded. -/
theorem accepts_undecoded :
    (schema.validate (sized wholeTen homeEnvironment) = [] ∧
      ∀ state, State.decode.fromState (sized wholeTen homeEnvironment) ≠ .ok state) ∧
    schema.validate (sized (.int 10) .null) = [] ∧
      ∀ state, State.decode.fromState (sized (.int 10) .null) ≠ .ok state := by
  refine ⟨⟨accepts_wholeTen, ?_⟩, by decide +kernel, ?_⟩
  · intro state decoded
    cases decoded
  · intro state decoded
    cases decoded

/-- A size given as an integer is decoded, the same size given as a double is refused. -/
theorem accepted_decodes_integer :
    (∃ state, kind.decode.fromState (sized (.int 10) homeEnvironment) = .ok state) ∧
      ∃ reason, kind.decode.fromState (sized wholeTen homeEnvironment) =
        refuse (.validation ("configuration does not match the schema: " ++ reason)) := by
  have listed : kind ∈ kinds := by simp [kinds]
  have home : homeEnvironment.WellFormed := ⟨List.pairwise_singleton _ _, trivial, trivial⟩
  have integer : (Json.int 10).WellFormed := trivial
  have double : wholeTen.WellFormed := trivial
  constructor
  · apply (accepted_decodes_iff kind listed _ (sized_wellFormed integer home)
      (by decide +kernel)).1.mpr
    refine Block.readable_obj_iff.mpr ⟨?_, ?_⟩
    · have text : ∀ {flags value}, (Attribute.text flags).Readable (some (.str value)) :=
        ⟨nofun, fun _ => rfl⟩
      simp only [kind, schema, List.forall_mem_cons]
      exact ⟨text, text, trivial, ⟨fun _ => ⟨10, rfl⟩, nofun⟩, text, trivial, nofun⟩
    · simp only [kind, schema, List.forall_mem_cons]
      refine ⟨?_, nofun⟩
      rintro items ⟨⟩ item member
      obtain rfl := List.mem_singleton.mp member
      refine Block.readable_obj_iff.mpr ⟨?_, nofun⟩
      simp only [Block.reference, List.forall_mem_cons]
      exact ⟨⟨nofun, nofun⟩, nofun⟩
  · apply (accepted_decodes_iff kind listed _ (sized_wellFormed double home)
      accepts_wholeTen).2.mpr
    intro readable
    obtain ⟨attributes, _⟩ := Block.readable_obj_iff.mp readable
    have size := attributes ("max_cfu", _) (List.mem_of_getElem? (i := 3) rfl)
    obtain ⟨number, same⟩ := size.1 rfl
    cases same

end FlinkComputePool

end Provisioner

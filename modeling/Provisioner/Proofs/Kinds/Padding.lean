import Provisioner.Proofs.Kinds.Readable
import Provisioner.Proofs.Plan.Nulls

/-!
# Blank values that count as absent

An empty text, list or map under a computed name decodes to what stands in for an absent entry, as
long as it is of the name's own type. So an object decodes alike with and without such entries. What
only the server sets is text in every kind, and an empty list or object there does not decode.
-/

namespace Provisioner

set_option autoImplicit false

open Http (Wire)

theorem Json.blank_cases {value : Json} (blank : isBlank (some value) = true)
    (notNull : value.isNull = false) : value = .str "" ∨ value = .arr [] ∨ value = .obj [] := by
  cases value with
  | null => cases notNull
  | bool => cases blank
  | num => cases blank
  | str text => exact Or.inl (congrArg Json.str (String.isEmpty_iff.mp blank))
  | arr items => exact Or.inr (Or.inl (congrArg Json.arr (List.isEmpty_iff.mp blank)))
  | obj entries => exact Or.inr (Or.inr (congrArg Json.obj (List.isEmpty_iff.mp blank)))

theorem Json.dropNulls_of_blank {value : Json} (blank : isBlank (some value) = true)
    (notNull : value.isNull = false) : value.dropNulls = value := by
  rcases blank_cases blank notNull with rfl | rfl | rfl
  · rfl
  · rfl
  · rfl

/-- The blank value of a type. No number and no truth value is blank. -/
def AttributeType.blank? : AttributeType → Option Json
  | .string => some (.str "")
  | .list _ | .set _ => some (.arr [])
  | .map _ => some (.obj [])
  | .int64 | .bool => none

theorem AttributeType.blank?_of_check {type : AttributeType} {value : Json} {path : String}
    (valid : type.check value path = []) (blank : isBlank (some value) = true)
    (notNull : value.isNull = false) : type.blank? = some value := by
  rcases Json.blank_cases blank notNull with rfl | rfl | rfl
  · cases type <;> first | rfl | simp [check] at valid
  · cases type <;> first | rfl | simp [check] at valid
  · cases type <;> first | rfl | simp [check] at valid

namespace Schema

/-- The blank value of a name. -/
def blank? (schema : Schema) (name : String) : Option Json :=
  match schema.attribute? name with
  | some a => a.type.blank?
  | none => (schema.nesting? name).map fun _ => .arr []

section Valid

variable {schema : Schema} {name : String} {target : List (String × Json)}

theorem blank?_of_valid_attribute {a : Attribute} {value : Json}
    (found : schema.attribute? name = some a) (configurable : schema.isComputedOnly name = false)
    (valid : a.check (some value) (joinPath "" name) = []) (blank : isBlank (some value) = true)
    (notNull : value.isNull = false) : schema.blank? name = some value := by
  have checked : a.flags.isComputedOnly = false := by
    unfold isComputedOnly at configurable
    rw [found] at configurable
    exact configurable
  unfold Attribute.check at valid
  simp only [checked, Bool.false_eq_true, if_false] at valid
  unfold blank?
  rw [found]
  cases value with
  | null => cases notNull
  | _ => exact AttributeType.blank?_of_check valid blank notNull

theorem eq_nil_of_valid_block {nesting : Nesting} {block : Block} {value : Json} {path : String}
    (valid : nesting.checkEntry block (some value) path = []) (blank : isBlank (some value) = true)
    (notNull : value.isNull = false) : value = .arr [] := by
  rcases Json.blank_cases blank notNull with rfl | rfl | rfl
  · simp [Nesting.checkEntry] at valid
  · rfl
  · simp [Nesting.checkEntry] at valid

/-- A computed name that a configuration may set is blank in a valid configuration only by the blank
value of its own type. -/
theorem blank?_of_valid {value : Json} (valid : schema.validate (.obj target) = [])
    (computed : name ∈ schema.computedNames) (configurable : schema.isComputedOnly name = false)
    (given : target.lookup name = some value) (blank : isBlank (some value) = true)
    (notNull : value.isNull = false) : schema.blank? name = some value := by
  obtain ⟨attributes, blocks, -⟩ := Block.check_obj_eq_nil_iff.mp valid
  cases found : schema.attribute? name with
  | some a =>
    have checked := attributes _ (Keyed.mem_of_lookup found)
    rw [given] at checked
    exact blank?_of_valid_attribute found configurable checked blank notNull
  | none =>
    have noAttribute : ∀ a, (name, a) ∉ schema.block.attributes := by
      intro a member
      have differs := List.lookup_eq_none_iff.mp found _ member
      simp at differs
    have inBlocks : ∃ nesting block, (name, nesting, block) ∈ schema.block.blocks := by
      rcases List.mem_append.mp computed with inAttributes | inBlocks
      · obtain ⟨⟨_, a⟩, member, rfl⟩ := List.mem_map.mp inAttributes
        exact absurd (List.mem_filter.mp member).1 (noAttribute a)
      · obtain ⟨⟨_, nesting, block⟩, member, rfl⟩ := List.mem_map.mp inBlocks
        exact ⟨nesting, block, (List.mem_filter.mp member).1⟩
    obtain ⟨nesting, block, member⟩ := inBlocks
    have checked := blocks _ member
    rw [given] at checked
    obtain rfl := eq_nil_of_valid_block checked blank notNull
    unfold blank? nesting?
    rw [found]
    cases nested : schema.block.blocks.lookup name with
    | some b => rfl
    | none =>
      have differs := List.lookup_eq_none_iff.mp nested _ member
      simp at differs

end Valid

/-- The second object has what the first one has, and beyond it blank values of computed names. -/
def Padded (schema : Schema) (entries padded : List (String × Json)) : Prop :=
  ∀ name, padded.lookup name = entries.lookup name ∨
    name ∈ schema.computedNames ∧ entries.lookup name = none ∧
      ∃ blank, schema.blank? name = some blank ∧ padded.lookup name = some blank

end Schema

namespace Fields

variable {α β γ : Type} {schema : Schema}

/-- The fields read the same with and without blank values of computed names. -/
def Overlooks (schema : Schema) (fields : Fields α) : Prop :=
  ∀ entries padded : List (String × Json), schema.Padded entries padded →
    fields.ofEntries padded = fields.ofEntries entries

namespace Overlooks

theorem both {combine : α → β → γ} {a : Fields α} {b : Fields β} (first : a.Overlooks schema)
    (second : b.Overlooks schema) : (Fields.both combine a b).Overlooks schema := by
  intro entries padded padding
  simp only [Fields.both, first entries padded padding, second entries padded padding]

theorem seq {f : Fields (α → β)} {a : Fields α} (first : f.Overlooks schema)
    (second : a.Overlooks schema) : (f <*> a).Overlooks schema :=
  both first second

theorem map {f : α → β} {a : Fields α} (overlooks : a.Overlooks schema) :
    (f <$> a).Overlooks schema := by
  have nothing : (Fields.pure f).Overlooks schema := fun _ _ _ => rfl
  exact both nothing overlooks

variable {name : String} {absent : Option α} {decode : Decoder α}

theorem single (replaces : name ∈ schema.computedNames → ∀ blank,
    schema.blank? name = some blank → ∃ value, absent = some value ∧ decode blank = .ok value) :
    (Fields.single name absent decode).Overlooks schema := by
  intro entries padded padding
  simp only [Fields.single]
  rcases padding name with same | ⟨computed, gone, blank, isBlank, there⟩
  · rw [same]
  · obtain ⟨value, absentIs, decoded⟩ := replaces computed blank isBlank
    rw [gone, there, absentIs]
    simp only [decoded, Except.mapError]

theorem uncomputed (stays : name ∉ schema.computedNames) :
    (Fields.single name absent decode).Overlooks schema :=
  single fun computed => absurd computed stays

theorem unblank (none : schema.blank? name = none) :
    (Fields.single name absent decode).Overlooks schema := by
  apply single
  intro _ blank isBlank
  rw [none] at isBlank
  cases isBlank

theorem text (isText : schema.blank? name = some (.str "")) :
    (Fields.defaulted name "" Decoder.text).Overlooks schema := by
  apply single
  intro _ blank isBlank
  obtain rfl := Option.some.inj (isText.symm.trans isBlank)
  exact ⟨"", rfl, rfl⟩

theorem list (isList : schema.blank? name = some (.arr [])) :
    (Fields.defaulted name [] (Decoder.blockList decode)).Overlooks schema := by
  apply single
  intro _ blank isBlank
  obtain rfl := Option.some.inj (isList.symm.trans isBlank)
  exact ⟨[], rfl, rfl⟩

end Overlooks

end Fields

/-- An object decodes alike with and without blank values of computed names. -/
def Decoder.Overlooks {α : Type} (schema : Schema) (decode : Decoder α) : Prop :=
  ∀ entries padded : List (String × Json), schema.Padded entries padded →
    decode (.obj padded) = decode (.obj entries)

theorem Decoder.Overlooks.record {α : Type} {schema : Schema} {name : String} {fields : Fields α}
    (overlooks : fields.Overlooks schema) : (Decoder.record name fields).Overlooks schema := by
  intro entries padded padding
  simp only [Decoder.record, overlooks entries padded padding]

namespace Schema

/-- The names that only the server sets. -/
def reportedNames (schema : Schema) : List String :=
  (schema.block.attributes.filter fun entry => entry.2.flags.isComputedOnly).map Prod.fst

variable {schema : Schema} {name : String}

theorem mem_reportedNames (reported : schema.isComputedOnly name = true) :
    name ∈ schema.reportedNames := by
  unfold isComputedOnly attribute? at reported
  cases found : schema.block.attributes.lookup name with
  | none =>
    rw [found] at reported
    cases reported
  | some a =>
    rw [found] at reported
    exact List.mem_map.mpr ⟨_, List.mem_filter.mpr ⟨Keyed.mem_of_lookup found, reported⟩, rfl⟩

theorem computed_of_isComputedOnly (reported : schema.isComputedOnly name = true) :
    name ∈ schema.computedNames := by
  obtain ⟨entry, member, rfl⟩ := List.mem_map.mp (mem_reportedNames reported)
  obtain ⟨listed, only⟩ := List.mem_filter.mp member
  have computed : entry.2.flags.computed = true := by
    unfold Flags.isComputedOnly at only
    rw [Bool.and_eq_true, Bool.and_eq_true] at only
    exact only.1.1
  exact List.mem_append_left _ (List.mem_map_of_mem (List.mem_filter.mpr ⟨listed, computed⟩))

end Schema

/-- What only the server sets is read as text wherever an object decodes. -/
def Decoder.ReadsReported {α : Type} (schema : Schema) (decode : Decoder α) : Prop :=
  ∀ {entries : List (String × Json)} {state : α}, decode (.obj entries) = .ok state →
    ∀ name ∈ schema.reportedNames,
      ∃ text, (Fields.defaulted name "" Decoder.text).ofEntries entries = .ok text

open Fields.Overlooks (seq map uncomputed unblank text list)
open Decoder.Overlooks (record)

namespace Connector

theorem overlooks : State.decode.Overlooks schema := by
  refine record (seq (seq (seq (seq (seq (map ?_) ?_) ?_) ?_) ?_) ?_)
  · exact text rfl
  · exact uncomputed (by decide)
  · exact uncomputed (by decide)
  · exact uncomputed (by decide)
  · exact uncomputed (by decide)
  · exact text rfl

theorem readsReported : State.decode.ReadsReported schema := by
  intro entries state decoded
  obtain ⟨id, -⟩ := decode_obj_iff.mp decoded
  exact List.forall_mem_cons.mpr ⟨⟨_, id⟩, nofun⟩

end Connector

namespace Environment

theorem overlooks : State.decode.Overlooks schema := by
  refine record (seq (seq (seq (map ?_) ?_) ?_) ?_)
  · exact text rfl
  · exact uncomputed (by decide)
  · exact list rfl
  · exact text rfl

theorem readsReported : State.decode.ReadsReported schema := by
  intro entries state decoded
  obtain ⟨id, -, -, resourceName⟩ := decode_obj_iff.mp decoded
  exact List.forall_mem_cons.mpr ⟨⟨_, id⟩, List.forall_mem_cons.mpr ⟨⟨_, resourceName⟩, nofun⟩⟩

end Environment

namespace FlinkComputePool

theorem overlooks : State.decode.Overlooks schema := by
  refine record (seq (seq (seq (seq (seq (seq (map ?_) ?_) ?_) ?_) ?_) ?_) ?_)
  · exact text rfl
  · exact uncomputed (by decide)
  · exact uncomputed (by decide)
  · exact uncomputed (by decide)
  · exact unblank rfl
  · exact uncomputed (by decide)
  · exact text rfl

theorem readsReported : State.decode.ReadsReported schema := by
  intro entries state decoded
  obtain ⟨id, -, -, -, -, -, resourceName⟩ := decode_obj_iff.mp decoded
  exact List.forall_mem_cons.mpr ⟨⟨_, id⟩, List.forall_mem_cons.mpr ⟨⟨_, resourceName⟩, nofun⟩⟩

end FlinkComputePool

namespace KafkaCluster

theorem overlooks : State.decode.Overlooks schema := by
  refine record (seq (seq (seq (seq (seq (seq (seq (seq (seq (seq (seq (seq (map ?_) ?_) ?_) ?_) ?_)
    ?_) ?_) ?_) ?_) ?_) ?_) ?_) ?_)
  · exact text rfl
  · exact uncomputed (by decide)
  · exact uncomputed (by decide)
  · exact uncomputed (by decide)
  · exact uncomputed (by decide)
  · exact uncomputed (by decide)
  · exact uncomputed (by decide)
  · exact uncomputed (by decide)
  · exact uncomputed (by decide)
  · exact uncomputed (by decide)
  · exact text rfl
  · exact text rfl
  · exact text rfl

theorem readsReported : State.decode.ReadsReported schema := by
  intro entries state decoded
  obtain ⟨id, -, -, -, -, -, -, -, -, -, bootstrapEndpoint, restEndpoint, resourceName⟩ :=
    decode_obj_iff.mp decoded
  refine List.forall_mem_cons.mpr ⟨⟨_, bootstrapEndpoint⟩, ?_⟩
  refine List.forall_mem_cons.mpr ⟨⟨_, id⟩, ?_⟩
  exact List.forall_mem_cons.mpr ⟨⟨_, resourceName⟩,
    List.forall_mem_cons.mpr ⟨⟨_, restEndpoint⟩, nofun⟩⟩

end KafkaCluster

namespace KafkaTopic

theorem overlooks : State.decode.Overlooks schema := by
  refine record (seq (seq (seq (seq (seq (seq (map ?_) ?_) ?_) ?_) ?_) ?_) ?_)
  · exact text rfl
  · exact uncomputed (by decide)
  · exact unblank rfl
  · exact uncomputed (by decide)
  · exact list rfl
  · exact text rfl
  · exact uncomputed (by decide)

theorem readsReported : State.decode.ReadsReported schema := by
  intro entries state decoded
  obtain ⟨id, -⟩ := decode_obj_iff.mp decoded
  exact List.forall_mem_cons.mpr ⟨⟨_, id⟩, nofun⟩

end KafkaTopic

namespace Network

theorem overlooks : State.decode.Overlooks schema := by
  refine record (seq (seq (seq (seq (seq (seq (seq (seq (map ?_) ?_) ?_) ?_) ?_) ?_) ?_) ?_) ?_)
  · exact text rfl
  · exact text rfl
  · exact uncomputed (by decide)
  · exact uncomputed (by decide)
  · exact uncomputed (by decide)
  · exact text rfl
  · exact list rfl
  · exact uncomputed (by decide)
  · exact text rfl

theorem readsReported : State.decode.ReadsReported schema := by
  intro entries state decoded
  obtain ⟨id, -, -, -, -, -, -, -, resourceName⟩ := decode_obj_iff.mp decoded
  exact List.forall_mem_cons.mpr ⟨⟨_, id⟩, List.forall_mem_cons.mpr ⟨⟨_, resourceName⟩, nofun⟩⟩

end Network

namespace ServiceAccount

theorem overlooks : State.decode.Overlooks schema := by
  refine record (seq (seq (map ?_) ?_) ?_)
  · exact text rfl
  · exact uncomputed (by decide)
  · exact uncomputed (by decide)

theorem readsReported : State.decode.ReadsReported schema := by
  intro entries state decoded
  obtain ⟨id, -⟩ := decode_obj_iff.mp decoded
  exact List.forall_mem_cons.mpr ⟨⟨_, id⟩, nofun⟩

end ServiceAccount

theorem overlooks_of_mem_kinds {kind : Kind Wire} (member : kind ∈ kinds) :
    kind.decode.Overlooks kind.schema := by
  simp only [kinds, List.mem_cons, List.not_mem_nil, or_false] at member
  rcases member with rfl | rfl | rfl | rfl | rfl | rfl | rfl
  · exact Connector.overlooks
  · exact Environment.overlooks
  · exact FlinkComputePool.overlooks
  · exact KafkaCluster.overlooks
  · exact KafkaTopic.overlooks
  · exact Network.overlooks
  · exact ServiceAccount.overlooks

theorem readsReported_of_mem_kinds {kind : Kind Wire} (member : kind ∈ kinds) :
    kind.decode.ReadsReported kind.schema := by
  simp only [kinds, List.mem_cons, List.not_mem_nil, or_false] at member
  rcases member with rfl | rfl | rfl | rfl | rfl | rfl | rfl
  · exact Connector.readsReported
  · exact Environment.readsReported
  · exact FlinkComputePool.readsReported
  · exact KafkaCluster.readsReported
  · exact KafkaTopic.readsReported
  · exact Network.readsReported
  · exact ServiceAccount.readsReported

/-- Every kind has the server report text alone. -/
theorem blank?_of_reported {kind : Kind Wire} (member : kind ∈ kinds) {name : String}
    (reported : name ∈ kind.schema.reportedNames) :
    kind.schema.blank? name = some (.str "") := by
  have texts : ∀ kind ∈ kinds, ∀ name ∈ kind.schema.reportedNames,
      (kind.schema.attribute? name).map Attribute.type = some .string := by decide
  have isText := texts kind member name reported
  unfold Schema.blank?
  obtain ⟨a, found, type⟩ := Option.map_eq_some_iff.mp isText
  rw [found]
  simp only [type, AttributeType.blank?]

end Provisioner

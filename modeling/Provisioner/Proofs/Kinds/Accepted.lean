import Provisioner.Proofs.Plan.Replan
import Provisioner.Provider

/-!
# What states give to a configuration

A merge takes from a state what its kind computes. Whatever a state holds there is valid in a
configuration, provided that no block of the state holds more than one item; for where a schema has
the server fill a block, it also bounds the block.
-/

namespace Provisioner

set_option autoImplicit false

open Http (Wire)

namespace Schema

/-- No block of a state holds more than one item. -/
def SingleBlocks (schema : Schema) (state : Json) : Prop :=
  ∀ b ∈ schema.block.blocks, ∀ items, state.get? b.1 = some (.arr items) → items.length ≤ 1

/-- The attributes that a configuration may set and the server computes otherwise. -/
def openAttributes (schema : Schema) : List (String × Attribute) :=
  schema.block.attributes.filter fun a =>
    schema.computedNames.contains a.1 && !a.2.flags.isComputedOnly

/-- The blocks that a configuration may set and the server fills otherwise. -/
def openBlocks (schema : Schema) : List (String × Nesting × Block) :=
  schema.block.blocks.filter fun b => schema.computedNames.contains b.1

/-- What only the server sets is not checked, so it is enough to look at what is open. -/
theorem accepts_of_open {schema : Schema} {source : List (String × Json)}
    (attributes : ∀ a ∈ schema.openAttributes, ∀ value, source.lookup a.1 = some value →
      a.2.check (some value) (joinPath "" a.1) = [])
    (blocks : ∀ b ∈ schema.openBlocks, ∀ value, source.lookup b.1 = some value →
      b.2.1.checkEntry b.2.2 (some value) (joinPath "" b.1) = [])
    (groups : ∀ group ∈ schema.block.exactlyOneOf, ∀ name ∈ group, name ∉ schema.computedNames) :
    schema.Accepts source where
  attributes := by
    intro a member computed value given
    cases only : a.2.flags.isComputedOnly with
    | true =>
      unfold Attribute.check
      rw [only]
      rfl
    | false =>
      apply attributes a _ value given
      exact List.mem_filter.mpr ⟨member, by simp [computed, only]⟩
  blocks := by
    intro b member computed value given
    apply blocks b _ value given
    exact List.mem_filter.mpr ⟨member, by simpa using computed⟩
  groups := groups

theorem accepts_of_closed {schema : Schema} (attributes : schema.openAttributes = [])
    (blocks : schema.openBlocks = [])
    (groups : ∀ group ∈ schema.block.exactlyOneOf, ∀ name ∈ group, name ∉ schema.computedNames)
    (source : List (String × Json)) : schema.Accepts source := by
  apply accepts_of_open _ _ groups
  · intro a member
    rw [attributes] at member
    cases member
  · intro b member
    rw [blocks] at member
    cases member

end Schema

theorem checkEntry_of_text {α : Type} {encode : α → Json} {name : String} (text : α → String)
    (encodes : ∀ item, encode item = .obj [(name, .str (text item))]) {nesting : Nesting}
    {items : List α} (single : items.length ≤ 1) (bounds : nesting.minItems = 0)
    (limit : nesting.maxItems = 1) (path : String) :
    nesting.checkEntry { attributes := [(name, .text .mandatory)] }
      (some (.arr (items.map encode))) path = [] := by
  unfold Nesting.checkEntry
  cases items with
  | nil => simp [Nesting.check, bounds, limit]
  | cons item rest =>
    have last : rest = [] := List.eq_nil_of_length_eq_zero (by simpa using single)
    subst last
    simp [Nesting.check, bounds, limit, encodes, Block.check, checkNested, Attribute.check,
      AttributeType.check, Attribute.text, Flags.isComputedOnly, Flags.mandatory, UInt32.size]

theorem check_strings (texts : List String) (path : String) :
    (AttributeType.set .string).check (.strings texts) path = [] := by
  unfold Json.strings
  rw [AttributeType.check, List.flatMap_eq_nil_iff]
  intro item member
  have inside : item.1 ∈ texts.map Json.str := List.fst_mem_of_mem_zipIdx member
  obtain ⟨text, _, given⟩ := List.mem_map.mp inside
  rw [← given]
  rfl

theorem check_option_int64 (given : Option Int64) (path : String) :
    (Attribute.integer .defaulted).check (some (Json.option (given.map Json.int64))) path = [] := by
  cases given <;> rfl

namespace Connector

theorem accepts {s : State} {source : List (String × Json)} (encoded : s.encode = .obj source) :
    schema.Accepts source := by
  cases encoded
  apply Schema.accepts_of_open
  · intro a member value given
    have this : a ∈ [_] := member
    obtain rfl := List.mem_singleton.mp this
    cases given
    rfl
  · intro b member
    have none : b ∈ [] := member
    cases none
  · intro group member
    cases member

end Connector

namespace Environment

theorem accepts {s : State} {source : List (String × Json)} (encoded : s.encode = .obj source)
    (single : schema.SingleBlocks s.encode) : schema.Accepts source := by
  have one := single _ List.mem_cons_self _ rfl
  cases encoded
  apply Schema.accepts_of_open
  · intro a member
    have none : a ∈ [] := member
    cases none
  · intro b member value given
    have this : b ∈ [_] := member
    obtain rfl := List.mem_singleton.mp this
    cases given
    exact checkEntry_of_text Governance.package (fun _ => rfl) (by simpa using one) rfl rfl _
  · intro group member
    cases member

end Environment

namespace FlinkComputePool

theorem accepts {s : State} {source : List (String × Json)} (encoded : s.encode = .obj source) :
    schema.Accepts source := by
  cases encoded
  apply Schema.accepts_of_open
  · intro a member value given
    have this : a ∈ [_] := member
    obtain rfl := List.mem_singleton.mp this
    cases given
    exact check_option_int64 s.maxCfu _
  · intro b member
    have none : b ∈ [] := member
    cases none
  · intro group member
    cases member

end FlinkComputePool

namespace KafkaCluster

theorem accepts (source : List (String × Json)) : schema.Accepts source :=
  Schema.accepts_of_closed rfl rfl (by decide) source

end KafkaCluster

namespace KafkaTopic

theorem accepts {s : State} {source : List (String × Json)} (encoded : s.encode = .obj source)
    (single : schema.SingleBlocks s.encode) : schema.Accepts source := by
  have one := single _ (List.mem_cons_of_mem _ List.mem_cons_self) _ rfl
  cases encoded
  apply Schema.accepts_of_open
  · intro a member value given
    have these : a ∈ [_, _] := member
    rcases List.mem_cons.mp these with rfl | last
    · cases given
      exact check_option_int64 s.partitions _
    · obtain rfl := List.mem_singleton.mp last
      cases given
      rfl
  · intro b member value given
    have this : b ∈ [_] := member
    obtain rfl := List.mem_singleton.mp this
    cases given
    exact checkEntry_of_text Reference.id (fun _ => rfl) (by simpa using one) rfl rfl _
  · intro group member
    cases member

end KafkaTopic

namespace Network

theorem accepts {s : State} {source : List (String × Json)} (encoded : s.encode = .obj source) :
    schema.Accepts source := by
  cases encoded
  apply Schema.accepts_of_open
  · intro a member value given
    have these : a ∈ [_, _, _] := member
    rcases List.mem_cons.mp these with rfl | others
    · cases given
      rfl
    · rcases List.mem_cons.mp others with rfl | last
      · cases given
        rfl
      · obtain rfl := List.mem_singleton.mp last
        cases given
        exact check_strings s.zones _
  · intro b member
    have none : b ∈ [] := member
    cases none
  · intro group member
    cases member

end Network

namespace ServiceAccount

theorem accepts (source : List (String × Json)) : schema.Accepts source :=
  Schema.accepts_of_closed rfl rfl (by decide) source

end ServiceAccount

/-- Every state whose blocks are single gives only what is valid. -/
theorem accepts_of_mem_kinds {kind : Kind Wire} (member : kind ∈ kinds) {state : kind.State}
    (single : kind.schema.SingleBlocks (kind.encode state)) :
    ∃ source, kind.encode state = .obj source ∧ kind.schema.Accepts source := by
  simp only [kinds, List.mem_cons, List.not_mem_nil, or_false] at member
  rcases member with rfl | rfl | rfl | rfl | rfl | rfl | rfl
  · exact ⟨_, rfl, Connector.accepts rfl⟩
  · exact ⟨_, rfl, Environment.accepts rfl single⟩
  · exact ⟨_, rfl, FlinkComputePool.accepts rfl⟩
  · exact ⟨_, rfl, KafkaCluster.accepts _⟩
  · exact ⟨_, rfl, KafkaTopic.accepts rfl single⟩
  · exact ⟨_, rfl, Network.accepts rfl⟩
  · exact ⟨_, rfl, ServiceAccount.accepts _⟩

end Provisioner

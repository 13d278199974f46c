import Provisioner.Proofs.Json.Codec
import Provisioner.Proofs.Kinds.Fields

/-!
# States survive being kept

The host keeps a state as it was written. Reading it back gives the same state, for every kind and
whatever the fields hold: what is written as null comes back as absent, and an empty block as an
empty block.
-/

namespace Provisioner

set_option autoImplicit false

open Decoder (text_inverts integer64_inverts blockList_inverts settings_inverts)
open Fields (single_of_written optional_of_written)

theorem Reference.decodeBlock_inverts : Reference.decodeBlock.Inverts Reference.encodeBlock := by
  apply blockList_inverts
  constructor
  · intro reference
    rfl
  · intro reference
    rfl

/-- The keys of a written state are in order. -/
def Kind.WritesSorted {σ : Type} (kind : Kind σ) : Prop :=
  ∀ state, ∃ source, kind.encode state = .obj source ∧ Keyed.Sorted source

/-- A written state is read back. -/
def Kind.RoundTrips {σ : Type} (kind : Kind σ) : Prop :=
  ∀ state, kind.decode.fromState (kind.encode state) = .ok state

/-- It is enough to read the fields of a written state, with its null entries dropped. -/
theorem Kind.WritesSorted.round_trips {σ : Type} {kind : Kind σ} (writes : kind.WritesSorted)
    (read : ∀ {state source}, kind.encode state = .obj source → Keyed.Sorted source →
      kind.decode (.obj (Json.dropNullsEntries source)) = .ok state) : kind.RoundTrips := by
  intro state
  obtain ⟨source, encoded, sorted⟩ := writes state
  apply Decoder.fromState_ok_iff.mpr
  rw [encoded]
  exact read encoded sorted

namespace Connector

theorem writes_sorted : kind.WritesSorted := by
  intro state
  refine ⟨_, rfl, Keyed.sorted_of_keys
    ["config_nonsensitive", "config_sensitive", "environment", "id", "kafka_cluster", "status"]
    rfl ?_⟩
  decide

theorem round_trips : kind.RoundTrips := by
  apply writes_sorted.round_trips
  intro s source encoded sorted
  apply decode_obj_iff.mpr
  cases encoded
  refine ⟨?_, ?_, ?_, ?_, ?_, ?_⟩
  · exact single_of_written text_inverts sorted rfl
  · exact single_of_written Reference.decodeBlock_inverts sorted rfl
  · exact single_of_written Reference.decodeBlock_inverts sorted rfl
  · exact single_of_written (settings_inverts _) sorted rfl
  · exact single_of_written (settings_inverts _) sorted rfl
  · exact single_of_written text_inverts sorted rfl

end Connector

namespace Environment

theorem governance_inverts : (Decoder.blockList Governance.decode).Inverts
    fun block => .arr (block.map Governance.encode) := by
  apply blockList_inverts
  constructor
  · intro governance
    rfl
  · intro governance
    rfl

theorem writes_sorted : kind.WritesSorted := by
  intro state
  refine ⟨_, rfl, Keyed.sorted_of_keys
    ["display_name", "id", "resource_name", "stream_governance"]
    rfl ?_⟩
  decide

theorem round_trips : kind.RoundTrips := by
  apply writes_sorted.round_trips
  intro s source encoded sorted
  apply decode_obj_iff.mpr
  cases encoded
  refine ⟨?_, ?_, ?_, ?_⟩
  · exact single_of_written text_inverts sorted rfl
  · exact single_of_written text_inverts sorted rfl
  · exact single_of_written governance_inverts sorted rfl
  · exact single_of_written text_inverts sorted rfl

end Environment

namespace FlinkComputePool

theorem writes_sorted : kind.WritesSorted := by
  intro state
  refine ⟨_, rfl, Keyed.sorted_of_keys
    ["cloud", "display_name", "environment", "id", "max_cfu", "region", "resource_name"]
    rfl ?_⟩
  decide

theorem round_trips : kind.RoundTrips := by
  apply writes_sorted.round_trips
  intro s source encoded sorted
  apply decode_obj_iff.mpr
  cases encoded
  refine ⟨?_, ?_, ?_, ?_, ?_, ?_, ?_⟩
  · exact single_of_written text_inverts sorted rfl
  · exact single_of_written text_inverts sorted rfl
  · exact single_of_written text_inverts sorted rfl
  · exact single_of_written text_inverts sorted rfl
  · exact optional_of_written integer64_inverts sorted rfl
  · exact single_of_written Reference.decodeBlock_inverts sorted rfl
  · exact single_of_written text_inverts sorted rfl

end FlinkComputePool

namespace KafkaCluster

theorem markers_inverts (name : String) :
    (Decoder.blockList (decodeMarker name)).Inverts encodeMarkers := by
  apply blockList_inverts
  constructor
  · intro marker
    rfl
  · intro marker
    rfl

theorem size_inverts : Size.decode.Inverts Size.encode where
  notNull _ := rfl
  read size := by
    apply Decoder.record_obj_ok_iff.mpr
    apply Fields.map_ofEntries_ok_iff.mpr
    refine ⟨size.cku, ?_, rfl⟩
    exact single_of_written integer64_inverts (List.pairwise_singleton _ _) rfl

theorem writes_sorted : kind.WritesSorted := by
  intro state
  refine ⟨_, rfl, Keyed.sorted_of_keys
    ["availability", "basic", "bootstrap_endpoint", "cloud", "dedicated", "display_name",
      "environment", "id", "network", "region", "resource_name", "rest_endpoint", "standard"]
    rfl ?_⟩
  decide

theorem round_trips : kind.RoundTrips := by
  apply writes_sorted.round_trips
  intro s source encoded sorted
  apply decode_obj_iff.mpr
  cases encoded
  refine ⟨?_, ?_, ?_, ?_, ?_, ?_, ?_, ?_, ?_, ?_, ?_, ?_, ?_⟩
  · exact single_of_written text_inverts sorted rfl
  · exact single_of_written text_inverts sorted rfl
  · exact single_of_written text_inverts sorted rfl
  · exact single_of_written text_inverts sorted rfl
  · exact single_of_written text_inverts sorted rfl
  · exact single_of_written (markers_inverts "Basic") sorted rfl
  · exact single_of_written (markers_inverts "Standard") sorted rfl
  · exact single_of_written (blockList_inverts size_inverts) sorted rfl
  · exact single_of_written Reference.decodeBlock_inverts sorted rfl
  · exact single_of_written Reference.decodeBlock_inverts sorted rfl
  · exact single_of_written text_inverts sorted rfl
  · exact single_of_written text_inverts sorted rfl
  · exact single_of_written text_inverts sorted rfl

end KafkaCluster

namespace KafkaTopic

theorem credentials_inverts : (Decoder.blockList decodeCredentials).Inverts
    fun block => .arr (block.map encodeCredentials) := by
  apply blockList_inverts
  constructor
  · intro credentials
    rfl
  · intro credentials
    rfl

theorem writes_sorted : kind.WritesSorted := by
  intro state
  refine ⟨_, rfl, Keyed.sorted_of_keys
    ["config", "credentials", "id", "kafka_cluster", "partitions_count", "rest_endpoint",
      "topic_name"]
    rfl ?_⟩
  decide

theorem round_trips : kind.RoundTrips := by
  apply writes_sorted.round_trips
  intro s source encoded sorted
  apply decode_obj_iff.mpr
  cases encoded
  refine ⟨?_, ?_, ?_, ?_, ?_, ?_, ?_⟩
  · exact single_of_written text_inverts sorted rfl
  · exact single_of_written text_inverts sorted rfl
  · exact optional_of_written integer64_inverts sorted rfl
  · exact single_of_written (settings_inverts _) sorted rfl
  · exact single_of_written Reference.decodeBlock_inverts sorted rfl
  · exact single_of_written text_inverts sorted rfl
  · exact single_of_written credentials_inverts sorted rfl

end KafkaTopic

namespace Network

theorem writes_sorted : kind.WritesSorted := by
  intro state
  refine ⟨_, rfl, Keyed.sorted_of_keys
    ["cidr", "cloud", "connection_types", "display_name", "environment", "id", "region",
      "resource_name", "zones"]
    rfl ?_⟩
  decide

theorem round_trips : kind.RoundTrips := by
  apply writes_sorted.round_trips
  intro s source encoded sorted
  apply decode_obj_iff.mpr
  cases encoded
  refine ⟨?_, ?_, ?_, ?_, ?_, ?_, ?_, ?_, ?_⟩
  · exact single_of_written text_inverts sorted rfl
  · exact single_of_written text_inverts sorted rfl
  · exact single_of_written text_inverts sorted rfl
  · exact single_of_written text_inverts sorted rfl
  · exact single_of_written (blockList_inverts text_inverts) sorted rfl
  · exact single_of_written text_inverts sorted rfl
  · exact single_of_written (blockList_inverts text_inverts) sorted rfl
  · exact single_of_written Reference.decodeBlock_inverts sorted rfl
  · exact single_of_written text_inverts sorted rfl

end Network

namespace ServiceAccount

theorem writes_sorted : kind.WritesSorted := by
  intro state
  refine ⟨_, rfl, Keyed.sorted_of_keys
    ["description", "display_name", "id"]
    rfl ?_⟩
  decide

theorem round_trips : kind.RoundTrips := by
  apply writes_sorted.round_trips
  intro s source encoded sorted
  apply decode_obj_iff.mpr
  cases encoded
  refine ⟨?_, ?_, ?_⟩
  · exact single_of_written text_inverts sorted rfl
  · exact single_of_written text_inverts sorted rfl
  · exact single_of_written text_inverts sorted rfl

end ServiceAccount

theorem Kind.round_trips_of_mem_kinds {kind : Kind Http.Wire} (listed : kind ∈ kinds) :
    kind.RoundTrips := by
  simp only [kinds, List.mem_cons, List.not_mem_nil, or_false] at listed
  rcases listed with rfl | rfl | rfl | rfl | rfl | rfl | rfl
  · exact Connector.round_trips
  · exact Environment.round_trips
  · exact FlinkComputePool.round_trips
  · exact KafkaCluster.round_trips
  · exact KafkaTopic.round_trips
  · exact Network.round_trips
  · exact ServiceAccount.round_trips

/-- Every state of every kind is read back from what was written. So different states are written
differently, and a value that is read as a state, whatever it looks like, may be replaced by that
state as it is written. -/
theorem persisted_states_return {kind : Kind Http.Wire} (listed : kind ∈ kinds) :
    (∀ state, kind.decode.fromState (kind.encode state) = .ok state) ∧
    (∀ state other, kind.encode state = kind.encode other → state = other) ∧
    ∀ value state, kind.decode.fromState value = .ok state →
      kind.decode.fromState (kind.encode state) = kind.decode.fromState value := by
  have returns := Kind.round_trips_of_mem_kinds listed
  refine ⟨returns, ?_, ?_⟩
  · intro state other same
    have read := returns state
    rw [same, returns other] at read
    exact (Except.ok.inj read).symm
  · intro value state read
    rw [returns state, read]

namespace KafkaTopic

/-- A topic as a host may keep it: with nulls, without some entries, and with one that no topic
has. -/
def loosely : Json :=
  .obj [("config", .null), ("kafka_cluster", .arr [.obj [("id", .str "lkc-1")]]),
    ("partitions_count", .null), ("tags", .arr []), ("topic_name", .str "orders")]

theorem persisted_states_return_loosely :
    kind ∈ kinds ∧ kind.decode.fromState loosely = .ok (State.named "orders" "lkc-1") ∧
      kind.decode.fromState (State.named "orders" "lkc-1").encode =
        kind.decode.fromState loosely ∧
      (State.named "orders" "lkc-1").encode ≠ loosely := by
  have listed : kind ∈ kinds := by simp [kinds]
  have read : kind.decode.fromState loosely = .ok (State.named "orders" "lkc-1") := rfl
  exact ⟨listed, read, (persisted_states_return listed).2.2 _ _ read, nofun⟩

end KafkaTopic

end Provisioner

import Mathlib.Tactic.Simproc.ExistsAndEq
import Provisioner.Proofs.Json.Fields
import Provisioner.Provider

/-!
# States and remote objects field by field

A record is read from an object exactly if each of its fields is, and a field depends on the entry
under its own name alone.
-/

namespace Provisioner

set_option autoImplicit false

open Decoder Fields

namespace Fields

variable {α β : Type} {entries : List (String × Json)}

theorem record_obj_ok_iff_exists {name : String} {fields : Fields α} {value : α} :
    record name fields (.obj entries) = .ok value ↔
      ∃ found, fields.ofEntries entries = .ok found ∧ found = value := by
  rw [record_obj_ok_iff]
  simp

theorem exists_seq_iff {f : Fields (α → β)} {a : Fields α} {condition : β → Prop} :
    (∃ found, (f <*> a).ofEntries entries = .ok found ∧ condition found) ↔
      ∃ g, f.ofEntries entries = .ok g ∧ ∃ x, a.ofEntries entries = .ok x ∧ condition (g x) := by
  simp only [seq_ofEntries_ok_iff]
  constructor
  · intro parts
    obtain ⟨_, ⟨g, x, first, second, rfl⟩, holds⟩ := parts
    exact ⟨g, first, x, second, holds⟩
  · intro parts
    obtain ⟨g, first, x, second, holds⟩ := parts
    exact ⟨g x, ⟨g, x, first, second, rfl⟩, holds⟩

theorem exists_map_iff {f : α → β} {a : Fields α} {condition : β → Prop} :
    (∃ found, (f <$> a).ofEntries entries = .ok found ∧ condition found) ↔
      ∃ x, a.ofEntries entries = .ok x ∧ condition (f x) := by
  simp only [map_ofEntries_ok_iff]
  constructor
  · intro parts
    obtain ⟨_, ⟨x, found, rfl⟩, holds⟩ := parts
    exact ⟨x, found, holds⟩
  · intro parts
    obtain ⟨x, found, holds⟩ := parts
    exact ⟨f x, ⟨x, found, rfl⟩, holds⟩

end Fields

variable {entries : List (String × Json)}

namespace Connector

theorem decode_obj_iff {s : State} :
    State.decode (.obj entries) = .ok s ↔
      (defaulted "id" "" text).ofEntries entries = .ok s.id ∧
      (defaulted "environment" [] Reference.decodeBlock).ofEntries entries = .ok s.environment ∧
      (defaulted "kafka_cluster" [] Reference.decodeBlock).ofEntries entries =
        .ok s.kafkaCluster ∧
      (defaulted "config_nonsensitive" .empty decodeSettings).ofEntries entries = .ok s.plain ∧
      (defaulted "config_sensitive" .empty decodeSettings).ofEntries entries = .ok s.secret ∧
      (defaulted "status" "" text).ofEntries entries = .ok s.status := by
  refine record_obj_ok_iff_exists.trans ?_
  simp only [exists_seq_iff, exists_map_iff]
  cases s
  simp

end Connector

namespace Environment

theorem decode_obj_iff {s : State} :
    State.decode (.obj entries) = .ok s ↔
      (defaulted "id" "" text).ofEntries entries = .ok s.id ∧
      (required "display_name" text).ofEntries entries = .ok s.displayName ∧
      (defaulted "stream_governance" [] (blockList Governance.decode)).ofEntries entries =
        .ok s.governance ∧
      (defaulted "resource_name" "" text).ofEntries entries = .ok s.resourceName := by
  refine record_obj_ok_iff_exists.trans ?_
  simp only [exists_seq_iff, exists_map_iff]
  cases s
  simp

theorem Remote.decode_obj_iff {remote : Remote} :
    Remote.decode (.obj entries) = .ok remote ↔
      (required "id" text).ofEntries entries = .ok remote.id ∧
      (required "display_name" text).ofEntries entries = .ok remote.displayName ∧
      (Fields.optional "stream_governance_config" Governance.decode).ofEntries entries =
        .ok remote.governance ∧
      (defaulted "metadata" "" decodeMetadata).ofEntries entries = .ok remote.resourceName := by
  refine record_obj_ok_iff_exists.trans ?_
  simp only [exists_seq_iff, exists_map_iff]
  cases remote
  simp

end Environment

namespace FlinkComputePool

theorem decode_obj_iff {s : State} :
    State.decode (.obj entries) = .ok s ↔
      (defaulted "id" "" text).ofEntries entries = .ok s.id ∧
      (required "display_name" text).ofEntries entries = .ok s.displayName ∧
      (required "cloud" text).ofEntries entries = .ok s.cloud ∧
      (required "region" text).ofEntries entries = .ok s.region ∧
      (Fields.optional "max_cfu" integer64).ofEntries entries = .ok s.maxCfu ∧
      (defaulted "environment" [] Reference.decodeBlock).ofEntries entries = .ok s.environment ∧
      (defaulted "resource_name" "" text).ofEntries entries = .ok s.resourceName := by
  refine record_obj_ok_iff_exists.trans ?_
  simp only [exists_seq_iff, exists_map_iff]
  cases s
  simp

theorem Spec.decode_obj_iff {spec : Spec} :
    Spec.decode (.obj entries) = .ok spec ↔
      (defaulted "display_name" "" text).ofEntries entries = .ok spec.displayName ∧
      (defaulted "cloud" "" text).ofEntries entries = .ok spec.cloud ∧
      (defaulted "region" "" text).ofEntries entries = .ok spec.region ∧
      (Fields.optional "max_cfu" integer64).ofEntries entries = .ok spec.maxCfu ∧
      (defaulted "environment" ⟨""⟩ Reference.decodeObject).ofEntries entries =
        .ok spec.environment := by
  refine record_obj_ok_iff_exists.trans ?_
  simp only [exists_seq_iff, exists_map_iff]
  cases spec
  simp

theorem Remote.decode_obj_iff {remote : Remote} :
    Remote.decode (.obj entries) = .ok remote ↔
      (required "id" text).ofEntries entries = .ok remote.id ∧
      (required "spec" Spec.decode).ofEntries entries = .ok remote.spec ∧
      (required "status" PhaseStatus.decode).ofEntries entries = .ok remote.status ∧
      (defaulted "metadata" "" decodeMetadata).ofEntries entries = .ok remote.resourceName := by
  refine record_obj_ok_iff_exists.trans ?_
  simp only [exists_seq_iff, exists_map_iff]
  cases remote
  simp

end FlinkComputePool

namespace KafkaCluster

theorem decode_obj_iff {s : State} :
    State.decode (.obj entries) = .ok s ↔
      (defaulted "id" "" text).ofEntries entries = .ok s.id ∧
      (required "display_name" text).ofEntries entries = .ok s.displayName ∧
      (required "availability" text).ofEntries entries = .ok s.availability ∧
      (required "cloud" text).ofEntries entries = .ok s.cloud ∧
      (required "region" text).ofEntries entries = .ok s.region ∧
      (defaulted "basic" [] (blockList (decodeMarker "Basic"))).ofEntries entries = .ok s.basic ∧
      (defaulted "standard" [] (blockList (decodeMarker "Standard"))).ofEntries entries =
        .ok s.standard ∧
      (defaulted "dedicated" [] (blockList Size.decode)).ofEntries entries = .ok s.dedicated ∧
      (defaulted "environment" [] Reference.decodeBlock).ofEntries entries = .ok s.environment ∧
      (defaulted "network" [] Reference.decodeBlock).ofEntries entries = .ok s.network ∧
      (defaulted "bootstrap_endpoint" "" text).ofEntries entries = .ok s.bootstrapEndpoint ∧
      (defaulted "rest_endpoint" "" text).ofEntries entries = .ok s.restEndpoint ∧
      (defaulted "resource_name" "" text).ofEntries entries = .ok s.resourceName := by
  refine record_obj_ok_iff_exists.trans ?_
  simp only [exists_seq_iff, exists_map_iff]
  cases s
  simp

theorem TypeConfig.decode_obj_iff {config : TypeConfig} :
    TypeConfig.decode (.obj entries) = .ok config ↔
      (required "kind" text).ofEntries entries = .ok config.typeName ∧
      (Fields.optional "cku" integer64).ofEntries entries = .ok config.cku := by
  refine record_obj_ok_iff_exists.trans ?_
  simp only [exists_seq_iff, exists_map_iff]
  cases config
  simp

theorem Spec.decode_obj_iff {spec : Spec} :
    Spec.decode (.obj entries) = .ok spec ↔
      (defaulted "display_name" "" text).ofEntries entries = .ok spec.displayName ∧
      (defaulted "availability" "" text).ofEntries entries = .ok spec.availability ∧
      (defaulted "cloud" "" text).ofEntries entries = .ok spec.cloud ∧
      (defaulted "region" "" text).ofEntries entries = .ok spec.region ∧
      (Fields.optional "config" TypeConfig.decode).ofEntries entries = .ok spec.config ∧
      (defaulted "environment" ⟨""⟩ Reference.decodeObject).ofEntries entries =
        .ok spec.environment ∧
      (Fields.optional "network" Reference.decodeObject).ofEntries entries = .ok spec.network ∧
      (defaulted "kafka_bootstrap_endpoint" "" text).ofEntries entries =
        .ok spec.bootstrapEndpoint ∧
      (defaulted "http_endpoint" "" text).ofEntries entries = .ok spec.restEndpoint := by
  refine record_obj_ok_iff_exists.trans ?_
  simp only [exists_seq_iff, exists_map_iff]
  cases spec
  simp

theorem Remote.decode_obj_iff {remote : Remote} :
    Remote.decode (.obj entries) = .ok remote ↔
      (required "id" text).ofEntries entries = .ok remote.id ∧
      (required "spec" Spec.decode).ofEntries entries = .ok remote.spec ∧
      (required "status" Status.decode).ofEntries entries = .ok remote.status ∧
      (defaulted "metadata" "" decodeMetadata).ofEntries entries = .ok remote.resourceName := by
  refine record_obj_ok_iff_exists.trans ?_
  simp only [exists_seq_iff, exists_map_iff]
  cases remote
  simp

end KafkaCluster

namespace KafkaTopic

theorem decode_obj_iff {s : State} :
    State.decode (.obj entries) = .ok s ↔
      (defaulted "id" "" text).ofEntries entries = .ok s.id ∧
      (required "topic_name" text).ofEntries entries = .ok s.topicName ∧
      (Fields.optional "partitions_count" integer64).ofEntries entries = .ok s.partitions ∧
      (defaulted "config" Settings.empty (nullAs Settings.empty settings)).ofEntries entries =
        .ok s.config ∧
      (defaulted "kafka_cluster" [] Reference.decodeBlock).ofEntries entries =
        .ok s.kafkaCluster ∧
      (defaulted "rest_endpoint" "" text).ofEntries entries = .ok s.restEndpoint ∧
      (defaulted "credentials" [] (blockList decodeCredentials)).ofEntries entries =
        .ok s.credentials := by
  refine record_obj_ok_iff_exists.trans ?_
  simp only [exists_seq_iff, exists_map_iff]
  cases s
  simp

end KafkaTopic

namespace Network

theorem decode_obj_iff {s : State} :
    State.decode (.obj entries) = .ok s ↔
      (defaulted "id" "" text).ofEntries entries = .ok s.id ∧
      (defaulted "display_name" "" text).ofEntries entries = .ok s.displayName ∧
      (required "cloud" text).ofEntries entries = .ok s.cloud ∧
      (required "region" text).ofEntries entries = .ok s.region ∧
      (defaulted "connection_types" [] (blockList text)).ofEntries entries =
        .ok s.connectionTypes ∧
      (defaulted "cidr" "" text).ofEntries entries = .ok s.cidr ∧
      (defaulted "zones" [] (blockList text)).ofEntries entries = .ok s.zones ∧
      (defaulted "environment" [] Reference.decodeBlock).ofEntries entries = .ok s.environment ∧
      (defaulted "resource_name" "" text).ofEntries entries = .ok s.resourceName := by
  refine record_obj_ok_iff_exists.trans ?_
  simp only [exists_seq_iff, exists_map_iff]
  cases s
  simp

theorem Spec.decode_obj_iff {spec : Spec} :
    Spec.decode (.obj entries) = .ok spec ↔
      (defaulted "display_name" "" text).ofEntries entries = .ok spec.displayName ∧
      (defaulted "cloud" "" text).ofEntries entries = .ok spec.cloud ∧
      (defaulted "region" "" text).ofEntries entries = .ok spec.region ∧
      (defaulted "connection_types" [] (blockList text)).ofEntries entries =
        .ok spec.connectionTypes ∧
      (defaulted "cidr" "" text).ofEntries entries = .ok spec.cidr ∧
      (defaulted "zones" [] (blockList text)).ofEntries entries = .ok spec.zones ∧
      (defaulted "environment" ⟨""⟩ Reference.decodeObject).ofEntries entries =
        .ok spec.environment := by
  refine record_obj_ok_iff_exists.trans ?_
  simp only [exists_seq_iff, exists_map_iff]
  cases spec
  simp

theorem Remote.decode_obj_iff {remote : Remote} :
    Remote.decode (.obj entries) = .ok remote ↔
      (required "id" text).ofEntries entries = .ok remote.id ∧
      (required "spec" Spec.decode).ofEntries entries = .ok remote.spec ∧
      (required "status" PhaseStatus.decode).ofEntries entries = .ok remote.status ∧
      (defaulted "metadata" "" decodeMetadata).ofEntries entries = .ok remote.resourceName := by
  refine record_obj_ok_iff_exists.trans ?_
  simp only [exists_seq_iff, exists_map_iff]
  cases remote
  simp

end Network

namespace ServiceAccount

theorem decode_obj_iff {s : State} :
    State.decode (.obj entries) = .ok s ↔
      (defaulted "id" "" text).ofEntries entries = .ok s.id ∧
      (required "display_name" text).ofEntries entries = .ok s.displayName ∧
      (defaulted "description" "" text).ofEntries entries = .ok s.description := by
  refine record_obj_ok_iff_exists.trans ?_
  simp only [exists_seq_iff, exists_map_iff]
  cases s
  simp

theorem Remote.decode_obj_iff {remote : Remote} :
    Remote.decode (.obj entries) = .ok remote ↔
      (required "id" text).ofEntries entries = .ok remote.id ∧
      (required "display_name" text).ofEntries entries = .ok remote.displayName ∧
      (defaulted "description" "" text).ofEntries entries = .ok remote.description := by
  refine record_obj_ok_iff_exists.trans ?_
  simp only [exists_seq_iff, exists_map_iff]
  cases remote
  simp

end ServiceAccount

end Provisioner

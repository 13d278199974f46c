import Provisioner.Proofs.Kinds.RoundTrip
import Provisioner.Proofs.Operation.Refusals
import Provisioner.Proofs.Plan.Unchanged

/-!
# Checks of what did not change

An update checks the desired state with the rules of its kind, whether the configuration asks for
the values in it or the server chose them. Where a plan finds no change the rules are applied to
what the prior state holds. Only some kinds pass it whatever that is.
-/

namespace Provisioner

set_option autoImplicit false

open Http (Wire)
open Fields (text_agrees blockList_agrees settings_agrees integer64_agrees)

/-- Everything that a check decides: whether it passes, and that it refuses otherwise. -/
structure Decides (check : Except Error Unit) (passes : Prop) : Prop where
  ok_iff : check = .ok () ↔ passes
  refusal : ∀ {error : Error}, check = .error error → error.isRefusal = true

namespace Decides

variable {first second : Except Error Unit} {p q : Prop}

theorem accepts : Decides (.ok ()) True where
  ok_iff := by simp
  refusal := by
    intro error impossible
    cases impossible

theorem refuses (message : String) : Decides (refuse (.validation message)) False where
  ok_iff := by simp [refuse]
  refusal := by
    intro error same
    cases same
    rfl

theorem iff (decides : Decides first p) (same : p ↔ q) : Decides first q where
  ok_iff := decides.ok_iff.trans same
  refusal := decides.refusal

theorem both (head : Decides first p) (tail : Decides second q) :
    Decides (do first; second) (p ∧ q) where
  ok_iff := by
    rw [← head.ok_iff, ← tail.ok_iff]
    cases first with
    | error error => simp [bind, Except.bind]
    | ok _ => simp [bind, Except.bind]
  refusal := by
    intro error failed
    cases result : first with
    | error other =>
      rw [result] at failed
      cases failed
      exact head.refusal result
    | ok _ =>
      rw [result] at failed
      exact tail.refusal failed

theorem refusesIf {condition : Prop} [Decidable condition] {message : String}
    (rest : Decides second q) :
    Decides (if condition then refuse (.validation message) else second) (¬condition ∧ q) := by
  split
  · next holds => exact (refuses message).iff (by simp [holds])
  · next fails => exact rest.iff (by simp [fails])

theorem acceptsIf {condition : Prop} [Decidable condition] {message : String}
    (rest : Decides first q) :
    Decides (if condition then first else refuse (.validation message)) (condition ∧ q) := by
  split
  · next holds => exact rest.iff (by simp [holds])
  · next fails => exact (refuses message).iff (by simp [fails])

theorem oneOf (path value : String) (allowed : List String) :
    Decides (requireOneOf path value allowed) (value ∈ allowed) where
  ok_iff := requireOneOf_eq_ok_iff path value allowed
  refusal := by
    intro error failed
    unfold requireOneOf at failed
    split at failed
    · cases failed
    · cases failed
      rfl

end Decides

namespace Connector

theorem name_eq_iff {prior desired : State} (same : prior.plain = desired.plain) :
    prior.name = desired.name ↔
      (prior.plain.get? "name" = none → prior.name = desired.name) := by
  constructor
  · intro names _
    exact names
  · intro names
    cases told : prior.plain.get? "name" with
    | none => exact names told
    | some name =>
      unfold State.name
      rw [← same, told]

theorem check_decides (prior desired : State) : Decides (State.checkChange prior desired)
    (prior.name = desired.name ∧ desired.status ∈ ["", running, paused]) := by
  unfold State.checkChange
  exact (Decides.refusesIf (Decides.acceptsIf Decides.accepts)).iff (by simp)

end Connector

namespace Environment

theorem check_decides (s : State) : Decides s.check
    (∀ governance, single? s.governance = some governance →
      governance.package ∈ Governance.packages) := by
  unfold State.check
  cases single? s.governance with
  | none => exact Decides.accepts.iff (by simp)
  | some governance => exact (Decides.oneOf _ _ _).iff (by simp)

theorem governance_agrees : Fields.Agrees (Decoder.blockList Governance.decode) [] :=
  blockList_agrees
    (Decoder.record_respects
      (Fields.map_respects (Fields.required_respects Decoder.text_respects "package")
        Governance.mk)
      "StreamGovernance")

theorem checkChange_decides {prior desired : State} (same : prior.governance = desired.governance) :
    Decides (State.checkChange prior desired)
      (∀ governance, single? prior.governance = some governance →
        governance.package ∈ Governance.packages) := by
  unfold State.checkChange
  rw [same]
  refine ((check_decides desired).both (q := True) ?_).iff (by simp)
  cases single? desired.governance with
  | none => exact Decides.accepts
  | some governance => exact (Decides.refusesIf Decides.accepts).iff (by simp)

end Environment

namespace FlinkComputePool

theorem checkSize_decides (s : State) : Decides s.checkSize
    (∀ size, s.maxCfu = some size → size ∈ sizes) := by
  unfold State.checkSize
  cases s.maxCfu with
  | none => exact Decides.accepts.iff (by simp)
  | some size => exact (Decides.acceptsIf Decides.accepts).iff (by simp)

theorem check_decides (s : State) : Decides s.check
    (s.cloud ∈ cloudNames ∧ ∀ size, s.maxCfu = some size → size ∈ sizes) :=
  (Decides.oneOf _ _ _).both (checkSize_decides s)

end FlinkComputePool

namespace KafkaCluster

theorem markers_agrees (name : String) : Fields.Agrees (Decoder.blockList (decodeMarker name)) [] :=
  blockList_agrees (Decoder.record_respects (Fields.pure_respects ()) name)

theorem sizes_agrees : Fields.Agrees (Decoder.blockList Size.decode) [] :=
  blockList_agrees
    (Decoder.record_respects
      (Fields.map_respects (Fields.required_respects Decoder.integer64_respects "cku") Size.mk)
      "Dedicated")

/-- What a size and a network have to be. -/
def State.Sized (s : State) : Prop :=
  match single? s.dedicated with
  | some size => s.minimumSize ≤ size.cku
  | none => s.network = []

theorem checkSize_decides (s : State) : Decides s.checkSize s.Sized := by
  unfold State.checkSize State.Sized
  cases single? s.dedicated with
  | none => exact (Decides.acceptsIf Decides.accepts).iff (by simp)
  | some size => exact (Decides.refusesIf Decides.accepts).iff (by simp [Int64.not_lt])

theorem check_decides (s : State) : Decides s.check
    (s.cloud ∈ cloudNames ∧ s.availability ∈ availabilities ∧ s.Sized) :=
  (Decides.oneOf _ _ _).both ((Decides.oneOf _ _ _).both (checkSize_decides s))

theorem checkChange_decides {prior desired : State} (same : prior.type = desired.type) :
    Decides (State.checkChange prior desired)
      (desired.cloud ∈ cloudNames ∧ desired.availability ∈ availabilities ∧ desired.Sized) := by
  unfold State.checkChange
  rw [same]
  exact (Decides.acceptsIf (check_decides desired)).iff (by simp [ClusterType.canBecome])

end KafkaCluster

namespace KafkaTopic

theorem checkChange_decides {prior desired : State} (same : prior.partitions = desired.partitions) :
    Decides (State.checkChange prior desired) True := by
  unfold State.checkChange
  rw [same]
  cases desired.partitions with
  | none => exact Decides.accepts
  | some count => exact (Decides.refusesIf Decides.accepts).iff (by simp [Int64.lt_irrefl])

end KafkaTopic

/-- What the rules of a kind come to where a plan finds no change. -/
structure Recheck where
  kind : Kind Wire
  writes_sorted : kind.WritesSorted
  round_trips : kind.RoundTrips
  /-- What makes an update pass, from a prior state to a desired one. -/
  Passes : kind.State → kind.State → Prop
  decides : ∀ {source target : List (String × Json)} {prior desired : kind.State},
    kind.schema.Unchanged source target →
    kind.decode (.obj (Json.dropNullsEntries source)) = .ok prior →
    kind.decode (.obj (Json.dropNullsEntries target)) = .ok desired →
      Decides (kind.validateUpdate prior desired) (Passes prior desired)

namespace Recheck

/-- The status that the server reports, also one that no configuration may ask for; and the name,
where the settings do not tell it, for then it is taken from the identifier. -/
def connectors : Recheck where
  kind := Connector.kind
  writes_sorted := Connector.writes_sorted
  round_trips := Connector.round_trips
  Passes prior desired :=
    ((Connector.State.plain prior).get? "name" = none →
      Connector.State.name prior = Connector.State.name desired) ∧
    Connector.State.status prior ∈ ["", Connector.running, Connector.paused]
  decides := by
    intro source target prior desired holds before after
    obtain ⟨_, _, _, plainBefore, _, statusBefore⟩ := Connector.decode_obj_iff.mp before
    obtain ⟨_, _, _, plainAfter, _, statusAfter⟩ := Connector.decode_obj_iff.mp after
    have status := holds.defaulted (by decide) text_agrees statusBefore statusAfter
    have plain := holds.defaulted (by decide) settings_agrees plainBefore plainAfter
    rw [status]
    exact (Connector.check_decides prior desired).iff
      (and_congr_left' (Connector.name_eq_iff plain))

/-- The governance package. -/
def environments : Recheck where
  kind := Environment.kind
  writes_sorted := Environment.writes_sorted
  round_trips := Environment.round_trips
  Passes prior _ := ∀ governance, single? (Environment.State.governance prior) = some governance →
    governance.package ∈ Environment.Governance.packages
  decides := by
    intro source target prior desired holds before after
    obtain ⟨_, _, governanceBefore, _⟩ := Environment.decode_obj_iff.mp before
    obtain ⟨_, _, governanceAfter, _⟩ := Environment.decode_obj_iff.mp after
    apply Environment.checkChange_decides
    exact holds.defaulted (by decide) Environment.governance_agrees governanceBefore governanceAfter

/-- The cloud and the size. -/
def flinkComputePools : Recheck where
  kind := FlinkComputePool.kind
  writes_sorted := FlinkComputePool.writes_sorted
  round_trips := FlinkComputePool.round_trips
  Passes prior _ := FlinkComputePool.State.cloud prior ∈ cloudNames ∧
    ∀ size, FlinkComputePool.State.maxCfu prior = some size → size ∈ FlinkComputePool.sizes
  decides := by
    intro source target prior desired holds before after
    obtain ⟨_, _, cloudBefore, _, sizeBefore, _⟩ := FlinkComputePool.decode_obj_iff.mp before
    obtain ⟨_, _, cloudAfter, _, sizeAfter, _⟩ := FlinkComputePool.decode_obj_iff.mp after
    have cloud := holds.required (by decide) text_agrees cloudBefore cloudAfter
    have size := holds.defaulted (by decide) integer64_agrees sizeBefore sizeAfter
    rw [cloud, size]
    exact FlinkComputePool.check_decides desired

/-- The cloud, the availability, and the size or the network. -/
def kafkaClusters : Recheck where
  kind := KafkaCluster.kind
  writes_sorted := KafkaCluster.writes_sorted
  round_trips := KafkaCluster.round_trips
  Passes prior _ := KafkaCluster.State.cloud prior ∈ cloudNames ∧
    KafkaCluster.State.availability prior ∈ KafkaCluster.availabilities ∧
    KafkaCluster.State.Sized prior
  decides := by
    intro source target prior desired holds before after
    obtain ⟨_, _, availabilityBefore, cloudBefore, _, _, standardBefore, dedicatedBefore, _,
      networkBefore, _⟩ := KafkaCluster.decode_obj_iff.mp before
    obtain ⟨_, _, availabilityAfter, cloudAfter, _, _, standardAfter, dedicatedAfter, _,
      networkAfter, _⟩ := KafkaCluster.decode_obj_iff.mp after
    have availability := holds.required (by decide) text_agrees availabilityBefore
      availabilityAfter
    have cloud := holds.required (by decide) text_agrees cloudBefore cloudAfter
    have standard := holds.defaulted (by decide) (KafkaCluster.markers_agrees "Standard")
      standardBefore standardAfter
    have dedicated := holds.defaulted (by decide) KafkaCluster.sizes_agrees dedicatedBefore
      dedicatedAfter
    have network := holds.defaulted (by decide)
      (blockList_agrees (Reference.decodeAs_respects "IdRef")) networkBefore networkAfter
    have types : KafkaCluster.State.type prior = KafkaCluster.State.type desired := by
      unfold KafkaCluster.State.type
      rw [dedicated, standard]
    have sized : KafkaCluster.State.Sized prior ↔ KafkaCluster.State.Sized desired := by
      unfold KafkaCluster.State.Sized KafkaCluster.State.minimumSize
      rw [dedicated, availability, network]
    rw [cloud, availability, sized]
    exact KafkaCluster.checkChange_decides types

def kafkaTopics : Recheck where
  kind := KafkaTopic.kind
  writes_sorted := KafkaTopic.writes_sorted
  round_trips := KafkaTopic.round_trips
  Passes _ _ := True
  decides := by
    intro source target prior desired holds before after
    obtain ⟨_, _, partitionsBefore, _⟩ := KafkaTopic.decode_obj_iff.mp before
    obtain ⟨_, _, partitionsAfter, _⟩ := KafkaTopic.decode_obj_iff.mp after
    apply KafkaTopic.checkChange_decides
    exact holds.defaulted (by decide) integer64_agrees partitionsBefore partitionsAfter

def networks : Recheck where
  kind := Network.kind
  writes_sorted := Network.writes_sorted
  round_trips := Network.round_trips
  Passes _ _ := True
  decides _ _ _ := Decides.accepts

def serviceAccounts : Recheck where
  kind := ServiceAccount.kind
  writes_sorted := ServiceAccount.writes_sorted
  round_trips := ServiceAccount.round_trips
  Passes _ _ := True
  decides _ _ _ := Decides.accepts

/-- The rechecks of every kind, in the order of names. -/
def all : List Recheck :=
  [connectors, environments, flinkComputePools, kafkaClusters, kafkaTopics, networks,
    serviceAccounts]

theorem kinds_all : all.map Recheck.kind = kinds := rfl

end Recheck

end Provisioner

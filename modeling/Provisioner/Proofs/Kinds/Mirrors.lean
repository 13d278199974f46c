import Provisioner.Proofs.Kinds.Classified
import Provisioner.Proofs.Kinds.Deliveries
import Provisioner.Proofs.Kinds.Echo

/-!
# The kinds that mirror their configurations

A server that keeps what it is sent tells each attribute of these five kinds as it was asked for, so
that the state of the object agrees with the configuration. What makes this so differs: most texts
are left out of a body exactly if they are empty, sets are sorted, an environment that is not named
stays as it is known, and the type of a cluster is told apart from its size.
-/

namespace Provisioner

set_option autoImplicit false

open BodyPart (lookup_present lookup_text lookup_texts)

namespace Network

/-- A network is told under its specification, with its phase next to it. -/
def echo : Echo where
  item := .networks
  parts := [
    .of "cidr" ["spec", "cidr"] Decoder.text,
    .of "cloud" ["spec", "cloud"] Decoder.text,
    .of "connection_types" ["spec", "connection_types"] (Decoder.blockList Decoder.text),
    .of "display_name" ["spec", "display_name"] Decoder.text,
    .of "region" ["spec", "region"] Decoder.text,
    .of "zones" ["spec", "zones"] (Decoder.blockList Decoder.text),
    .of "environment" ["spec", "environment"] Reference.decodeObject,
    .of "resource_name" ["metadata"] decodeMetadata]
  ready _ told := told.Holds "status" PhaseStatus.decode fun status =>
    phases.classify status.phase = .ok .stable
  covers := by decide

/-- What a network has that was told as it was asked for. -/
structure Shows (desired : State) (remote : Remote) : Prop where
  cidr : remote.spec.cidr = desired.cidr ∨ "cidr" ∈ schema.computedNames ∧ desired.cidr = ""
  cloud : remote.spec.cloud = desired.cloud
  connectionTypes : remote.spec.connectionTypes.Perm desired.connectionTypes
  displayName : remote.spec.displayName = desired.displayName ∨
    "display_name" ∈ schema.computedNames ∧ desired.displayName = ""
  region : remote.spec.region = desired.region
  zones : remote.spec.zones.Perm desired.zones ∨
    "zones" ∈ schema.computedNames ∧ desired.zones = []
  environment : remote.spec.environment = ⟨desired.environmentId⟩
  stable : phases.classify remote.status.phase = .ok .stable

theorem creationBody_at (s : State) :
    s.creationBody.at ["spec", "cidr"] = (if s.cidr ≠ "" then some (.str s.cidr) else none) ∧
    s.creationBody.at ["spec", "cloud"] = (if s.cloud ≠ "" then some (.str s.cloud) else none) ∧
    s.creationBody.at ["spec", "connection_types"] =
      (if s.connectionTypes ≠ [] then some (.strings s.connectionTypes) else none) ∧
    s.creationBody.at ["spec", "display_name"] =
      (if s.displayName ≠ "" then some (.str s.displayName) else none) ∧
    s.creationBody.at ["spec", "environment"] = some (Reference.encode ⟨s.environmentId⟩) ∧
    s.creationBody.at ["spec", "region"] = (if s.region ≠ "" then some (.str s.region) else none) ∧
    s.creationBody.at ["spec", "zones"] =
      (if s.zones ≠ [] then some (.strings s.zones) else none) := by
  unfold State.creationBody
  simp [Spec.body_at, List.lookup_append, lookup_text, lookup_texts, lookup_present]

theorem shows_of_tells {desired : State} {told : Json} (tells : echo.Tells desired told) :
    ∃ remote, Remote.decode told = .ok remote ∧ Shows desired remote := by
  obtain ⟨⟨id, identified⟩, parts, ready⟩ := tells
  obtain ⟨top, rfl, idFound⟩ := Json.obj_of_get? identified
  simp only [echo, Part.of, List.forall_mem_cons] at parts
  obtain ⟨cidr, cloud, connectionTypes, displayName, region, zones, environment, metadata, -⟩ :=
    parts
  obtain ⟨sentCidr, sentCloud, sentTypes, sentName, sentEnvironment, sentRegion, sentZones⟩ :=
    creationBody_at desired
  obtain ⟨entries, found, within⟩ := environment.spec sentEnvironment
  rw [within] at cidr cloud connectionTypes displayName region zones environment
  obtain ⟨cidr', readCidr, keptCidr⟩ := cidr.text sentCidr
  obtain ⟨cloud', readCloud, keptCloud⟩ := cloud.text sentCloud
  obtain ⟨types', readTypes, keptTypes⟩ := connectionTypes.texts sentTypes
  obtain ⟨name', readName, keptName⟩ := displayName.text sentName
  obtain ⟨region', readRegion, keptRegion⟩ := region.text sentRegion
  obtain ⟨zones', readZones, keptZones⟩ := zones.texts sentZones
  obtain ⟨resource, readResource⟩ := metadata.unsent "" rfl
  obtain ⟨status, readStatus, stable⟩ := ready.required
  let spec : Spec := ⟨name', cloud', region', types', cidr', zones', ⟨desired.environmentId⟩⟩
  have readSpec : Spec.decode (.obj entries) = .ok spec := Spec.decode_obj_iff.mpr
    ⟨readName, readCloud, readRegion, readTypes, readCidr, readZones,
      environment.reference sentEnvironment⟩
  refine ⟨⟨id, spec, status, resource⟩, Remote.decode_obj_iff.mpr ⟨?_, ?_, readStatus, ?_⟩, ?_⟩
  · exact Fields.single_ofEntries_ok_iff.mpr (.inl ⟨_, idFound, rfl⟩)
  · exact Fields.single_ofEntries_ok_iff.mpr (.inl ⟨_, found, readSpec⟩)
  · exact readResource
  · exact {
      cidr := keptCidr
      cloud := keptCloud.resolve_right fun filled => absurd filled.1 (by decide)
      connectionTypes := keptTypes.resolve_right fun filled => absurd filled.1 (by decide)
      displayName := keptName
      region := keptRegion.resolve_right fun filled => absurd filled.1 (by decide)
      zones := keptZones
      environment := rfl
      stable := stable }

theorem agrees {target : List (String × Json)} {desired : State} {created looked : Remote}
    {name : String} (clean : schema.Clean target)
    (decoded : State.decode (.obj (Json.dropNullsEntries target)) = .ok desired)
    (first : Shows desired created) (last : Shows desired looked)
    (member : name ∈ schema.configurableNames) (decides : schema.Decides target name) :
    schema.agreesOn (State.encode (.ofRemote looked (.ofRemote created desired))) (.obj target)
      name = true := by
  obtain ⟨_, nameField, cloudField, regionField, typesField, cidrField, zonesField,
    environmentField, _⟩ := decode_obj_iff.mp decoded
  have sorted := clean.wellFormed.1
  have names : name ∈ ["cidr", "cloud", "connection_types", "display_name", "region", "zones",
    "environment"] := member
  simp only [List.mem_cons, List.not_mem_nil, or_false] at names
  rcases names with rfl | rfl | rfl | rfl | rfl | rfl | rfl
  · exact (Stated.of_text sorted cidrField).agreesOn isBlank_str rfl (last.cidr.imp_left .of_eq)
      decides.filled
  · exact (Stated.of_required_text sorted cloudField).agreesOn isBlank_str rfl
      (.inl (.of_eq last.cloud)) decides.filled
  · exact (Stated.of_texts sorted typesField).agreesOn isBlank_strings rfl
      (.inl (.reordered (by decide) ((List.mergeSort_perm _ _).trans last.connectionTypes)))
      decides.filled
  · exact (Stated.of_text sorted nameField).agreesOn isBlank_str rfl
      (last.displayName.imp_left .of_eq) decides.filled
  · exact (Stated.of_required_text sorted regionField).agreesOn isBlank_str rfl
      (.inl (.of_eq last.region)) decides.filled
  · exact (Stated.of_texts sorted zonesField).agreesOn isBlank_strings rfl
      (last.zones.imp_left fun perm =>
        .reordered (by decide) ((List.mergeSort_perm _ _).trans perm)) decides.filled
  · exact clean.agreesOn_environment List.mem_cons_self rfl decides environmentField
      first.environment last.environment rfl

def mirror : Mirror where
  toEcho := echo
  shows := Shows
  reads := shows_of_tells
  settles _ seen := seen.stable
  agrees := agrees

end Network

namespace FlinkComputePool

/-- A pool is told under its specification, with its phase next to it. -/
def echo : Echo where
  item := .flinkComputePools
  parts := [
    .of "cloud" ["spec", "cloud"] Decoder.text,
    .of "display_name" ["spec", "display_name"] Decoder.text,
    .of "environment" ["spec", "environment"] Reference.decodeObject,
    .of "max_cfu" ["spec", "max_cfu"] Decoder.integer64,
    .of "region" ["spec", "region"] Decoder.text,
    .of "resource_name" ["metadata"] decodeMetadata]
  ready _ told := told.Holds "status" PhaseStatus.decode fun status =>
    phases.classify status.phase = .ok .stable
  covers := by decide

/-- What a pool has that was told as it was asked for. -/
structure Shows (desired : State) (remote : Remote) : Prop where
  cloud : remote.spec.cloud = desired.cloud
  displayName : remote.spec.displayName = desired.displayName
  environment : remote.spec.environment = ⟨desired.environmentId⟩
  maxCfu : remote.spec.maxCfu = desired.maxCfu ∨
    "max_cfu" ∈ schema.computedNames ∧ desired.maxCfu = none
  region : remote.spec.region = desired.region
  stable : phases.classify remote.status.phase = .ok .stable

theorem creationBody_at (s : State) :
    s.creationBody.at ["spec", "cloud"] = (if s.cloud ≠ "" then some (.str s.cloud) else none) ∧
    s.creationBody.at ["spec", "display_name"] =
      (if s.displayName ≠ "" then some (.str s.displayName) else none) ∧
    s.creationBody.at ["spec", "environment"] = some (Reference.encode ⟨s.environmentId⟩) ∧
    s.creationBody.at ["spec", "max_cfu"] = s.maxCfu.map .int64 ∧
    s.creationBody.at ["spec", "region"] =
      (if s.region ≠ "" then some (.str s.region) else none) := by
  unfold State.creationBody
  simp [Spec.body_at, List.lookup_append, lookup_text, lookup_present]

theorem shows_of_tells {desired : State} {told : Json} (tells : echo.Tells desired told) :
    ∃ remote, Remote.decode told = .ok remote ∧ Shows desired remote := by
  obtain ⟨⟨id, identified⟩, parts, ready⟩ := tells
  obtain ⟨top, rfl, idFound⟩ := Json.obj_of_get? identified
  simp only [echo, Part.of, List.forall_mem_cons] at parts
  obtain ⟨cloud, displayName, environment, maxCfu, region, metadata, -⟩ := parts
  obtain ⟨sentCloud, sentName, sentEnvironment, sentSize, sentRegion⟩ := creationBody_at desired
  obtain ⟨entries, found, within⟩ := environment.spec sentEnvironment
  rw [within] at cloud displayName environment maxCfu region
  obtain ⟨cloud', readCloud, keptCloud⟩ := cloud.text sentCloud
  obtain ⟨name', readName, keptName⟩ := displayName.text sentName
  obtain ⟨size', readSize, keptSize⟩ := maxCfu.optional sentSize fun repeats => by
    rw [repeats.of_int64]
    exact ⟨rfl, Decoder.integer64_ok_iff.mpr rfl⟩
  obtain ⟨region', readRegion, keptRegion⟩ := region.text sentRegion
  obtain ⟨resource, readResource⟩ := metadata.unsent "" rfl
  obtain ⟨status, readStatus, stable⟩ := ready.required
  let spec : Spec := ⟨name', cloud', region', size', ⟨desired.environmentId⟩⟩
  have readSpec : Spec.decode (.obj entries) = .ok spec := Spec.decode_obj_iff.mpr
    ⟨readName, readCloud, readRegion, readSize, environment.reference sentEnvironment⟩
  refine ⟨⟨id, spec, status, resource⟩, Remote.decode_obj_iff.mpr ⟨?_, ?_, readStatus, ?_⟩, ?_⟩
  · exact Fields.single_ofEntries_ok_iff.mpr (.inl ⟨_, idFound, rfl⟩)
  · exact Fields.single_ofEntries_ok_iff.mpr (.inl ⟨_, found, readSpec⟩)
  · exact readResource
  · exact {
      cloud := keptCloud.resolve_right fun filled => absurd filled.1 (by decide)
      displayName := keptName.resolve_right fun filled => absurd filled.1 (by decide)
      environment := rfl
      maxCfu := keptSize
      region := keptRegion.resolve_right fun filled => absurd filled.1 (by decide)
      stable := stable }

theorem agrees {target : List (String × Json)} {desired : State} {created looked : Remote}
    {name : String} (clean : schema.Clean target)
    (decoded : State.decode (.obj (Json.dropNullsEntries target)) = .ok desired)
    (first : Shows desired created) (last : Shows desired looked)
    (member : name ∈ schema.configurableNames) (decides : schema.Decides target name) :
    schema.agreesOn (State.encode (.ofRemote looked (.ofRemote created desired))) (.obj target)
      name = true := by
  obtain ⟨_, nameField, cloudField, regionField, sizeField, environmentField, _⟩ :=
    decode_obj_iff.mp decoded
  have sorted := clean.wellFormed.1
  have names : name ∈ ["cloud", "display_name", "max_cfu", "region", "environment"] := member
  simp only [List.mem_cons, List.not_mem_nil, or_false] at names
  rcases names with rfl | rfl | rfl | rfl | rfl
  · exact (Stated.of_required_text sorted cloudField).agreesOn isBlank_str rfl
      (.inl (.of_eq last.cloud)) decides.filled
  · exact (Stated.of_required_text sorted nameField).agreesOn isBlank_str rfl
      (.inl (.of_eq last.displayName)) decides.filled
  · exact (Stated.of_integer sorted sizeField).agreesOn isBlank_integer rfl
      (last.maxCfu.imp_left fun same => .of_eq (congrArg (Option.map Json.int64) same))
      decides.filled
  · exact (Stated.of_required_text sorted regionField).agreesOn isBlank_str rfl
      (.inl (.of_eq last.region)) decides.filled
  · exact clean.agreesOn_environment List.mem_cons_self rfl decides environmentField
      first.environment last.environment rfl

def mirror : Mirror where
  toEcho := echo
  shows := Shows
  reads := shows_of_tells
  settles _ seen := seen.stable
  agrees := agrees

end FlinkComputePool

namespace ServiceAccount

/-- A service account has no phase. -/
def echo : Echo where
  item := .serviceAccounts
  parts := [
    .of "description" ["description"] Decoder.text,
    .of "display_name" ["display_name"] Decoder.text]
  ready _ _ := True
  covers := by decide

structure Shows (desired : State) (remote : Remote) : Prop where
  description : remote.description = desired.description
  displayName : remote.displayName = desired.displayName

theorem shows_of_tells {desired : State} {told : Json} (tells : echo.Tells desired told) :
    ∃ remote, Remote.decode told = .ok remote ∧ Shows desired remote := by
  obtain ⟨⟨id, identified⟩, parts, -⟩ := tells
  obtain ⟨top, rfl, idFound⟩ := Json.obj_of_get? identified
  simp only [echo, Part.of, List.forall_mem_cons] at parts
  obtain ⟨description, displayName, -⟩ := parts
  refine ⟨⟨id, desired.displayName, desired.description⟩,
    Remote.decode_obj_iff.mpr ⟨?_, ?_, ?_⟩, ⟨rfl, rfl⟩⟩
  · exact Fields.single_ofEntries_ok_iff.mpr (.inl ⟨_, idFound, rfl⟩)
  · exact displayName.sent_text rfl
  · exact description.sent_text rfl

theorem agrees {target : List (String × Json)} {desired : State} {looked : Remote} {name : String}
    (clean : schema.Clean target)
    (decoded : State.decode (.obj (Json.dropNullsEntries target)) = .ok desired)
    (last : Shows desired looked) (member : name ∈ schema.configurableNames)
    (decides : schema.Decides target name) :
    schema.agreesOn (State.encode (.ofRemote looked)) (.obj target) name = true := by
  obtain ⟨_, nameField, descriptionField⟩ := decode_obj_iff.mp decoded
  have sorted := clean.wellFormed.1
  have names : name ∈ ["description", "display_name"] := member
  simp only [List.mem_cons, List.not_mem_nil, or_false] at names
  rcases names with rfl | rfl
  · exact (Stated.of_text sorted descriptionField).agreesOn isBlank_str rfl
      (.inl (.of_eq last.description)) decides.filled
  · exact (Stated.of_required_text sorted nameField).agreesOn isBlank_str rfl
      (.inl (.of_eq last.displayName)) decides.filled

def mirror : Mirror where
  toEcho := echo
  shows := Shows
  reads := shows_of_tells
  settles _ _ := rfl
  agrees clean decoded _ := agrees clean decoded

end ServiceAccount

namespace Environment

/-- An environment has no phase. Its governance has another name in the bodies. -/
def echo : Echo where
  item := .environments
  parts := [
    .of "display_name" ["display_name"] Decoder.text,
    .of "stream_governance" ["stream_governance_config"] Governance.decode,
    .of "resource_name" ["metadata"] decodeMetadata]
  ready _ _ := True
  covers := by decide

structure Shows (desired : State) (remote : Remote) : Prop where
  displayName : remote.displayName = desired.displayName
  governance : remote.governance = single? desired.governance ∨
    "stream_governance" ∈ schema.computedNames ∧ single? desired.governance = none

theorem body_at_metadata (s : State) : s.body.at ["metadata"] = none := by
  have entries : s.body.at ["metadata"] = List.lookup "metadata"
      (("display_name", Json.str s.displayName) :: BodyPart.present "stream_governance_config"
        ((single? s.governance).map Governance.encode)) := rfl
  rw [entries, List.lookup_cons, lookup_present]
  rfl

theorem shows_of_tells {desired : State} {told : Json} (tells : echo.Tells desired told) :
    ∃ remote, Remote.decode told = .ok remote ∧ Shows desired remote := by
  obtain ⟨⟨id, identified⟩, parts, -⟩ := tells
  obtain ⟨top, rfl, idFound⟩ := Json.obj_of_get? identified
  simp only [echo, Part.of, List.forall_mem_cons] at parts
  obtain ⟨displayName, governance, metadata, -⟩ := parts
  obtain ⟨governance', readGovernance, kept⟩ :=
    governance.optional (body_at_governance desired) fun repeats => by
      rw [repeats.of_obj (by simp)]
      exact ⟨rfl, rfl⟩
  obtain ⟨resource, readResource⟩ := metadata.unsent "" (body_at_metadata desired)
  refine ⟨⟨id, desired.displayName, governance', resource⟩,
    Remote.decode_obj_iff.mpr ⟨?_, ?_, readGovernance, readResource⟩, ⟨rfl, kept⟩⟩
  · exact Fields.single_ofEntries_ok_iff.mpr (.inl ⟨_, idFound, rfl⟩)
  · exact displayName.sent_text rfl

theorem agrees {target : List (String × Json)} {desired : State} {looked : Remote} {name : String}
    (clean : schema.Clean target)
    (decoded : State.decode (.obj (Json.dropNullsEntries target)) = .ok desired)
    (last : Shows desired looked) (member : name ∈ schema.configurableNames)
    (decides : schema.Decides target name) :
    schema.agreesOn (State.encode (.ofRemote looked)) (.obj target) name = true := by
  obtain ⟨_, nameField, governanceField, _⟩ := decode_obj_iff.mp decoded
  have names : name ∈ ["display_name", "stream_governance"] := member
  simp only [List.mem_cons, List.not_mem_nil, or_false] at names
  rcases names with rfl | rfl
  · exact (Stated.of_required_text clean.wellFormed.1 nameField).agreesOn isBlank_str rfl
      (.inl (.of_eq last.displayName)) decides.filled
  · have encodes : ∀ package, Governance.encode ⟨package⟩ = .obj [("package", .str package)] :=
      fun _ => rfl
    have stated := clean.stated List.mem_cons_self (fun _ read => by cases read)
      (fun entries sorted only => Decoder.record_canonical encodes Decoder.text_canonical sorted
        fun entry inside => List.mem_singleton.mp (only entry inside)) governanceField
    have single := clean.length_le_one List.mem_cons_self rfl stated decides.counted
    refine stated.agreesOn isBlank_items rfl (last.governance.imp ?_ ?_) decides.filled
    · intro same
      have blocks := (congrArg Option.toList same).trans (toList_single single)
      exact .of_eq (congrArg (List.map Governance.encode) blocks)
    · intro filled
      exact ⟨filled.1, by rw [← toList_single single, filled.2]; rfl⟩

def mirror : Mirror where
  toEcho := echo
  shows := Shows
  reads := shows_of_tells
  settles _ _ := rfl
  agrees clean decoded _ := agrees clean decoded

end Environment

namespace KafkaCluster

/-- A cluster is told under its specification, with its phase and its size next to it. The blocks
that choose its type are told as one value. -/
def echo : Echo where
  item := .kafkaClusters
  parts := [
    .of "availability" ["spec", "availability"] Decoder.text,
    .of "bootstrap_endpoint" ["spec", "kafka_bootstrap_endpoint"] Decoder.text,
    .of "cloud" ["spec", "cloud"] Decoder.text,
    .of "display_name" ["spec", "display_name"] Decoder.text,
    .of "environment" ["spec", "environment"] Reference.decodeObject,
    .of "network" ["spec", "network"] Reference.decodeObject,
    .of "region" ["spec", "region"] Decoder.text,
    .of "resource_name" ["metadata"] decodeMetadata,
    .of "rest_endpoint" ["spec", "http_endpoint"] Decoder.text,
    .of "basic" ["spec", "config"] TypeConfig.decode,
    .of "standard" ["spec", "config"] TypeConfig.decode,
    .of "dedicated" ["spec", "config"] TypeConfig.decode]
  ready := fun (desired : State) told => told.Holds "status" Status.decode fun status =>
    phases.classify status.phase = .ok .stable ∧ ∀ size cku,
      single? desired.dedicated = some size → status.cku = some cku → size.cku = cku
  covers := by decide

/-- What a cluster has that was told as it was asked for. -/
structure Shows (desired : State) (remote : Remote) : Prop where
  availability : remote.spec.availability = desired.availability
  cloud : remote.spec.cloud = desired.cloud
  config : remote.spec.config = some desired.typeConfig
  displayName : remote.spec.displayName = desired.displayName
  environment : remote.spec.environment = ⟨desired.environmentId⟩
  network : remote.spec.network = single? desired.network
  region : remote.spec.region = desired.region
  stable : phases.classify remote.status.phase = .ok .stable
  size : ∀ size cku, single? desired.dedicated = some size → remote.status.cku = some cku →
    size.cku = cku

theorem creationBody_at (s : State) :
    s.creationBody.at ["spec", "availability"] =
      (if s.availability ≠ "" then some (.str s.availability) else none) ∧
    s.creationBody.at ["spec", "cloud"] = (if s.cloud ≠ "" then some (.str s.cloud) else none) ∧
    s.creationBody.at ["spec", "config"] = some s.typeConfig.encode ∧
    s.creationBody.at ["spec", "display_name"] =
      (if s.displayName ≠ "" then some (.str s.displayName) else none) ∧
    s.creationBody.at ["spec", "environment"] = some (Reference.encode ⟨s.environmentId⟩) ∧
    s.creationBody.at ["spec", "network"] = (single? s.network).map Reference.encode ∧
    s.creationBody.at ["spec", "region"] =
      (if s.region ≠ "" then some (.str s.region) else none) ∧
    s.creationBody.at ["spec", "kafka_bootstrap_endpoint"] = none ∧
    s.creationBody.at ["spec", "http_endpoint"] = none := by
  unfold State.creationBody
  simp [Spec.body_at, List.lookup_append, lookup_text, lookup_present]

theorem TypeConfig.decode_encode (config : TypeConfig) :
    TypeConfig.decode config.encode = .ok config := by
  obtain ⟨name, cku⟩ := config
  apply TypeConfig.decode_obj_iff.mpr
  cases cku with
  | none =>
    exact ⟨Fields.single_ofEntries_ok_iff.mpr (.inl ⟨.str name, rfl, rfl⟩),
      Fields.single_ofEntries_ok_iff.mpr (.inr ⟨rfl, rfl⟩)⟩
  | some cku =>
    have integer : Decoder.integer64 (.int64 cku) = .ok cku := Decoder.integer64_ok_iff.mpr rfl
    refine ⟨Fields.single_ofEntries_ok_iff.mpr (.inl ⟨.str name, rfl, rfl⟩),
      Fields.single_ofEntries_ok_iff.mpr (.inl ⟨.int64 cku, rfl, ?_⟩)⟩
    exact congrArg (Except.map some) integer

theorem TypeConfig.told {config : TypeConfig} {told : Json} (repeats : config.encode.Repeats told) :
    told.isNull = false ∧ TypeConfig.decode told = .ok config := by
  have same : told = config.encode := by
    apply repeats.of_obj
    obtain ⟨name, cku⟩ := config
    cases cku <;> simp [BodyPart.present]
  rw [same]
  exact ⟨rfl, config.decode_encode⟩

theorem shows_of_tells {desired : State} {told : Json} (tells : echo.Tells desired told) :
    ∃ remote, Remote.decode told = .ok remote ∧ Shows desired remote := by
  obtain ⟨⟨id, identified⟩, parts, ready⟩ := tells
  obtain ⟨top, rfl, idFound⟩ := Json.obj_of_get? identified
  simp only [echo, Part.of, List.forall_mem_cons] at parts
  obtain ⟨availability, bootstrap, cloud, displayName, environment, network, region, metadata, rest,
    config, -⟩ := parts
  obtain ⟨sentAvailability, sentCloud, sentConfig, sentName, sentEnvironment, sentNetwork,
    sentRegion, noBootstrap, noRest⟩ := creationBody_at desired
  obtain ⟨entries, found, within⟩ := environment.spec sentEnvironment
  rw [within] at availability bootstrap cloud displayName environment network region rest config
  obtain ⟨availability', readAvailability, keptAvailability⟩ := availability.text sentAvailability
  obtain ⟨bootstrap', readBootstrap⟩ := bootstrap.unsent "" noBootstrap
  obtain ⟨cloud', readCloud, keptCloud⟩ := cloud.text sentCloud
  obtain ⟨name', readName, keptName⟩ := displayName.text sentName
  obtain ⟨network', readNetwork, keptNetwork⟩ := network.optional sentNetwork fun repeats => by
    obtain ⟨inner, rfl, named⟩ := repeats.of_reference
    exact ⟨rfl, Reference.decodeAs_of_lookup named⟩
  obtain ⟨region', readRegion, keptRegion⟩ := region.text sentRegion
  obtain ⟨resource, readResource⟩ := metadata.unsent "" rfl
  obtain ⟨rest', readRest⟩ := rest.unsent "" noRest
  obtain ⟨config', readConfig, keptConfig⟩ :=
    config.optional (show _ = (some desired.typeConfig).map TypeConfig.encode from sentConfig)
      TypeConfig.told
  obtain ⟨status, readStatus, stable, size⟩ := ready.required
  let spec : Spec := {
    displayName := name'
    availability := availability'
    cloud := cloud'
    region := region'
    config := config'
    environment := ⟨desired.environmentId⟩
    network := network'
    bootstrapEndpoint := bootstrap'
    restEndpoint := rest' }
  have readSpec : Spec.decode (.obj entries) = .ok spec := Spec.decode_obj_iff.mpr
    ⟨readName, readAvailability, readCloud, readRegion, readConfig,
      environment.reference sentEnvironment, readNetwork, readBootstrap, readRest⟩
  refine ⟨⟨id, spec, status, resource⟩, Remote.decode_obj_iff.mpr ⟨?_, ?_, readStatus, ?_⟩, ?_⟩
  · exact Fields.single_ofEntries_ok_iff.mpr (.inl ⟨_, idFound, rfl⟩)
  · exact Fields.single_ofEntries_ok_iff.mpr (.inl ⟨_, found, readSpec⟩)
  · exact readResource
  · exact {
      availability := keptAvailability.resolve_right fun filled => absurd filled.1 (by decide)
      cloud := keptCloud.resolve_right fun filled => absurd filled.1 (by decide)
      config := keptConfig.resolve_right fun filled => absurd filled.1 (by decide)
      displayName := keptName.resolve_right fun filled => absurd filled.1 (by decide)
      environment := rfl
      network := keptNetwork.resolve_right fun filled => absurd filled.1 (by decide)
      region := keptRegion.resolve_right fun filled => absurd filled.1 (by decide)
      stable := stable
      size := size }

theorem Shows.type {desired : State} {remote : Remote} (shows : Shows desired remote) :
    remote.type? = some desired.type := by
  unfold Remote.type? Remote.typeName
  rw [shows.config]
  exact ClusterType.ofName?_name desired.type

theorem single_of_dedicated {s : State} (dedicated : s.type = .dedicated) :
    ∃ size, single? s.dedicated = some size := by
  unfold State.type at dedicated
  cases sizes : s.dedicated with
  | nil =>
    rw [sizes] at dedicated
    split at dedicated
    · contradiction
    · split at dedicated
      · cases dedicated
      · cases dedicated
  | cons size rest => exact ⟨size, rfl⟩

theorem Shows.cku {desired : State} {remote : Remote} (shows : Shows desired remote) {size : Size}
    (first : single? desired.dedicated = some size) : remote.cku = size.cku := by
  unfold Remote.cku
  rw [shows.config]
  show (((single? desired.dedicated).map Size.cku).or remote.status.cku).getD 0 = size.cku
  rw [first]
  rfl

theorem settles {desired : State} {created seen : Remote} (first : Shows desired created)
    (next : Shows desired seen) : classify seen (.ofRemote created desired) = .ok .stable := by
  refine (stable_iff _ _).mpr ⟨?_, (phase_stable_iff _).mp next.stable, ?_⟩
  · rw [next.type]
    rfl
  · rw [isResizing_eq_false_iff]
    intro size cku expected reported
    have block : single? (if created.type? = some .dedicated then [⟨created.cku⟩] else []) =
      some size := expected
    split at block
    · next chosen =>
      cases block
      have dedicated : desired.type = .dedicated := Option.some.inj (first.type.symm.trans chosen)
      obtain ⟨asked, found⟩ := single_of_dedicated dedicated
      exact (first.cku found).trans (next.size asked cku found reported)
    · cases block

theorem stated_markers {target : List (String × Json)} {name marker : String} {nesting : Nesting}
    {values : List Unit} (clean : schema.Clean target)
    (member : (name, nesting, {}) ∈ schema.block.blocks)
    (decoded : (Fields.defaulted name [] (Decoder.blockList (decodeMarker marker))).ofEntries
      (Json.dropNullsEntries target) = .ok values) :
    Stated encodeMarkers [] (target.lookup name) values := by
  apply clean.stated member (fun _ read => by cases read) _ decoded
  intro entries _ only value _
  have none : entries = [] := List.eq_nil_iff_forall_not_mem.mpr fun entry inside =>
    List.not_mem_nil (only entry inside)
  rw [none]

theorem hasOnly_of_clean {target : List (String × Json)} {desired : State}
    (clean : schema.Clean target)
    (basic : Stated encodeMarkers [] (target.lookup "basic") desired.basic)
    (dedicated : Stated (fun sizes => .arr (sizes.map Size.encode)) []
      (target.lookup "dedicated") desired.dedicated)
    (standard : Stated encodeMarkers [] (target.lookup "standard") desired.standard) :
    desired.HasOnly desired.type := by
  have group := (Block.check_obj_eq_nil_iff.mp clean.valid).2.2 ClusterType.blockNames
    List.mem_cons_self
  have one : (setMembers ClusterType.blockNames target).length = 1 := by
    unfold checkGroup at group
    dsimp only at group
    split at group
    · assumption
    · cases group
  have basicSet : isSet (target.lookup "basic") = !desired.basic.isEmpty :=
    Stated.isSet_items basic
  have standardSet : isSet (target.lookup "standard") = !desired.standard.isEmpty :=
    Stated.isSet_items standard
  simp only [setMembers, ClusterType.blockNames, List.filter_cons, List.filter_nil, basicSet,
    standardSet, dedicated.isSet_items] at one
  -- Of the three blocks one has items, and the others have none.
  constructor
  all_goals
    unfold State.type
    cases noBasic : desired.basic.isEmpty
    all_goals
      cases noStandard : desired.standard.isEmpty
      all_goals cases noDedicated : desired.dedicated.isEmpty
      all_goals simp_all

theorem agrees {target : List (String × Json)} {desired : State} {created looked : Remote}
    {name : String} (clean : schema.Clean target)
    (decoded : State.decode (.obj (Json.dropNullsEntries target)) = .ok desired)
    (first : Shows desired created) (last : Shows desired looked)
    (member : name ∈ schema.configurableNames) (decides : schema.Decides target name) :
    schema.agreesOn (State.encode (.ofRemote looked (.ofRemote created desired))) (.obj target)
      name = true := by
  obtain ⟨_, nameField, availabilityField, cloudField, regionField, basicField, standardField,
    dedicatedField, environmentField, networkField, _⟩ := decode_obj_iff.mp decoded
  have sorted := clean.wellFormed.1
  have isBasic : ("basic", Nesting.atMostOne, _) ∈ schema.block.blocks := .head _
  have isDedicated : ("dedicated", Nesting.atMostOne, _) ∈ schema.block.blocks :=
    .tail _ (.head _)
  have isNetwork : ("network", Nesting.atMostOne.replacing, _) ∈ schema.block.blocks :=
    .tail _ (.tail _ (.tail _ (.head _)))
  have isStandard : ("standard", Nesting.atMostOne, _) ∈ schema.block.blocks :=
    .tail _ (.tail _ (.tail _ (.tail _ (.head _))))
  have basic := stated_markers clean isBasic basicField
  have standard := stated_markers clean isStandard standardField
  have network := clean.stated_reference isNetwork networkField
  have sizes : ∀ cku, Size.encode ⟨cku⟩ = .obj [("cku", .int64 cku)] := fun _ => rfl
  have dedicated := clean.stated isDedicated (fun _ read => by cases read)
    (fun entries sorted only => Decoder.record_canonical sizes Decoder.integer64_canonical sorted
      fun entry inside => List.mem_singleton.mp (only entry inside)) dedicatedField
  have only := hasOnly_of_clean clean basic dedicated standard
  have chosen : ∀ type : ClusterType, looked.type? = some type ↔ desired.type = type := by
    intro type
    rw [last.type]
    exact ⟨Option.some.inj, congrArg some⟩
  have names : name ∈ ["availability", "cloud", "display_name", "region", "basic", "dedicated",
    "environment", "network", "standard"] := member
  simp only [List.mem_cons, List.not_mem_nil, or_false] at names
  rcases names with rfl | rfl | rfl | rfl | rfl | rfl | rfl | rfl | rfl
  · exact (Stated.of_required_text sorted availabilityField).agreesOn isBlank_str rfl
      (.inl (.of_eq last.availability)) decides.filled
  · exact (Stated.of_required_text sorted cloudField).agreesOn isBlank_str rfl
      (.inl (.of_eq last.cloud)) decides.filled
  · exact (Stated.of_required_text sorted nameField).agreesOn isBlank_str rfl
      (.inl (.of_eq last.displayName)) decides.filled
  · exact (Stated.of_required_text sorted regionField).agreesOn isBlank_str rfl
      (.inl (.of_eq last.region)) decides.filled
  · have single := clean.length_le_one isBasic rfl basic decides.counted
    have same := eq_of_choice single (only.basic.trans (chosen _).symm) fun first _ =>
      show () = first from rfl
    exact basic.agreesOn isBlank_items rfl (.inl (.of_eq same)) decides.filled
  · have single := clean.length_le_one isDedicated rfl dedicated decides.counted
    have same := eq_of_choice single (only.dedicated.trans (chosen _).symm) fun size found =>
      show Size.mk looked.cku = size from congrArg Size.mk (last.cku found)
    exact dedicated.agreesOn isBlank_items rfl
      (.inl (.of_eq (congrArg (List.map Size.encode) same))) decides.filled
  · exact clean.agreesOn_environment (.tail _ (.tail _ (.head _))) rfl decides environmentField
      first.environment last.environment rfl
  · have single := clean.length_le_one isNetwork rfl network decides.counted
    have same := (congrArg Option.toList last.network).trans (toList_single single)
    exact network.agreesOn isBlank_items rfl (.inl (.of_eq same)) decides.filled
  · have single := clean.length_le_one isStandard rfl standard decides.counted
    have same := eq_of_choice single (only.standard.trans (chosen _).symm) fun first _ =>
      show () = first from rfl
    exact standard.agreesOn isBlank_items rfl (.inl (.of_eq same)) decides.filled

def mirror : Mirror where
  toEcho := echo
  shows := Shows
  reads := shows_of_tells
  settles := settles
  agrees := agrees

end KafkaCluster

/-- The kinds that mirror their configurations, in the order of names. -/
def mirrors : List Mirror :=
  [Environment.mirror, FlinkComputePool.mirror, KafkaCluster.mirror, Network.mirror,
    ServiceAccount.mirror]

end Provisioner

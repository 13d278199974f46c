import Provisioner.Kind
import Provisioner.Kinds.Body
import Provisioner.Kinds.Choice
import Provisioner.Kinds.Reference

/-!
# Kafka clusters

The type of a cluster is the one block of three that its configuration sets. In place, a basic
cluster can become a standard one and a dedicated one can be resized. A resize is accepted at once
and applied over hours, in which the phase does not change; so a cluster counts as stable only when
the size it reports is the one asked for.
-/

namespace Provisioner.KafkaCluster

set_option autoImplicit false

open Http (Wire)

def phases : PhaseTable where
  entries := [
    ("PROVISIONING", .provisioning),
    ("PROVISIONED", .stable),
    ("FAILED", .failed),
    ("DEPROVISIONING", .deprovisioning)]

def availabilities : List String := ["SINGLE_ZONE", "MULTI_ZONE"]

inductive ClusterType where
  | basic
  | standard
  | dedicated
deriving DecidableEq, Repr

namespace ClusterType

def name : ClusterType → String
  | .basic => "Basic"
  | .standard => "Standard"
  | .dedicated => "Dedicated"

def all : List ClusterType := [.basic, .standard, .dedicated]

def ofName? (text : String) : Option ClusterType := all.find? fun type => type.name == text

/-- The names of the blocks that choose a type. -/
def blockNames : List String := ["basic", "standard", "dedicated"]

/-- Whether a cluster can change from the first type to the second in place. -/
def canBecome (source target : ClusterType) : Bool :=
  source == target || (source == .basic && target == .standard)

theorem ofName?_name (type : ClusterType) : ofName? type.name = some type := by
  cases type <;> decide

end ClusterType

/-- The size of a dedicated cluster. -/
structure Size where
  cku : Int64
deriving DecidableEq, Repr

namespace Size

def decode : Decoder Size :=
  Decoder.record "Dedicated" (Size.mk <$> Fields.required "cku" Decoder.integer64)

def encode (size : Size) : Json := .obj [("cku", .int64 size.cku)]

end Size

/-- A block without attributes. -/
def decodeMarker (name : String) : Decoder Unit := Decoder.record name (pure ())

def encodeMarkers (block : List Unit) : Json := .arr (block.map fun _ => .obj [])

structure State where
  id : String
  displayName : String
  availability : String
  cloud : String
  region : String
  basic : List Unit
  standard : List Unit
  dedicated : List Size
  environment : List Reference
  network : List Reference
  bootstrapEndpoint : String
  restEndpoint : String
  resourceName : String
deriving DecidableEq, Repr

/-- The type of a cluster as bodies tell it. -/
structure TypeConfig where
  typeName : String
  cku : Option Int64
deriving DecidableEq, Repr

/-- What is asked of a cluster, and what the server says it has. The endpoints are never asked for.
-/
structure Spec where
  displayName : String := ""
  availability : String := ""
  cloud : String := ""
  region : String := ""
  config : Option TypeConfig := none
  environment : Reference := ⟨""⟩
  network : Option Reference := none
  bootstrapEndpoint : String := ""
  restEndpoint : String := ""
deriving DecidableEq, Repr

structure Status where
  phase : String
  cku : Option Int64
  errorMessage : Option String
deriving DecidableEq, Repr

structure Remote where
  id : String
  spec : Spec
  status : Status
  resourceName : String
deriving DecidableEq, Repr

namespace TypeConfig

def decode : Decoder TypeConfig :=
  Decoder.record "ClusterConfig"
    (TypeConfig.mk <$> Fields.required "kind" Decoder.text
      <*> Fields.optional "cku" Decoder.integer64)

def encode (config : TypeConfig) : Json :=
  .obj (BodyPart.present "cku" (config.cku.map Json.int64) ++ [("kind", .str config.typeName)])

end TypeConfig

namespace Spec

def decode : Decoder Spec :=
  Decoder.record "ClusterSpec"
    (Spec.mk <$> Fields.defaulted "display_name" "" Decoder.text
      <*> Fields.defaulted "availability" "" Decoder.text
      <*> Fields.defaulted "cloud" "" Decoder.text
      <*> Fields.defaulted "region" "" Decoder.text
      <*> Fields.optional "config" TypeConfig.decode
      <*> Fields.defaulted "environment" ⟨""⟩ Reference.decodeObject
      <*> Fields.optional "network" Reference.decodeObject
      <*> Fields.defaulted "kafka_bootstrap_endpoint" "" Decoder.text
      <*> Fields.defaulted "http_endpoint" "" Decoder.text)

/-- Leaves out what is not asked for. -/
def body (spec : Spec) : Json :=
  .obj [("spec", .obj (
    BodyPart.text "availability" spec.availability
      ++ BodyPart.text "cloud" spec.cloud
      ++ BodyPart.present "config" (spec.config.map TypeConfig.encode)
      ++ BodyPart.text "display_name" spec.displayName
      ++ [("environment", spec.environment.encode)]
      ++ BodyPart.present "network" (spec.network.map Reference.encode)
      ++ BodyPart.text "region" spec.region))]

end Spec

def Status.decode : Decoder Status :=
  Decoder.record "ClusterStatus"
    (Status.mk <$> Fields.required "phase" Decoder.text
      <*> Fields.optional "cku" Decoder.integer64
      <*> Fields.optional "error_message" Decoder.text)

namespace Remote

def decode : Decoder Remote :=
  Decoder.record "RemoteCluster"
    (Remote.mk <$> Fields.required "id" Decoder.text
      <*> Fields.required "spec" Spec.decode
      <*> Fields.required "status" Status.decode
      <*> Fields.defaulted "metadata" "" decodeMetadata)

/-- Empty if the server does not tell the type. -/
def typeName (remote : Remote) : String := (remote.spec.config.map TypeConfig.typeName).getD ""

def type? (remote : Remote) : Option ClusterType := ClusterType.ofName? remote.typeName

/-- The type the server reports. An unknown one must not be taken for any of the three. -/
def type (remote : Remote) : Except Error ClusterType :=
  match remote.type? with
  | some type => .ok type
  | none =>
    if remote.typeName.isEmpty then
      refuse (.unrecognizedStatus "cluster has no type in spec.config.kind")
    else refuse (.unrecognizedStatus ("cluster type '" ++ remote.typeName ++ "'"))

/-- The size of a dedicated cluster: as configured, or else as it is now. -/
def cku (remote : Remote) : Int64 :=
  ((remote.spec.config.bind TypeConfig.cku).or remote.status.cku).getD 0

def failureReason (remote : Remote) : String :=
  remote.status.errorMessage.getD ("cluster entered phase " ++ remote.status.phase)

end Remote

namespace State

def decode : Decoder State :=
  Decoder.record "KafkaClusterState"
    (State.mk <$> Fields.defaulted "id" "" Decoder.text
      <*> Fields.required "display_name" Decoder.text
      <*> Fields.required "availability" Decoder.text
      <*> Fields.required "cloud" Decoder.text
      <*> Fields.required "region" Decoder.text
      <*> Fields.defaulted "basic" [] (Decoder.blockList (decodeMarker "Basic"))
      <*> Fields.defaulted "standard" [] (Decoder.blockList (decodeMarker "Standard"))
      <*> Fields.defaulted "dedicated" [] (Decoder.blockList Size.decode)
      <*> Fields.defaulted "environment" [] Reference.decodeBlock
      <*> Fields.defaulted "network" [] Reference.decodeBlock
      <*> Fields.defaulted "bootstrap_endpoint" "" Decoder.text
      <*> Fields.defaulted "rest_endpoint" "" Decoder.text
      <*> Fields.defaulted "resource_name" "" Decoder.text)

def encode (s : State) : Json :=
  .obj [
    ("availability", .str s.availability),
    ("basic", encodeMarkers s.basic),
    ("bootstrap_endpoint", .str s.bootstrapEndpoint),
    ("cloud", .str s.cloud),
    ("dedicated", .arr (s.dedicated.map Size.encode)),
    ("display_name", .str s.displayName),
    ("environment", Reference.encodeBlock s.environment),
    ("id", .str s.id),
    ("network", Reference.encodeBlock s.network),
    ("region", .str s.region),
    ("resource_name", .str s.resourceName),
    ("rest_endpoint", .str s.restEndpoint),
    ("standard", encodeMarkers s.standard)]

def environmentId (s : State) : String := Reference.idOf s.environment

/-- The type that the blocks of a state choose. -/
def type (s : State) : ClusterType :=
  if !s.dedicated.isEmpty then .dedicated
  else if !s.standard.isEmpty then .standard
  else .basic

def typeConfig (s : State) : TypeConfig := ⟨s.type.name, (single? s.dedicated).map Size.cku⟩

/-- The cluster of an import key. -/
def named (id environmentId : String) : State where
  id := id
  displayName := ""
  availability := ""
  cloud := ""
  region := ""
  basic := []
  standard := []
  dedicated := []
  environment := [⟨environmentId⟩]
  network := []
  bootstrapEndpoint := ""
  restEndpoint := ""
  resourceName := ""

def ofRemote (remote : Remote) (prior : State) : State where
  id := remote.id
  displayName := remote.spec.displayName
  availability := remote.spec.availability
  cloud := remote.spec.cloud
  region := remote.spec.region
  basic := if remote.type? = some .basic then [()] else []
  standard := if remote.type? = some .standard then [()] else []
  dedicated := if remote.type? = some .dedicated then [⟨remote.cku⟩] else []
  environment := remote.spec.environment.blockOr prior.environment
  network := remote.spec.network.toList
  bootstrapEndpoint := remote.spec.bootstrapEndpoint
  restEndpoint := remote.spec.restEndpoint
  resourceName := remote.resourceName

def minimumSize (s : State) : Int64 := if s.availability = "MULTI_ZONE" then 2 else 1

def checkSize (s : State) : Except Error Unit :=
  match single? s.dedicated with
  | some size =>
    if size.cku < s.minimumSize then
      refuse (.validation ("'dedicated.0.cku' must be at least " ++ toString s.minimumSize.toInt
        ++ " for a " ++ s.availability ++ " cluster, got " ++ toString size.cku.toInt))
    else .ok ()
  | none =>
    if s.network.isEmpty then .ok ()
    else refuse (.validation "'network' can only be set for dedicated clusters")

def check (s : State) : Except Error Unit := do
  requireOneOf "cloud" s.cloud cloudNames
  requireOneOf "availability" s.availability availabilities
  s.checkSize

def checkChange (prior desired : State) : Except Error Unit :=
  if prior.type.canBecome desired.type then desired.check
  else
    refuse (.validation ("a " ++ prior.type.name ++ " cluster cannot be changed to "
      ++ desired.type.name ++ " in place; only Basic to Standard upgrades are supported"))

def creationBody (s : State) : Json :=
  Spec.body {
    displayName := s.displayName
    availability := s.availability
    cloud := s.cloud
    region := s.region
    config := some s.typeConfig
    environment := ⟨s.environmentId⟩
    network := single? s.network }

/-- Tells the type only if it is among the changed names. -/
def changeBody (s : State) (changed : List String) : Json :=
  Spec.body {
    displayName := s.displayName
    config := if changed.any ClusterType.blockNames.contains then some s.typeConfig else none
    environment := ⟨s.environmentId⟩ }

end State

/-- A cluster of another size than the expected one is still being resized. -/
def Remote.isResizing (remote : Remote) (expected : State) : Bool :=
  match single? expected.dedicated, remote.status.cku with
  | some size, some actual => size.cku != actual
  | _, _ => false

def classify (remote : Remote) (expected : State) : Except Error LifecycleState := do
  let _ ← remote.type
  let state ← phases.classify remote.status.phase
  .ok (if state = .stable ∧ remote.isResizing expected then .updating else state)

def collectionPath : String := "/cmk/v2/clusters"

def path (id : String) : String := childPath collectionPath id

def State.path (s : State) : String := inEnvironment (KafkaCluster.path s.id) s.environmentId

def schema : Schema where
  block := {
    attributes := [
      ("availability", (Attribute.text .mandatory).replacing),
      ("bootstrap_endpoint", .text .reported),
      ("cloud", (Attribute.text .mandatory).replacing),
      ("display_name", .text .mandatory),
      ("id", .text .reported),
      ("region", (Attribute.text .mandatory).replacing),
      ("resource_name", .text .reported),
      ("rest_endpoint", .text .reported)]
    blocks := [
      ("basic", .atMostOne, {}),
      ("dedicated", .atMostOne,
        { attributes := [("cku", (Attribute.integer .mandatory).described "Number of CKUs")] }),
      ("environment", Nesting.exactlyOne.replacing, .reference .mandatory),
      ("network", Nesting.atMostOne.replacing, .reference .mandatory),
      ("standard", .atMostOne, {})]
    exactlyOneOf := [ClusterType.blockNames] }

/-- What a lookup by identifier may ask. -/
def lookupSchema : Schema where
  block := {
    attributes := [
      ("availability", .text .reported),
      ("bootstrap_endpoint", .text .reported),
      ("cloud", .text .reported),
      ("display_name", .text .reported),
      ("id", .text .mandatory),
      ("region", .text .reported),
      ("resource_name", .text .reported),
      ("rest_endpoint", .text .reported)]
    blocks := [
      ("basic", Nesting.atMostOne.filledByServer, {}),
      ("dedicated", Nesting.atMostOne.filledByServer,
        { attributes := [("cku", .integer .reported)] }),
      ("environment", .exactlyOne, .reference .mandatory),
      ("network", Nesting.atMostOne.filledByServer, .reference .reported),
      ("standard", Nesting.atMostOne.filledByServer, {})] }

def waitOptions : Transition → WaitOptions
  | .create => .ofSeconds (24 * 60 * 60) 10
  | .update => .ofSeconds (24 * 60 * 60) 30
  | .delete => .ofSeconds (60 * 60) 10

def kind : Kind Wire where
  name := "confluent_kafka_cluster"
  State := State
  Remote := Remote
  schema := schema
  keyNames := ["environment_id", "cluster_id"]
  updatable := "display_name" :: ClusterType.blockNames
  decode := State.decode
  encode := State.encode
  id := State.id
  ofKey key := .named key.leaf (key.segment "environment_id")
  classify := classify
  failureReason := Remote.failureReason
  waitOptions := waitOptions
  validateCreate := State.check
  validateUpdate := State.checkChange
  toState := .ofRemote
  create session desired := session.post collectionPath desired.creationBody Remote.decode
  read session known := session.get known.path Remote.decode
  update session _ desired changed := session.patch (path desired.id) (desired.changeBody changed)
  delete session known := session.delete known.path

end Provisioner.KafkaCluster

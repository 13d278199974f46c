import Provisioner.Kind
import Provisioner.Kinds.Body
import Provisioner.Kinds.Choice
import Provisioner.Kinds.Reference

/-!
# Networks

Private networking for dedicated clusters. A network takes tens of minutes to become ready; once it
is, only its name can change.
-/

namespace Provisioner.Network

set_option autoImplicit false

open Http (Wire)

def allowedConnectionTypes : List String := ["PEERING", "TRANSITGATEWAY", "PRIVATELINK"]

def phases : PhaseTable where
  entries := [
    ("PROVISIONING", .provisioning),
    ("READY", .stable),
    ("FAILED", .failed),
    ("DEPROVISIONING", .deprovisioning)]

structure State where
  id : String
  displayName : String
  cloud : String
  region : String
  connectionTypes : List String
  cidr : String
  zones : List String
  environment : List Reference
  resourceName : String
deriving DecidableEq, Repr

/-- What is asked of a network, and what the server says it has. -/
structure Spec where
  displayName : String := ""
  cloud : String := ""
  region : String := ""
  connectionTypes : List String := []
  cidr : String := ""
  zones : List String := []
  environment : Reference := ⟨""⟩
deriving DecidableEq, Repr

structure Remote where
  id : String
  spec : Spec
  status : PhaseStatus
  resourceName : String
deriving DecidableEq, Repr

namespace Spec

def decode : Decoder Spec :=
  Decoder.record "NetworkSpec"
    (Spec.mk <$> Fields.defaulted "display_name" "" Decoder.text
      <*> Fields.defaulted "cloud" "" Decoder.text
      <*> Fields.defaulted "region" "" Decoder.text
      <*> Fields.defaulted "connection_types" [] (Decoder.blockList Decoder.text)
      <*> Fields.defaulted "cidr" "" Decoder.text
      <*> Fields.defaulted "zones" [] (Decoder.blockList Decoder.text)
      <*> Fields.defaulted "environment" ⟨""⟩ Reference.decodeObject)

/-- Leaves out what is not asked for. -/
def body (spec : Spec) : Json :=
  .obj [("spec", .obj (
    BodyPart.text "cidr" spec.cidr
      ++ BodyPart.text "cloud" spec.cloud
      ++ BodyPart.texts "connection_types" spec.connectionTypes
      ++ BodyPart.text "display_name" spec.displayName
      ++ [("environment", spec.environment.encode)]
      ++ BodyPart.text "region" spec.region
      ++ BodyPart.texts "zones" spec.zones))]

end Spec

def Remote.decode : Decoder Remote :=
  Decoder.record "RemoteNetwork"
    (Remote.mk <$> Fields.required "id" Decoder.text
      <*> Fields.required "spec" Spec.decode
      <*> Fields.required "status" PhaseStatus.decode
      <*> Fields.defaulted "metadata" "" decodeMetadata)

namespace State

def decode : Decoder State :=
  Decoder.record "NetworkState"
    (State.mk <$> Fields.defaulted "id" "" Decoder.text
      <*> Fields.defaulted "display_name" "" Decoder.text
      <*> Fields.required "cloud" Decoder.text
      <*> Fields.required "region" Decoder.text
      <*> Fields.defaulted "connection_types" [] (Decoder.blockList Decoder.text)
      <*> Fields.defaulted "cidr" "" Decoder.text
      <*> Fields.defaulted "zones" [] (Decoder.blockList Decoder.text)
      <*> Fields.defaulted "environment" [] Reference.decodeBlock
      <*> Fields.defaulted "resource_name" "" Decoder.text)

def encode (s : State) : Json :=
  .obj [
    ("cidr", .str s.cidr),
    ("cloud", .str s.cloud),
    ("connection_types", .strings s.connectionTypes),
    ("display_name", .str s.displayName),
    ("environment", Reference.encodeBlock s.environment),
    ("id", .str s.id),
    ("region", .str s.region),
    ("resource_name", .str s.resourceName),
    ("zones", .strings s.zones)]

def environmentId (s : State) : String := Reference.idOf s.environment

/-- The network of an import key. -/
def named (id environmentId : String) : State where
  id := id
  displayName := ""
  cloud := ""
  region := ""
  connectionTypes := []
  cidr := ""
  zones := []
  environment := [⟨environmentId⟩]
  resourceName := ""

/-- The order of zones and connection types means nothing, so they are kept sorted. -/
def ofRemote (remote : Remote) (prior : State) : State where
  id := remote.id
  displayName := remote.spec.displayName
  cloud := remote.spec.cloud
  region := remote.spec.region
  connectionTypes := remote.spec.connectionTypes.mergeSort
  cidr := remote.spec.cidr
  zones := remote.spec.zones.mergeSort
  environment := remote.spec.environment.blockOr prior.environment
  resourceName := remote.resourceName

def check (s : State) : Except Error Unit := do
  requireOneOf "cloud" s.cloud cloudNames
  if s.connectionTypes.isEmpty then
    refuse (.validation "'connection_types' must contain at least one entry")
  else
    s.connectionTypes.forM fun name =>
      requireOneOf "connection_types" name allowedConnectionTypes

def creationBody (s : State) : Json :=
  Spec.body {
    displayName := s.displayName
    cloud := s.cloud
    region := s.region
    connectionTypes := s.connectionTypes
    cidr := s.cidr
    zones := s.zones
    environment := ⟨s.environmentId⟩ }

/-- Only the name is changed. -/
def changeBody (s : State) : Json :=
  Spec.body { displayName := s.displayName, environment := ⟨s.environmentId⟩ }

end State

def collectionPath : String := "/networking/v1/networks"

def path (id : String) : String := childPath collectionPath id

def State.path (s : State) : String := inEnvironment (Network.path s.id) s.environmentId

def schema : Schema where
  block := {
    attributes := [
      ("cidr", (Attribute.text .defaulted).replacing),
      ("cloud", (Attribute.text .mandatory).replacing),
      ("connection_types", (Attribute.textSet .mandatory).replacing),
      ("display_name", .text .defaulted),
      ("id", .text .reported),
      ("region", (Attribute.text .mandatory).replacing),
      ("resource_name", .text .reported),
      ("zones", (Attribute.textSet .defaulted).replacing)]
    blocks := [("environment", Nesting.exactlyOne.replacing, .reference .mandatory)] }

def waitOptions : Transition → WaitOptions
  | .create | .delete => .ofSeconds (60 * 60) 30
  | .update => .ofSeconds (20 * 60) 10

def kind : Kind Wire where
  name := "confluent_network"
  State := State
  Remote := Remote
  schema := schema
  keyNames := ["environment_id", "network_id"]
  updatable := ["display_name"]
  decode := State.decode
  encode := State.encode
  id := State.id
  ofKey key := .named key.leaf (key.segment "environment_id")
  classify remote _ := phases.classify remote.status.phase
  failureReason remote := remote.status.failureReason
  waitOptions := waitOptions
  validateCreate := State.check
  toState := .ofRemote
  create session desired := session.post collectionPath desired.creationBody Remote.decode
  read session known := session.get known.path Remote.decode
  update session _ desired _ := session.patch (path desired.id) desired.changeBody
  delete session known := session.delete known.path

end Provisioner.Network

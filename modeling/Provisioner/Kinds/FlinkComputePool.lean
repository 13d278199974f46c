import Provisioner.Kind
import Provisioner.Kinds.Body
import Provisioner.Kinds.Choice
import Provisioner.Kinds.Reference

/-!
# Flink compute pools

A pool of Flink compute units, which scales up to one of a few sizes.
-/

namespace Provisioner.FlinkComputePool

set_option autoImplicit false

open Http (Wire)

def sizes : List Int64 := [5, 10, 20, 30, 40, 50]

def phases : PhaseTable where
  entries := [
    ("PROVISIONING", .provisioning),
    ("PROVISIONED", .stable),
    ("FAILED", .failed),
    ("DEPROVISIONING", .deprovisioning)]

structure State where
  id : String
  displayName : String
  cloud : String
  region : String
  maxCfu : Option Int64
  environment : List Reference
  resourceName : String
deriving DecidableEq, Repr

/-- What is asked of a pool, and what the server says it has. -/
structure Spec where
  displayName : String := ""
  cloud : String := ""
  region : String := ""
  maxCfu : Option Int64 := none
  environment : Reference := ⟨""⟩
deriving DecidableEq, Repr

structure Remote where
  id : String
  spec : Spec
  status : PhaseStatus
  resourceName : String
deriving DecidableEq, Repr

namespace Spec

def decode : Decoder Spec :=
  Decoder.record "PoolSpec"
    (Spec.mk <$> Fields.defaulted "display_name" "" Decoder.text
      <*> Fields.defaulted "cloud" "" Decoder.text
      <*> Fields.defaulted "region" "" Decoder.text
      <*> Fields.optional "max_cfu" Decoder.integer64
      <*> Fields.defaulted "environment" ⟨""⟩ Reference.decodeObject)

/-- Leaves out what is not asked for. -/
def body (spec : Spec) : Json :=
  .obj [("spec", .obj (
    BodyPart.text "cloud" spec.cloud
      ++ BodyPart.text "display_name" spec.displayName
      ++ [("environment", spec.environment.encode)]
      ++ BodyPart.present "max_cfu" (spec.maxCfu.map Json.int64)
      ++ BodyPart.text "region" spec.region))]

end Spec

def Remote.decode : Decoder Remote :=
  Decoder.record "RemotePool"
    (Remote.mk <$> Fields.required "id" Decoder.text
      <*> Fields.required "spec" Spec.decode
      <*> Fields.required "status" PhaseStatus.decode
      <*> Fields.defaulted "metadata" "" decodeMetadata)

namespace State

def decode : Decoder State :=
  Decoder.record "FlinkComputePoolState"
    (State.mk <$> Fields.defaulted "id" "" Decoder.text
      <*> Fields.required "display_name" Decoder.text
      <*> Fields.required "cloud" Decoder.text
      <*> Fields.required "region" Decoder.text
      <*> Fields.optional "max_cfu" Decoder.integer64
      <*> Fields.defaulted "environment" [] Reference.decodeBlock
      <*> Fields.defaulted "resource_name" "" Decoder.text)

def encode (s : State) : Json :=
  .obj [
    ("cloud", .str s.cloud),
    ("display_name", .str s.displayName),
    ("environment", Reference.encodeBlock s.environment),
    ("id", .str s.id),
    ("max_cfu", Json.option (s.maxCfu.map Json.int64)),
    ("region", .str s.region),
    ("resource_name", .str s.resourceName)]

def environmentId (s : State) : String := Reference.idOf s.environment

/-- The pool of an import key. -/
def named (id environmentId : String) : State where
  id := id
  displayName := ""
  cloud := ""
  region := ""
  maxCfu := none
  environment := [⟨environmentId⟩]
  resourceName := ""

def ofRemote (remote : Remote) (prior : State) : State where
  id := remote.id
  displayName := remote.spec.displayName
  cloud := remote.spec.cloud
  region := remote.spec.region
  maxCfu := remote.spec.maxCfu
  environment := remote.spec.environment.blockOr prior.environment
  resourceName := remote.resourceName

def checkSize (s : State) : Except Error Unit :=
  match s.maxCfu with
  | some size =>
    if sizes.contains size then .ok ()
    else
      refuse (.validation ("'max_cfu' must be one of "
        ++ ", ".intercalate (sizes.map fun allowed => toString allowed.toInt) ++ ", got "
        ++ toString size.toInt))
  | none => .ok ()

def check (s : State) : Except Error Unit := do
  requireOneOf "cloud" s.cloud cloudNames
  s.checkSize

def creationBody (s : State) : Json :=
  Spec.body {
    displayName := s.displayName
    cloud := s.cloud
    region := s.region
    maxCfu := s.maxCfu
    environment := ⟨s.environmentId⟩ }

/-- Carries the changed names only. -/
def changeBody (s : State) (changed : List String) : Json :=
  Spec.body {
    displayName := if changed.contains "display_name" then s.displayName else ""
    maxCfu := if changed.contains "max_cfu" then s.maxCfu else none
    environment := ⟨s.environmentId⟩ }

end State

def collectionPath : String := "/fcpm/v2/compute-pools"

def path (id : String) : String := childPath collectionPath id

def State.path (s : State) : String := inEnvironment (FlinkComputePool.path s.id) s.environmentId

def schema : Schema where
  block := {
    attributes := [
      ("cloud", (Attribute.text .mandatory).replacing),
      ("display_name", .text .mandatory),
      ("id", .text .reported),
      ("max_cfu", (Attribute.integer .defaulted).described "One of 5, 10, 20, 30, 40, 50"),
      ("region", (Attribute.text .mandatory).replacing),
      ("resource_name", .text .reported)]
    blocks := [("environment", Nesting.exactlyOne.replacing, .reference .mandatory)] }

def kind : Kind Wire where
  name := "confluent_flink_compute_pool"
  State := State
  Remote := Remote
  schema := schema
  keyNames := ["environment_id", "compute_pool_id"]
  updatable := ["display_name", "max_cfu"]
  decode := State.decode
  encode := State.encode
  id := State.id
  ofKey key := .named key.leaf (key.segment "environment_id")
  classify remote _ := phases.classify remote.status.phase
  failureReason remote := remote.status.failureReason
  waitOptions _ := .ofSeconds (20 * 60) 5
  validateCreate := State.check
  validateUpdate _ desired := desired.check
  toState := .ofRemote
  create session desired := session.post collectionPath desired.creationBody Remote.decode
  read session known := session.get known.path Remote.decode
  update session _ desired changed := session.patch (path desired.id) (desired.changeBody changed)
  delete session known := session.delete known.path

end Provisioner.FlinkComputePool

import Provisioner.Kind
import Provisioner.Kinds.Body
import Provisioner.Kinds.Choice
import Provisioner.Kinds.Reference

/-!
# Environments

An environment holds clusters, networks and pools. It exists as soon as its creation is accepted, so
every successful read finds it stable. Its governance package can be upgraded but not downgraded.
-/

namespace Provisioner.Environment

set_option autoImplicit false

open Http (Wire)

structure Governance where
  package : String
deriving DecidableEq, Repr

namespace Governance

/-- From the least to the most. -/
def packages : List String := ["ESSENTIALS", "ADVANCED"]

/-- A package that is not known counts as the least. -/
def rank (governance : Governance) : Nat := (packages.idxOf? governance.package).getD 0

def decode : Decoder Governance :=
  Decoder.record "StreamGovernance" (Governance.mk <$> Fields.required "package" Decoder.text)

def encode (governance : Governance) : Json := .obj [("package", .str governance.package)]

end Governance

structure State where
  id : String
  displayName : String
  governance : List Governance
  resourceName : String
deriving DecidableEq, Repr

structure Remote where
  id : String
  displayName : String
  governance : Option Governance
  resourceName : String
deriving DecidableEq, Repr

namespace State

def decode : Decoder State :=
  Decoder.record "EnvironmentState"
    (State.mk <$> Fields.defaulted "id" "" Decoder.text
      <*> Fields.required "display_name" Decoder.text
      <*> Fields.defaulted "stream_governance" [] (Decoder.blockList Governance.decode)
      <*> Fields.defaulted "resource_name" "" Decoder.text)

def encode (s : State) : Json :=
  .obj [
    ("display_name", .str s.displayName),
    ("id", .str s.id),
    ("resource_name", .str s.resourceName),
    ("stream_governance", .arr (s.governance.map Governance.encode))]

/-- What is sent to create or change the environment. -/
def body (s : State) : Json :=
  .obj (("display_name", .str s.displayName)
    :: BodyPart.present "stream_governance_config" ((single? s.governance).map Governance.encode))

def ofRemote (remote : Remote) : State where
  id := remote.id
  displayName := remote.displayName
  governance := remote.governance.toList
  resourceName := remote.resourceName

def check (s : State) : Except Error Unit :=
  match single? s.governance with
  | none => .ok ()
  | some governance =>
    requireOneOf "stream_governance.0.package" governance.package Governance.packages

def checkChange (prior desired : State) : Except Error Unit := do
  desired.check
  match single? prior.governance, single? desired.governance with
  | some before, some after =>
    if after.rank < before.rank then
      refuse (.validation ("Stream Governance package cannot be downgraded from " ++ before.package
        ++ " to " ++ after.package))
    else .ok ()
  | _, _ => .ok ()

end State

def Remote.decode : Decoder Remote :=
  Decoder.record "RemoteEnvironment"
    (Remote.mk <$> Fields.required "id" Decoder.text
      <*> Fields.required "display_name" Decoder.text
      <*> Fields.optional "stream_governance_config" Governance.decode
      <*> Fields.defaulted "metadata" "" decodeMetadata)

def collectionPath : String := "/org/v2/environments"

def path (id : String) : String := childPath collectionPath id

def governanceBlock (flags : Flags) : String × Nesting × Block :=
  ("stream_governance", Nesting.atMostOne.filledByServer,
    { attributes := [("package", .text flags)] })

def schema : Schema where
  block := {
    attributes := [
      ("display_name", (Attribute.text .mandatory).described "Human-readable environment name"),
      ("id", .text .reported),
      ("resource_name", .text .reported)]
    blocks := [governanceBlock .mandatory] }

/-- What a lookup by identifier may ask. -/
def lookupSchema : Schema where
  block := {
    attributes := [
      ("display_name", .text .reported),
      ("id", .text .mandatory),
      ("resource_name", .text .reported)]
    blocks := [governanceBlock .reported] }

def kind : Kind Wire where
  name := "confluent_environment"
  State := State
  Remote := Remote
  schema := schema
  keyNames := ["environment_id"]
  updatable := ["display_name", "stream_governance"]
  decode := State.decode
  encode := State.encode
  id := State.id
  ofKey key := ⟨key.leaf, "", [], ""⟩
  classify _ _ := .ok .stable
  validateCreate := State.check
  validateUpdate := State.checkChange
  toState remote _ := .ofRemote remote
  create session desired := session.post collectionPath desired.body Remote.decode
  read session known := session.get (path known.id) Remote.decode
  update session _ desired _ := session.patch (path desired.id) desired.body
  delete session known := session.delete (path known.id)

end Provisioner.Environment

import Provisioner.Kind
import Provisioner.Kinds.Reference

/-!
# Service accounts

An identity for applications. It has a unique name for life and a description that may change.
-/

namespace Provisioner.ServiceAccount

set_option autoImplicit false

open Http (Wire)

structure State where
  id : String
  displayName : String
  description : String
deriving DecidableEq, Repr

structure Remote where
  id : String
  displayName : String
  description : String
deriving DecidableEq, Repr

namespace State

def decode : Decoder State :=
  Decoder.record "ServiceAccountState"
    (State.mk <$> Fields.defaulted "id" "" Decoder.text
      <*> Fields.required "display_name" Decoder.text
      <*> Fields.defaulted "description" "" Decoder.text)

def encode (s : State) : Json :=
  .obj [
    ("description", .str s.description),
    ("display_name", .str s.displayName),
    ("id", .str s.id)]

def ofRemote (remote : Remote) : State := ⟨remote.id, remote.displayName, remote.description⟩

def check (s : State) : Except Error Unit :=
  if Text.isBlank s.displayName then refuse (.validation "'display_name' must not be empty")
  else .ok ()

def creationBody (s : State) : Json :=
  .obj [("description", .str s.description), ("display_name", .str s.displayName)]

def changeBody (s : State) : Json := .obj [("description", .str s.description)]

end State

def Remote.decode : Decoder Remote :=
  Decoder.record "RemoteServiceAccount"
    (Remote.mk <$> Fields.required "id" Decoder.text
      <*> Fields.required "display_name" Decoder.text
      <*> Fields.defaulted "description" "" Decoder.text)

def collectionPath : String := "/iam/v2/service-accounts"

def path (id : String) : String := childPath collectionPath id

def schema : Schema where
  block := {
    attributes := [
      ("description", .text .free),
      ("display_name", (Attribute.text .mandatory).replacing),
      ("id", .text .reported)] }

def kind : Kind Wire where
  name := "confluent_service_account"
  State := State
  Remote := Remote
  schema := schema
  keyNames := ["service_account_id"]
  updatable := ["description"]
  decode := State.decode
  encode := State.encode
  id := State.id
  ofKey key := ⟨key.leaf, "", ""⟩
  classify _ _ := .ok .stable
  validateCreate := State.check
  toState remote _ := .ofRemote remote
  create session desired := session.post collectionPath desired.creationBody Remote.decode
  read session known := session.get (path known.id) Remote.decode
  update session _ desired _ := session.patch (path desired.id) desired.changeBody
  delete session known := session.delete (path known.id)

end Provisioner.ServiceAccount

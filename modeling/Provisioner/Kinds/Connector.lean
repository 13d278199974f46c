import Provisioner.Kind
import Provisioner.Kinds.Reference

/-!
# Connectors

A connector is configured by two maps. The server gives the plain one back; it masks the values of
the secret one, which is therefore always taken from the known state. The connector's name is an
entry of the plain map.

A connector runs or is paused, as its configuration asks. It is stable only in the state asked for;
a degraded connector counts as failed.
-/

namespace Provisioner.Connector

set_option autoImplicit false

open Http (Wire)

def running : String := "RUNNING"

def paused : String := "PAUSED"

/-- What the server gives back in place of a secret. -/
def masked : String := "****************"

/-- The entries that the server adds to every configuration. -/
def addedByServer : List String :=
  ["cloud.environment", "cloud.provider", "kafka.endpoint", "kafka.region"]

def phases : PhaseTable where
  entries := [
    ("PROVISIONING", .provisioning),
    (running, .stable),
    (paused, .stable),
    ("DEGRADED", .failed),
    ("FAILED", .failed)]

structure State where
  id : String
  environment : List Reference
  kafkaCluster : List Reference
  plain : Settings
  secret : Settings
  status : String
deriving DecidableEq

structure Status where
  state : String
  trace : Option String
deriving DecidableEq, Repr

structure Remote where
  name : String
  status : Status
  config : Settings
deriving DecidableEq

def decodeSettings : Decoder Settings := Decoder.nullAs .empty Decoder.settings

def Status.decode : Decoder Status :=
  Decoder.record "ConnectorStatus"
    (Status.mk <$> Fields.required "state" Decoder.text
      <*> Fields.optional "trace" Decoder.text)

namespace Remote

/-- The answer to a creation, which tells no status yet. -/
def decodeCreated : Decoder Remote :=
  Decoder.record "CreateResponse"
    ((fun name config => ⟨name, ⟨"", none⟩, config⟩) <$> Fields.required "name" Decoder.text
      <*> Fields.defaulted "config" .empty decodeSettings)

/-- The name and the status of a connector. -/
def decodeStatus : Decoder (String × Status) :=
  Decoder.record "StatusResponse"
    (Prod.mk <$> Fields.required "name" Decoder.text
      <*> Fields.required "connector" Status.decode)

def failureReason (remote : Remote) : String :=
  match remote.status.trace with
  | none | some "" => "connector entered state " ++ remote.status.state
  | some trace => trace

end Remote

namespace State

def decode : Decoder State :=
  Decoder.record "ConnectorState"
    (State.mk <$> Fields.defaulted "id" "" Decoder.text
      <*> Fields.defaulted "environment" [] Reference.decodeBlock
      <*> Fields.defaulted "kafka_cluster" [] Reference.decodeBlock
      <*> Fields.defaulted "config_nonsensitive" .empty decodeSettings
      <*> Fields.defaulted "config_sensitive" .empty decodeSettings
      <*> Fields.defaulted "status" "" Decoder.text)

def encode (s : State) : Json :=
  .obj [
    ("config_nonsensitive", s.plain.encode),
    ("config_sensitive", s.secret.encode),
    ("environment", Reference.encodeBlock s.environment),
    ("id", .str s.id),
    ("kafka_cluster", Reference.encodeBlock s.kafkaCluster),
    ("status", .str s.status)]

/-- The configured name, or else the last segment of the identifier. -/
def name (s : State) : String :=
  match s.plain.get? "name" with
  | some name => name
  | none => (idSegments s.id).getLast?.getD ""

def environmentId (s : State) : String := Reference.idOf s.environment

def clusterId (s : State) : String := Reference.idOf s.kafkaCluster

def collectionPath (s : State) : String :=
  let environment := childPath "/connect/v1/environments" s.environmentId
  childPath (environment ++ "/clusters") s.clusterId ++ "/connectors"

def path (s : State) : String := childPath s.collectionPath s.name

/-- Both maps together, as the server expects them. -/
def config (s : State) : Settings := s.plain.union s.secret

/-- The connector of an import key. -/
def named (id environmentId clusterId : String) : State where
  id := id
  environment := [⟨environmentId⟩]
  kafkaCluster := [⟨clusterId⟩]
  plain := .empty
  secret := .empty
  status := ""

/-- Whether a setting that the server reports belongs to the state: of a known connector the
configured ones, of a new one all that are neither secret nor added by the server. -/
def keeps (prior : State) (name value : String) : Bool :=
  if prior.plain.isEmpty then
    value != masked && !addedByServer.contains name && !prior.secret.contains name
  else prior.plain.contains name

def ofRemote (remote : Remote) (prior : State) : State where
  id := compositeId [prior.environmentId, prior.clusterId, remote.name]
  environment := prior.environment
  kafkaCluster := prior.kafkaCluster
  plain := remote.config.filter prior.keeps
  secret := prior.secret
  status := remote.status.state

/-- A name that is set in both maps. -/
def sharedName? (s : State) : Option String := s.plain.names.find? s.secret.contains

def check (s : State) : Except Error Unit :=
  if (s.plain.get? "name").getD "" = "" then
    refuse (.validation "'config_nonsensitive' must set 'name'")
  else
    match s.sharedName? with
    | some name =>
      refuse (.validation ("'" ++ name
        ++ "' is set in both 'config_nonsensitive' and 'config_sensitive'"))
    | none =>
      if ["", running].contains s.status then .ok ()
      else
        refuse (.validation ("a connector is created in the RUNNING state; "
          ++ "'status' must be RUNNING or unset, got '" ++ s.status ++ "'"))

def checkChange (prior desired : State) : Except Error Unit :=
  if prior.name ≠ desired.name then
    refuse (.validation ("the connector name cannot be changed from '" ++ prior.name ++ "' to '"
      ++ desired.name ++ "'; the resource must be replaced"))
  else if ["", running, paused].contains desired.status then .ok ()
  else
    refuse (.validation ("'status' must be RUNNING or PAUSED, got '" ++ desired.status ++ "'"))

def creationBody (s : State) : Json :=
  .obj [("config", s.config.encode), ("name", .str s.name)]

/-- The request that brings a connector into the desired status, unless it is there already. -/
def statusAction? (prior desired : State) : Option String :=
  if desired.status = prior.status then none
  else if desired.status = paused then some "pause"
  else if desired.status = running then some "resume"
  else none

end State

/-- A connector that is stable in another state than the expected one is still changing. -/
def classify (remote : Remote) (expected : State) : Except Error LifecycleState := do
  let state ← phases.classify remote.status.state
  let pending := expected.status ≠ "" ∧ expected.status ≠ remote.status.state
  .ok (if state = .stable ∧ pending then .updating else state)

def schema : Schema where
  block := {
    attributes := [
      ("config_nonsensitive",
        (Attribute.textMap .mandatory).described "Connector configuration, including 'name'"),
      ("config_sensitive", (Attribute.textMap .free).secret),
      ("id", .text .reported),
      ("status", (Attribute.text .defaulted).described "RUNNING or PAUSED")]
    blocks := [
      ("environment", Nesting.exactlyOne.replacing, .reference .mandatory),
      ("kafka_cluster", Nesting.exactlyOne.replacing, .reference .mandatory)] }

def waitOptions : Transition → WaitOptions
  | .create => .ofSeconds (60 * 60) 10
  | .update => .ofSeconds (30 * 60) 10
  | .delete => .ofSeconds (30 * 60) 5

def read (session : Session) (known : State) : Op Wire Remote := do
  let (name, status) ← session.get (known.path ++ "/status") Remote.decodeStatus
  let config ← session.get (known.path ++ "/config") Decoder.settings
  pure ⟨name, status, config⟩

/-- Settings and status change in requests of their own. -/
def update (session : Session) (prior desired : State) (changed : List String) : Op Wire Unit := do
  if changed.any fun name => "config_".toList.isPrefixOf name.toList then
    session.tell .put (desired.path ++ "/config") (some desired.config.encode)
  if changed.contains "status" then
    match prior.statusAction? desired with
    | some action => session.tell .put (desired.path ++ "/" ++ action) none
    | none => pure ()

def kind : Kind Wire where
  name := "confluent_connector"
  State := State
  Remote := Remote
  schema := schema
  keyNames := ["environment_id", "kafka_cluster_id", "connector_name"]
  updatable := ["config_nonsensitive", "config_sensitive", "status"]
  decode := State.decode
  encode := State.encode
  id := State.id
  ofKey key := .named key.toId (key.segment "environment_id") (key.segment "kafka_cluster_id")
  classify := classify
  failureReason := Remote.failureReason
  waitOptions := waitOptions
  validateCreate := State.check
  validateUpdate := State.checkChange
  toState := .ofRemote
  create session desired :=
    session.post desired.collectionPath desired.creationBody Remote.decodeCreated
  read := read
  update := update
  delete session known := session.delete known.path

end Provisioner.Connector

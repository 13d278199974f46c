import Provisioner.Kind
import Provisioner.Kinds.Body
import Provisioner.Kinds.Reference

/-!
# Kafka topics

A topic belongs to a cluster and is reached through the cluster's own REST endpoint, with a key of
the cluster. The topic names cluster, endpoint and key itself or takes them from the provider.

Only the settings that were made on the topic are kept; what it inherits from the brokers never
shows up as a difference.
-/

namespace Provisioner.KafkaTopic

set_option autoImplicit false

open Http (Wire)

/-- The number of partitions of a topic that does not ask for one. -/
def defaultPartitions : Int64 := 6

structure State where
  id : String
  topicName : String
  partitions : Option Int64
  config : Settings
  kafkaCluster : List Reference
  restEndpoint : String
  credentials : List Credentials
deriving DecidableEq

/-- The topic itself as the cluster describes it. -/
structure Description where
  clusterId : String
  topicName : String
  partitions : Int64
deriving DecidableEq, Repr

/-- A setting as the cluster reports it; secret values are withheld. -/
structure ReportedSetting where
  name : String
  value : Option String
  source : String
deriving DecidableEq, Repr

structure Remote where
  topic : Description
  settings : List ReportedSetting
deriving DecidableEq, Repr

def decodeCredentials : Decoder Credentials :=
  Decoder.record "Credentials"
    (Credentials.mk <$> Fields.required "key" Decoder.text
      <*> Fields.required "secret" Decoder.text)

def encodeCredentials (c : Credentials) : Json :=
  .obj [("key", .str c.key), ("secret", .str c.secret)]

def Description.decode : Decoder Description :=
  Decoder.record "TopicData"
    (Description.mk <$> Fields.required "cluster_id" Decoder.text
      <*> Fields.required "topic_name" Decoder.text
      <*> Fields.required "partitions_count" Decoder.integer64)

namespace ReportedSetting

def decode : Decoder ReportedSetting :=
  Decoder.record "ConfigEntry"
    (ReportedSetting.mk <$> Fields.required "name" Decoder.text
      <*> Fields.optional "value" Decoder.text
      <*> Fields.defaulted "source" "" Decoder.text)

def decodeList : Decoder (List ReportedSetting) :=
  Decoder.record "ConfigList" (Fields.defaulted "data" [] (Decoder.list decode))

/-- Whether the setting was made on the topic itself. -/
def isOwn (s : ReportedSetting) : Bool := s.source == "DYNAMIC_TOPIC_CONFIG"

/-- The setting's value; a withheld one is the one known before. -/
def entry? (known : Settings) (s : ReportedSetting) : Option (String × String) :=
  (s.value.or (known.get? s.name)).map fun value => (s.name, value)

end ReportedSetting

/-- A change of one setting. -/
inductive Alteration where
  | set (name value : String)
  /-- Back to what the brokers have. -/
  | reset (name : String)
deriving DecidableEq, Repr

namespace Alteration

def encode : Alteration → Json
  | .set name value => .obj [("name", .str name), ("value", .str value)]
  | .reset name => .obj [("name", .str name), ("operation", .str "DELETE")]

/-- What leads from prior settings to desired ones: first what is new or different, then what is no
longer there. -/
def between (prior desired : Settings) : List Alteration :=
  ((desired.filter fun name value => prior.get? name != some value).entries.map
      fun entry => .set entry.1 entry.2)
    ++ ((prior.filter fun name _ => !desired.contains name).names.map .reset)

end Alteration

namespace State

def decode : Decoder State :=
  Decoder.record "KafkaTopicState"
    (State.mk <$> Fields.defaulted "id" "" Decoder.text
      <*> Fields.required "topic_name" Decoder.text
      <*> Fields.optional "partitions_count" Decoder.integer64
      <*> Fields.defaulted "config" Settings.empty (Decoder.nullAs Settings.empty Decoder.settings)
      <*> Fields.defaulted "kafka_cluster" [] Reference.decodeBlock
      <*> Fields.defaulted "rest_endpoint" "" Decoder.text
      <*> Fields.defaulted "credentials" [] (Decoder.blockList decodeCredentials))

def encode (s : State) : Json :=
  .obj [
    ("config", s.config.encode),
    ("credentials", .arr (s.credentials.map encodeCredentials)),
    ("id", .str s.id),
    ("kafka_cluster", Reference.encodeBlock s.kafkaCluster),
    ("partitions_count", Json.option (s.partitions.map Json.int64)),
    ("rest_endpoint", .str s.restEndpoint),
    ("topic_name", .str s.topicName)]

/-- The topic of an import key. -/
def named (topicName clusterId : String) : State where
  id := ""
  topicName := topicName
  partitions := none
  config := .empty
  kafkaCluster := [⟨clusterId⟩]
  restEndpoint := ""
  credentials := []

/-- Of several reports of one setting the last one counts. -/
def ofRemote (remote : Remote) (prior : State) : State where
  id := compositeId [remote.topic.clusterId, remote.topic.topicName]
  topicName := remote.topic.topicName
  partitions := some remote.topic.partitions
  config := .ofList
    ((remote.settings.filter ReportedSetting.isOwn).filterMap
      (ReportedSetting.entry? prior.config))
  kafkaCluster := if prior.kafkaCluster.isEmpty then [] else [⟨remote.topic.clusterId⟩]
  restEndpoint := prior.restEndpoint
  credentials := prior.credentials

def check (s : State) : Except Error Unit :=
  match s.partitions with
  | some count =>
    if count < 1 then
      refuse (.validation ("'partitions_count' must be at least 1, got " ++ toString count.toInt))
    else .ok ()
  | none => .ok ()

def checkChange (prior desired : State) : Except Error Unit :=
  match prior.partitions, desired.partitions with
  | some before, some after =>
    if after < before then
      refuse (.validation ("'partitions_count' can only be increased, from "
        ++ toString before.toInt ++ " to " ++ toString after.toInt ++ " was requested"))
    else .ok ()
  | _, _ => .ok ()

def creationBody (s : State) : Json :=
  .obj [
    ("configs", .arr (s.config.entries.map fun entry =>
      .obj [("name", .str entry.1), ("value", .str entry.2)])),
    ("partitions_count", .int64 (s.partitions.getD defaultPartitions)),
    ("topic_name", .str s.topicName)]

/-- The cluster the topic belongs to. -/
def clusterId (s : State) (scope : KafkaScope) : String :=
  let own := Reference.idOf s.kafkaCluster
  if own.isEmpty then scope.clusterId.getD "" else own

/-- The REST endpoint of that cluster. -/
def endpoint (s : State) (scope : KafkaScope) : String :=
  if s.restEndpoint.isEmpty then scope.restEndpoint.getD "" else s.restEndpoint

def collectionUrl (s : State) (scope : KafkaScope) : Except Error String :=
  if (s.clusterId scope).isEmpty then
    refuse (.validation
      "the Kafka cluster is not set: set 'kafka_cluster' or the provider's 'kafka_id'")
  else if (s.endpoint scope).isEmpty then
    refuse (.validation ("the Kafka REST endpoint is not set: "
      ++ "set 'rest_endpoint' or the provider's 'kafka_rest_endpoint'"))
  else
    .ok (childPath (Http.dropTrailingSlashes (s.endpoint scope) ++ "/kafka/v3/clusters")
      (s.clusterId scope) ++ "/topics")

def url (s : State) (scope : KafkaScope) : Except Error String :=
  (s.collectionUrl scope).map fun collection => childPath collection s.topicName

end State

def schema : Schema where
  block := {
    attributes := [
      ("config", .textMap .free),
      ("id", .text .reported),
      ("partitions_count",
        (Attribute.integer .defaulted).described "Number of partitions; can only be increased"),
      ("rest_endpoint", (Attribute.text .defaulted).replacing),
      ("topic_name", (Attribute.text .mandatory).replacing)]
    blocks := [
      ("credentials", .atMostOne,
        { attributes := [
            ("key", (Attribute.text .mandatory).secret),
            ("secret", (Attribute.text .mandatory).secret)] }),
      ("kafka_cluster", Nesting.atMostOne.replacing.filledByServer, .reference .mandatory)] }

def create (session : Session) (desired : State) : Op Wire Remote := do
  let url ← Operation.ofExcept (desired.collectionUrl session.context.kafka)
  let topic ← session.post url desired.creationBody Description.decode
  pure ⟨topic, []⟩

def read (session : Session) (known : State) : Op Wire Remote := do
  let url ← Operation.ofExcept (known.url session.context.kafka)
  let topic ← session.get url Description.decode
  let settings ← session.get (url ++ "/configs") ReportedSetting.decodeList
  pure ⟨topic, settings⟩

def setPartitions (session : Session) (url : String) (partitions : Option Int64) : Op Wire Unit :=
  match partitions with
  | some count => session.patch url (.obj [("partitions_count", .int64 count)])
  | none => pure ()

def alter (session : Session) (url : String) (alterations : List Alteration) : Op Wire Unit :=
  if alterations.isEmpty then pure ()
  else
    session.tell .post (url ++ "/configs:alter")
      (some (.obj [("data", .arr (alterations.map Alteration.encode))]))

/-- Partitions and settings change in requests of their own. -/
def update (session : Session) (prior desired : State) (changed : List String) : Op Wire Unit := do
  let url ← Operation.ofExcept (desired.url session.context.kafka)
  if changed.contains "partitions_count" then setPartitions session url desired.partitions
  if changed.contains "config" then
    alter session url (Alteration.between prior.config desired.config)

def delete (session : Session) (known : State) : Op Wire Unit := do
  let url ← Operation.ofExcept (known.url session.context.kafka)
  session.delete url

def kind : Kind Wire where
  name := "confluent_kafka_topic"
  State := State
  Remote := Remote
  schema := schema
  keyNames := ["kafka_cluster_id", "topic_name"]
  updatable := ["partitions_count", "config", "credentials"]
  decode := State.decode
  encode := State.encode
  id := State.id
  ofKey key := .named key.leaf (key.segment "kafka_cluster_id")
  classify _ _ := .ok .stable
  credentials context state := (single? state.credentials).or context.kafka.credentials
  validateCreate := State.check
  validateUpdate := State.checkChange
  toState := .ofRemote
  create := create
  read := read
  update := update
  delete := delete

end Provisioner.KafkaTopic

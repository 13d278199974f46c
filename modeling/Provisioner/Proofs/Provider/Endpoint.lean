import Provisioner.Proofs.Http.Endpoint
import Provisioner.Proofs.Lifecycle.Gone
import Provisioner.Proofs.Lifecycle.Target
import Provisioner.Proofs.Provider.Configuration
import Provisioner.Proofs.Provider.Refused
import Provisioner.Proofs.Provider.Stopping

/-!
# Where the requests about topics go

The URL of a topic is put together from the REST endpoint of its cluster and then read again by the
client, which takes it for a path of the platform unless it begins like an absolute URL. A provider
checks its own REST endpoint for that when it is configured; nothing checks the endpoint that a
topic brings. So the requests go to the cluster exactly if the endpoint, without the slashes at its
end, begins like an absolute URL, and else they go to the platform.
-/

namespace Provisioner

set_option autoImplicit false

open Http
open Operation (Sends SendsFrom)

namespace KafkaTopic

/-- Where the cluster of a topic is: its endpoint without the slashes at the end, and its
identifier. -/
def State.base (topic : State) (scope : KafkaScope) : String :=
  dropTrailingSlashes (topic.endpoint scope) ++ "/kafka/v3/clusters/" ++
    Text.Percent.encode (topic.clusterId scope)

theorem collectionUrl_eq_base {topic : State} {scope : KafkaScope} {path : String}
    (found : topic.collectionUrl scope = .ok path) : path = topic.base scope ++ "/topics" := by
  unfold State.collectionUrl at found
  split at found
  · cases found
  · split at found
    · cases found
    · rw [← Except.ok.inj found]
      unfold State.base childPath
      simp only [String.append_assoc]
      rfl

/-- A request about a topic: its path begins with the place of the cluster. -/
def At (context : Context) (topic : State) (request : Request) : Prop :=
  ∃ rest, request.url = context.client.url (topic.base context.kafka ++ rest)

theorem url_begins {topic : State} {scope : KafkaScope} {path : String}
    (found : topic.url scope = .ok path) : ∃ rest, path = topic.base scope ++ rest := by
  unfold State.url at found
  cases collection : topic.collectionUrl scope with
  | error fault =>
    rw [collection] at found
    cases found
  | ok start =>
    rw [collection] at found
    rw [← Except.ok.inj found, collectionUrl_eq_base collection]
    unfold childPath
    simp only [String.append_assoc]
    exact ⟨_, rfl⟩

variable {context : Context} {credentials : Option Credentials} {topic : State}
  {request : Request}

theorem at_of_targets {method : Method} {path : String}
    (target : (method, path) ∈ targets context topic)
    (located : request.url = context.client.url path) : At context topic request := by
  unfold targets at target
  cases found : topic.url context.kafka with
  | error fault => simp [found] at target
  | ok start =>
    obtain ⟨rest, begins⟩ := url_begins found
    have suffixed : ∃ suffix, path = start ++ suffix := by
      simp only [found, List.mem_cons, Prod.mk.injEq, List.not_mem_nil, or_false] at target
      rcases target with ⟨_, same⟩ | ⟨_, same⟩ | ⟨_, same⟩ | ⟨_, same⟩
      · exact ⟨"", by rw [same, String.append_empty]⟩
      · exact ⟨_, same⟩
      · exact ⟨"", by rw [same, String.append_empty]⟩
      · exact ⟨_, same⟩
    obtain ⟨suffix, same⟩ := suffixed
    refine ⟨rest ++ suffix, ?_⟩
    rw [located, same, begins, String.append_assoc]

theorem at_of_addresses (addresses : place.Addresses context topic request) :
    At context topic request := by
  obtain ⟨⟨method, path⟩, member, _, url⟩ := addresses
  exact at_of_targets member url

theorem at_of_looks (looks : api.Looks ⟨context, credentials⟩ topic request) :
    At context topic request := by
  have addresses := place.addresses_of_looks looks
  exact at_of_addresses addresses

theorem at_of_tells {prior : State} {changed : List String}
    (tells : api.Tells ⟨context, credentials⟩ prior topic changed request) :
    At context topic request := by
  have addresses := place.addresses_of_tells tells
  exact at_of_addresses addresses

section Transitions

variable (waits : Transition → Option WaitOptions) (context : Context)

/-- The POST of a creation is about the topic that is configured, and all that follows is about
what its answer makes of it. -/
theorem at_create (config : Json) :
    (Lifecycle.create ⟨kind, waits⟩ context config).SendsFrom fun w request =>
      ∃ topic, (State.decode.fromState config = .ok topic ∨ ∃ desired submitted,
          Lifecycle.submit ⟨kind, waits⟩ context config w = (.ok (desired, topic), submitted)) ∧
        At context topic request := by
  apply SendsFrom.mono (api.sends_create waits context config)
  intro w request creates
  rcases creates with
    ⟨desired, path, valid, found, rfl⟩ | ⟨desired, accepted, submitted, submission, looks⟩
  · have decoded := (Lifecycle.decodeValid_ok_iff.mp valid).2
    refine ⟨desired, Or.inl decoded, "/topics", ?_⟩
    exact congrArg context.client.url (collectionUrl_eq_base found)
  · have located := at_of_looks looks
    exact ⟨accepted, Or.inr ⟨desired, submitted, submission⟩, located⟩

theorem at_read (state : Json) :
    (Lifecycle.read ⟨kind, waits⟩ context state).Sends fun request =>
      ∃ topic, State.decode.fromState state = .ok topic ∧ At context topic request := by
  apply Sends.mono (api.sends_read_transition waits context state)
  intro request reads
  obtain ⟨known, decoded, looks⟩ := reads
  have located := at_of_looks looks
  exact ⟨known, decoded, located⟩

theorem at_update (prior config : Json) :
    (Lifecycle.update ⟨kind, waits⟩ context prior config).Sends fun request =>
      ∃ topic, State.decode.fromState (schema.mergeComputed prior config) = .ok topic ∧
        At context topic request := by
  apply Sends.mono (api.sends_update waits context prior config)
  intro request updates
  obtain ⟨known, desired, changed, _, prepared, sent⟩ := updates
  have merged := (Lifecycle.prepareUpdate_ok_iff.mp prepared).2.1
  have located : At context desired request := by
    rcases sent with tells | looks
    · exact at_of_tells tells
    · exact at_of_looks looks
  exact ⟨desired, merged, located⟩

theorem at_delete (state : Json) :
    (Lifecycle.delete ⟨kind, waits⟩ context state).Sends fun request =>
      ∃ topic, State.decode.fromState state = .ok topic ∧ At context topic request := by
  apply Sends.mono (api.sends_delete waits context state)
  intro request deletes
  obtain ⟨known, decoded, sent⟩ := deletes
  have located : At context known request := by
    rcases sent with ⟨path, found, rfl⟩ | looks
    · obtain ⟨rest, begins⟩ := url_begins found
      exact ⟨rest, congrArg context.client.url begins⟩
    · exact at_of_looks looks
  exact ⟨known, decoded, located⟩

theorem at_import (raw : String) :
    (Lifecycle.importKey ⟨kind, waits⟩ context raw).Sends fun request =>
      ∃ key, ImportKey.parse raw kind.keyNames = .ok key ∧
        At context (kind.ofKey key) request := by
  apply Sends.mono (api.sends_import waits context raw)
  intro request imports
  obtain ⟨key, parsed, looks⟩ := imports
  have located := at_of_looks looks
  exact ⟨key, parsed, located⟩

end Transitions

theorem url_begins_iff {configuration : Configuration}
    (accepted : Context.ofConfiguration configuration = .ok context)
    (located : At context topic request) :
    ((∃ rest, request.url = topic.base context.kafka ++ rest) ↔
      isAbsoluteUrl (dropTrailingSlashes (topic.endpoint context.kafka)) = true) ∧
    (isAbsoluteUrl (dropTrailingSlashes (topic.endpoint context.kafka)) = false →
      ∃ rest, request.url = context.client.endpoint ++ "/" ++ rest) := by
  obtain ⟨rest, url⟩ := located
  have letters : ∀ scheme ∈ schemes, 'k' ∉ scheme := by decide
  have bare := getLast_dropTrailingSlashes (topic.endpoint context.kafka)
  have absoluteBase : isAbsoluteUrl (topic.base context.kafka) =
      isAbsoluteUrl (dropTrailingSlashes (topic.endpoint context.kafka)) := by
    unfold State.base
    rw [String.append_assoc]
    exact isAbsoluteUrl_append bare (by rw [String.toList_append]; rfl) letters
  have absolutePath : isAbsoluteUrl (topic.base context.kafka ++ rest) =
      isAbsoluteUrl (dropTrailingSlashes (topic.endpoint context.kafka)) := by
    unfold State.base
    rw [String.append_assoc, String.append_assoc]
    exact isAbsoluteUrl_append bare (by rw [String.toList_append]; rfl) letters
  have member : 'k' ∈ (topic.base context.kafka).toList := by
    unfold State.base
    simp [String.toList_append]
  unfold Client.url at url
  rw [absolutePath] at url
  cases absolute : isAbsoluteUrl (dropTrailingSlashes (topic.endpoint context.kafka)) with
  | true =>
    rw [absolute, if_pos rfl] at url
    exact ⟨⟨fun _ => rfl, fun _ => ⟨rest, url⟩⟩, fun impossible => by cases impossible⟩
  | false =>
    rw [absolute, if_neg Bool.false_ne_true] at url
    refine ⟨⟨?_, fun impossible => by cases impossible⟩, fun _ => ⟨_, url⟩⟩
    intro begins
    obtain ⟨more, same⟩ := begins
    obtain ⟨endpoint, made, wasAbsolute⟩ := Context.endpoint_of_configuration accepted
    exfalso
    apply not_prefix_url_of_relative made wasAbsolute (absoluteBase.trans absolute) member letters
      rest
    rw [← url, same, String.toList_append]
    exact List.prefix_append _ _

end KafkaTopic

theorem lookupKey_topic (config : Json) :
    lookupKey "confluent_kafka_topic" config =
      refuse (.unknownResource "confluent_kafka_topic") := by
  unfold lookupKey lookupSchemas
  rfl

namespace Call

/-- The topics that an operation of a provider deals with, if it begins in a world: the one of its
state, configuration or key, and for a creation also what it makes of the answer to its POST. -/
inductive Concerns (p : Provider) (context : Context) (w : World Wire) (topic : KafkaTopic.State) :
    Call → Prop where
  | configured {type : String} {config : Json}
      (decoded : KafkaTopic.State.decode.fromState config = .ok topic) :
      Concerns p context w topic (.create type config)
  | accepted {type : String} {config : Json} {desired : KafkaTopic.State} {submitted : World Wire}
      (submission : Lifecycle.submit (p.lifecycle KafkaTopic.kind) context config w =
        (.ok (desired, topic), submitted)) :
      Concerns p context w topic (.create type config)
  | read {type : String} {state : Json}
      (decoded : KafkaTopic.State.decode.fromState state = .ok topic) :
      Concerns p context w topic (.read type state)
  | update {type : String} {prior config : Json}
      (merged : KafkaTopic.State.decode.fromState (KafkaTopic.schema.mergeComputed prior config) =
        .ok topic) : Concerns p context w topic (.update type prior config)
  | delete {type : String} {state : Json}
      (decoded : KafkaTopic.State.decode.fromState state = .ok topic) :
      Concerns p context w topic (.delete type state)
  | importKey {type raw : String} {key : ImportKey}
      (parsed : ImportKey.parse raw KafkaTopic.kind.keyNames = .ok key)
      (named : topic = KafkaTopic.kind.ofKey key) :
      Concerns p context w topic (.importKey type raw)

theorem sends_at_topic (p : Provider) {call : Call} (topics : call.type = "confluent_kafka_topic") :
    (call.run p).SendsFrom fun w request => ∃ context topic, p.context = some context ∧
      call.Concerns p context w topic ∧ KafkaTopic.At context topic request := by
  cases call with
  | validate type config =>
    apply SendsFrom.map
    exact .of_peer_eq fun _ => rfl
  | plan type prior proposed =>
    apply SendsFrom.map
    exact .of_peer_eq fun _ => rfl
  | create type config =>
    obtain rfl : type = _ := topics
    apply SendsFrom.map
    apply p.sends_transition KafkaTopic.kind_listed
    intro context configured
    apply SendsFrom.mono (KafkaTopic.at_create (fun _ => p.waits) context config)
    intro w request parts
    obtain ⟨topic, decoded | ⟨desired, submitted, submission⟩, located⟩ := parts
    · exact ⟨context, topic, configured, .configured decoded, located⟩
    · exact ⟨context, topic, configured, .accepted submission, located⟩
  | read type state =>
    obtain rfl : type = _ := topics
    apply SendsFrom.map
    apply p.sends_transition KafkaTopic.kind_listed
    intro context configured
    apply Sends.sendsFrom (KafkaTopic.at_read (fun _ => p.waits) context state)
    intro w request parts
    obtain ⟨topic, decoded, located⟩ := parts
    exact ⟨context, topic, configured, .read decoded, located⟩
  | update type prior config =>
    obtain rfl : type = _ := topics
    apply SendsFrom.map
    apply p.sends_transition KafkaTopic.kind_listed
    intro context configured
    apply Sends.sendsFrom (KafkaTopic.at_update (fun _ => p.waits) context prior config)
    intro w request parts
    obtain ⟨topic, merged, located⟩ := parts
    exact ⟨context, topic, configured, .update merged, located⟩
  | delete type state =>
    obtain rfl : type = _ := topics
    apply SendsFrom.map
    apply p.sends_transition KafkaTopic.kind_listed
    intro context configured
    apply Sends.sendsFrom (KafkaTopic.at_delete (fun _ => p.waits) context state)
    intro w request parts
    obtain ⟨topic, decoded, located⟩ := parts
    exact ⟨context, topic, configured, .delete decoded, located⟩
  | importKey type raw =>
    obtain rfl : type = _ := topics
    apply SendsFrom.map
    apply p.sends_transition KafkaTopic.kind_listed
    intro context configured
    have importing := KafkaTopic.at_import (fun _ => p.waits) context raw
    apply Sends.sendsFrom (importing.bind fun state => .pure _)
    intro w request parts
    obtain ⟨key, parsed, located⟩ := parts
    exact ⟨context, _, configured, .importKey parsed rfl, located⟩
  | lookUp type config =>
    obtain rfl : type = _ := topics
    apply SendsFrom.map
    unfold Provider.lookUp
    rw [lookupKey_topic]
    exact .of_peer_eq fun _ => rfl

end Call

/-- Every request of an operation on topics is about a topic that the operation deals with. Its URL
begins with the REST endpoint of the topic's cluster, without the slashes at its end, and goes on
with the cluster, exactly if what is left of the endpoint begins like an absolute URL. Otherwise the
URL begins with the endpoint of the platform. -/
theorem requests_at_cluster_iff {configuration : Configuration} {context : Context}
    (accepted : Context.ofConfiguration configuration = .ok context) {p : Provider}
    (configured : p.context = some context) {call : Call}
    (topics : call.type = "confluent_kafka_topic") (w : World Wire) :
    ∀ entry ∈ (call.run p).sent w, ∃ topic, call.Concerns p context w topic ∧
      ((∃ rest, entry.request.url = topic.base context.kafka ++ rest) ↔
        isAbsoluteUrl (dropTrailingSlashes (topic.endpoint context.kafka)) = true) ∧
      (isAbsoluteUrl (dropTrailingSlashes (topic.endpoint context.kafka)) = false →
        ∃ rest, entry.request.url = context.client.endpoint ++ "/" ++ rest) := by
  intro entry member
  obtain ⟨held, topic, found, concerned, located⟩ := (call.sends_at_topic p topics).of_sent w member
  obtain rfl : context = held := Option.some.inj (configured.symm.trans found)
  exact ⟨topic, concerned, KafkaTopic.url_begins_iff accepted located⟩

namespace KafkaTopic

/-- A topic as the host knows it, with an endpoint of its own. -/
def placedState (endpoint : String) : Json :=
  .obj [
    ("kafka_cluster", .arr [.obj [("id", .str "lkc-1")]]),
    ("rest_endpoint", .str endpoint),
    ("topic_name", .str "orders")]

/-- A server that does not have the topic. -/
def goneWorld : World Wire where
  peer := { script := [ServiceAccount.missingAnswer] }

theorem placed_decoded (endpoint : String) :
    State.decode.fromState (placedState endpoint) =
      .ok { orders with restEndpoint := endpoint } := rfl

/-- A topic whose endpoint has no scheme is looked for at the platform. -/
theorem read_at_platform :
    Context.ofConfiguration { maxRetries := some 0 } = .ok Context.plain ∧
    State.decode.fromState (placedState "lkc-1.example") =
      .ok { orders with restEndpoint := "lkc-1.example" } ∧
    ∃ entry ∈ ((Call.read "confluent_kafka_topic" (placedState "lkc-1.example")).run
        plainProvider).sent goneWorld,
      entry.request.url =
        "https://api.confluent.cloud/lkc-1.example/kafka/v3/clusters/lkc-1/topics/orders" ∧
      ¬∃ rest, entry.request.url =
        State.base { orders with restEndpoint := "lkc-1.example" } Context.plain.kafka ++ rest := by
  obtain ⟨entry, sent, url⟩ : ∃ entry,
      ((Call.read "confluent_kafka_topic" (placedState "lkc-1.example")).run plainProvider).sent
        goneWorld = [entry] ∧
      entry.request.url = Context.plain.client.url
        (dropTrailingSlashes "lkc-1.example" ++ "/kafka/v3/clusters/lkc-1/topics/orders") :=
    ⟨_, rfl, rfl⟩
  have platform : entry.request.url =
      "https://api.confluent.cloud/lkc-1.example/kafka/v3/clusters/lkc-1/topics/orders" := by
    rw [url]
    rfl
  refine ⟨Context.plain_configured, placed_decoded _, entry, by rw [sent]; simp, platform, ?_⟩
  intro begins
  obtain ⟨rest, same⟩ := begins
  have base : State.base { orders with restEndpoint := "lkc-1.example" } Context.plain.kafka =
      "lkc-1.example/kafka/v3/clusters/lkc-1" := rfl
  rw [platform, base] at same
  have heads := congrArg (fun text => text.toList.head?) same
  simp [String.toList_append] at heads

end KafkaTopic

/-- A topic whose endpoint has a scheme is looked for at its cluster. -/
theorem requests_at_cluster_placed :
    ∃ entry, ((Call.read "confluent_kafka_topic"
        (KafkaTopic.placedState "https://lkc-1.example/")).run KafkaTopic.plainProvider).sent
          KafkaTopic.goneWorld = [entry] ∧
      ∃ rest, entry.request.url = "https://lkc-1.example/kafka/v3/clusters/lkc-1" ++ rest := by
  obtain ⟨entry, sent⟩ : ∃ entry, ((Call.read "confluent_kafka_topic"
      (KafkaTopic.placedState "https://lkc-1.example/")).run KafkaTopic.plainProvider).sent
        KafkaTopic.goneWorld = [entry] := ⟨_, rfl⟩
  refine ⟨entry, sent, ?_⟩
  have configured : KafkaTopic.plainProvider.context = some Context.plain := rfl
  have topics : (Call.read "confluent_kafka_topic"
      (KafkaTopic.placedState "https://lkc-1.example/")).type = "confluent_kafka_topic" := rfl
  obtain ⟨topic, concerned, exactly, _⟩ := requests_at_cluster_iff Context.plain_configured
    configured topics KafkaTopic.goneWorld entry (by rw [sent]; simp)
  cases concerned with
  | read decoded =>
    obtain rfl := Except.ok.inj ((KafkaTopic.placed_decoded _).symm.trans decoded)
    obtain ⟨rest, begins⟩ := exactly.mpr rfl
    have base : KafkaTopic.State.base
        { KafkaTopic.orders with restEndpoint := "https://lkc-1.example/" } Context.plain.kafka =
          "https://lkc-1.example/kafka/v3/clusters/lkc-1" := rfl
    exact ⟨rest, begins.trans (by rw [base])⟩

end Provisioner

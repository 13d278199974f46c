import Mathlib
import Provisioner.Proofs.Http.Prompt
import Provisioner.Proofs.Lifecycle.Prompt
import Provisioner.Proofs.Lifecycle.Refused
import Provisioner.Proofs.Provider.Calls

/-!
# What a validation error promises

A validation error tells the host that no request was sent. This holds of every operation but one: a
topic is created through a POST, and if the answer to it names no cluster, the topic can not be
looked for any more and its creation ends in a validation error.
-/

namespace Provisioner

set_option autoImplicit false

open Http
open Op (RefusesFirst)

namespace Provider

variable {α : Type} (p : Provider)

theorem transition_first {type : String} {act : Lifecycle Wire → Context → Op Wire α}
    (first : ∀ (route : Route) (context : Context),
      (act (p.lifecycle route.api.kind) context).RefusesFirst) :
    (p.transition type act).RefusesFirst := by
  rcases p.transition_cases type act with ⟨failure, fault, refused⟩ | ⟨kind, member, context, runs⟩
  · rw [refused]
    exact .of_silent fun _ => rfl
  · rw [← Route.kind_all] at member
    obtain ⟨route, _, rfl⟩ := List.mem_map.mp member
    rw [runs.2.2]
    exact first route context

/-- A topic whose creation is accepted by an answer that names no cluster, although the
configuration names one and the provider has none; and the host has not asked to stop. -/
def LosesTopic (p : Provider) (config : Json) (w : World Wire) : Prop :=
  ∃ context desired created submitted, p.context = some context ∧
    (p.lifecycle KafkaTopic.kind).submit context config w =
      (.ok (desired, KafkaTopic.State.ofRemote created desired), submitted) ∧
    submitted.isStopped = false ∧ desired.kafkaCluster ≠ [] ∧ created.topic.clusterId = "" ∧
    context.kafka.clusterId.getD "" = ""

end Provider

namespace Route

theorem eq_topics_of_loses {route : Route} (member : route ∈ all) {context : Context}
    {desired : route.api.kind.State} {created : route.api.kind.Remote}
    (loses : route.Loses context desired created) : route = kafkaTopics := by
  simp only [all, List.mem_cons, List.not_mem_nil, or_false] at member
  rcases member with rfl | rfl | rfl | rfl | rfl | rfl | rfl
  · exact loses.elim
  · exact loses.elim
  · exact loses.elim
  · exact loses.elim
  · rfl
  · exact loses.elim
  · exact loses.elim

end Route

namespace Call

/-- Only a creation can refuse after it has sent something. -/
theorem run_first (p : Provider) {call : Call}
    (other : ∀ type config, call ≠ .create type config) : (call.run p).RefusesFirst := by
  cases call with
  | validate type config =>
    apply RefusesFirst.map
    exact .of_silent fun _ => rfl
  | plan type prior proposed =>
    apply RefusesFirst.map
    exact .of_silent fun _ => rfl
  | create type config => exact absurd rfl (other type config)
  | read type state =>
    apply RefusesFirst.map
    apply p.transition_first
    intro route context
    exact route.read_state_first (fun _ => p.waits) context state
  | update type prior config =>
    apply RefusesFirst.map
    apply p.transition_first
    intro route context
    exact route.update_first (fun _ => p.waits) context prior config
  | delete type state =>
    apply RefusesFirst.map
    apply p.transition_first
    intro route context
    exact route.delete_first (fun _ => p.waits) context state
  | importKey type key =>
    apply RefusesFirst.map
    apply p.transition_first
    intro route context
    apply (route.importKey_first (fun _ => p.waits) context key).before_faults
    intro _ _ state _
    exact .pure _
  | lookUp type config =>
    apply RefusesFirst.map
    apply RefusesFirst.after
    intro key _
    apply p.transition_first
    intro route context
    exact route.importKey_first (fun _ => p.waits) context key

/-- When the creation of an object refuses although it has sent something. -/
theorem create_refuses_late_iff (p : Provider) (type : String) (config : Json) (w : World Wire) :
    (∃ error after, p.create type config w = (.error error, after) ∧ error.isRefusal = true ∧
      (p.create type config).sent w ≠ []) ↔
      type = KafkaTopic.kind.name ∧ p.LosesTopic config w := by
  unfold Provider.create
  constructor
  · intro late
    obtain ⟨error, after, failed, refusal, some⟩ := late
    rcases p.transition_cases type (fun l context => l.create context config) with
      ⟨failure, fault, refused⟩ | ⟨kind, member, context, named, configured, runs⟩
    · rw [refused] at some
      exact absurd (Operation.sent_of_peer_eq rfl) some
    · rw [← Route.kind_all] at member
      obtain ⟨route, inside, rfl⟩ := List.mem_map.mp member
      rw [runs] at failed some
      obtain ⟨desired, created, submitted, submission, running, loses⟩ :=
        (route.create_refuses_late_iff (fun _ => p.waits) context config w).mp
          ⟨error, after, failed, refusal, some⟩
      have topics := Route.eq_topics_of_loses inside loses
      subst topics
      obtain ⟨configures, unnamed, unprovided⟩ := loses
      exact ⟨named.symm, context, desired, created, submitted, configured, submission, running,
        configures, unnamed, unprovided⟩
  · intro parts
    obtain ⟨rfl, context, desired, created, submitted, configured, submission, running,
      configures, unnamed, unprovided⟩ := parts
    rw [Provider.transition_of_kind (by simp [kinds]) configured]
    apply (Route.kafkaTopics.create_refuses_late_iff (fun _ => p.waits) context config w).mpr
    exact ⟨desired, created, submitted, submission, running, configures, unnamed, unprovided⟩

theorem run_create_error_iff {p : Provider} {type : String} {config : Json} {w after : World Wire}
    {error : Error} :
    (Call.create type config).run p w = (.error error, after) ↔
      p.create type config w = (.error error, after) := by
  show ((fun state => Reply.state (some state)) <$> p.create type config) w = _ ↔ _
  rw [map_eq_pure_bind, Operation.run_bind]
  rcases p.create type config w with ⟨fault | state, finish⟩
  · simp
  · simp

theorem sent_run_create (p : Provider) (type : String) (config : Json) (w : World Wire) :
    ((Call.create type config).run p).sent w = (p.create type config).sent w := by
  show ((fun state => Reply.state (some state)) <$> p.create type config).sent w = _
  unfold Operation.sent
  rw [map_eq_pure_bind, Operation.run_bind]
  rcases p.create type config w with ⟨fault | state, finish⟩ <;> rfl

end Call

/-- An operation that ends in a validation error has sent nothing, unless it is the creation of a
topic that the answer to the POST leaves without a cluster. -/
theorem refused_unsent_iff (p : Provider) (call : Call) (w : World Wire) :
    (∀ error after, call.run p w = (.error error, after) → error.failure.kind = "Validation" →
      (call.run p).sent w = []) ↔
      ¬∃ config, call = .create "confluent_kafka_topic" config ∧ p.LosesTopic config w := by
  constructor
  · intro unsent late
    obtain ⟨config, rfl, loses⟩ := late
    obtain ⟨error, after, failed, refusal, some⟩ :=
      (Call.create_refuses_late_iff p "confluent_kafka_topic" config w).mpr ⟨rfl, loses⟩
    apply some
    rw [← Call.sent_run_create]
    apply unsent error after
    · exact Call.run_create_error_iff.mpr failed
    · exact error.isRefusal_iff.mp refusal
  · intro never error after failed kind
    have refusal := error.isRefusal_iff.mpr kind
    by_cases creates : ∃ type config, call = .create type config
    · obtain ⟨type, config, rfl⟩ := creates
      apply Classical.byContradiction
      intro some
      rw [Call.sent_run_create] at some
      obtain ⟨rfl, loses⟩ := (Call.create_refuses_late_iff p type config w).mp
        ⟨error, after, Call.run_create_error_iff.mp failed, refusal, some⟩
      exact never ⟨config, rfl, loses⟩
    · have other : ∀ type config, call ≠ .create type config :=
        fun type config same => creates ⟨type, config, same⟩
      exact (Call.run_first p other).sent_of_refusal failed refusal

namespace KafkaTopic

def ordersConfig : Json :=
  .obj [
    ("kafka_cluster", .arr [.obj [("id", .str "lkc-1")]]),
    ("rest_endpoint", .str "https://lkc-1.example"),
    ("topic_name", .str "orders")]

def orders : State where
  id := ""
  topicName := "orders"
  partitions := none
  config := .empty
  kafkaCluster := [⟨"lkc-1"⟩]
  restEndpoint := "https://lkc-1.example"
  credentials := []

def unnamedAnswer : Answer :=
  .ofText "\x7b\"cluster_id\":\"\",\"partitions_count\":6,\"topic_name\":\"orders\"\x7d"

def unnamed : Remote := ⟨⟨"", "orders", 6⟩, []⟩

theorem unnamed_gives : unnamedAnswer.Gives decodeCreated unnamed :=
  Answer.ofText_gives
    (.obj [("cluster_id", .str ""), ("partitions_count", .int 6), ("topic_name", .str "orders")])
    (by cbv) (by cbv) (by cbv)

/-- A server that accepts a topic without naming its cluster. -/
def unnamedWorld : World Wire where
  peer := { script := [unnamedAnswer] }

def plainProvider : Provider := { context := some Context.plain }

/-- A topic of a named cluster whose creation ends in a validation error after its POST. -/
theorem create_refused_after_post :
    ∃ error after path,
      (Call.create "confluent_kafka_topic" ordersConfig).run plainProvider unnamedWorld =
        (.error error, after) ∧
      error.failure.kind = "Validation" ∧
      error.diagnostic.detail = some "No request was sent to the API" ∧
      orders.collectionUrl Context.plain.kafka = .ok path ∧
      ∃ entry ∈ ((Call.create "confluent_kafka_topic" ordersConfig).run plainProvider).sent
          unnamedWorld,
        entry.request.method = .post ∧ entry.request.url = Context.plain.client.url path := by
  have decoded : Lifecycle.decodeValid ⟨kind, fun _ => none⟩ ordersConfig = .ok orders := by cbv
  obtain ⟨path, posted⟩ : ∃ path, State.collectionUrl orders Context.plain.kafka = .ok path :=
    collectionUrl_ok_iff.mpr ⟨by decide, by decide⟩
  have ready : Ready unnamedWorld (unnamedAnswer :: []) := ⟨rfl, rfl⟩
  obtain ⟨submitted, submission, readySubmitted⟩ := Route.kafkaTopics.api.submit_of_ready
    (fun _ => none) Context.plain_accepting decoded rfl posted unnamed_gives ready
  obtain ⟨error, missing⟩ := (lost_iff posted unnamed).mpr ⟨by decide, rfl, rfl⟩
  have creating := Route.create_of_missing submission missing
  rw [readySubmitted.isStopped, if_neg (by decide)] at creating
  have refusal : error.isRefusal = true :=
    refusal_of_collectionUrl (collectionUrl_of_url missing)
  rw [← Error.isRefusal_about error kind.name (some (kind.id (State.ofRemote unnamed orders)))]
    at refusal
  obtain ⟨exchanges, collection, some, transcript, found, posts⟩ :=
    Route.posted_of_submit submission
  rw [show Route.kafkaTopics.api.collection Context.plain orders = .ok path from posted] at found
  cases found
  obtain ⟨exchange, member⟩ := List.exists_mem_of_ne_nil exchanges some
  obtain ⟨method, url⟩ := posts exchange member
  refine ⟨_, submitted, path, Call.run_create_error_iff.mpr creating, ?_, ?_, posted,
    exchange.sent, ?_, method, url⟩
  · exact (Error.isRefusal_iff _).mp refusal
  · exact Error.detail_of_refusal refusal
  · rw [Call.sent_run_create]
    have creation : (plainProvider.create "confluent_kafka_topic" ordersConfig unnamedWorld).2 =
        submitted := congrArg Prod.snd creating
    rw [Operation.sent_of_transcript (by rw [creation]; exact transcript)]
    exact List.mem_map_of_mem member

end KafkaTopic

end Provisioner

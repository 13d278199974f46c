import Provisioner.Proofs.Lifecycle.Withheld
import Provisioner.Proofs.Provider.Configuration
import Provisioner.Proofs.Provider.Refused
import Provisioner.Proofs.Provider.Steps

/-!
# Separate credentials

A provider holds two pairs of credentials, one for the platform and one for a cluster, and each
serves its own kinds only. This is a law about two providers: if the accepted configurations differ
in the settings of one pair only, then no sequence of steps lets any operation that the pair does
not serve run differently in the two. Equal runs have equal results and logs of requests, at equal
times.
-/

namespace Provisioner

set_option autoImplicit false

open Http
open Operation (SendsFrom)

namespace Provider

variable {p q : Provider}

/-- The providers differ at most in their contexts and environments, and both have a context. -/
structure Twins (p q : Provider) (x y : Context) : Prop where
  waits : p.waits = q.waits
  stopped : p.stopped = q.stopped
  first : p.context = some x
  second : q.context = some y

variable {x y : Context}

theorem waits_next (p : Provider) (step : Step) : (p.next step).waits = p.waits := by
  cases step with
  | configure config =>
    show (p.configure config).2.waits = p.waits
    rcases p.configure_cases config with ⟨_, run⟩ | ⟨_, _, _, run⟩ | ⟨_, _, _, run⟩ <;> rw [run]
  | call call wire stopAt => rw [next_call]
  | stop => rfl

namespace Twins

theorem next (twins : Twins p q x y) (step : Step) : Twins (p.next step) (q.next step) x y where
  waits := by rw [waits_next, waits_next, twins.waits]
  stopped := by rw [stopped_next, stopped_next, twins.stopped]
  first := context_next twins.first step
  second := context_next twins.second step

theorem through (twins : Twins p q x y) (steps : List Step) :
    Twins (p.through steps) (q.through steps) x y := by
  induction steps generalizing p q with
  | nil => exact twins
  | cons step rest ih => exact ih (twins.next step)

theorem world_eq (twins : Twins p q x y) (wire : Wire) (stopAt : Option Nat) :
    p.world wire stopAt = q.world wire stopAt := by
  unfold world
  rw [twins.stopped]

theorem lifecycle_eq (twins : Twins p q x y) (type : String) :
    p.lifecycle? type = q.lifecycle? type := by
  unfold lifecycle? lifecycle
  rw [twins.waits]

theorem transition_eq (twins : Twins p q x y) {type : String} {α : Type}
    {act : Lifecycle Wire → Context → Op Wire α}
    (same : ∀ kind ∈ kinds, kind.name = type →
      act (p.lifecycle kind) x = act (p.lifecycle kind) y) :
    p.transition type act = q.transition type act := by
  unfold transition
  rw [← twins.lifecycle_eq, twins.first, twins.second]
  cases found : p.lifecycle? type with
  | none => rfl
  | some l =>
    obtain ⟨kind, member, named, rfl⟩ := lifecycle_of_found found
    exact same kind member named

/-- An operation on a kind that sees no difference is the same operation for both. -/
theorem run_eq (twins : Twins p q x y) {call : Call}
    (blind : ∀ kind ∈ kinds, kind.name = call.type → kind.Blind x y) : call.run p = call.run q := by
  cases call with
  | validate type config =>
    refine congrArg (Reply.diagnostics <$> Operation.ofExcept ·) ?_
    unfold validate
    rw [twins.lifecycle_eq]
  | plan type prior proposed =>
    refine congrArg (Reply.plan <$> Operation.ofExcept ·) ?_
    unfold plan
    rw [twins.lifecycle_eq]
  | create type config =>
    refine congrArg ((fun state => Reply.state (some state)) <$> ·) (twins.transition_eq ?_)
    intro kind member named
    exact (blind kind member named).create_eq (fun _ => p.waits) config
  | read type state =>
    refine congrArg (Reply.state <$> ·) (twins.transition_eq ?_)
    intro kind member named
    exact (blind kind member named).read_eq (fun _ => p.waits) state
  | update type prior config =>
    refine congrArg ((fun state => Reply.state (some state)) <$> ·) (twins.transition_eq ?_)
    intro kind member named
    exact (blind kind member named).update_eq (fun _ => p.waits) prior config
  | delete type state =>
    refine congrArg ((fun _ => Reply.done) <$> ·) (twins.transition_eq ?_)
    intro kind member named
    exact (blind kind member named).delete_eq (fun _ => p.waits) state
  | importKey type key =>
    refine congrArg (Reply.imported <$> ·) (twins.transition_eq ?_)
    intro kind member named
    show (Lifecycle.importKey ⟨kind, fun _ => p.waits⟩ x key >>= _) = _
    rw [(blind kind member named).importKey_eq]
    rfl
  | lookUp type config =>
    refine congrArg ((fun state => Reply.state (some state)) <$> ·) ?_
    unfold lookUp
    congr 1
    funext key
    apply twins.transition_eq
    intro kind member named
    exact (blind kind member named).importKey_eq (fun _ => p.waits) key

end Twins

theorem twins_of_configure {env : String → Option String} {config other : Json}
    {mine theirs : Configuration} (read : p.readConfiguration config = .ok mine)
    (readOther : readConfiguration { p with env } other = .ok theirs)
    (accepted : (p.configure config).1 = [])
    (acceptedOther : (configure { p with env } other).1 = []) :
    ∃ x y, Context.ofConfiguration mine = .ok x ∧ Context.ofConfiguration theirs = .ok y ∧
      Twins (p.configure config).2 (configure { p with env } other).2 x y := by
  rcases p.configure_cases config with ⟨_, run⟩ | ⟨_, x, found, run⟩ | ⟨_, _, _, run⟩
  · rw [run] at accepted
    cases accepted
  · rcases configure_cases { p with env } other with
      ⟨_, run'⟩ | ⟨_, y, found', run'⟩ | ⟨_, _, _, run'⟩
    · rw [run'] at acceptedOther
      cases acceptedOther
    · unfold contextOf at found found'
      rw [read] at found
      rw [readOther] at found'
      refine ⟨x, y, found, found', ?_⟩
      rw [run, run']
      exact ⟨rfl, rfl, rfl, rfl⟩
    · rw [run'] at acceptedOther
      cases acceptedOther
  · rw [run] at accepted
    cases accepted

end Provider

namespace Call

/-- The operation runs in the same way on two providers, whatever is answered and whenever the host
asks to stop: it gives the same result and leaves the same world, with the same requests in it. -/
def RunsAlike (call : Call) (p q : Provider) : Prop :=
  ∀ wire stopAt, call.run p (p.world wire stopAt) = call.run q (q.world wire stopAt)

/-- An operation on a topic with a credentials block. In an update the block is the one of the new
configuration. -/
inductive Brings (pair : Credentials) : Call → Prop where
  | create {config : Json} (brings : KafkaTopic.Brings config pair) :
      Brings pair (.create "confluent_kafka_topic" config)
  | read {state : Json} (brings : KafkaTopic.Brings state pair) :
      Brings pair (.read "confluent_kafka_topic" state)
  | update {prior config : Json} (wellFormed : config.WellFormed)
      (brings : KafkaTopic.Brings config pair) :
      Brings pair (.update "confluent_kafka_topic" prior config)
  | delete {state : Json} (brings : KafkaTopic.Brings state pair) :
      Brings pair (.delete "confluent_kafka_topic" state)

end Call

namespace Provider

theorem topic_of_name {kind : Kind Wire} (member : kind ∈ kinds)
    (named : kind.name = "confluent_kafka_topic") : kind = KafkaTopic.kind := by
  have found := lifecycle_of_kind {} member
  have foundTopics : lifecycle? {} "confluent_kafka_topic" = some (lifecycle {} KafkaTopic.kind) :=
    lifecycle_of_kind {} KafkaTopic.kind_listed
  rw [named, foundTopics] at found
  exact (congrArg Lifecycle.kind (Option.some.inj found)).symm

end Provider

theorem Call.Brings.sends {pair : Credentials} {call : Call} (brings : call.Brings pair)
    (p : Provider) : (call.run p).SendsFrom fun _ request => request.credentials = some pair := by
  cases brings with
  | create brings =>
    apply SendsFrom.map
    apply p.sends_transition KafkaTopic.kind_listed
    intro context _
    exact KafkaTopic.brings_create (fun _ => p.waits) brings
  | read brings =>
    apply SendsFrom.map
    apply p.sends_transition KafkaTopic.kind_listed
    intro context _
    exact KafkaTopic.brings_read (fun _ => p.waits) brings
  | update wellFormed brings =>
    apply SendsFrom.map
    apply p.sends_transition KafkaTopic.kind_listed
    intro context _
    exact KafkaTopic.brings_update (fun _ => p.waits) wellFormed brings
  | delete brings =>
    apply SendsFrom.map
    apply p.sends_transition KafkaTopic.kind_listed
    intro context _
    exact KafkaTopic.brings_delete (fun _ => p.waits) brings

/-- Two providers that differ in their environments and have accepted configurations go through the
same steps. If the configurations differ only in the credentials for the platform, every operation
on a topic runs alike on both; if they differ only in the cluster, its endpoint and its credentials,
every other operation does. And a topic that brings a pair of its own has that pair sent with all
its requests, whatever the provider. -/
theorem credentials_separate {p : Provider} {env : String → Option String} {config other : Json}
    {mine theirs : Configuration} (read : p.readConfiguration config = .ok mine)
    (readOther : Provider.readConfiguration { p with env } other = .ok theirs)
    (accepted : (p.configure config).1 = [])
    (acceptedOther : (Provider.configure { p with env } other).1 = []) :
    (mine.AgreesButCloud theirs → ∀ (steps : List Step) (call : Call),
      call.type = "confluent_kafka_topic" →
        call.RunsAlike ((p.configure config).2.through steps)
          ((Provider.configure { p with env } other).2.through steps)) ∧
    (mine.AgreesButKafka theirs → ∀ (steps : List Step) (call : Call),
      call.type ≠ "confluent_kafka_topic" →
        call.RunsAlike ((p.configure config).2.through steps)
          ((Provider.configure { p with env } other).2.through steps)) ∧
    ∀ (call : Call) (pair : Credentials), call.Brings pair →
      ∀ (provider : Provider) (w : World Wire), ∀ entry ∈ (call.run provider).sent w,
        entry.request.credentials = some pair := by
  obtain ⟨x, y, first, second, twins⟩ :=
    Provider.twins_of_configure read readOther accepted acceptedOther
  refine ⟨?_, ?_, ?_⟩
  · intro agrees steps call topic wire stopAt
    have agree := Context.agreeButCloud_of_configuration agrees first second
    have later := twins.through steps
    rw [later.world_eq]
    rw [later.run_eq]
    intro kind member named
    rw [Provider.topic_of_name member (named.trans topic)]
    exact agree.blind
  · intro agrees steps call otherType wire stopAt
    have agree := Context.agreeButKafka_of_configuration agrees first second
    have later := twins.through steps
    rw [later.world_eq]
    rw [later.run_eq]
    intro kind member named
    exact agree.blind member (by rw [named]; exact otherType)
  · intro call pair brings provider w entry member
    exact (brings.sends provider).of_sent w member

namespace Provider

def clusterConfig : Json :=
  .obj [("kafka_api_key", .str "cluster-key"), ("kafka_api_secret", .str "cluster-secret")]

/-- The same with a pair for the platform. -/
def platformConfig : Json :=
  .obj [
    ("cloud_api_key", .str "platform-key"),
    ("cloud_api_secret", .str "platform-secret"),
    ("kafka_api_key", .str "cluster-key"),
    ("kafka_api_secret", .str "cluster-secret")]

end Provider

namespace KafkaTopic

/-- A topic with credentials of its own. -/
def ownedConfig : Json :=
  .obj [
    ("credentials", .arr [.obj [("key", .str "own-key"), ("secret", .str "own-secret")]]),
    ("kafka_cluster", .arr [.obj [("id", .str "lkc-1")]]),
    ("rest_endpoint", .str "https://lkc-1.example"),
    ("topic_name", .str "orders")]

def ownedState : State :=
  { secretState with config := .empty, credentials := [⟨"own-key", "own-secret"⟩] }

theorem sent_owned {p : Provider} {context : Context} (configured : p.context = some context)
    (accepting : context.client.retry.Accepting) :
    ∃ entry, entry ∈ ((Call.create "confluent_kafka_topic" ownedConfig).run p).sent
      withheldWorld := by
  have decoded : Lifecycle.decodeValid (p.lifecycle kind) ownedConfig = .ok ownedState := by rfl
  have ready : Ready withheldWorld
      [ordersAnswer, ordersAnswer, withheldAnswer, ordersAnswer, withheldAnswer] := ⟨rfl, rfl⟩
  obtain ⟨_, _, after, _, _, run⟩ := api.create_of_answers (fun _ => p.waits) accepting decoded
    (by rfl) rfl accepted_gives rfl (.two orders_gives withheld_gives) rfl
    (.two orders_gives withheld_gives) ready
  obtain ⟨entry, member, _⟩ := api.post_sent_of_run (fun _ => p.waits) run
  refine ⟨entry, ?_⟩
  have creates : p.create kind.name ownedConfig = (p.lifecycle kind).create context ownedConfig :=
    Provider.transition_of_kind (by simp [kinds]) configured _
  rw [Call.sent_run_create]
  exact creates ▸ member

end KafkaTopic

/-- Two providers, of which only one has credentials for the platform, create a topic alike after
every course of steps, and both send the topic's own pair. -/
theorem credentials_separate_owned :
    ∃ mine theirs : Configuration,
      Provider.readConfiguration {} Provider.platformConfig = .ok mine ∧
      Provider.readConfiguration {} Provider.clusterConfig = .ok theirs ∧
      mine.cloudApiSecret = some "platform-secret" ∧ theirs.cloudApiSecret = none ∧
      (∀ steps, (Call.create "confluent_kafka_topic" KafkaTopic.ownedConfig).RunsAlike
        ((Provider.configure {} Provider.platformConfig).2.through steps)
        ((Provider.configure {} Provider.clusterConfig).2.through steps)) ∧
      (∀ (provider : Provider) (w : World Wire),
        ∀ entry ∈ ((Call.create "confluent_kafka_topic" KafkaTopic.ownedConfig).run
            provider).sent w,
          entry.request.credentials = some ⟨"own-key", "own-secret"⟩) ∧
      ∃ entry ∈ ((Call.create "confluent_kafka_topic" KafkaTopic.ownedConfig).run
          (Provider.configure {} Provider.platformConfig).2).sent KafkaTopic.withheldWorld,
        entry.request.credentials = some ⟨"own-key", "own-secret"⟩ := by
  obtain ⟨mine, read, secret⟩ : ∃ mine : Configuration,
      Provider.readConfiguration {} Provider.platformConfig = .ok mine ∧
        mine.cloudApiSecret = some "platform-secret" := ⟨_, rfl, rfl⟩
  obtain ⟨theirs, readOther, unset⟩ : ∃ theirs : Configuration,
      Provider.readConfiguration {} Provider.clusterConfig = .ok theirs ∧
        theirs.cloudApiSecret = none := ⟨_, rfl, rfl⟩
  have agrees : mine.AgreesButCloud theirs := by
    cases read
    cases readOther
    rfl
  have brings : (Call.create "confluent_kafka_topic" KafkaTopic.ownedConfig).Brings
      ⟨"own-key", "own-secret"⟩ := .create ⟨_, rfl, rfl⟩
  obtain ⟨cloud, _, owned⟩ := credentials_separate read readOther rfl rfl
  obtain ⟨context, _, found, _, twins⟩ := Provider.twins_of_configure read readOther rfl rfl
  obtain ⟨entry, member⟩ := KafkaTopic.sent_owned twins.first
    (Context.decisive_of_configuration found).accepted
  exact ⟨mine, theirs, read, readOther, secret, unset,
    fun steps => cloud agrees steps _ rfl, owned _ _ brings,
    entry, member, owned _ _ brings _ _ entry member⟩

end Provisioner

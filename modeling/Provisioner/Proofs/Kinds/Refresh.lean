import Provisioner.Proofs.Http.Replay
import Provisioner.Proofs.Kinds.Classified
import Provisioner.Proofs.Kinds.ConnectorSettings
import Provisioner.Proofs.Kinds.Presence
import Provisioner.Proofs.Kinds.RoundTrip
import Provisioner.Proofs.Kinds.TopicSettings

/-!
# Looking at the same object again

What the server tells of an object replaces what was known of it, and what it does not tell is kept.
So a state that is made of an object again, from itself, stays as it is. For most kinds the
environment is all that can be kept; a topic keeps the values that the cluster withholds. A connector
tells a known state from a new one by its plain settings, so it needs one of them to stay, and the
name is the one that every connector has.

The state can also be looked at again: its object has a path, its status is still known, and a look
at another path makes of the same answers the same object.
-/

namespace Provisioner

set_option autoImplicit false

open Http (Wire)
open Operation (Repeats)

theorem Reference.blockOr_blockOr (reported : Reference) (known : List Reference) :
    reported.blockOr (reported.blockOr known) = reported.blockOr known := by
  unfold blockOr
  cases reported.id.isEmpty <;> rfl

namespace Connector

/-- The connector has a name of its own, and the state takes it from there. -/
structure Keeps (remote : Remote) (prior : State) : Prop where
  named : ∃ name, remote.config.get? "name" = some name ∧ name ≠ masked
  plain : prior.plain.isEmpty = true ∨ prior.plain.contains "name" = true
  apart : prior.secret.contains "name" = false

namespace Keeps

variable {remote : Remote} {prior : State}

theorem keeps_name (keeps : Keeps remote prior) {name : String} (told : name ≠ masked) :
    prior.keeps "name" name = true := by
  unfold State.keeps
  split
  · rw [keeps.apart]
    simp [told, addedByServer]
  · next some => exact keeps.plain.resolve_left some

theorem contains_name (keeps : Keeps remote prior) :
    (State.ofRemote remote prior).plain.contains "name" = true := by
  obtain ⟨name, reported, told⟩ := keeps.named
  refine Settings.contains_eq_true_iff.mpr ⟨name, ?_⟩
  show (remote.config.filter prior.keeps).get? "name" = some name
  rw [Settings.get?_filter, reported]
  simp [Option.filter, keeps.keeps_name told]

theorem ofRemote_ofRemote (keeps : Keeps remote prior) :
    State.ofRemote remote (.ofRemote remote prior) = .ofRemote remote prior := by
  have known := State.keeps_of_known ⟨"name", keeps.contains_name⟩
  have same : remote.config.filter (State.ofRemote remote prior).keeps =
      remote.config.filter prior.keeps := by
    rw [known, Settings.filter_eq_filter_iff]
    intro name value reported
    show ((remote.config.filter prior.keeps).get? name).isSome = prior.keeps name value
    rw [Settings.get?_filter, reported]
    cases kept : prior.keeps name value <;> simp [Option.filter, kept]
  unfold State.ofRemote at same ⊢
  rw [same]
  rfl

end Keeps

end Connector

namespace FlinkComputePool

theorem ofRemote_ofRemote (remote : Remote) (prior : State) :
    State.ofRemote remote (.ofRemote remote prior) = .ofRemote remote prior := by
  simp only [State.ofRemote, Reference.blockOr_blockOr]

end FlinkComputePool

namespace KafkaCluster

theorem ofRemote_ofRemote (remote : Remote) (prior : State) :
    State.ofRemote remote (.ofRemote remote prior) = .ofRemote remote prior := by
  simp only [State.ofRemote, Reference.blockOr_blockOr]

end KafkaCluster

namespace Network

theorem ofRemote_ofRemote (remote : Remote) (prior : State) :
    State.ofRemote remote (.ofRemote remote prior) = .ofRemote remote prior := by
  simp only [State.ofRemote, Reference.blockOr_blockOr]

end Network

namespace KafkaTopic

/-- Every value of a state was told, or it was known and is withheld; it comes out again either way.
-/
theorem config_ofRemote_ofRemote (remote : Remote) (prior : State) :
    (State.ofRemote remote (.ofRemote remote prior)).config =
      (State.ofRemote remote prior).config := by
  apply Settings.ext_get?
  intro name
  by_cases withheld : remote.Withholds name
  · cases made : (State.ofRemote remote prior).config.get? name with
    | some value => exact State.get?_of_withheld made withheld
    | none =>
      -- Nothing was known of the setting, so what was told of it is all there is.
      have unknown : prior.config.get? name = none := by
        cases known : prior.config.get? name with
        | none => rfl
        | some value =>
          rw [State.get?_of_withheld known withheld] at made
          cases made
      rw [State.get?_of_unknown made, ← State.get?_of_unknown unknown, made]
  · rw [State.get?_of_told withheld, State.get?_of_told withheld]

theorem ofRemote_ofRemote (remote : Remote) (prior : State) :
    State.ofRemote remote (.ofRemote remote prior) = .ofRemote remote prior := by
  have settings := config_ofRemote_ofRemote remote prior
  have cluster : (State.ofRemote remote (.ofRemote remote prior)).kafkaCluster =
      (State.ofRemote remote prior).kafkaCluster := by
    unfold State.ofRemote
    cases prior.kafkaCluster <;> rfl
  show State.mk _ _ _ _ _ _ _ = State.mk _ _ _ _ _ _ _
  rw [State.mk.injEq]
  exact ⟨rfl, rfl, rfl, settings, cluster, rfl, rfl⟩

theorem url_again {context : Context} {prior : State} {url : String}
    (found : prior.url context.kafka = .ok url) {remote : Remote}
    (named : remote.topic.clusterId ≠ "") :
    ∃ again, (State.ofRemote remote prior).url context.kafka = .ok again := by
  obtain ⟨collection, posted⟩ := url_ok_iff.mp ⟨url, found⟩
  cases located : (State.ofRemote remote prior).url context.kafka with
  | ok again => exact ⟨again, rfl⟩
  | error error =>
    obtain ⟨_, unnamed, _⟩ := (lost_iff posted remote).mp ⟨error, located⟩
    exact absurd unnamed named

end KafkaTopic

namespace Reading

variable {ρ α β : Type} {session later : Session}

theorem repeats_one (same : later.context.client.retry = session.context.client.retry)
    (path place : String) (decode : Decoder ρ) :
    Repeats ((Reading.one path decode).run session) ((Reading.one place decode).run later) :=
  .call same .get path place none none decode

theorem repeats_two (same : later.context.client.retry = session.context.client.retry)
    (path place second placeSecond : String) (decode : Decoder α) (decodeSecond : Decoder β)
    (combine : α → β → ρ) :
    Repeats ((Reading.two path decode second decodeSecond combine).run session)
      ((Reading.two place decode placeSecond decodeSecond combine).run later) := by
  apply Repeats.bind (.call same .get path place none none decode)
  intro first
  apply Repeats.bind (.call same .get second placeSecond none none decodeSecond)
  intro rest
  exact .pure _

end Reading

namespace Api

variable {api : Api}

theorem round_trips (listed : api ∈ apis) : api.kind.RoundTrips := by
  apply Kind.round_trips_of_mem_kinds
  rw [← kind_apis]
  exact List.mem_map_of_mem listed

theorem repeats_reading (listed : api ∈ apis) {session later : Session}
    (same : later.context.client.retry = session.context.client.retry) (path place : String) :
    Repeats ((api.reading path).run session) ((api.reading place).run later) := by
  simp only [apis, List.mem_cons, List.not_mem_nil, or_false] at listed
  rcases listed with rfl | rfl | rfl | rfl | rfl | rfl | rfl
  · exact Reading.repeats_two same _ _ _ _ _ _ _
  · exact Reading.repeats_one same _ _ _
  · exact Reading.repeats_one same _ _ _
  · exact Reading.repeats_one same _ _ _
  · exact Reading.repeats_two same _ _ _ _ _ _ _
  · exact Reading.repeats_one same _ _ _
  · exact Reading.repeats_one same _ _ _

/-- Whatever else is expected of an object that was judged, it is judged, and not for gone. -/
theorem present_again (listed : api ∈ apis) {remote : api.kind.Remote}
    {expected : api.kind.State} {state : LifecycleState}
    (judged : api.kind.classify remote expected = .ok state) (other : api.kind.State) :
    ∃ phase, api.kind.classify remote other = .ok phase ∧ phase ≠ .deleted := by
  have again : ∃ phase, api.kind.classify remote other = .ok phase := by
    have apis_eq : apis = judges.map Judge.api := rfl
    rw [apis_eq] at listed
    obtain ⟨judge, _, rfl⟩ := List.mem_map.mp listed
    have known := (judge.classifies_iff remote expected).mp ⟨state, judged⟩
    exact (judge.classifies_iff remote other).mpr known
  obtain ⟨phase, classified⟩ := again
  refine ⟨phase, classified, ?_⟩
  rintro rfl
  obtain ⟨presence, rfl⟩ := Presence.of_api listed
  exact (presence.present remote other).1 classified

end Api

/-- When looking at an object again changes nothing. -/
structure Refresh where
  api : Api
  /-- The state takes enough from the object to recognize what it took. -/
  Keeps : api.kind.Remote → api.kind.State → Prop
  toState_toState : ∀ {remote : api.kind.Remote} {prior : api.kind.State}, Keeps remote prior →
    api.kind.toState remote (api.kind.toState remote prior) = api.kind.toState remote prior
  /-- The object tells enough to be found again. -/
  Places : api.kind.Remote → Prop
  object_again : ∀ {context : Context} {remote : api.kind.Remote} {prior : api.kind.State}
    {path : String}, Places remote → api.object context prior = .ok path →
      ∃ place, api.object context (api.kind.toState remote prior) = .ok place

namespace Refresh

/-- An item is found under its identifier. -/
def item (item : ItemKind)
    (same : ∀ (remote : item.kind.Remote) (prior : item.kind.State),
      item.kind.toState remote (item.kind.toState remote prior) = item.kind.toState remote prior) :
    Refresh where
  api := item.api
  Keeps _ _ := True
  toState_toState _ := same _ _
  Places _ := True
  object_again _ _ := ⟨_, rfl⟩

def connectors : Refresh where
  api := Connector.api
  Keeps := Connector.Keeps
  toState_toState keeps := Connector.Keeps.ofRemote_ofRemote keeps
  Places _ := True
  object_again _ _ := ⟨_, rfl⟩

def kafkaTopics : Refresh where
  api := KafkaTopic.api
  Keeps _ _ := True
  toState_toState _ := KafkaTopic.ofRemote_ofRemote _ _
  Places := fun remote : KafkaTopic.Remote => remote.topic.clusterId ≠ ""
  object_again named found := KafkaTopic.url_again found named

/-- Every kind, in the order of names. -/
def all : List Refresh :=
  [connectors, item .environments fun _ _ => rfl,
    item .flinkComputePools FlinkComputePool.ofRemote_ofRemote,
    item .kafkaClusters KafkaCluster.ofRemote_ofRemote, kafkaTopics,
    item .networks Network.ofRemote_ofRemote, item .serviceAccounts fun _ _ => rfl]

theorem api_all : all.map Refresh.api = apis := rfl

end Refresh

end Provisioner

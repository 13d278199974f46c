import Provisioner.Proofs.Kinds.Checks

/-!
# Where kinds look for their objects

A kind refuses to look for an object whose path is not known. The objects of most kinds always have
a path. A topic has one if its cluster and its endpoint are known, and the cluster of a new topic is
the one that the answer to its creation names: an answer that names none takes the path away.
-/

namespace Provisioner

set_option autoImplicit false

open Http
open Error (admitsRuns_isFault)

/-- Where a kind looks for its objects, and when it refuses to. -/
structure Route where
  api : Api
  fault_of_classify : ∀ {remote : api.kind.Remote} {expected : api.kind.State} {error : Error},
    api.kind.classify remote expected = .error error → error.IsFault
  refusal_of_object : ∀ {context : Context} {state : api.kind.State} {error : Error},
    api.object context state = .error error → error.isRefusal = true
  /-- What can be written to can be looked for. -/
  object_of_writes : ∀ {context : Context} {prior desired : api.kind.State}
    {changed : List String} {writes : List Write},
    api.writes context prior desired changed = .ok writes →
      ∃ path, api.object context desired = .ok path
  /-- Whether the answer to a creation takes away the path of the object. -/
  Loses : Context → api.kind.State → api.kind.Remote → Prop
  lost_iff : ∀ {context : Context} {desired : api.kind.State} {collection : String},
    api.collection context desired = .ok collection → ∀ created,
      ((∃ error, api.object context (api.kind.toState created desired) = .error error) ↔
        Loses context desired created)

namespace Route

/-- A kind whose objects always have a path. -/
def certain (api : Api) (path : Context → api.kind.State → String)
    (object_eq : ∀ context state, api.object context state = .ok (path context state))
    (fault_of_classify : ∀ {remote : api.kind.Remote} {expected : api.kind.State} {error : Error},
      api.kind.classify remote expected = .error error → error.IsFault) : Route where
  api := api
  fault_of_classify := fault_of_classify
  refusal_of_object := by
    intro context state error missing
    rw [object_eq] at missing
    cases missing
  object_of_writes _ := ⟨_, object_eq _ _⟩
  Loses _ _ _ := False
  lost_iff := by
    intro context desired collection _ created
    simp [object_eq]

def item (item : ItemKind)
    (fault_of_classify : ∀ {remote : item.kind.Remote} {expected : item.kind.State} {error : Error},
      item.kind.classify remote expected = .error error → error.IsFault) : Route :=
  certain item.api (fun _ => item.path) (fun _ _ => rfl) fault_of_classify

def connectors : Route :=
  certain Connector.api (fun _ => Connector.State.path) (fun _ _ => rfl) fun failed =>
    admitsRuns_isFault.unrecognized (Connector.unrecognized_of_classify failed)

def kafkaClusters : Route :=
  item .kafkaClusters fun failed =>
    admitsRuns_isFault.unrecognized (KafkaCluster.unrecognized_of_classify failed)

theorem fault_of_phase {table : PhaseTable} {status : String} {error : Error}
    (unknown : table.classify status = .error error) : error.IsFault :=
  admitsRuns_isFault.unrecognized (PhaseTable.unrecognized_of_classify unknown)

end Route

namespace KafkaTopic

theorem collectionUrl_ok_iff {state : State} {scope : KafkaScope} :
    (∃ url, state.collectionUrl scope = .ok url) ↔
      state.clusterId scope ≠ "" ∧ state.endpoint scope ≠ "" := by
  unfold State.collectionUrl
  simp only [String.isEmpty_iff]
  split
  · next noCluster => simp [noCluster, refuse]
  · next cluster =>
    split
    · next noEndpoint => simp [noEndpoint, refuse]
    · next endpoint => simp [cluster, endpoint]

theorem refusal_of_collectionUrl {state : State} {scope : KafkaScope} {error : Error}
    (missing : state.collectionUrl scope = .error error) : error.isRefusal = true :=
  (state.onlyRefuses_collectionUrl scope).isRefusal missing

theorem url_ok_iff {state : State} {scope : KafkaScope} :
    (∃ url, state.url scope = .ok url) ↔ ∃ url, state.collectionUrl scope = .ok url := by
  unfold State.url
  cases state.collectionUrl scope <;> simp [Except.map]

theorem collectionUrl_of_url {state : State} {scope : KafkaScope} {error : Error}
    (missing : state.url scope = .error error) : state.collectionUrl scope = .error error := by
  unfold State.url at missing
  rcases collection : state.collectionUrl scope with fault | url
  · rw [collection] at missing
    cases missing
    rfl
  · rw [collection] at missing
    cases missing

theorem clusterId_ofRemote (created : Remote) (desired : State) (scope : KafkaScope) :
    (State.ofRemote created desired).clusterId scope =
      if desired.kafkaCluster = [] then scope.clusterId.getD ""
      else if created.topic.clusterId = "" then scope.clusterId.getD ""
      else created.topic.clusterId := by
  unfold State.clusterId State.ofRemote
  cases desired.kafkaCluster with
  | nil => simp [Reference.idOf, single?]
  | cons reference rest => simp [Reference.idOf, single?, String.isEmpty_iff]

/-- The answer names no cluster although the configuration does, and the provider has none. -/
def Loses (context : Context) (desired : State) (created : Remote) : Prop :=
  desired.kafkaCluster ≠ [] ∧ created.topic.clusterId = "" ∧
    context.kafka.clusterId.getD "" = ""

theorem lost_iff {context : Context} {desired : State} {collection : String}
    (posted : desired.collectionUrl context.kafka = .ok collection) (created : Remote) :
    (∃ error, (State.ofRemote created desired).url context.kafka = .error error) ↔
      Loses context desired created := by
  obtain ⟨cluster, endpoint⟩ := collectionUrl_ok_iff.mp ⟨collection, posted⟩
  have sameEndpoint : (State.ofRemote created desired).endpoint context.kafka =
      desired.endpoint context.kafka := rfl
  have located : (∃ url, (State.ofRemote created desired).url context.kafka = .ok url) ↔ _ :=
    url_ok_iff.trans collectionUrl_ok_iff
  rw [sameEndpoint, clusterId_ofRemote] at located
  have either : (∃ error, (State.ofRemote created desired).url context.kafka = .error error) ↔
      ¬∃ url, (State.ofRemote created desired).url context.kafka = .ok url := by
    cases (State.ofRemote created desired).url context.kafka <;> simp
  rw [either, located]
  unfold Loses
  by_cases none : desired.kafkaCluster = []
  · -- The provider's cluster served for the POST, so it still does.
    have provided : context.kafka.clusterId.getD "" ≠ "" := by
      unfold State.clusterId at cluster
      simpa [none, Reference.idOf, single?] using cluster
    simp [none, provided, endpoint]
  · by_cases unnamed : created.topic.clusterId = ""
    · simp [none, unnamed, endpoint]
    · simp [none, unnamed, endpoint]

end KafkaTopic

namespace Route

def kafkaTopics : Route where
  api := KafkaTopic.api
  fault_of_classify := by
    intro remote expected error failed
    cases failed
  refusal_of_object missing :=
    KafkaTopic.refusal_of_collectionUrl (KafkaTopic.collectionUrl_of_url missing)
  object_of_writes := by
    intro context prior desired changed writes found
    have written : (KafkaTopic.State.url desired context.kafka).map
      (fun url => KafkaTopic.writes url prior desired changed) = .ok writes := found
    rcases located : KafkaTopic.State.url desired context.kafka with fault | url
    · rw [located] at written
      cases written
    · exact ⟨url, located⟩
  Loses := KafkaTopic.Loses
  lost_iff posted created := KafkaTopic.lost_iff posted created

/-- The routes of every kind, in the order of names. -/
def all : List Route :=
  [connectors, item .environments (fun failed => by cases failed),
    item .flinkComputePools fault_of_phase, kafkaClusters, kafkaTopics,
    item .networks fault_of_phase,
    item .serviceAccounts (fun failed => by cases failed)]

theorem kind_all : all.map (fun route => route.api.kind) = kinds := rfl

end Route

end Provisioner

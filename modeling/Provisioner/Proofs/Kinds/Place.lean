import Provisioner.Proofs.Http.Url
import Provisioner.Proofs.Kinds.Api
import Provisioner.Proofs.Kinds.Fields
import Provisioner.Proofs.Plan.Merge

/-!
# Where objects are

The requests about the object of a state, by method and path. The items of a collection are told
apart by their identifiers, topics and connectors by names that their configuration gives them. An
update that replaces nothing leaves everything else in these paths as it is.
-/

namespace Provisioner

set_option autoImplicit false

open Http

structure Place where
  api : Api
  targets : Context → api.kind.State → List (Method × String)
  /-- Whether the identifier is part of the place. -/
  byId : Bool
  looks : ∀ {context : Context} {state : api.kind.State} {path : String},
    api.object context state = .ok path →
      ∀ part ∈ (api.reading path).paths, (Method.get, part) ∈ targets context state
  tells : ∀ {context : Context} {prior desired : api.kind.State} {changed : List String}
    {writes : List Write}, api.writes context prior desired changed = .ok writes →
      ∀ write ∈ writes, (write.method, write.path) ∈ targets context desired
  not_null : ∀ state, api.kind.decode .null ≠ .ok state
  encode_obj : ∀ state, ∃ source, api.kind.encode state = .obj source
  id_computed : byId = true → "id" ∈ api.kind.schema.computedNames
  id_field : byId = true → ∀ {entries : List (String × Json)} {state : api.kind.State},
    api.kind.decode (.obj entries) = .ok state →
      (Fields.defaulted "id" "" Decoder.text).ofEntries entries = .ok (api.kind.id state)
  kept : ∀ {source target : List (String × Json)} {prior desired : api.kind.State},
    api.kind.schema.Kept source target →
    api.kind.decode (.obj (Json.dropNullsEntries source)) = .ok prior →
    api.kind.decode (.obj (Json.dropNullsEntries target)) = .ok desired →
    api.kind.validateUpdate prior desired = .ok () →
    (byId = true → api.kind.id prior = api.kind.id desired) →
      ∀ context, targets context prior = targets context desired
  apart : byId = true → ∀ {context : Context} {state other : api.kind.State}
    {first second : Method × String}, first ∈ targets context state →
    second ∈ targets context other → first.1 = second.1 →
    context.client.url first.2 = context.client.url second.2 →
      api.kind.id state = api.kind.id other

namespace ItemKind

variable (item : ItemKind)

def targets (state : item.kind.State) : List (Method × String) :=
  [(.get, item.path state), (.patch, item.target state)]

variable {item}

theorem path_query (state : item.kind.State) :
    ∃ suffix, IsQuery suffix ∧ (item.path state).toList = (item.target state).toList ++ suffix := by
  unfold path
  cases item.environment state with
  | none => exact ⟨[], Or.inl rfl, (List.append_nil _).symm⟩
  | some environment =>
    refine ⟨'?' :: ("environment=".toList ++ (Text.Percent.encode environment).toList),
      Or.inr ⟨_, rfl⟩, ?_⟩
    simp [inEnvironment, String.toList_append]

theorem rooted_path (rooted : Rooted item.collection) (state : item.kind.State) :
    Rooted (item.path state) := by
  have single := rooted_childPath rooted (item.kind.id state)
  unfold path
  cases item.environment state with
  | none => exact single
  | some environment => exact (single.append "?environment=").append _

theorem id_of_targets (rooted : Rooted item.collection) {client : Client}
    {state other : item.kind.State} {first second : Method × String}
    (here : first ∈ item.targets state) (there : second ∈ item.targets other)
    (method : first.1 = second.1) (url : client.url first.2 = client.url second.2) :
    item.kind.id state = item.kind.id other := by
  simp only [targets, List.mem_cons, List.not_mem_nil, or_false] at here there
  -- The method tells a read from a write; only the path of a read has a query.
  rcases here with rfl | rfl
  · rcases there with rfl | rfl
    · have same := (rooted_path rooted state).url_injective (rooted_path rooted other) url
      obtain ⟨suffix, query, shape⟩ := path_query state
      obtain ⟨suffix', query', shape'⟩ := path_query other
      exact id_of_childPath query query' (by
        rw [← String.toList_inj, shape, shape'] at same
        exact same)
    · cases method
  · rcases there with rfl | rfl
    · cases method
    · exact id_of_childPath_url rooted url

/-- The place of an item, given that its path holds nothing that an update can change but the
identifier. -/
def place (item : ItemKind) (rooted : Rooted item.collection)
    (not_null : ∀ state, item.kind.decode .null ≠ .ok state)
    (encode_obj : ∀ state, ∃ source, item.kind.encode state = .obj source)
    (id_computed : "id" ∈ item.kind.schema.computedNames)
    (id_field : ∀ {entries : List (String × Json)} {state : item.kind.State},
      item.kind.decode (.obj entries) = .ok state →
        (Fields.defaulted "id" "" Decoder.text).ofEntries entries = .ok (item.kind.id state))
    (environment_kept : ∀ {source target : List (String × Json)}
      {prior desired : item.kind.State}, item.kind.schema.Kept source target →
      item.kind.decode (.obj (Json.dropNullsEntries source)) = .ok prior →
      item.kind.decode (.obj (Json.dropNullsEntries target)) = .ok desired →
        item.environment prior = item.environment desired) : Place where
  api := item.api
  targets _ := item.targets
  byId := true
  looks := by
    rintro context state path ⟨⟩ part member
    rw [List.mem_singleton.mp member]
    exact List.mem_cons_self
  tells := by
    rintro context prior desired changed writes ⟨⟩ write member
    rw [List.mem_singleton.mp member]
    exact List.mem_cons_of_mem _ List.mem_cons_self
  not_null := not_null
  encode_obj := encode_obj
  id_computed _ := id_computed
  id_field _ := id_field
  kept := by
    intro source target prior desired kept decodedPrior decodedDesired _ sameId _
    have environments := environment_kept kept decodedPrior decodedDesired
    have ids : item.kind.id prior = item.kind.id desired := sameId rfl
    simp only [targets, path, ItemKind.target, environments, ids]
  apart _ := id_of_targets rooted

end ItemKind

namespace Environment

theorem id_field {entries : List (String × Json)} {state : State}
    (decoded : State.decode (.obj entries) = .ok state) :
    (Fields.defaulted "id" "" Decoder.text).ofEntries entries = .ok state.id := by
  obtain ⟨id, _⟩ := decode_obj_iff.mp decoded
  exact id

def place : Place :=
  ItemKind.environments.place ⟨_, _, rfl, by decide⟩ (fun _ decoded => by cases decoded)
    (fun _ => ⟨_, rfl⟩) (by decide) id_field (fun _ _ _ => rfl)

end Environment

namespace ServiceAccount

theorem id_field {entries : List (String × Json)} {state : State}
    (decoded : State.decode (.obj entries) = .ok state) :
    (Fields.defaulted "id" "" Decoder.text).ofEntries entries = .ok state.id := by
  obtain ⟨id, _⟩ := decode_obj_iff.mp decoded
  exact id

def place : Place :=
  ItemKind.serviceAccounts.place ⟨_, _, rfl, by decide⟩ (fun _ decoded => by cases decoded)
    (fun _ => ⟨_, rfl⟩) (by decide) id_field (fun _ _ _ => rfl)

end ServiceAccount

/-- The blocks and texts of a record that name an object in an environment. -/
def NamesItem (entries : List (String × Json)) (id : String) (environment : List Reference) :
    Prop :=
  (Fields.defaulted "id" "" Decoder.text).ofEntries entries = .ok id ∧
    (Fields.defaulted "environment" [] Reference.decodeBlock).ofEntries entries = .ok environment

namespace Network

theorem names_item {entries : List (String × Json)} {state : State}
    (decoded : State.decode (.obj entries) = .ok state) :
    NamesItem entries state.id state.environment := by
  obtain ⟨id, _, _, _, _, _, _, environment, _⟩ := decode_obj_iff.mp decoded
  exact ⟨id, environment⟩

def place : Place :=
  ItemKind.networks.place ⟨_, _, rfl, by decide⟩ (fun _ decoded => by cases decoded)
    (fun _ => ⟨_, rfl⟩) (by decide) (fun decoded => (names_item decoded).1)
    (fun kept before after => congrArg (fun block => some (Reference.idOf block))
      (kept.block (by decide) (names_item before).2 (names_item after).2))

end Network

namespace KafkaCluster

theorem names_item {entries : List (String × Json)} {state : State}
    (decoded : State.decode (.obj entries) = .ok state) :
    NamesItem entries state.id state.environment := by
  obtain ⟨id, _, _, _, _, _, _, _, environment, _⟩ := decode_obj_iff.mp decoded
  exact ⟨id, environment⟩

def place : Place :=
  ItemKind.kafkaClusters.place ⟨_, _, rfl, by decide⟩ (fun _ decoded => by cases decoded)
    (fun _ => ⟨_, rfl⟩) (by decide) (fun decoded => (names_item decoded).1)
    (fun kept before after => congrArg (fun block => some (Reference.idOf block))
      (kept.block (by decide) (names_item before).2 (names_item after).2))

end KafkaCluster

namespace FlinkComputePool

theorem names_item {entries : List (String × Json)} {state : State}
    (decoded : State.decode (.obj entries) = .ok state) :
    NamesItem entries state.id state.environment := by
  obtain ⟨id, _, _, _, _, environment, _⟩ := decode_obj_iff.mp decoded
  exact ⟨id, environment⟩

def place : Place :=
  ItemKind.flinkComputePools.place ⟨_, _, rfl, by decide⟩ (fun _ decoded => by cases decoded)
    (fun _ => ⟨_, rfl⟩) (by decide) (fun decoded => (names_item decoded).1)
    (fun kept before after => congrArg (fun block => some (Reference.idOf block))
      (kept.block (by decide) (names_item before).2 (names_item after).2))

end FlinkComputePool

namespace KafkaTopic

/-- The requests about a topic: none as long as its cluster is not known. -/
def targets (context : Context) (state : State) : List (Method × String) :=
  match state.url context.kafka with
  | .ok url =>
    [(.get, url), (.get, url ++ "/configs"), (.patch, url), (.post, url ++ "/configs:alter")]
  | .error _ => []

theorem writes_target {url : String} {prior desired : State} {changed : List String} {write : Write}
    (member : write ∈ writes url prior desired changed) :
    (write.method = .patch ∧ write.path = url) ∨
      (write.method = .post ∧ write.path = url ++ "/configs:alter") := by
  rcases mem_writes_iff.mp member with ⟨_, _, _, rfl⟩ | ⟨_, _, rfl⟩
  · exact Or.inl ⟨rfl, rfl⟩
  · exact Or.inr ⟨rfl, rfl⟩

theorem names_topic {entries : List (String × Json)} {state : State}
    (decoded : State.decode (.obj entries) = .ok state) :
    (Fields.required "topic_name" Decoder.text).ofEntries entries = .ok state.topicName ∧
      (Fields.defaulted "kafka_cluster" [] Reference.decodeBlock).ofEntries entries =
        .ok state.kafkaCluster ∧
      (Fields.defaulted "rest_endpoint" "" Decoder.text).ofEntries entries =
        .ok state.restEndpoint := by
  obtain ⟨_, name, _, _, cluster, endpoint, _⟩ := decode_obj_iff.mp decoded
  exact ⟨name, cluster, endpoint⟩

theorem targets_kept {source target : List (String × Json)} {prior desired : State}
    (kept : schema.Kept source target)
    (before : State.decode (.obj (Json.dropNullsEntries source)) = .ok prior)
    (after : State.decode (.obj (Json.dropNullsEntries target)) = .ok desired)
    (context : Context) : targets context prior = targets context desired := by
  obtain ⟨nameBefore, clusterBefore, endpointBefore⟩ := names_topic before
  obtain ⟨nameAfter, clusterAfter, endpointAfter⟩ := names_topic after
  have names := kept.text (by decide) (fun _ absent => by cases absent) nameBefore nameAfter
  have clusters := kept.block (by decide) clusterBefore clusterAfter
  have endpoints := kept.text (by decide) (fun _ absent => (Option.some.inj absent).symm)
    endpointBefore endpointAfter
  have urls : prior.url context.kafka = desired.url context.kafka := by
    unfold State.url State.collectionUrl State.clusterId State.endpoint
    rw [names, clusters, endpoints]
  unfold targets
  rw [urls]

def place : Place where
  api := api
  targets := targets
  byId := false
  looks := by
    intro context state path found part member
    have located : State.url state context.kafka = .ok path := found
    unfold targets
    rw [located]
    have either : part = path ∨ part = path ++ "/configs" := by
      simpa [Reading.paths, api] using member
    rcases either with rfl | rfl
    · simp
    · simp
  tells := by
    intro context prior desired changed all found write member
    obtain ⟨url, located, rfl⟩ := writes_eq_ok_iff.mp found
    unfold targets
    rw [located]
    rcases writes_target member with ⟨method, path⟩ | ⟨method, path⟩
    · simp [method, path]
    · simp [method, path]
  not_null _ decoded := by cases decoded
  encode_obj _ := ⟨_, rfl⟩
  id_computed impossible := by cases impossible
  id_field impossible := by cases impossible
  kept kept before after _ _ context := targets_kept kept before after context
  apart impossible := by cases impossible

end KafkaTopic

namespace Connector

def targets (state : State) : List (Method × String) :=
  [(.get, state.path ++ "/status"), (.get, state.path ++ "/config"),
    (.put, state.path ++ "/config"), (.put, state.path ++ "/pause"),
    (.put, state.path ++ "/resume")]

theorem statusAction_cases {prior desired : State} {action : String}
    (acts : prior.statusAction? desired = some action) : action = "pause" ∨ action = "resume" := by
  unfold State.statusAction? at acts
  split at acts
  · cases acts
  · split at acts
    · exact Or.inl (Option.some.inj acts).symm
    · split at acts
      · exact Or.inr (Option.some.inj acts).symm
      · cases acts

theorem writes_target {prior desired : State} {changed : List String} {write : Write}
    (member : write ∈ writes prior desired changed) :
    (write.method, write.path) ∈ targets desired := by
  rcases mem_writes_iff.mp member with ⟨_, rfl⟩ | ⟨_, action, acts, rfl⟩
  · simp [targets]
  · rcases statusAction_cases acts with rfl | rfl
    · simp [targets, String.append_assoc]
    · simp [targets, String.append_assoc]

theorem name_of_checkChange {prior desired : State}
    (checked : State.checkChange prior desired = .ok ()) : prior.name = desired.name := by
  unfold State.checkChange at checked
  split at checked
  · cases checked
  · next same => exact Decidable.not_not.mp same

theorem names_cluster {entries : List (String × Json)} {state : State}
    (decoded : State.decode (.obj entries) = .ok state) :
    (Fields.defaulted "environment" [] Reference.decodeBlock).ofEntries entries =
        .ok state.environment ∧
      (Fields.defaulted "kafka_cluster" [] Reference.decodeBlock).ofEntries entries =
        .ok state.kafkaCluster := by
  obtain ⟨_, environment, cluster, _⟩ := decode_obj_iff.mp decoded
  exact ⟨environment, cluster⟩

def place : Place where
  api := api
  targets _ := targets
  byId := false
  looks := by
    rintro context state path ⟨⟩ part member
    have either : part = state.path ++ "/status" ∨ part = state.path ++ "/config" := by
      simpa [Reading.paths, api] using member
    rcases either with rfl | rfl
    · simp [targets]
    · simp [targets]
  tells := by
    rintro context prior desired changed all ⟨⟩ write member
    exact writes_target member
  not_null _ decoded := by cases decoded
  encode_obj _ := ⟨_, rfl⟩
  id_computed impossible := by cases impossible
  id_field impossible := by cases impossible
  kept := by
    intro source target prior desired kept before after checked _ _
    obtain ⟨environmentBefore, clusterBefore⟩ := names_cluster before
    obtain ⟨environmentAfter, clusterAfter⟩ := names_cluster after
    have environments := kept.block (by decide) environmentBefore environmentAfter
    have clusters := kept.block (by decide) clusterBefore clusterAfter
    have names := name_of_checkChange checked
    have paths : State.path prior = State.path desired := by
      unfold State.path State.collectionPath State.environmentId State.clusterId
      rw [environments, clusters, names]
    simp only [targets, paths]
  apart impossible := by cases impossible

end Connector

/-- The places of the objects of every kind, in the order of names. -/
def places : List Place :=
  [Connector.place, Environment.place, FlinkComputePool.place, KafkaCluster.place,
    KafkaTopic.place, Network.place, ServiceAccount.place]

theorem kind_places : places.map (fun place => place.api.kind) = kinds := rfl

theorem decode_null_of_mem_kinds {kind : Kind Wire} (member : kind ∈ kinds) (state : kind.State) :
    kind.decode .null ≠ .ok state := by
  rw [← kind_places] at member
  obtain ⟨place, _, rfl⟩ := List.mem_map.mp member
  exact place.not_null state

/-- A request about the object of a state. -/
def Place.Addresses (place : Place) (context : Context) (state : place.api.kind.State)
    (request : Request) : Prop :=
  ∃ target ∈ place.targets context state,
    request.method = target.1 ∧ request.url = context.client.url target.2

end Provisioner

import Provisioner.Proofs.Http.Url
import Provisioner.Proofs.ImportKey
import Provisioner.Proofs.Lifecycle.Configured
import Provisioner.Proofs.Lifecycle.Withheld

/-!
# Recorded identifiers as import keys

A creation records the identifier of a connector or a topic as the identifiers on the way to it,
joined by slashes and not escaped, while a URL escapes each of them. So an object whose name holds a
slash is created and read, and its identifier is no import key.
-/

namespace Provisioner

set_option autoImplicit false

open Http (Answer Wire)

theorem Plain.not_isEmpty {text : String} (plain : Plain text) : ¬text.isEmpty = true := by
  intro empty
  obtain rfl := String.isEmpty_iff.mp empty
  exact absurd plain.2 (by decide)

theorem childPath_injective {collection a b : String}
    (same : childPath collection a = childPath collection b) : a = b := by
  apply id_of_childPath (Or.inl rfl) (Or.inl rfl)
  rw [List.append_nil, List.append_nil, same]

namespace Connector

/-- The recorded identifier is an import key, and the connector that it names has the path of the
recorded one. -/
def Reimports (s : State) : Prop :=
  ∃ key, ImportKey.parse s.id kind.keyNames = .ok key ∧ State.path (kind.ofKey key) = s.path

theorem path_ofKey {key : ImportKey} {environment cluster name : String}
    (names : key.names = kind.keyNames) (segments : key.segments = [environment, cluster, name])
    (plain : ∀ text ∈ [environment, cluster, name], Plain text) :
    State.path (kind.ofKey key) =
      childPath (State.named "" environment cluster).collectionPath name := by
  have last : State.name (kind.ofKey key) = name := by
    have parts : idSegments key.toId = [environment, cluster, name] := by
      unfold ImportKey.toId
      rw [segments]
      exact idSegments_compositeId (List.cons_ne_nil _ _) fun text member => (plain text member).1
    show (idSegments key.toId).getLast?.getD "" = name
    rw [parts]
    rfl
  have collection : State.collectionPath (kind.ofKey key) =
      (State.named "" environment cluster).collectionPath := by
    show (State.named key.toId (key.segment "environment_id")
      (key.segment "kafka_cluster_id")).collectionPath = _
    have parents : key.segment "environment_id" = environment ∧
        key.segment "kafka_cluster_id" = cluster := by
      unfold ImportKey.segment ImportKey.segment?
      rw [names, segments]
      exact ⟨rfl, rfl⟩
    rw [parents.1, parents.2]
    rfl
  unfold State.path
  rw [last, collection]

theorem reimports_iff {s : State} {name : String}
    (recorded : s.id = compositeId [s.environmentId, s.clusterId, name]) :
    Reimports s ↔ (∀ text ∈ [s.environmentId, s.clusterId, name], Plain text) ∧
      ∀ configured, s.plain.get? "name" = some configured → configured = name := by
  have length : [s.environmentId, s.clusterId, name].length = kind.keyNames.length := rfl
  have collection : (State.named "" s.environmentId s.clusterId).collectionPath =
      s.collectionPath := rfl
  have parses := fun key =>
    @ImportKey.parse_compositeId_ok_iff _ kind.keyNames (List.cons_ne_nil _ _) length key
  constructor
  · rintro ⟨key, parsed, path⟩
    rw [recorded] at parsed
    obtain ⟨plain, names, segments⟩ := (parses key).mp parsed
    refine ⟨plain, ?_⟩
    intro configured given
    rw [path_ofKey names segments plain, collection] at path
    have same : name = s.name := childPath_injective path
    rw [same]
    unfold State.name
    rw [given]
  · rintro ⟨plain, named⟩
    have same : s.name = name := by
      unfold State.name
      cases given : s.plain.get? "name" with
      | some configured => exact named configured given
      | none =>
        rw [recorded, idSegments_compositeId (List.cons_ne_nil _ _)
          fun text member => (plain text member).1]
        rfl
    let key : ImportKey := ⟨kind.keyNames, [s.environmentId, s.clusterId, name], length⟩
    have path : State.path (kind.ofKey key) = childPath s.collectionPath name :=
      path_ofKey rfl rfl plain
    refine ⟨key, ?_, ?_⟩
    · rw [recorded]
      exact (parses key).mpr ⟨plain, rfl, rfl⟩
    · rw [path]
      unfold State.path
      rw [same]

end Connector

namespace KafkaTopic

/-- The recorded identifier is an import key, and names the recorded topic of the same cluster. -/
def Reimports (scope : KafkaScope) (s : State) : Prop :=
  ∃ key, ImportKey.parse s.id kind.keyNames = .ok key ∧
    State.clusterId (kind.ofKey key) scope = s.clusterId scope ∧
    State.topicName (kind.ofKey key) = s.topicName

theorem clusterId_of_plain {s : State} {cluster : String} (plain : Plain cluster)
    (block : s.kafkaCluster = [⟨cluster⟩]) (scope : KafkaScope) : s.clusterId scope = cluster := by
  have own : Reference.idOf s.kafkaCluster = cluster := by
    rw [block]
    rfl
  unfold State.clusterId
  rw [own, if_neg plain.not_isEmpty]

theorem clusterId_of_nil_iff {s : State} {cluster : String} (plain : Plain cluster)
    (none : s.kafkaCluster = []) (scope : KafkaScope) :
    s.clusterId scope = cluster ↔ scope.clusterId = some cluster := by
  unfold State.clusterId
  rw [none]
  show scope.clusterId.getD "" = cluster ↔ _
  cases scope.clusterId with
  | some known => exact (Option.some.injEq known cluster).symm ▸ Iff.rfl
  | none =>
    constructor
    · rintro rfl
      exact absurd rfl plain.not_isEmpty
    · intro impossible
      cases impossible

theorem ofKey_eq {key : ImportKey} {cluster name : String} (names : key.names = kind.keyNames)
    (segments : key.segments = [cluster, name]) : kind.ofKey key = State.named name cluster := by
  have leaf : key.leaf = name := by
    unfold ImportKey.leaf
    rw [segments]
    rfl
  have parent : key.segment "kafka_cluster_id" = cluster := by
    unfold ImportKey.segment ImportKey.segment?
    rw [names, segments]
    rfl
  show State.named key.leaf (key.segment "kafka_cluster_id") = _
  rw [leaf, parent]

theorem reimports_iff {scope : KafkaScope} {s : State} {cluster : String}
    (recorded : s.id = compositeId [cluster, s.topicName])
    (placed : s.kafkaCluster = [] ∨ s.kafkaCluster = [⟨cluster⟩]) :
    Reimports scope s ↔ (∀ text ∈ [cluster, s.topicName], Plain text) ∧
      (s.kafkaCluster = [] → scope.clusterId = some cluster) := by
  have length : [cluster, s.topicName].length = kind.keyNames.length := rfl
  have parses := fun key =>
    @ImportKey.parse_compositeId_ok_iff _ kind.keyNames (List.cons_ne_nil _ _) length key
  have named : Plain cluster → (State.named s.topicName cluster).clusterId scope = cluster :=
    fun plain => clusterId_of_plain plain rfl scope
  constructor
  · rintro ⟨key, parsed, sameCluster, _⟩
    rw [recorded] at parsed
    obtain ⟨plain, names, segments⟩ := (parses key).mp parsed
    have plainCluster := plain cluster List.mem_cons_self
    refine ⟨plain, fun none => ?_⟩
    rw [ofKey_eq names segments, named plainCluster] at sameCluster
    exact (clusterId_of_nil_iff plainCluster none scope).mp sameCluster.symm
  · rintro ⟨plain, given⟩
    have plainCluster := plain cluster List.mem_cons_self
    let key : ImportKey := ⟨kind.keyNames, [cluster, s.topicName], length⟩
    have topic : kind.ofKey key = State.named s.topicName cluster := ofKey_eq rfl rfl
    have same : s.clusterId scope = cluster := by
      rcases placed with none | block
      · exact (clusterId_of_nil_iff plainCluster none scope).mpr (given none)
      · exact clusterId_of_plain plainCluster block scope
    refine ⟨key, ?_, ?_, ?_⟩
    · rw [recorded]
      exact (parses key).mpr ⟨plain, rfl, rfl⟩
    · rw [topic, named plainCluster, same]
    · rw [topic]
      rfl

end KafkaTopic

/-- The identifier that a creation records can be imported exactly if no part of it holds a slash or
is blank, and the state itself names the same object: a connector by the name that the server
reports, a topic by the cluster that it reports. -/
theorem recorded_id_imports_iff (waits : Transition → Option WaitOptions) (context : Context)
    (config state : Json) (w after : World Wire) :
    (Lifecycle.create ⟨Connector.kind, waits⟩ context config w = (.ok state, after) →
      ∃ creation : Creation Connector.api waits context config w after,
      ∃ made : Connector.State, ∃ final : Connector.Remote,
        creation.final = final ∧ creation.state = state ∧ state = made.encode ∧
        (Connector.Reimports made ↔
          (∀ text ∈ [made.environmentId, made.clusterId, final.name], Plain text) ∧
          ∀ name, made.plain.get? "name" = some name → name = final.name)) ∧
    (Lifecycle.create ⟨KafkaTopic.kind, waits⟩ context config w = (.ok state, after) →
      ∃ creation : Creation KafkaTopic.api waits context config w after,
      ∃ made : KafkaTopic.State, ∃ final : KafkaTopic.Remote,
        creation.final = final ∧ creation.state = state ∧ state = made.encode ∧
        (KafkaTopic.Reimports context.kafka made ↔
          (∀ text ∈ [final.topic.clusterId, final.topic.topicName], Plain text) ∧
          (made.kafkaCluster = [] → context.kafka.clusterId = some final.topic.clusterId))) := by
  constructor
  · intro run
    have ran : Lifecycle.create ⟨Connector.api.kind, waits⟩ context config w =
      (.ok state, after) := run
    obtain ⟨creation, made⟩ := creation_of_create ran
    exact ⟨creation, _, _, rfl, made.symm, made, Connector.reimports_iff rfl⟩
  · intro run
    have ran : Lifecycle.create ⟨KafkaTopic.api.kind, waits⟩ context config w =
      (.ok state, after) := run
    obtain ⟨creation, made⟩ := creation_of_create ran
    refine ⟨creation, _, _, rfl, made.symm, made, KafkaTopic.reimports_iff rfl ?_⟩
    show (if _ then [] else [_]) = [] ∨ (if _ then [] else [_]) = [_]
    split
    · exact Or.inl rfl
    · exact Or.inr rfl

namespace Connector

/-- What a creation of the usual connector and one of a topic with a secret setting record. -/
theorem recorded_id_imports_created :
    (∃ after state, Lifecycle.create ⟨kind, fun _ => none⟩ Context.plain askedConfig
        (defaultsWorld echoAnswer) = (.ok state, after) ∧
      ∃ creation : Creation api (fun _ => none) Context.plain askedConfig
        (defaultsWorld echoAnswer) after,
      ∃ made : State, ∃ final : Remote, creation.final = final ∧ creation.state = state ∧
        state = made.encode ∧
        (Reimports made ↔
          (∀ text ∈ [made.environmentId, made.clusterId, final.name], Plain text) ∧
          ∀ name, made.plain.get? "name" = some name → name = final.name)) ∧
    (∃ after state, Lifecycle.create ⟨KafkaTopic.kind, fun _ => none⟩ Context.plain
        KafkaTopic.secretConfig KafkaTopic.withheldWorld = (.ok state, after) ∧
      ∃ creation : Creation KafkaTopic.api (fun _ => none) Context.plain KafkaTopic.secretConfig
        KafkaTopic.withheldWorld after,
      ∃ made : KafkaTopic.State, ∃ final : KafkaTopic.Remote, creation.final = final ∧
        creation.state = state ∧ state = made.encode ∧
        (KafkaTopic.Reimports Context.plain.kafka made ↔
          (∀ text ∈ [final.topic.clusterId, final.topic.topicName], Plain text) ∧
          (made.kafkaCluster = [] →
            Context.plain.kafka.clusterId = some final.topic.clusterId))) := by
  constructor
  · obtain ⟨after, _, run, _⟩ := create_with_defaults echo_gives rfl rfl
    exact ⟨after, _, run, (recorded_id_imports_iff _ _ _ _ _ _).1 run⟩
  · obtain ⟨after, _, run, _⟩ := KafkaTopic.create_secret
    exact ⟨after, _, run, (recorded_id_imports_iff _ _ _ _ _ _).2 run⟩

/-- A connector whose name holds a slash. -/
def slashedConfig : Json :=
  .obj [
    ("config_nonsensitive", .obj [("name", .str "a/b")]),
    ("environment", .arr [.obj [("id", .str "env-1")]]),
    ("kafka_cluster", .arr [.obj [("id", .str "lkc-1")]]),
    ("status", .str "RUNNING")]

def slashedState : State where
  id := ""
  environment := [⟨"env-1"⟩]
  kafkaCluster := [⟨"lkc-1"⟩]
  plain := ⟨[("name", "a/b")], by simp [Keyed.Sorted]⟩
  secret := .empty
  status := running

def slashedCreated : Answer :=
  .ofText "\x7b\"config\":\x7b\"name\":\"a/b\"\x7d,\"name\":\"a/b\"\x7d"

def slashedRunning : Answer :=
  .ofText "\x7b\"name\":\"a/b\",\"connector\":\x7b\"state\":\"RUNNING\"\x7d\x7d"

def slashedSettings : Answer := .ofText "\x7b\"name\":\"a/b\"\x7d"

theorem slashedCreated_gives :
    slashedCreated.Gives Remote.decodeCreated ⟨"a/b", ⟨"", none⟩, slashedState.plain⟩ :=
  Answer.ofText_gives
    (.obj [("config", .obj [("name", .str "a/b")]), ("name", .str "a/b")])
    (by cbv) (by cbv) (by cbv)

theorem slashedRunning_gives :
    slashedRunning.Gives Remote.decodeStatus ("a/b", ⟨running, none⟩) :=
  Answer.ofText_gives
    (.obj [("connector", .obj [("state", .str "RUNNING")]), ("name", .str "a/b")])
    (by cbv) (by cbv) (by cbv)

theorem slashedSettings_gives : slashedSettings.Gives Decoder.settings slashedState.plain :=
  Answer.ofText_gives (.obj [("name", .str "a/b")]) (by cbv) (by cbv) (by cbv)

/-- A server that makes the connector at once and reports it as it is. -/
def slashedWorld : World Wire where
  peer := {
    script := [
      slashedCreated, slashedRunning, slashedSettings, slashedRunning, slashedSettings] }

theorem create_slashed :
    ∃ after, ∃ creation : Creation api (fun _ => none) Context.plain slashedConfig slashedWorld
        after,
      Lifecycle.create ⟨kind, fun _ => none⟩ Context.plain slashedConfig slashedWorld =
        (.ok creation.state, after) ∧
      creation.desired = slashedState ∧
      creation.created = (⟨"a/b", ⟨"", none⟩, slashedState.plain⟩ : Remote) ∧
      creation.final = (⟨"a/b", ⟨running, none⟩, slashedState.plain⟩ : Remote) := by
  have decoded : Lifecycle.decodeValid ⟨api.kind, fun _ => none⟩ slashedConfig =
      .ok slashedState := by rfl
  have stable : classify ⟨"a/b", ⟨running, none⟩, slashedState.plain⟩
      (.ofRemote ⟨"a/b", ⟨"", none⟩, slashedState.plain⟩ slashedState) = .ok .stable :=
    (stable_iff _ _).mpr ⟨Or.inl rfl, Or.inl rfl⟩
  exact creation_of_answers api (fun _ => none) Context.plain_accepting decoded (by cbv) rfl
    slashedCreated_gives rfl (.two slashedRunning_gives slashedSettings_gives) stable
    (.two slashedRunning_gives slashedSettings_gives) ⟨rfl, rfl⟩

/-- A connector is created under a name with a slash, and its identifier is no import key: the name
counts as two segments. -/
theorem create_records_no_key :
    ∃ after, ∃ made : State,
      Lifecycle.create ⟨kind, fun _ => none⟩ Context.plain slashedConfig slashedWorld =
        (.ok made.encode, after) ∧
      made.id = "env-1/lkc-1/a/b" ∧ ∀ key, ImportKey.parse made.id kind.keyNames ≠ .ok key := by
  obtain ⟨after, creation, run, wanted, created, final⟩ := create_slashed
  unfold Creation.state at run
  rw [wanted, created, final] at run
  have id : (State.ofRemote ⟨"a/b", ⟨running, none⟩, slashedState.plain⟩
      (.ofRemote ⟨"a/b", ⟨"", none⟩, slashedState.plain⟩ slashedState)).id =
        "env-1/lkc-1/a/b" := by rfl
  refine ⟨after, .ofRemote _ (.ofRemote _ _), run, id, ?_⟩
  intro key parsed
  have segments : (idSegments "env-1/lkc-1/a/b").length = kind.keyNames.length :=
    id ▸ (ImportKey.parse_ok_iff.mp parsed).2.2.1
  rw [length_idSegments] at segments
  cases segments

end Connector

end Provisioner

import Mathlib
import Provisioner.Proofs.Kinds.Channels
import Provisioner.Proofs.Kinds.Classified
import Provisioner.Proofs.Lifecycle.Target
import Provisioner.Proofs.Plan.Replan

/-!
# Changes that lead one way

In place a topic only gains partitions, an environment only gains governance, a basic cluster can
become a standard one and no other, and a connector keeps its name. The checks of a change compare
the typed states; what triggers a request is a difference of the values that the states were read
from. The two fit together for prior states in the form that the provider gives them in. From a
list a state is read as well, but a plan finds nothing in it, so that everything counts as changed.
-/

namespace Provisioner

set_option autoImplicit false

open Http

theorem unchanged_of_integer {source target : List (String × Json)} {name : String}
    (sortedSource : Keyed.Sorted source) (sortedTarget : Keyed.Sorted target) {value : Int64}
    (before : (Fields.optional name Decoder.integer64).ofEntries
      (Json.dropNullsEntries source) = .ok (some value))
    (after : (Fields.optional name Decoder.integer64).ofEntries
      (Json.dropNullsEntries target) = .ok (some value)) :
    unchanged (source.lookup name) (target.lookup name) = true := by
  have given : ∀ {entries : List (String × Json)}, Keyed.Sorted entries →
      (Fields.optional name Decoder.integer64).ofEntries (Json.dropNullsEntries entries) =
        .ok (some value) → entries.lookup name = some (.int64 value) := by
    intro entries sorted read
    rcases (Fields.single_dropNulls_ok_iff sorted).mp read with
      ⟨given, found, notNull, decoded⟩ | ⟨_, absent⟩
    · rw [Json.isNull_dropNulls, notNull] at decoded
      cases integer : Decoder.integer64 given.dropNulls with
      | error fault =>
        rw [integer] at decoded
        cases decoded
      | ok found' =>
        rw [integer] at decoded
        cases decoded
        have same := Decoder.integer64_ok_iff.mp integer
        cases given with
        | num number => rw [found, ← same]; rfl
        | _ => cases same
    · cases absent
  rw [given sortedSource before, given sortedTarget after]
  simp [unchanged, sameEntry, Json.same, Json.int64, Json.int, Number.same]

namespace KafkaTopic

variable {waits : Transition → Option WaitOptions} {context : Context} {w : World Wire}
  {entry : Sent} {priorState config : Json} {prior desired : State} {changed : List String}

theorem patches_of_writes {url : String} {write : Write}
    (member : write ∈ writes url prior desired changed) (patches : write.method = .patch) :
    "partitions_count" ∈ changed ∧ ∃ count, desired.partitions = some count ∧
      write.body = some (.obj [("partitions_count", .int64 count)]) := by
  rcases mem_writes_iff.mp member with ⟨changes, count, given, rfl⟩ | ⟨_, _, rfl⟩
  · exact ⟨changes, count, given, rfl⟩
  · cases patches

theorem le_of_checkChange {before after : Int64} (had : prior.partitions = some before)
    (wanted : desired.partitions = some after)
    (checked : State.checkChange prior desired = .ok ()) : before ≤ after := by
  unfold State.checkChange at checked
  rw [had, wanted] at checked
  simp only at checked
  split at checked
  · cases checked
  · next grows => exact Int64.not_lt.mp grows

theorem ne_of_changed {source : List (String × Json)} (sortedSource : Keyed.Sorted source)
    (wellFormed : config.WellFormed) {before after : Int64}
    (decoded : kind.decode.fromState (.obj source) = .ok prior)
    (prepared : Lifecycle.prepareUpdate ⟨kind, waits⟩ (.obj source) config prior =
      .ok (desired, changed)) (changes : "partitions_count" ∈ changed)
    (had : prior.partitions = some before) (wanted : desired.partitions = some after) :
    before ≠ after := by
  rintro rfl
  obtain ⟨target, rfl, kept, decodedPrior, decodedDesired, _⟩ :=
    @Place.merged_of_prepared place _ _ _ _ _ _ sortedSource wellFormed decoded prepared
  obtain ⟨_, _, partitionsPrior, _⟩ := decode_obj_iff.mp decodedPrior
  obtain ⟨_, _, partitionsDesired, _⟩ := decode_obj_iff.mp decodedDesired
  rw [had] at partitionsPrior
  rw [wanted] at partitionsDesired
  have same := unchanged_of_integer kept.sortedSource kept.sortedTarget partitionsPrior
    partitionsDesired
  obtain ⟨_, _, rfl, _⟩ := Lifecycle.prepareUpdate_ok_iff.mp prepared
  have differs := (List.mem_filter.mp changes).2
  rw [mergeComputed_obj] at differs
  have agrees : kind.schema.agreesOn (.obj source) (.obj (kind.schema.computedNames.foldl
      (takeMissing source) target)) "partitions_count" = true := same
  rw [agrees] at differs
  cases differs

end KafkaTopic

namespace Environment

theorem package_of_check {s : State} (checked : s.check = .ok ()) {governance : Governance}
    (asked : single? s.governance = some governance) :
    governance.package ∈ Governance.packages := by
  unfold State.check at checked
  rw [asked] at checked
  exact (requireOneOf_eq_ok_iff _ _ _).mp checked

theorem checkChange_ok_iff {prior desired : State} :
    State.checkChange prior desired = .ok () ↔ desired.check = .ok () ∧
      ∀ before after, single? prior.governance = some before →
        single? desired.governance = some after → before.rank ≤ after.rank := by
  unfold State.checkChange
  cases desired.check with
  | error error => simp [bind, Except.bind]
  | ok _ =>
    cases single? prior.governance with
    | none => simp [bind, Except.bind]
    | some before =>
      cases single? desired.governance with
      | none => simp [bind, Except.bind]
      | some after =>
        simp only [bind, Except.bind]
        split
        · next lower => simp [refuse, Nat.not_le.mpr lower]
        · next higher => simp [Nat.not_lt.mp higher]

end Environment

namespace KafkaCluster

theorem canBecome_of_checkChange {prior desired : State}
    (checked : State.checkChange prior desired = .ok ()) :
    desired.type = prior.type ∨ (prior.type = .basic ∧ desired.type = .standard) := by
  unfold State.checkChange at checked
  split at checked
  · next possible =>
    unfold ClusterType.canBecome at possible
    rcases Bool.or_eq_true_iff.mp possible with same | upgrade
    · exact Or.inl (beq_iff_eq.mp same).symm
    · rw [Bool.and_eq_true, beq_iff_eq, beq_iff_eq] at upgrade
      exact Or.inr upgrade
  · cases checked

/-- The part of a body that tells the type. -/
def configOf (body : Json) : Option Json := (body.get? "spec").bind fun spec => spec.get? "config"

theorem config_of_changeBody (desired : State) (changed : List String) :
    configOf (desired.changeBody changed) =
      if changed.any ClusterType.blockNames.contains then some desired.typeConfig.encode
      else none :=
  (changeBody_at desired changed "config").trans (by simp)

theorem kind_of_typeConfig (config : TypeConfig) :
    config.encode.get? "kind" = some (.str config.typeName) := by
  unfold TypeConfig.encode
  cases config.cku <;> rfl

end KafkaCluster

theorem not_blank_of_exactlyOne {block : Block} {value : Option Json} {path : String}
    (valid : ∀ found ∈ Nesting.exactlyOne.replacing.checkEntry block value path,
      found.isError = false) : isBlank value = false := by
  have tooFew : ∃ found ∈ Nesting.exactlyOne.replacing.check [] path, found.isError = true :=
    ⟨_, List.mem_cons_self, rfl⟩
  obtain ⟨found, inside, isError⟩ := tooFew
  rcases value with _ | given
  · exact absurd (valid found inside) (by simp [isError])
  · cases given with
    | null => exact absurd (valid found inside) (by simp [isError])
    | arr items =>
      cases items with
      | nil => exact absurd (valid found (List.mem_append_left _ inside)) (by simp [isError])
      | cons => rfl
    | bool => rfl
    | num => rfl
    | _ => exact absurd (valid _ (List.mem_singleton_self _)) (show ¬true = false by decide)

namespace Connector

variable {waits : Transition → Option WaitOptions} {priorState config : Json}
  {prior desired : State} {changed : List String}

theorem obj_of_prepared (prepared : Lifecycle.prepareUpdate ⟨kind, waits⟩ priorState config prior =
      .ok (desired, changed)) : ∃ source, priorState = .obj source := by
  obtain ⟨valid, merging, rfl, guarded, _⟩ := Lifecycle.prepareUpdate_ok_iff.mp prepared
  rcases kind.schema.obj_or_unseen priorState config with object | ⟨unseen, merged⟩
  · exact object
  rw [merged] at merging guarded
  rcases obj_of_ensureValid valid with rfl | ⟨target, rfl⟩
  · exact absurd (Decoder.fromState_ok_iff.mp merging) (place.not_null desired)
  have blank : isBlank (target.lookup "environment") = false := by
    apply not_blank_of_exactlyOne
    intro found inside
    apply Schema.ensureValid_ok_iff.mp valid found
    rw [Schema.validate_obj]
    apply List.mem_append_left
    apply List.mem_append_right
    exact List.mem_flatMap.mpr ⟨_, List.mem_cons_self, inside⟩
  have changes : "environment" ∈ kind.schema.changedNames priorState (.obj target) := by
    refine List.mem_filter.mpr ⟨by decide, ?_⟩
    show (!unchanged (priorState.get? "environment") (target.lookup "environment")) = true
    rw [unseen, unchanged_none, blank]
    rfl
  have inPlace : schema.isForceNew "environment" = false :=
    Lifecycle.not_forceNew_of_guard guarded changes
  exact absurd inPlace (by decide)

theorem parts_of_writes {write : Write} (member : write ∈ writes prior desired changed)
    (tells : write.method ≠ .get) :
    write.method = .put ∧ ∃ part ∈ ["/config", "/pause", "/resume"],
      write.path = desired.path ++ part := by
  have target := writes_target member
  simp only [targets, List.mem_cons, Prod.mk.injEq, List.not_mem_nil, or_false] at target
  rcases target with ⟨get, _⟩ | ⟨get, _⟩ | ⟨put, path⟩ | ⟨put, path⟩ | ⟨put, path⟩
  · exact absurd get tells
  · exact absurd get tells
  · exact ⟨put, _, by simp, path⟩
  · exact ⟨put, _, by simp, path⟩
  · exact ⟨put, _, by simp, path⟩

theorem path_kept (wellFormedPrior : priorState.WellFormed) (wellFormed : config.WellFormed)
    (decoded : kind.decode.fromState priorState = .ok prior)
    (prepared : Lifecycle.prepareUpdate ⟨kind, waits⟩ priorState config prior =
      .ok (desired, changed)) : desired.path = prior.path := by
  obtain ⟨source, rfl⟩ := obj_of_prepared prepared
  obtain ⟨target, rfl, kept, decodedPrior, decodedDesired, checked⟩ :=
    @Place.merged_of_prepared place _ _ _ _ _ _ wellFormedPrior.1 wellFormed decoded prepared
  obtain ⟨environmentBefore, clusterBefore⟩ := names_cluster decodedPrior
  obtain ⟨environmentAfter, clusterAfter⟩ := names_cluster decodedDesired
  have environments := kept.block (by decide) environmentBefore environmentAfter
  have clusters := kept.block (by decide) clusterBefore clusterAfter
  unfold State.path State.collectionPath State.environmentId State.clusterId
  rw [environments, clusters, name_of_checkChange checked]

end Connector

section Updates

variable (waits : Transition → Option WaitOptions) (context : Context) (priorState config : Json)
  (w : World Wire)

theorem KafkaTopic.patch_increases (wellFormedPrior : priorState.WellFormed)
    (wellFormed : config.WellFormed) :
    ∀ entry ∈ (Lifecycle.update ⟨kind, waits⟩ context priorState config).sent w,
      entry.request.method = .patch →
      ∃ (prior : State) (count : Int64), kind.decode.fromState priorState = .ok prior ∧
        entry.request.body = some (.obj [("partitions_count", .int64 count)]) ∧
        ∀ before, prior.partitions = some before →
          before ≤ count ∧ ∀ source, priorState = .obj source → before < count := by
  intro entry member patch
  obtain ⟨prior, desired, changed, decoded, prepared, all, found, write, inside, sent⟩ :=
    api.tells_of_write waits member (by simp [patch])
  obtain ⟨url, _, rfl⟩ := writes_eq_ok_iff.mp found
  have patches : write.method = .patch := by
    rw [sent] at patch
    exact patch
  obtain ⟨changes, count, wanted, body⟩ := patches_of_writes inside patches
  have checked := (Lifecycle.prepareUpdate_ok_iff.mp prepared).2.2.2.2
  refine ⟨prior, count, decoded, ?_, ?_⟩
  · rw [sent]
    exact body
  · intro before had
    have grows := le_of_checkChange had wanted checked
    refine ⟨grows, ?_⟩
    rintro source rfl
    have differs := ne_of_changed wellFormedPrior.1 wellFormed decoded prepared changes had wanted
    exact Int64.lt_of_le_of_ne grows differs

theorem ItemKind.body_of_patch (item : ItemKind) {entry : Sent}
    (member : entry ∈
      (Lifecycle.update ⟨item.kind, waits⟩ context priorState config).sent w)
    (patch : entry.request.method = .patch) :
    ∃ prior desired changed, item.kind.decode.fromState priorState = .ok prior ∧
      item.kind.validateUpdate prior desired = .ok () ∧
      entry.request.body = some (item.change desired changed) := by
  obtain ⟨prior, desired, changed, decoded, prepared, all, found, write, inside, sent⟩ :=
    item.api.tells_of_write waits member (by simp [patch])
  cases found
  rw [List.mem_singleton.mp inside] at sent
  refine ⟨prior, desired, changed, decoded,
    (Lifecycle.prepareUpdate_ok_iff.mp prepared).2.2.2.2, ?_⟩
  rw [sent]
  rfl

theorem Environment.patch_upgrades :
    ∀ entry ∈ (Lifecycle.update ⟨kind, waits⟩ context priorState config).sent w,
      entry.request.method = .patch →
      ∃ (prior : State) (body : Json), kind.decode.fromState priorState = .ok prior ∧
        entry.request.body = some body ∧
        ∀ governance, body.get? "stream_governance_config" = some governance →
          ∃ after : Governance, governance = after.encode ∧
            after.package ∈ Governance.packages ∧
            ∀ before, single? prior.governance = some before → before.rank ≤ after.rank := by
  intro entry member patch
  obtain ⟨prior, desired, changed, decoded, checked, body⟩ :=
    ItemKind.environments.body_of_patch waits context priorState config w member patch
  refine ⟨prior, _, decoded, body, ?_⟩
  intro governance told
  have given : (single? (State.governance desired)).map Governance.encode = some governance :=
    (body_at_governance desired).symm.trans told
  obtain ⟨after, asked, rfl⟩ := Option.map_eq_some_iff.mp given
  obtain ⟨passes, keeps⟩ := checkChange_ok_iff.mp checked
  exact ⟨after, rfl, package_of_check passes asked, fun before had => keeps before after had asked⟩

theorem KafkaCluster.patch_upgrades :
    ∀ entry ∈ (Lifecycle.update ⟨kind, waits⟩ context priorState config).sent w,
      entry.request.method = .patch →
      ∃ (prior : State) (body : Json), kind.decode.fromState priorState = .ok prior ∧
        entry.request.body = some body ∧
        ∀ told, configOf body = some told →
          ∃ type : ClusterType, told.get? "kind" = some (.str type.name) ∧
            ∀ only, prior.HasOnly only →
              type = only ∨ (only = .basic ∧ type = .standard) := by
  intro entry member patch
  obtain ⟨prior, desired, changed, decoded, checked, body⟩ :=
    ItemKind.kafkaClusters.body_of_patch waits context priorState config w member patch
  refine ⟨prior, _, decoded, body, ?_⟩
  intro told given
  have config : (if changed.any ClusterType.blockNames.contains then
      some (State.typeConfig desired).encode else none) = some told :=
    (config_of_changeBody desired changed).symm.trans given
  split at config
  · cases config
    refine ⟨_, kind_of_typeConfig _, ?_⟩
    intro only has
    rw [← has.type_eq]
    exact canBecome_of_checkChange checked
  · cases config

theorem Connector.write_reaches_name (wellFormedPrior : priorState.WellFormed)
    (wellFormed : config.WellFormed) :
    ∀ entry ∈ (Lifecycle.update ⟨kind, waits⟩ context priorState config).sent w,
      entry.request.method ≠ .get →
      ∃ prior : State, kind.decode.fromState priorState = .ok prior ∧
        entry.request.method = .put ∧ ∃ part ∈ ["/config", "/pause", "/resume"],
          entry.request.url =
            context.client.url (childPath prior.collectionPath prior.name ++ part) := by
  intro entry member writes
  obtain ⟨prior, desired, changed, decoded, prepared, all, found, write, inside, sent⟩ :=
    api.tells_of_write waits member writes
  cases found
  have kept := path_kept wellFormedPrior wellFormed decoded prepared
  obtain ⟨put, part, known, path⟩ := parts_of_writes inside (by rw [sent] at writes; exact writes)
  refine ⟨prior, decoded, ?_, part, known, ?_⟩
  · rw [sent]
    exact put
  · rw [sent]
    show context.client.url write.path = context.client.url (State.path prior ++ part)
    rw [path, kept]

end Updates

/-- Whatever a topic's prior state and configuration are and whatever is answered, a PATCH of its
partitions carries no fewer than the prior state has, and more if that was given as an object. A
PATCH of an environment carries no lower package than the prior state has, a PATCH of a cluster
that has one type carries that type or the step from basic to standard, and every write to a
connector goes to the path of the name that it has. -/
theorem updates_monotone (waits : Transition → Option WaitOptions) (context : Context)
    (priorState config : Json) (wellFormedPrior : priorState.WellFormed)
    (wellFormed : config.WellFormed) (w : World Wire) :
    (∀ entry ∈ (Lifecycle.update ⟨KafkaTopic.kind, waits⟩ context priorState config).sent w,
      entry.request.method = .patch →
      ∃ (prior : KafkaTopic.State) (count : Int64),
        KafkaTopic.kind.decode.fromState priorState = .ok prior ∧
        entry.request.body = some (.obj [("partitions_count", .int64 count)]) ∧
        ∀ before, prior.partitions = some before →
          before ≤ count ∧ ∀ source, priorState = .obj source → before < count) ∧
    (∀ entry ∈ (Lifecycle.update ⟨Environment.kind, waits⟩ context priorState config).sent w,
      entry.request.method = .patch →
      ∃ (prior : Environment.State) (body : Json),
        Environment.kind.decode.fromState priorState = .ok prior ∧
        entry.request.body = some body ∧
        ∀ governance, body.get? "stream_governance_config" = some governance →
          ∃ after : Environment.Governance, governance = after.encode ∧
            after.package ∈ Environment.Governance.packages ∧
            ∀ before, single? prior.governance = some before → before.rank ≤ after.rank) ∧
    (∀ entry ∈ (Lifecycle.update ⟨KafkaCluster.kind, waits⟩ context priorState config).sent w,
      entry.request.method = .patch →
      ∃ (prior : KafkaCluster.State) (body : Json),
        KafkaCluster.kind.decode.fromState priorState = .ok prior ∧
        entry.request.body = some body ∧
        ∀ told, KafkaCluster.configOf body = some told →
          ∃ type : KafkaCluster.ClusterType, told.get? "kind" = some (.str type.name) ∧
            ∀ only, prior.HasOnly only →
              type = only ∨ (only = .basic ∧ type = .standard)) ∧
    ∀ entry ∈ (Lifecycle.update ⟨Connector.kind, waits⟩ context priorState config).sent w,
      entry.request.method ≠ .get →
      ∃ prior : Connector.State, Connector.kind.decode.fromState priorState = .ok prior ∧
        entry.request.method = .put ∧ ∃ part ∈ ["/config", "/pause", "/resume"],
          entry.request.url =
            context.client.url (childPath prior.collectionPath prior.name ++ part) :=
  ⟨KafkaTopic.patch_increases waits context priorState config w wellFormedPrior wellFormed,
    Environment.patch_upgrades waits context priorState config w,
    KafkaCluster.patch_upgrades waits context priorState config w,
    Connector.write_reaches_name waits context priorState config w wellFormedPrior wellFormed⟩

namespace KafkaTopic

/-- A provider that names the cluster of its topics. -/
def clusterContext : Context :=
  { Context.plain with kafka := ⟨some "lkc-1", some "https://lkc-1.example", none⟩ }

/-- A topic as the provider gives it, with a number of partitions. -/
def ordersOf (partitions : Int64) : State where
  id := "lkc-1/orders"
  topicName := "orders"
  partitions := some partitions
  config := .empty
  kafkaCluster := []
  restEndpoint := ""
  credentials := []

/-- The same as a list. -/
def ordersList : Json :=
  .arr [.str "lkc-1/orders", .str "orders", .int 6, .obj [], .arr [], .str "", .arr []]

def askedPartitions (topicName : String) (partitions : Int) : Json :=
  .obj [("partitions_count", .int partitions), ("topic_name", .str topicName)]

def acceptingWorld : World Wire where
  peer := { script := [Environment.acceptedAnswer] }

theorem patch_sent {priorState config : Json} {prior desired : State} {count : Int64}
    (decoded : kind.decode.fromState priorState = .ok prior)
    (prepared : Lifecycle.prepareUpdate ⟨kind, fun _ => none⟩ priorState config prior =
      .ok (desired, ["partitions_count"]))
    (wanted : ∃ url, api.writes clusterContext prior desired ["partitions_count"] =
      .ok [⟨.patch, url, some (.obj [("partitions_count", .int64 count)])⟩]) :
    ∃ entry ∈ (Lifecycle.update ⟨kind, fun _ => none⟩ clusterContext priorState config).sent
        acceptingWorld,
      entry.request.method = .patch ∧
        entry.request.body = some (.obj [("partitions_count", .int64 count)]) := by
  have ready : Ready acceptingWorld [Environment.acceptedAnswer] := ⟨rfl, rfl⟩
  obtain ⟨url, only⟩ := wanted
  have accepting : clusterContext.client.retry.Accepting :=
    RetryPolicy.accepting_of_failures rfl
  obtain ⟨entry, member, method, _, body⟩ := api.write_sent (fun _ => none) accepting decoded
    prepared (by simp) only ready Environment.accepted_succeeds
  exact ⟨entry, member, method, body⟩

/-- A prior state given as a list decodes, but its partitions are asked for again. -/
theorem update_repeats_partitions :
    ∃ prior : State, kind.decode.fromState ordersList = .ok prior ∧ prior.partitions = some 6 ∧
      ∃ entry ∈ (Lifecycle.update ⟨kind, fun _ => none⟩ clusterContext ordersList
          (askedPartitions "" 6)).sent acceptingWorld,
        entry.request.method = .patch ∧
        entry.request.body = some (.obj [("partitions_count", .int64 6)]) := by
  refine ⟨ordersOf 6, rfl, rfl, ?_⟩
  exact patch_sent rfl rfl ⟨_, rfl⟩

/-- Six partitions become twelve. -/
theorem updates_monotone_orders :
    ∃ entry ∈ (Lifecycle.update ⟨kind, fun _ => none⟩ clusterContext (ordersOf 6).encode
        (askedPartitions "orders" 12)).sent acceptingWorld,
      entry.request.method = .patch ∧
      ∃ count, entry.request.body = some (.obj [("partitions_count", .int64 count)]) ∧
        6 < count := by
  obtain ⟨entry, member, patch, _⟩ : ∃ entry ∈ (Lifecycle.update ⟨kind, fun _ => none⟩
      clusterContext (ordersOf 6).encode (askedPartitions "orders" 12)).sent acceptingWorld,
      entry.request.method = .patch ∧
        entry.request.body = some (.obj [("partitions_count", .int64 12)]) :=
    patch_sent (round_trips (ordersOf 6)) rfl ⟨_, rfl⟩
  have wellFormedPrior : (ordersOf 6).encode.WellFormed := by
    refine ⟨Keyed.sorted_of_keys ["config", "credentials", "id", "kafka_cluster",
      "partitions_count", "rest_endpoint", "topic_name"] rfl (by decide), ?_⟩
    exact ⟨⟨List.Pairwise.nil, trivial⟩, trivial, trivial, trivial, trivial, trivial, trivial,
      trivial⟩
  have wellFormed : (askedPartitions "orders" 12).WellFormed :=
    ⟨Keyed.sorted_of_keys ["partitions_count", "topic_name"] rfl (by decide), trivial, trivial,
      trivial⟩
  obtain ⟨topics, _⟩ := updates_monotone (fun _ => none) clusterContext (ordersOf 6).encode
    (askedPartitions "orders" 12) wellFormedPrior wellFormed acceptingWorld
  obtain ⟨prior, count, decoded, body, grows⟩ := topics entry member patch
  cases Except.ok.inj ((round_trips (ordersOf 6)).symm.trans decoded)
  obtain ⟨_, more⟩ := grows 6 rfl
  exact ⟨entry, member, patch, count, body, more _ rfl⟩

end KafkaTopic

end Provisioner

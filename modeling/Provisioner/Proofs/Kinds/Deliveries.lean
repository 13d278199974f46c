import Provisioner.Proofs.Kinds.Channels
import Provisioner.Proofs.Settings

/-!
# The channels of every kind

Most attributes have one place in the body of a PATCH. The blocks that choose the type of a cluster
are told together, as the type and its size; a topic is told the alterations that lead from its
settings to the desired ones; and a connector is told both its maps at once, and its status by a
path.
-/

namespace Provisioner

set_option autoImplicit false

open Http

namespace Environment

def channels : List (Channel State) := [
  .text "display_name" ["display_name"] State.displayName,
  .field "stream_governance" ["stream_governance_config"] (fun a b => a.governance = b.governance)
    fun s => (single? s.governance).map Governance.encode]

theorem works : ∀ channel ∈ channels, ItemKind.environments.Works channel := by
  refine List.forall_mem_cons.mpr ⟨?_, List.forall_mem_cons.mpr ⟨?_, nofun⟩⟩
  · apply ItemKind.works_of_field
    · intro desired changed found here
      exact here
    · intro priorState prior desired changed merged prepared changes
      exact iff_of_true rfl id
    · intro prior desired changed merged source prepared sorted kept
      exact prepared.same_value State.displayName sorted kept
        (by decide) Fields.text_agrees absent_none fun decoded => (decode_obj_iff.mp decoded).2.1
  · apply ItemKind.works_of_field
    · intro desired changed found here
      exact (body_at_governance desired).symm.trans here
    · intro priorState prior desired changed merged prepared changes
      obtain ⟨_, _, after, _⟩ := decode_obj_iff.mp prepared.decoded
      have some := Fields.blockList_of_filled prepared.sorted
        (prepared.filled _ changes (by decide) (by decide)) after
      have told := congrArg Option.isSome (body_at_governance desired)
      exact iff_of_true (told.trans (isSome_single some)) id
    · intro prior desired changed merged source prepared sorted kept
      exact prepared.same_value State.governance sorted kept
        (by decide) governance_agrees absent_some fun decoded => (decode_obj_iff.mp decoded).2.2.1

def delivery : Delivery := ItemKind.environments.delivery channels rfl works

end Environment

namespace ServiceAccount

def channels : List (Channel State) := [
  .text "description" ["description"] State.description,
  .text "display_name" ["display_name"] State.displayName]

theorem works : ∀ channel ∈ channels, ItemKind.serviceAccounts.Works channel := by
  refine List.forall_mem_cons.mpr ⟨?_, List.forall_mem_cons.mpr ⟨?_, nofun⟩⟩
  · apply ItemKind.works_of_field
    · intro desired changed found here
      exact here
    · intro priorState prior desired changed merged prepared changes
      exact iff_of_true rfl id
    · intro prior desired changed merged source prepared sorted kept
      exact prepared.same_value State.description sorted kept
        (by decide) Fields.text_agrees absent_some fun decoded => (decode_obj_iff.mp decoded).2.2
  · exact ItemKind.works_of_unplaced (by decide) fun _ _ => rfl

def delivery : Delivery := ItemKind.serviceAccounts.delivery channels rfl works

end ServiceAccount

/-- The environment of an item, which is part of its address too. -/
def Channel.home {State : Type} (environment : State → List Reference) : Channel State :=
  .field "environment" ["spec", "environment"] (fun a b => environment a = environment b)
    fun s => some (Reference.encode ⟨Reference.idOf (environment s)⟩)

/-- A PATCH names the environment of its item, which never changes in place. -/
theorem ItemKind.works_of_home {item : ItemKind} {environment : item.kind.State → List Reference}
    (fixed : "environment" ∉ item.kind.updatable) (plain : item.kind.schema.IsPlain "environment")
    (told : ∀ desired changed, (item.change desired changed).at ["spec", "environment"] =
      some (Reference.encode ⟨Reference.idOf (environment desired)⟩))
    (names : ∀ {entries state}, item.kind.decode (.obj entries) = .ok state →
      (Fields.defaulted "environment" [] Reference.decodeBlock).ofEntries entries =
        .ok (environment state)) : item.Works (.home environment) := by
  apply works_of_field
  · intro desired changed found here
    exact (told desired changed).symm.trans here
  · intro priorState prior desired changed merged prepared changes
    exact absurd (prepared.updatable _ changes) fixed
  · intro prior desired changed merged source prepared sorted kept
    exact prepared.same_value environment sorted kept plain
      (Fields.blockList_agrees (Reference.decodeAs_respects "IdRef")) absent_some names

namespace Network

def channels : List (Channel State) := [
  .text "cidr" ["spec", "cidr"] State.cidr,
  .text "cloud" ["spec", "cloud"] State.cloud,
  .field "connection_types" ["spec", "connection_types"]
    (fun a b => a.connectionTypes = b.connectionTypes) fun s => some (.strings s.connectionTypes),
  .text "display_name" ["spec", "display_name"] State.displayName,
  .text "region" ["spec", "region"] State.region,
  .field "zones" ["spec", "zones"] (fun a b => a.zones = b.zones)
    fun s => some (.strings s.zones),
  .home State.environment]

theorem works : ∀ channel ∈ channels, ItemKind.networks.Works channel := by
  have unplaced : ∀ {name key : String} {same : State → State → Prop}
      {told : State → Option Json}, name ∉ kind.updatable →
      key ≠ "display_name" → key ≠ "environment" →
      ItemKind.networks.Works (.field name ["spec", key] same told) := by
    intro name key same told fixed notName notEnvironment
    apply ItemKind.works_of_unplaced fixed
    intro desired changed
    exact (changeBody_at desired key).trans (by simp [notName, notEnvironment])
  refine List.forall_mem_cons.mpr ⟨unplaced (by decide) (by decide) (by decide),
    List.forall_mem_cons.mpr ⟨unplaced (by decide) (by decide) (by decide),
    List.forall_mem_cons.mpr ⟨unplaced (by decide) (by decide) (by decide),
    List.forall_mem_cons.mpr ⟨?_,
    List.forall_mem_cons.mpr ⟨unplaced (by decide) (by decide) (by decide),
    List.forall_mem_cons.mpr ⟨unplaced (by decide) (by decide) (by decide),
    List.forall_mem_cons.mpr ⟨?_, nofun⟩⟩⟩⟩⟩⟩⟩
  · apply ItemKind.works_of_gated fun (desired : State) _ => desired.displayName ≠ ""
    · intro desired changed
      exact (changeBody_at desired "display_name").trans (by simp)
    · intro priorState prior desired changed merged prepared changes
      obtain ⟨_, after, _⟩ := decode_obj_iff.mp prepared.decoded
      have some := Fields.text_of_filled prepared.sorted
        (prepared.filled _ changes (by decide) (by decide)) after
      exact iff_of_true ⟨some, rfl⟩ id
    · intro prior desired changed merged source prepared sorted kept
      exact prepared.same_value State.displayName sorted kept
        (by decide) Fields.text_agrees absent_some fun decoded => (decode_obj_iff.mp decoded).2.1
  · exact ItemKind.works_of_home (by decide) (by decide)
      (fun desired _ => changeBody_at desired "environment") fun decoded => (names_item decoded).2

def delivery : Delivery := ItemKind.networks.delivery channels rfl works

end Network

namespace FlinkComputePool

/-- An empty name has no place in a body, although the schema takes it. -/
def channels : List (Channel State) := [
  .text "cloud" ["spec", "cloud"] State.cloud,
  .text "display_name" ["spec", "display_name"] State.displayName fun s => s.displayName = "",
  .field "max_cfu" ["spec", "max_cfu"] (fun a b => a.maxCfu = b.maxCfu)
    fun s => s.maxCfu.map Json.int64,
  .text "region" ["spec", "region"] State.region,
  .home State.environment]

theorem works : ∀ channel ∈ channels, ItemKind.flinkComputePools.Works channel := by
  refine List.forall_mem_cons.mpr ⟨?_, List.forall_mem_cons.mpr ⟨?_, List.forall_mem_cons.mpr ⟨?_,
    List.forall_mem_cons.mpr ⟨?_, List.forall_mem_cons.mpr ⟨?_, nofun⟩⟩⟩⟩⟩
  · apply ItemKind.works_of_unplaced (by decide)
    intro desired changed
    exact (changeBody_at desired changed "cloud").trans (by simp)
  · apply ItemKind.works_of_gated fun (desired : State) changed =>
      "display_name" ∈ changed ∧ desired.displayName ≠ ""
    · intro desired changed
      exact (changeBody_at desired changed "display_name").trans (by simp)
    · intro priorState prior desired changed merged prepared changes
      show ("display_name" ∈ changed ∧ desired.displayName ≠ "") ∧ true = true ↔
        ¬desired.displayName = ""
      simp only [changes, true_and, and_true]
    · intro prior desired changed merged source prepared sorted kept
      exact prepared.same_value State.displayName sorted kept (by decide) Fields.text_agrees
        absent_none fun decoded => (decode_obj_iff.mp decoded).2.1
  · apply ItemKind.works_of_gated fun (_ : State) changed => "max_cfu" ∈ changed
    · intro desired changed
      exact (changeBody_at desired changed "max_cfu").trans (by simp)
    · intro priorState prior desired changed merged prepared changes
      obtain ⟨_, _, _, _, after, _⟩ := decode_obj_iff.mp prepared.decoded
      have some := Fields.integer_of_filled prepared.sorted
        (prepared.filled _ changes (by decide) (by decide)) after
      exact iff_of_true ⟨changes, Option.isSome_map.trans some⟩ id
    · intro prior desired changed merged source prepared sorted kept
      exact prepared.same_value State.maxCfu sorted kept (by decide) Fields.integer64_agrees
        absent_some fun decoded => (decode_obj_iff.mp decoded).2.2.2.2.1
  · apply ItemKind.works_of_unplaced (by decide)
    intro desired changed
    exact (changeBody_at desired changed "region").trans (by simp)
  · exact ItemKind.works_of_home (by decide) (by decide)
      (fun desired changed => changeBody_at desired changed "environment")
      fun decoded => (names_item decoded).2

def delivery : Delivery := ItemKind.flinkComputePools.delivery channels rfl works

end FlinkComputePool

namespace KafkaCluster

/-- A block that chooses the type, told as the type and its size. -/
def State.choice (name : String) (same : State → State → Prop) : Channel State :=
  .field name ["spec", "config"] same fun s => some s.typeConfig.encode

/-- An empty name has no place in a body, although the schema takes it. -/
def channels : List (Channel State) := [
  .text "availability" ["spec", "availability"] State.availability,
  .text "cloud" ["spec", "cloud"] State.cloud,
  .text "display_name" ["spec", "display_name"] State.displayName fun s => s.displayName = "",
  .text "region" ["spec", "region"] State.region,
  State.choice "basic" fun a b => a.basic = b.basic,
  State.choice "dedicated" fun a b => a.dedicated = b.dedicated,
  .home State.environment,
  .field "network" ["spec", "network"] (fun a b => a.network = b.network)
    fun s => (single? s.network).map Reference.encode,
  State.choice "standard" fun a b => a.standard = b.standard]

theorem works_of_choice {name : String} (listed : name ∈ ClusterType.blockNames)
    {same : State → State → Prop}
    (kept : ∀ {prior desired changed merged source},
      Prepared kind (.obj source) prior desired changed merged → Keyed.Sorted source →
        name ∉ changed → same prior desired) :
    ItemKind.kafkaClusters.Works (State.choice name same) := by
  apply ItemKind.works_of_gated (fun (_ : State) changed =>
    changed.any ClusterType.blockNames.contains = true) _ _ kept
  · intro desired changed
    exact (changeBody_at desired changed "config").trans (by simp)
  · intro priorState prior desired changed merged prepared changes
    have retyped : changed.any ClusterType.blockNames.contains = true :=
      List.any_eq_true.mpr ⟨name, changes, List.contains_iff_mem.mpr listed⟩
    exact iff_of_true ⟨retyped, rfl⟩ id

theorem works_of_unplaced {name key : String} {same : State → State → Prop}
    {told : State → Option Json} (fixed : name ∉ kind.updatable)
    (apart : key ∉ ["config", "display_name", "environment"]) :
    ItemKind.kafkaClusters.Works (.field name ["spec", key] same told) := by
  apply ItemKind.works_of_unplaced fixed
  intro desired changed
  simp only [List.mem_cons, List.not_mem_nil, or_false, not_or] at apart
  exact (changeBody_at desired changed key).trans (by simp [apart])

theorem works_of_name : ItemKind.kafkaClusters.Works
    (.text "display_name" ["spec", "display_name"] State.displayName
      fun s => s.displayName = "") := by
  apply ItemKind.works_of_gated fun (desired : State) _ => desired.displayName ≠ ""
  · intro desired changed
    exact (changeBody_at desired changed "display_name").trans (by simp)
  · intro priorState prior desired changed merged prepared changes
    exact and_iff_left rfl
  · intro prior desired changed merged source prepared sorted kept
    exact prepared.same_value State.displayName sorted kept (by decide) Fields.text_agrees
      absent_none fun decoded => (decode_obj_iff.mp decoded).2.1

theorem works : ∀ channel ∈ channels, ItemKind.kafkaClusters.Works channel := by
  refine List.forall_mem_cons.mpr ⟨works_of_unplaced (by decide) (by decide),
    List.forall_mem_cons.mpr ⟨works_of_unplaced (by decide) (by decide),
    List.forall_mem_cons.mpr ⟨works_of_name,
    List.forall_mem_cons.mpr ⟨works_of_unplaced (by decide) (by decide),
    List.forall_mem_cons.mpr ⟨works_of_choice (by decide) ?_,
    List.forall_mem_cons.mpr ⟨works_of_choice (by decide) ?_,
    List.forall_mem_cons.mpr ⟨ItemKind.works_of_home (by decide) (by decide)
      (fun desired changed => changeBody_at desired changed "environment")
      fun decoded => (names_item decoded).2,
    List.forall_mem_cons.mpr ⟨works_of_unplaced (by decide) (by decide),
    List.forall_mem_cons.mpr ⟨works_of_choice (by decide) ?_, nofun⟩⟩⟩⟩⟩⟩⟩⟩⟩
  · intro prior desired changed merged source prepared sorted kept
    exact prepared.same_value State.basic sorted kept (by decide) (markers_agrees "Basic")
      absent_some fun decoded => (decode_obj_iff.mp decoded).2.2.2.2.2.1
  · intro prior desired changed merged source prepared sorted kept
    exact prepared.same_value State.dedicated sorted kept (by decide) sizes_agrees absent_some
      fun decoded => (decode_obj_iff.mp decoded).2.2.2.2.2.2.2.1
  · intro prior desired changed merged source prepared sorted kept
    exact prepared.same_value State.standard sorted kept (by decide) (markers_agrees "Standard")
      absent_some fun decoded => (decode_obj_iff.mp decoded).2.2.2.2.2.2.1

def delivery : Delivery := ItemKind.kafkaClusters.delivery channels rfl works

end KafkaCluster

namespace KafkaTopic

namespace Alteration

def name : Alteration → String
  | .set name _ => name
  | .reset name => name

/-- What is set afterwards. -/
def value? : Alteration → Option String
  | .set _ value => some value
  | .reset _ => none

def apply (settings : Settings) : Alteration → Settings
  | .set name value => settings.insert name value
  | .reset name => settings.filter fun other _ => other != name

theorem get?_apply (settings : Settings) (alteration : Alteration) (key : String) :
    (apply settings alteration).get? key =
      if key = alteration.name then alteration.value? else settings.get? key := by
  cases alteration with
  | set name value => exact settings.get?_insert name value key
  | reset name =>
    refine (Settings.get?_filter settings _ key).trans ?_
    by_cases here : key = name
    · cases found : settings.get? key <;> simp [Alteration.name, value?, here, Option.filter]
    · cases found : settings.get? key <;> simp [Alteration.name, here, Option.filter]

/-- Alterations that all take their names to one target. By induction on the alterations: what the
first of them did stands under the names that the others leave alone. -/
theorem get?_foldl_apply {target : Settings} {alterations : List Alteration}
    (toTarget : ∀ alteration ∈ alterations, alteration.value? = target.get? alteration.name)
    (settings : Settings) (key : String) :
    (alterations.foldl apply settings).get? key =
      if key ∈ alterations.map name then target.get? key else settings.get? key := by
  induction alterations generalizing settings with
  | nil => rfl
  | cons first rest ih =>
    rw [List.foldl_cons, ih (fun other later => toTarget other (List.mem_cons_of_mem _ later)),
      get?_apply]
    by_cases here : key = first.name
    · simp [here, toTarget first List.mem_cons_self]
    · simp [here]

theorem value?_of_mem_between {prior desired : Settings} {alteration : Alteration}
    (member : alteration ∈ between prior desired) :
    alteration.value? = desired.get? alteration.name ∧
      prior.get? alteration.name ≠ desired.get? alteration.name := by
  rcases List.mem_append.mp member with sets | resets
  · obtain ⟨⟨name, value⟩, inside, rfl⟩ := List.mem_map.mp sets
    obtain ⟨listed, differs⟩ := List.mem_filter.mp inside
    have given := Settings.get?_of_mem listed
    refine ⟨given.symm, ?_⟩
    show prior.get? name ≠ desired.get? name
    rw [given]
    simpa using differs
  · obtain ⟨_, inside, rfl⟩ := List.mem_map.mp resets
    obtain ⟨⟨name, value⟩, kept, rfl⟩ := List.mem_map.mp inside
    obtain ⟨listed, dropped⟩ := List.mem_filter.mp kept
    have had := Settings.get?_of_mem listed
    have absent : desired.get? name = none := by
      simpa [Settings.contains] using dropped
    refine ⟨absent.symm, ?_⟩
    show prior.get? name ≠ desired.get? name
    rw [had, absent]
    exact Option.some_ne_none value

theorem mem_names_between {prior desired : Settings} {key : String}
    (differs : prior.get? key ≠ desired.get? key) : key ∈ (between prior desired).map name := by
  cases wanted : desired.get? key with
  | some value =>
    refine List.mem_map.mpr ⟨.set key value, List.mem_append_left _ ?_, rfl⟩
    refine List.mem_map.mpr ⟨(key, value), ?_, rfl⟩
    refine List.mem_filter.mpr ⟨Keyed.mem_of_lookup wanted, ?_⟩
    rw [wanted] at differs
    simpa using differs
  | none =>
    rw [wanted] at differs
    obtain ⟨value, had⟩ := Option.ne_none_iff_exists'.mp differs
    refine List.mem_map.mpr ⟨.reset key, List.mem_append_right _ ?_, rfl⟩
    refine List.mem_map.mpr ⟨key, List.mem_map.mpr ⟨(key, value), ?_, rfl⟩, rfl⟩
    exact List.mem_filter.mpr ⟨Keyed.mem_of_lookup had, by simp [Settings.contains, wanted]⟩

theorem foldl_between (prior desired : Settings) :
    (between prior desired).foldl apply prior = desired := by
  apply Settings.ext_get?
  intro key
  rw [get?_foldl_apply fun _ member => (value?_of_mem_between member).1]
  split
  · rfl
  · next unnamed =>
    apply Decidable.byContradiction
    intro differs
    exact unnamed (mem_names_between differs)

theorem between_ne_nil {prior desired : Settings} (differs : prior ≠ desired) :
    between prior desired ≠ [] := by
  intro none
  have same := foldl_between prior desired
  rw [none] at same
  exact differs same

end Alteration

/-- The settings of a topic, told as alterations that lead from the prior ones to the desired ones
and leave alone what they share. -/
def settings : Channel State where
  name := "config"
  same a b := a.config = b.config
  mentions write := (write.at ["data"]).isSome = true
  tells prior desired write := ∃ alterations : List Alteration,
    write.at ["data"] = some (.arr (alterations.map Alteration.encode)) ∧
    alterations.foldl Alteration.apply prior.config = desired.config ∧
    ∀ alteration ∈ alterations,
      prior.config.get? alteration.name ≠ desired.config.get? alteration.name

def partitions : Channel State :=
  .field "partitions_count" ["partitions_count"] (fun a b => a.partitions = b.partitions)
    fun s => s.partitions.map Json.int64

def channels : List (Channel State) := [
  settings,
  partitions,
  .unsent "rest_endpoint" fun a b => a.restEndpoint = b.restEndpoint,
  .text "topic_name" ["topic_name"] State.topicName,
  { Channel.unsent "credentials" fun a b => a.credentials = b.credentials with isLocal := true },
  .unsent "kafka_cluster" fun a b => a.kafkaCluster = b.kafkaCluster]

theorem partitions_told (url : String) (prior : State) {desired : State} {count : Int64}
    (given : desired.partitions = some count) : partitions.tells prior desired
      ⟨.patch, url, some (.obj [("partitions_count", .int64 count)])⟩ := by
  have told : desired.partitions.map Json.int64 = some (.int64 count) := congrArg _ given
  exact ⟨congrArg Option.isSome told, told.symm⟩

theorem settings_told (url : String) (prior desired : State) :
    settings.tells prior desired ⟨.post, url ++ "/configs:alter", some (.obj [("data",
      .arr ((Alteration.between prior.config desired.config).map Alteration.encode))])⟩ :=
  ⟨_, rfl, Alteration.foldl_between _ _,
    fun _ member => (Alteration.value?_of_mem_between member).2⟩

theorem delivers {priorState : Json} {prior desired : State} {changed : List String}
    {merged : List (String × Json)} {url : String}
    (prepared : Prepared kind priorState prior desired changed merged) :
    ∀ channel ∈ channels, channel.isLocal = false → channel.name ∈ changed →
      ¬channel.same prior desired →
      ((∃ write ∈ writes url prior desired changed, channel.tells prior desired write) ↔
        ¬channel.lost desired) := by
  have fixed : ∀ {name : String} {claim : Prop}, name ∉ kind.updatable → name ∈ changed → claim :=
    fun fixed changes => absurd (prepared.updatable _ changes) fixed
  refine List.forall_mem_cons.mpr ⟨?_, List.forall_mem_cons.mpr ⟨?_,
    List.forall_mem_cons.mpr ⟨fun _ changes => fixed (by decide) changes,
    List.forall_mem_cons.mpr ⟨fun _ changes => fixed (by decide) changes,
    List.forall_mem_cons.mpr ⟨?_,
    List.forall_mem_cons.mpr ⟨fun _ changes => fixed (by decide) changes, nofun⟩⟩⟩⟩⟩⟩
  · intro _ changes differs
    refine iff_of_true ⟨_, ?_, settings_told url prior desired⟩ id
    exact mem_writes_iff.mpr (Or.inr ⟨changes, Alteration.between_ne_nil differs, rfl⟩)
  · intro _ changes differs
    obtain ⟨_, _, after, _⟩ := decode_obj_iff.mp prepared.decoded
    have some := Fields.integer_of_filled prepared.sorted
      (prepared.filled _ changes (by decide) (by decide)) after
    obtain ⟨count, given⟩ := Option.isSome_iff_exists.mp some
    exact iff_of_true ⟨_, mem_writes_iff.mpr (Or.inl ⟨changes, count, given, rfl⟩),
      partitions_told url prior given⟩ id
  · intro sent
    cases sent

theorem keeps {priorState : Json} {prior desired : State} {changed : List String} {url : String}
    {write : Write} (inside : write ∈ writes url prior desired changed) :
    ∀ channel ∈ channels, channel.mentions write →
      channel.tells prior desired write ∧ ∀ source, priorState = .obj source →
        Keyed.Sorted source → channel.name ∉ changed → channel.same prior desired := by
  rcases mem_writes_iff.mp inside with ⟨changes, count, given, rfl⟩ | ⟨changes, _, rfl⟩
  · refine List.forall_mem_cons.mpr ⟨nofun, List.forall_mem_cons.mpr ⟨?_,
      List.forall_mem_cons.mpr ⟨nofun, List.forall_mem_cons.mpr ⟨nofun,
      List.forall_mem_cons.mpr ⟨nofun, List.forall_mem_cons.mpr ⟨nofun, nofun⟩⟩⟩⟩⟩⟩
    intro _
    exact ⟨partitions_told url prior given, fun _ _ _ kept => absurd changes kept⟩
  · refine List.forall_mem_cons.mpr ⟨?_, List.forall_mem_cons.mpr ⟨nofun,
      List.forall_mem_cons.mpr ⟨nofun, List.forall_mem_cons.mpr ⟨nofun,
      List.forall_mem_cons.mpr ⟨nofun, List.forall_mem_cons.mpr ⟨nofun, nofun⟩⟩⟩⟩⟩⟩
    intro _
    exact ⟨settings_told url prior desired, fun _ _ _ kept => absurd changes kept⟩

def delivery : Delivery where
  api := api
  channels := channels
  covers := rfl
  delivers := by
    intro context priorState prior desired changed merged all prepared listed
    obtain ⟨url, _, rfl⟩ := writes_eq_ok_iff.mp listed
    exact delivers prepared
  keeps := by
    intro context priorState prior desired changed merged all prepared listed write inside
    obtain ⟨url, _, rfl⟩ := writes_eq_ok_iff.mp listed
    exact keeps inside

end KafkaTopic

namespace Connector

/-- A map of a connector, told with the other one as the whole configuration. -/
def settings (name : String) (map : State → Settings) : Channel State where
  name := name
  same a b := map a = map b
  mentions write := write.body.isSome = true
  tells _ desired write := write.body = some desired.config.encode

/-- What a connector is to do, told by the path of a write without a body. -/
def status : Channel State where
  name := "status"
  same a b := a.status = b.status
  mentions write := write.body = none
  tells _ desired write := write.body = none ∧
    (desired.status = paused ∧ write.path = desired.path ++ "/pause" ∨
      desired.status = running ∧ write.path = desired.path ++ "/resume")

def channels : List (Channel State) := [
  settings "config_nonsensitive" State.plain,
  settings "config_sensitive" State.secret,
  status,
  .unsent "environment" fun a b => a.environment = b.environment,
  .unsent "kafka_cluster" fun a b => a.kafkaCluster = b.kafkaCluster]

theorem statusAction?_eq_some_iff {prior desired : State} {action : String} :
    prior.statusAction? desired = some action ↔ desired.status ≠ prior.status ∧
      (desired.status = paused ∧ action = "pause" ∨
        desired.status = running ∧ action = "resume") := by
  unfold State.statusAction?
  by_cases same : desired.status = prior.status
  · simp [same]
  · by_cases pauses : desired.status = paused
    · have other : paused ≠ running := by decide
      have differs : paused ≠ prior.status := pauses ▸ same
      simp [pauses, other, differs, eq_comm]
    · by_cases resumes : desired.status = running
      · have differs : running ≠ prior.status := resumes ▸ same
        have other : running ≠ paused := by decide
        simp [resumes, other, differs, eq_comm]
      · simp [same, pauses, resumes]

theorem delivers {priorState : Json} {prior desired : State} {changed : List String}
    {merged : List (String × Json)}
    (prepared : Prepared kind priorState prior desired changed merged) :
    ∀ channel ∈ channels, channel.isLocal = false → channel.name ∈ changed →
      ¬channel.same prior desired →
      ((∃ write ∈ writes prior desired changed, channel.tells prior desired write) ↔
        ¬channel.lost desired) := by
  have maps : ∀ {name : String}, "config_".toList.isPrefixOf name.toList = true →
      name ∈ changed → (∃ write ∈ writes prior desired changed,
        write.body = some desired.config.encode) := by
    intro name prefixed changes
    exact ⟨_, mem_writes_iff.mpr (Or.inl ⟨⟨name, changes, prefixed⟩, rfl⟩), rfl⟩
  refine List.forall_mem_cons.mpr ⟨?_, List.forall_mem_cons.mpr ⟨?_,
    List.forall_mem_cons.mpr ⟨?_,
    List.forall_mem_cons.mpr ⟨fun _ changes => absurd (prepared.updatable _ changes) (by decide),
    List.forall_mem_cons.mpr ⟨fun _ changes => absurd (prepared.updatable _ changes) (by decide),
      nofun⟩⟩⟩⟩⟩
  · intro _ changes _
    exact iff_of_true (maps (by decide) changes) id
  · intro _ changes _
    exact iff_of_true (maps (by decide) changes) id
  · intro _ changes differs
    obtain ⟨_, _, _, _, _, after⟩ := decode_obj_iff.mp prepared.decoded
    have some := Fields.text_of_filled prepared.sorted
      (prepared.filled _ changes (by decide) (by decide)) after
    have allowed := ((check_decides prior desired).ok_iff.mp prepared.checked).2
    have wanted : desired.status = paused ∨ desired.status = running := by
      simpa [some, or_comm] using allowed
    have apart : desired.status ≠ prior.status := fun same => differs same.symm
    refine iff_of_true ?_ id
    rcases wanted with pauses | resumes
    · refine ⟨_, mem_writes_iff.mpr (Or.inr ⟨changes, "pause", ?_, rfl⟩), rfl, Or.inl ⟨pauses, ?_⟩⟩
      · exact statusAction?_eq_some_iff.mpr ⟨apart, Or.inl ⟨pauses, rfl⟩⟩
      · simp [String.append_assoc]
    · refine ⟨_, mem_writes_iff.mpr (Or.inr ⟨changes, "resume", ?_, rfl⟩), rfl,
        Or.inr ⟨resumes, ?_⟩⟩
      · exact statusAction?_eq_some_iff.mpr ⟨apart, Or.inr ⟨resumes, rfl⟩⟩
      · simp [String.append_assoc]

theorem keeps {priorState : Json} {prior desired : State} {changed : List String}
    {merged : List (String × Json)}
    (prepared : Prepared kind priorState prior desired changed merged) {write : Write}
    (inside : write ∈ writes prior desired changed) :
    ∀ channel ∈ channels, channel.mentions write →
      channel.tells prior desired write ∧ ∀ source, priorState = .obj source →
        Keyed.Sorted source → channel.name ∉ changed → channel.same prior desired := by
  rcases mem_writes_iff.mp inside with ⟨_, rfl⟩ | ⟨changes, action, acts, rfl⟩
  · refine List.forall_mem_cons.mpr ⟨?_, List.forall_mem_cons.mpr ⟨?_,
      List.forall_mem_cons.mpr ⟨nofun, List.forall_mem_cons.mpr ⟨nofun,
      List.forall_mem_cons.mpr ⟨nofun, nofun⟩⟩⟩⟩⟩
    · intro _
      refine ⟨rfl, ?_⟩
      rintro source rfl sorted kept
      exact prepared.same_value State.plain sorted kept (by decide) Fields.settings_agrees
        absent_some fun decoded => (decode_obj_iff.mp decoded).2.2.2.1
    · intro _
      refine ⟨rfl, ?_⟩
      rintro source rfl sorted kept
      exact prepared.same_value State.secret sorted kept (by decide) Fields.settings_agrees
        absent_some fun decoded => (decode_obj_iff.mp decoded).2.2.2.2.1
  · refine List.forall_mem_cons.mpr ⟨nofun, List.forall_mem_cons.mpr ⟨nofun,
      List.forall_mem_cons.mpr ⟨?_, List.forall_mem_cons.mpr ⟨nofun,
      List.forall_mem_cons.mpr ⟨nofun, nofun⟩⟩⟩⟩⟩
    intro _
    refine ⟨⟨rfl, ?_⟩, fun _ _ _ kept => absurd changes kept⟩
    rcases (statusAction?_eq_some_iff.mp acts).2 with ⟨pauses, rfl⟩ | ⟨resumes, rfl⟩
    · exact Or.inl ⟨pauses, by simp [String.append_assoc]⟩
    · exact Or.inr ⟨resumes, by simp [String.append_assoc]⟩

def delivery : Delivery where
  api := api
  channels := channels
  covers := rfl
  delivers := by
    rintro context priorState prior desired changed merged all prepared ⟨⟩
    exact delivers prepared
  keeps := by
    rintro context priorState prior desired changed merged all prepared ⟨⟩ write inside
    exact keeps prepared inside

end Connector

/-- The deliveries of every kind, in the order of names. -/
def deliveries : List Delivery :=
  [Connector.delivery, Environment.delivery, FlinkComputePool.delivery, KafkaCluster.delivery,
    KafkaTopic.delivery, Network.delivery, ServiceAccount.delivery]

theorem kind_deliveries : deliveries.map (fun delivery => delivery.api.kind) = kinds := rfl

end Provisioner

import Provisioner.Proofs.Kinds.Padding
import Provisioner.Proofs.Lifecycle.Target
import Provisioner.Proofs.Validation

/-!
# Transitions without null entries

Every operation of a kind runs the same whether the null entries of what it is given are left out,
with one exception. In an update a null of the prior state covers what the configuration has under a
name that only the server sets, and a configuration may have anything there. An empty list or object
that comes to light this way has the update refused.
-/

namespace Provisioner

set_option autoImplicit false

open Http

theorem Decoder.fromState_congr {α : Type} {decode : Decoder α} {source other : Json}
    (same : decode source.dropNulls = decode other.dropNulls) :
    decode.fromState source = decode.fromState other := by
  unfold fromState
  rw [same]

theorem Decoder.fromState_omitNulls {α : Type} (decode : Decoder α) (names : List String)
    (source : Json) : decode.fromState (source.omitNulls names) = decode.fromState source :=
  fromState_congr (congrArg decode (Json.dropNulls_omitNulls names source))

namespace Schema

/-- One of the null entries of the prior state covers an empty list or object that the configuration
has under a name that only the server sets. -/
def Uncovers (schema : Schema) (names : List String) (prior config : Json) : Prop :=
  ∃ name ∈ names, schema.isComputedOnly name = true ∧ prior.get? name = some .null ∧
    (config.get? name = some (.arr []) ∨ config.get? name = some (.obj []))

theorem ensureValid_omitNulls {schema : Schema} {names : List String} {config : Json}
    (wellFormed : config.WellFormed) :
    schema.ensureValid (config.omitNulls names) = schema.ensureValid config := by
  unfold ensureValid
  rw [schema.validate_omitNulls names wellFormed]

end Schema

section Merge

open Json (omitNullEntries sorted_omitNullEntries)
open Schema (merges_obj)

variable {kind : Kind Wire} {names others : List String} {source target : List (String × Json)}

/-- What comes to light is the blank value of its name, unless it keeps the update from being
prepared. -/
theorem blank?_of_uncovered (listed : kind ∈ kinds) {name : String} {value : Json}
    (valid : kind.schema.validate (.obj target) = [])
    (covered : ¬kind.schema.Uncovers names (.obj source) (.obj target))
    (computed : name ∈ kind.schema.computedNames) (inNames : name ∈ names)
    (null : source.lookup name = some .null) (given : target.lookup name = some value)
    (blank : isBlank (some value) = true) (notNull : value.isNull = false) :
    kind.schema.blank? name = some value := by
  cases reported : kind.schema.isComputedOnly name with
  | false => exact Schema.blank?_of_valid valid computed reported given blank notNull
  | true =>
    rw [blank?_of_reported listed (Schema.mem_reportedNames reported)]
    rcases Json.blank_cases blank notNull with rfl | rfl | rfl
    · rfl
    · exact absurd ⟨name, inNames, reported, null, Or.inl given⟩ covered
    · exact absurd ⟨name, inNames, reported, null, Or.inr given⟩ covered

theorem padded_merge (listed : kind ∈ kinds) (sortedSource : Keyed.Sorted source)
    (sortedTarget : Keyed.Sorted target) (valid : kind.schema.validate (.obj target) = [])
    (covered : ¬kind.schema.Uncovers names (.obj source) (.obj target)) :
    kind.schema.Padded
      (Json.dropNullsEntries (kind.schema.computedNames.foldl (takeMissing source) target))
      (Json.dropNullsEntries (kind.schema.computedNames.foldl
        (takeMissing (omitNullEntries names source)) (omitNullEntries others target))) := by
  intro name
  have merges := merges_obj kind.schema names others sortedSource sortedTarget name
  rw [Json.lookup_dropNullsEntries (sorted_merge _ _ sortedTarget),
    Json.lookup_dropNullsEntries (sorted_merge _ _ (sorted_omitNullEntries sortedTarget others))]
  generalize List.lookup name (List.foldl (takeMissing source) target _) = value at merges ⊢
  generalize List.lookup name (List.foldl _ _ _) = other at merges ⊢
  cases merges with
  | same => exact Or.inl rfl
  | omitted => exact Or.inl rfl
  | @uncovered blank computed inNames null given isBlank notNull =>
    refine Or.inr ⟨computed, rfl, blank, ?_, ?_⟩
    · exact blank?_of_uncovered listed valid covered computed inNames null given isBlank notNull
    · rw [Option.bind_some, notNull, if_neg Bool.false_ne_true,
        Json.dropNulls_of_blank isBlank notNull]

theorem decode_merge_omitNulls (listed : kind ∈ kinds) (names others : List String)
    {prior config : Json} (wellFormed : prior.WellFormed) (wellFormedConfig : config.WellFormed)
    (valid : kind.schema.validate config = [])
    (covered : ¬kind.schema.Uncovers names prior config) :
    kind.decode.fromState
        (kind.schema.mergeComputed (prior.omitNulls names) (config.omitNulls others)) =
      kind.decode.fromState (kind.schema.mergeComputed prior config) := by
  cases prior with
  | obj source =>
    cases config with
    | obj target =>
      apply Decoder.fromState_congr
      exact overlooks_of_mem_kinds listed _ _
        (padded_merge listed wellFormed.1 wellFormedConfig.1 valid covered)
    | _ => rfl
  | _ => exact kind.decode.fromState_omitNulls others config

theorem lookup_merge_of_null (schema : Schema) (others : List String)
    (sortedSource : Keyed.Sorted source) (sortedTarget : Keyed.Sorted target) {name : String}
    (computed : name ∈ schema.computedNames) (inNames : name ∈ names)
    (null : source.lookup name = some .null) {value : Json}
    (given : target.lookup name = some value) (notNull : value.isNull = false) :
    (schema.computedNames.foldl (takeMissing (omitNullEntries names source))
      (omitNullEntries others target)).lookup name = some value := by
  have kept : (omitNullEntries others target).lookup name = some value := by
    rcases Json.lookup_omitNullEntries sortedTarget others name with same | ⟨_, isNull, _⟩
    · rw [same, given]
    · rw [given] at isNull
      cases isNull
      cases notNull
  rw [lookup_merge_of_mem _ _ computed, kept,
    Json.lookup_omitNullEntries_of_null sortedSource inNames null, Option.none_or, ite_self]

theorem not_decodes_of_reported (listed : kind ∈ kinds) {merged : List (String × Json)}
    (sorted : Keyed.Sorted merged) {name : String}
    (reported : kind.schema.isComputedOnly name = true) {value : Json}
    (given : merged.lookup name = some value) (notNull : value.isNull = false)
    (noText : ∀ text, Decoder.text value.dropNulls ≠ .ok text) (state : kind.State) :
    kind.decode (.obj (Json.dropNullsEntries merged)) ≠ .ok state := by
  intro decoded
  obtain ⟨text, read⟩ :=
    readsReported_of_mem_kinds listed decoded name (Schema.mem_reportedNames reported)
  rcases (Fields.single_dropNulls_ok_iff sorted).mp read with ⟨found, there, _, isText⟩ | ⟨blank, _⟩
  · obtain rfl := Option.some.inj (given.symm.trans there)
    exact noText text isText
  · rw [given] at blank
    rcases blank with absent | null
    · cases absent
    · cases null
      cases notNull

/-- What comes to light under a name that only the server sets does not decode. -/
theorem decode_merge_of_uncovers (listed : kind ∈ kinds) (names others : List String)
    {prior config : Json} (wellFormed : prior.WellFormed) (wellFormedConfig : config.WellFormed)
    (uncovers : kind.schema.Uncovers names prior config) :
    ∃ reason, kind.decode.fromState
        (kind.schema.mergeComputed (prior.omitNulls names) (config.omitNulls others)) =
      refuse (.validation ("configuration does not match the schema: " ++ reason)) := by
  obtain ⟨name, inNames, reported, null, given⟩ := uncovers
  obtain ⟨source, rfl⟩ : ∃ source, prior = .obj source := by
    cases prior with
    | obj source => exact ⟨source, rfl⟩
    | _ => cases null
  obtain ⟨target, rfl⟩ : ∃ target, config = .obj target := by
    cases config with
    | obj target => exact ⟨target, rfl⟩
    | _ => rcases given with given | given <;> cases given
  obtain ⟨value, there, notNull, noText⟩ : ∃ value, target.lookup name = some value ∧
      value.isNull = false ∧ ∀ text, Decoder.text value.dropNulls ≠ .ok text := by
    rcases given with given | given
    · exact ⟨_, given, rfl, nofun⟩
    · exact ⟨_, given, rfl, nofun⟩
  have shown := lookup_merge_of_null kind.schema others wellFormed.1 wellFormedConfig.1
    (Schema.computed_of_isComputedOnly reported) inNames null there notNull
  have sorted := sorted_merge (omitNullEntries names source) kind.schema.computedNames
    (sorted_omitNullEntries wellFormedConfig.1 others)
  have refused := not_decodes_of_reported listed sorted reported shown notNull noText
  show ∃ reason, kind.decode.fromState (.obj (kind.schema.computedNames.foldl
    (takeMissing (omitNullEntries names source)) (omitNullEntries others target))) = _
  unfold Decoder.fromState
  rw [Json.dropNulls]
  cases decoded : kind.decode (.obj (Json.dropNullsEntries _)) with
  | ok state => exact absurd decoded (refused state)
  | error fault => exact ⟨fault.message, rfl⟩

end Merge

namespace Lifecycle

variable {σ : Type} {l : Lifecycle σ} {context : Context} {config : Json}

theorem decodeValid_omitNulls (l : Lifecycle σ) (names : List String)
    (wellFormed : config.WellFormed) :
    l.decodeValid (config.omitNulls names) = l.decodeValid config := by
  unfold decodeValid
  rw [Schema.ensureValid_omitNulls wellFormed, l.kind.decode.fromState_omitNulls]

theorem validate_omitNulls (l : Lifecycle σ) (names : List String)
    (wellFormed : config.WellFormed) : l.validate (config.omitNulls names) = l.validate config := by
  unfold validate
  rw [l.kind.schema.validate_omitNulls names wellFormed, l.kind.decode.fromState_omitNulls]

theorem create_omitNulls [Peer σ] (l : Lifecycle σ) (context : Context) (names : List String)
    (wellFormed : config.WellFormed) :
    l.create context (config.omitNulls names) = l.create context config := by
  unfold create submit
  rw [l.decodeValid_omitNulls names wellFormed]

theorem read_omitNulls (l : Lifecycle σ) (context : Context) (names : List String) (state : Json) :
    l.read context (state.omitNulls names) = l.read context state := by
  unfold read
  rw [l.kind.decode.fromState_omitNulls]

theorem delete_omitNulls [Peer σ] (l : Lifecycle σ) (context : Context) (names : List String)
    (state : Json) : l.delete context (state.omitNulls names) = l.delete context state := by
  unfold delete
  rw [l.kind.decode.fromState_omitNulls]

theorem prepareUpdate_omitNulls {l : Lifecycle Wire} (listed : l.kind ∈ kinds)
    (names others : List String) {prior : Json} (wellFormed : prior.WellFormed)
    (wellFormedConfig : config.WellFormed) (covered : ¬l.kind.schema.Uncovers names prior config)
    (known : l.kind.State) :
    l.prepareUpdate (prior.omitNulls names) (config.omitNulls others) known =
      l.prepareUpdate prior config known := by
  unfold prepareUpdate
  rw [Schema.ensureValid_omitNulls wellFormedConfig]
  cases valid : l.kind.schema.ensureValid config with
  | error error => rfl
  | ok =>
    have checked := (l.kind.schema.ensureValid_iff_validate config).mp valid
    have decoded :=
      decode_merge_omitNulls listed names others wellFormed wellFormedConfig checked covered
    simp only [decoded, Schema.changedNames_omitNulls wellFormed wellFormedConfig]

theorem update_omitNulls {l : Lifecycle Wire} (listed : l.kind ∈ kinds) (context : Context)
    (names others : List String) {prior : Json} (wellFormed : prior.WellFormed)
    (wellFormedConfig : config.WellFormed)
    (covered : ¬l.kind.schema.Uncovers names prior config) :
    l.update context (prior.omitNulls names) (config.omitNulls others) =
      l.update context prior config := by
  have prepared := prepareUpdate_omitNulls listed names others wellFormed wellFormedConfig covered
  unfold update
  simp only [l.kind.decode.fromState_omitNulls, prepared]

theorem update_of_unprepared [Peer σ] {priorState : Json} {prior : l.kind.State} {error : Error}
    (decoded : l.kind.decode.fromState priorState = .ok prior)
    (unprepared : l.prepareUpdate priorState config prior = .error error) (w : World σ) :
    l.update context priorState config w =
      (.error (error.about l.kind.name (some (l.kind.id prior))), w) := by
  unfold update
  rw [Operation.bind_of_ok (Op.about_ok_iff.mpr (Operation.ofExcept_ok_iff.mpr ⟨decoded, rfl⟩)),
    unprepared]
  rfl

theorem update_of_uncovers {l : Lifecycle Wire} (listed : l.kind ∈ kinds) (context : Context)
    (names others : List String) {prior : Json} (wellFormed : prior.WellFormed)
    (wellFormedConfig : config.WellFormed) (uncovers : l.kind.schema.Uncovers names prior config)
    {known : l.kind.State} (decoded : l.kind.decode.fromState prior = .ok known)
    (valid : l.kind.schema.validate config = []) :
    ∃ reason, ∀ w, l.update context (prior.omitNulls names) (config.omitNulls others) w =
      (.error {
        failure := .validation ("configuration does not match the schema: " ++ reason)
        subject := some ⟨l.kind.name, l.kind.id known⟩ }, w) := by
  obtain ⟨reason, refused⟩ :=
    decode_merge_of_uncovers listed names others wellFormed wellFormedConfig uncovers
  have checked := (l.kind.schema.ensureValid_iff_validate config).mpr valid
  have decodedOmitted := (l.kind.decode.fromState_omitNulls names prior).trans decoded
  have unprepared : l.prepareUpdate (prior.omitNulls names) (config.omitNulls others) known =
      refuse (.validation ("configuration does not match the schema: " ++ reason)) := by
    unfold prepareUpdate
    simp only [Schema.ensureValid_omitNulls wellFormedConfig, checked, refused]
    rfl
  exact ⟨reason, update_of_unprepared decodedOmitted unprepared⟩

end Lifecycle

/-- Null entries count as absent: whether any of them are left out changes no check, no plan and no
operation, whatever is answered. The exception is an update of a valid configuration with an empty
list or object under a name that only the server sets. A null of the prior state covers it, and
without that null the update is refused before anything is sent. -/
theorem nulls_count_as_absent (kind : Kind Wire) (listed : kind ∈ kinds)
    (waits : Transition → Option WaitOptions) (context : Context) (names others : List String) :
    let l : Lifecycle Wire := ⟨kind, waits⟩
    (∀ config : Json, config.WellFormed →
      l.validate (config.omitNulls names) = l.validate config ∧
      l.create context (config.omitNulls names) = l.create context config ∧
      l.read context (config.omitNulls names) = l.read context config ∧
      l.delete context (config.omitNulls names) = l.delete context config) ∧
    (∀ (prior : Option Json) (proposed : Json),
      (∀ state, prior = some state → state.WellFormed) → proposed.WellFormed →
      let plan := kind.schema.plan prior proposed
      let omitted := kind.schema.plan (prior.map (Json.omitNulls names)) (proposed.omitNulls others)
      omitted.changes = plan.changes ∧ omitted.requiresReplace = plan.requiresReplace) ∧
    ∀ prior config : Json, prior.WellFormed → config.WellFormed →
      let updated := l.update context (prior.omitNulls names) (config.omitNulls others)
      (¬kind.schema.Uncovers names prior config → updated = l.update context prior config) ∧
      (kind.schema.Uncovers names prior config → kind.schema.validate config = [] →
        ∀ known, kind.decode.fromState prior = .ok known → ∃ reason, ∀ w, updated w = (.error {
          failure := .validation ("configuration does not match the schema: " ++ reason)
          subject := some ⟨kind.name, kind.id known⟩ }, w)) := by
  intro l
  refine ⟨?_, ?_, ?_⟩
  · intro config wellFormed
    exact ⟨l.validate_omitNulls names wellFormed, l.create_omitNulls context names wellFormed,
      l.read_omitNulls context names config, l.delete_omitNulls context names config⟩
  · intro prior proposed wellFormed wellFormedProposed plan omitted
    have changes : omitted.changes = plan.changes :=
      Schema.changes_plan_omitNulls wellFormed wellFormedProposed
    refine ⟨changes, ?_⟩
    rw [Schema.requiresReplace_eq_any, Schema.requiresReplace_eq_any]
    exact congrArg (List.any · Change.requiresReplace) changes
  · intro prior config wellFormed wellFormedConfig updated
    have served : l.kind ∈ kinds := listed
    refine ⟨?_, ?_⟩
    · exact Lifecycle.update_omitNulls served context names others wellFormed wellFormedConfig
    · intro uncovers valid known decoded
      exact Lifecycle.update_of_uncovers served context names others wellFormed wellFormedConfig
        uncovers decoded valid

namespace Environment

/-- The environment with a null for the name that the platform gives it. -/
def nulledJson : Json :=
  .obj [("display_name", .str "a"), ("id", .str "env-1"), ("resource_name", .null)]

/-- A new name, with an empty list for the name that the platform gives. -/
def emptiedConfig : Json := .obj [("display_name", .str "b"), ("resource_name", .arr [])]

theorem wellFormed_nulledJson : nulledJson.WellFormed :=
  ⟨Keyed.sorted_of_keys ["display_name", "id", "resource_name"] rfl (by decide), trivial, trivial,
    trivial, trivial⟩

theorem wellFormed_emptiedConfig : emptiedConfig.WellFormed :=
  ⟨Keyed.sorted_of_keys ["display_name", "resource_name"] rfl (by decide), trivial, trivial,
    trivial⟩

/-- With the null in the prior state the PATCH is sent, and without it the update is refused. -/
theorem update_tells_null_from_absent :
    nulledJson.omitNulls ["resource_name"] = knownJson ∧
    schema.validate emptiedConfig = [] ∧
    (∃ entry ∈ (Lifecycle.update ⟨kind, fun _ => none⟩ Context.plain nulledJson
        emptiedConfig).sent acceptedWorld,
      entry.request.method = .patch ∧
        entry.request.url = Context.plain.client.url (path "env-1")) ∧
    ∀ w, Lifecycle.update ⟨kind, fun _ => none⟩ Context.plain knownJson emptiedConfig w =
      (.error {
        failure := .validation ("configuration does not match the schema: "
          ++ "invalid type: sequence, expected a string")
        subject := some ⟨"confluent_environment", "env-1"⟩ }, w) := by
  have prepared : Lifecycle.prepareUpdate ⟨kind, fun _ => none⟩ nulledJson emptiedConfig known =
      .ok (renamed "env-1", ["display_name"]) := rfl
  have decoded : kind.decode.fromState nulledJson = .ok known := rfl
  have ready : Ready acceptedWorld [acceptedAnswer] := ⟨rfl, rfl⟩
  refine ⟨rfl, rfl, ?_, ?_⟩
  · exact ItemKind.environments.patch_sent (fun _ => none) Context.plain_accepting decoded prepared
      (by simp) ready accepted_succeeds
  · have unprepared : Lifecycle.prepareUpdate ⟨kind, fun _ => none⟩ knownJson emptiedConfig known =
        refuse (.validation ("configuration does not match the schema: "
          ++ "invalid type: sequence, expected a string")) := rfl
    exact fun w => Lifecycle.update_of_unprepared known_decoded unprepared w

/-- A null that covers nothing may be left out of an update. One that covers an empty list has to
stay. -/
theorem nulls_count_as_absent_renamed :
    (∀ w, Lifecycle.update ⟨kind, fun _ => none⟩ Context.plain knownJson (renamingConfig []) w =
      Lifecycle.update ⟨kind, fun _ => none⟩ Context.plain nulledJson (renamingConfig []) w) ∧
    ∃ reason, ∀ w,
      Lifecycle.update ⟨kind, fun _ => none⟩ Context.plain knownJson emptiedConfig w = (.error {
        failure := .validation ("configuration does not match the schema: " ++ reason)
        subject := some ⟨"confluent_environment", "env-1"⟩ }, w) := by
  have all := (nulls_count_as_absent kind (by simp [kinds]) (fun _ => none) Context.plain
    ["resource_name"] []).2.2
  constructor
  · intro w
    have wellFormed : (renamingConfig []).WellFormed :=
      ⟨List.pairwise_singleton _ _, trivial, trivial⟩
    refine congrFun ((all nulledJson _ wellFormed_nulledJson wellFormed).1 ?_) w
    rintro ⟨name, inNames, _, _, shown⟩
    obtain rfl := List.mem_singleton.mp inNames
    rcases shown with shown | shown <;> cases shown
  · exact (all nulledJson emptiedConfig wellFormed_nulledJson wellFormed_emptiedConfig).2
      ⟨"resource_name", List.mem_cons_self, rfl, rfl, Or.inl rfl⟩ rfl known rfl

end Environment

end Provisioner

import Provisioner.Proofs.Kinds.Place
import Provisioner.Proofs.Kinds.Recheck
import Provisioner.Proofs.Plan.Matching

/-!
# How changes reach the server

An attribute that may change in place has a place in the writes of an update, where they tell its
desired value. What stands in a write is the desired value of an attribute, and where the attribute
is not among the changed ones that is the prior value. One value has no place in the writes of two
kinds: an empty name, which a body leaves out as if it had not been asked for.
-/

namespace Provisioner

set_option autoImplicit false

open Http

/-- The value under nested keys of objects. -/
def Json.at (value : Json) (keys : List String) : Option Json :=
  keys.foldl (fun found key => found.bind fun inner => inner.get? key) (some value)

/-- The value that the body of a write has under nested keys. -/
def Write.at (write : Write) (keys : List String) : Option Json :=
  write.body.bind fun body => body.at keys

/-- How a change of one attribute reaches the server. -/
structure Channel (State : Type) where
  name : String
  /-- The attribute has one value in both states. -/
  same : State → State → Prop
  /-- The write says something about the attribute. -/
  mentions : Write → Prop
  /-- The write gives the attribute its value in the second state, coming from the first one. -/
  tells : State → State → Write → Prop
  /-- The state holds a value that has no place in a write. -/
  lost : State → Prop := fun _ => False
  /-- The attribute means nothing to the server. -/
  isLocal : Bool := false

namespace Channel

variable {State : Type}

/-- An attribute under nested keys of a body. -/
def field (name : String) (keys : List String) (same : State → State → Prop)
    (told : State → Option Json) (lost : State → Prop := fun _ => False) : Channel State where
  name := name
  same := same
  mentions write := (write.at keys).isSome = true
  tells _ desired write := (told desired).isSome = true ∧ write.at keys = told desired
  lost := lost

def text (name : String) (keys : List String) (value : State → String)
    (lost : State → Prop := fun _ => False) : Channel State :=
  field name keys (fun a b => value a = value b) (fun s => some (.str (value s))) lost

/-- An attribute that is part of the address only. -/
def unsent (name : String) (same : State → State → Prop) : Channel State where
  name := name
  same := same
  mentions _ := False
  tells _ _ _ := False

end Channel

/-- A prepared update, with the desired state as it is read from the merged configuration. -/
structure Prepared (kind : Kind Wire) (priorState : Json) (prior desired : kind.State)
    (changed : List String) (merged : List (String × Json)) : Prop where
  sorted : Keyed.Sorted merged
  decoded : kind.decode (.obj (Json.dropNullsEntries merged)) = .ok desired
  changes : changed = kind.schema.changedNames priorState (.obj merged)
  updatable : ∀ name ∈ changed, name ∈ kind.updatable
  filled : ∀ name ∈ changed, name ∈ kind.schema.computedNames →
    kind.schema.isSetName name = false → isBlank (merged.lookup name) = false
  checked : kind.validateUpdate prior desired = .ok ()
  known : ∀ source, priorState = .obj source → Keyed.Sorted source →
    kind.decode (.obj (Json.dropNullsEntries source)) = .ok prior

namespace Lifecycle

variable {σ : Type} {l : Lifecycle σ}

theorem updatable_of_guard {changed : List String} (guarded : l.guardUpdate changed = .ok ())
    {name : String} (member : name ∈ changed) : name ∈ l.kind.updatable := by
  induction changed with
  | nil => cases member
  | cons head rest ih =>
    unfold guardUpdate at guarded
    split at guarded
    · cases guarded
    · split at guarded
      · cases guarded
      · next listed =>
        rcases List.mem_cons.mp member with rfl | later
        · simpa using listed
        · exact ih guarded later

end Lifecycle

namespace Schema

/-- What the server computes changes only where the merged configuration says something. -/
theorem filled_of_changed {schema : Schema} {priorState : Json}
    {target merged : List (String × Json)} {name : String}
    (merging : schema.mergeComputed priorState (.obj target) = .obj merged)
    (computed : name ∈ schema.computedNames)
    (changes : name ∈ schema.changedNames priorState (.obj merged)) :
    isBlank (merged.lookup name) = false := by
  obtain ⟨kept, _, filled⟩ := differs_of_changed merging changes
  rw [kept]
  exact filled computed

end Schema

theorem prepared_of_prepareUpdate {kind : Kind Wire} (known : kind ∈ kinds)
    {waits : Transition → Option WaitOptions} {priorState config : Json}
    {prior desired : kind.State} {changed : List String} (wellFormed : config.WellFormed)
    (decoded : kind.decode.fromState priorState = .ok prior)
    (prepared : Lifecycle.prepareUpdate ⟨kind, waits⟩ priorState config prior =
      .ok (desired, changed)) :
    ∃ merged, Prepared kind priorState prior desired changed merged := by
  obtain ⟨valid, merging, rfl, guarded, checked⟩ := Lifecycle.prepareUpdate_ok_iff.mp prepared
  rcases obj_of_ensureValid valid with rfl | ⟨target, rfl⟩
  · have null : kind.schema.mergeComputed priorState .null = .null := by
      cases priorState <;> rfl
    have reading : kind.decode.fromState .null = .ok desired := null ▸ merging
    exact absurd (Decoder.fromState_ok_iff.mp reading) (decode_null_of_mem_kinds known desired)
  · obtain ⟨merged, isMerged, sorted⟩ := kind.schema.exists_merged priorState wellFormed.1
    have reading : kind.decode.fromState (.obj merged) = .ok desired := isMerged ▸ merging
    refine ⟨merged, sorted, Decoder.fromState_ok_iff.mp reading, ?_, ?_, ?_, checked, ?_⟩
    · exact congrArg _ isMerged
    · intro name member
      exact Lifecycle.updatable_of_guard guarded member
    · intro name member computed _
      exact Schema.filled_of_changed isMerged computed (isMerged ▸ member)
    · rintro source rfl _
      exact Decoder.fromState_ok_iff.mp decoded

namespace Fields

variable {α : Type} {name : String} {absent : Option α} {decode : Decoder α}
  {entries : List (String × Json)}

theorem single_of_filled (sorted : Keyed.Sorted entries)
    (filled : isBlank (entries.lookup name) = false) {value : α}
    (decoded : (single name absent decode).ofEntries (Json.dropNullsEntries entries) = .ok value) :
    ∃ given, isBlank (some given) = false ∧ decode given.dropNulls = .ok value := by
  rcases (single_dropNulls_ok_iff sorted).mp decoded with ⟨given, found, _, read⟩ | ⟨none, _⟩
  · rw [found] at filled
    exact ⟨given, filled, read⟩
  · rcases none with missing | null
    · rw [missing] at filled
      cases filled
    · rw [null] at filled
      cases filled

theorem text_of_filled {absent : Option String} (sorted : Keyed.Sorted entries)
    (filled : isBlank (entries.lookup name) = false) {value : String}
    (decoded : (single name absent Decoder.text).ofEntries (Json.dropNullsEntries entries) =
      .ok value) : value ≠ "" := by
  obtain ⟨given, some, read⟩ := single_of_filled sorted filled decoded
  cases given with
  | str text =>
    rw [← Except.ok.inj read]
    simpa [isBlank] using some
  | _ => cases read

theorem blockList_of_filled {item : Decoder α} {absent : Option (List α)}
    (sorted : Keyed.Sorted entries) (filled : isBlank (entries.lookup name) = false)
    {values : List α}
    (decoded : (single name absent (Decoder.blockList item)).ofEntries
      (Json.dropNullsEntries entries) = .ok values) : values ≠ [] := by
  obtain ⟨given, some, read⟩ := single_of_filled sorted filled decoded
  cases given with
  | arr items =>
    cases items with
    | nil => cases some
    | cons first rest =>
      have listed : Decoder.items item (first.dropNulls :: Json.dropNullsItems rest) =
        .ok values := read
      rw [Decoder.items] at listed
      split at listed
      · cases listed
      · split at listed
        · cases listed
        · rw [← Except.ok.inj listed]
          exact List.cons_ne_nil _ _
  | null => cases some
  | _ => cases read

theorem integer_of_filled (sorted : Keyed.Sorted entries)
    (filled : isBlank (entries.lookup name) = false) {value : Option Int64}
    (decoded : (Fields.optional name Decoder.integer64).ofEntries
      (Json.dropNullsEntries entries) = .ok value) : value.isSome = true := by
  obtain ⟨given, some, read⟩ := single_of_filled sorted filled decoded
  cases given with
  | null => cases some
  | num number =>
    have integer : (Decoder.integer64 (.num number)).map Option.some = .ok value := read
    cases decoded : Decoder.integer64 (.num number) with
    | error fault =>
      rw [decoded] at integer
      cases integer
    | ok found =>
      rw [decoded] at integer
      rw [← Except.ok.inj integer]
      rfl
  | _ => cases read

end Fields

namespace Prepared

variable {kind : Kind Wire} {priorState : Json} {prior desired : kind.State}
  {changed : List String} {merged : List (String × Json)}

theorem same {α : Type} {decode : Decoder α} {empty : α} {source : List (String × Json)}
    {name : String} (prepared : Prepared kind (.obj source) prior desired changed merged)
    (sortedSource : Keyed.Sorted source) (plain : kind.schema.IsPlain name)
    (kept : name ∉ changed) (agrees : Fields.Agrees decode empty) {absent : Option α}
    (absentIs : ∀ value, absent = some value → value = empty) {before after : α}
    (decodedBefore : (Fields.single name absent decode).ofEntries
      (Json.dropNullsEntries source) = .ok before)
    (decodedAfter : (Fields.single name absent decode).ofEntries
      (Json.dropNullsEntries merged) = .ok after) : before = after := by
  apply Fields.single_of_unchanged agrees.respects agrees.blankIs absentIs sortedSource
    prepared.sorted _ decodedBefore decodedAfter
  rw [prepared.changes] at kept
  have agrees : kind.schema.agreesOn (.obj source) (.obj merged) name = true := by
    apply Decidable.byContradiction
    intro differs
    exact kept (List.mem_filter.mpr ⟨plain.1, by simpa using differs⟩)
  unfold Schema.agreesOn at agrees
  rw [plain.2] at agrees
  exact agrees

theorem same_value {α : Type} {decode : Decoder α} {empty : α} {source : List (String × Json)}
    {name : String} {absent : Option α}
    (prepared : Prepared kind (.obj source) prior desired changed merged)
    (value : kind.State → α) (sorted : Keyed.Sorted source) (kept : name ∉ changed)
    (plain : kind.schema.IsPlain name) (agrees : Fields.Agrees decode empty)
    (absentIs : ∀ other, absent = some other → other = empty)
    (reads : ∀ {entries state}, kind.decode (.obj entries) = .ok state →
      (Fields.single name absent decode).ofEntries entries = .ok (value state)) :
    value prior = value desired :=
  prepared.same sorted plain kept agrees absentIs (reads (prepared.known source rfl sorted))
    (reads prepared.decoded)

end Prepared

/-- For one kind the channels of all attributes that a configuration may set. -/
structure Delivery where
  api : Api
  channels : List (Channel api.kind.State)
  covers : channels.map Channel.name = api.kind.schema.configurableNames
  /-- A change is told by some write, unless its value has no place in one. -/
  delivers : ∀ {context : Context} {priorState : Json} {prior desired : api.kind.State}
    {changed : List String} {merged : List (String × Json)} {writes : List Write},
    Prepared api.kind priorState prior desired changed merged →
    api.writes context prior desired changed = .ok writes →
    ∀ channel ∈ channels, channel.isLocal = false → channel.name ∈ changed →
      ¬channel.same prior desired →
      ((∃ write ∈ writes, channel.tells prior desired write) ↔ ¬channel.lost desired)
  /-- What a write mentions it tells as desired, and unless it has changed that is as it was. -/
  keeps : ∀ {context : Context} {priorState : Json} {prior desired : api.kind.State}
    {changed : List String} {merged : List (String × Json)} {writes : List Write},
    Prepared api.kind priorState prior desired changed merged →
    api.writes context prior desired changed = .ok writes →
    ∀ write ∈ writes, ∀ channel ∈ channels, channel.mentions write →
      channel.tells prior desired write ∧ ∀ source, priorState = .obj source →
        Keyed.Sorted source → channel.name ∉ changed → channel.same prior desired

namespace BodyPart

variable {name key : String}

theorem lookup_present (value : Option Json) :
    (present name value).lookup key = if key = name then value else none := by
  cases value with
  | none => simp [present]
  | some value =>
    by_cases same : key = name
    · simp [present, same]
    · simp [present, same]

theorem lookup_text (value : String) :
    (text name value).lookup key =
      if key = name ∧ value ≠ "" then some (.str value) else none := by
  unfold text
  by_cases empty : value = ""
  · simp [empty]
  · by_cases same : key = name
    · simp [empty, same]
    · simp [empty, same]

theorem lookup_texts (values : List String) :
    (texts name values).lookup key =
      if key = name ∧ values ≠ [] then some (.strings values) else none := by
  unfold texts
  by_cases none : values = []
  · simp [none]
  · by_cases same : key = name
    · simp [none, same]
    · simp [none, same]

end BodyPart

open BodyPart (lookup_present lookup_text lookup_texts)

namespace Environment

theorem body_at_governance (s : State) :
    s.body.at ["stream_governance_config"] = (single? s.governance).map Governance.encode := by
  have entries : s.body.at ["stream_governance_config"] = List.lookup "stream_governance_config"
      (("display_name", .str s.displayName) :: BodyPart.present "stream_governance_config"
        ((single? s.governance).map Governance.encode)) := rfl
  rw [entries, List.lookup_cons, lookup_present]
  rfl

end Environment

namespace Network

theorem Spec.body_at (spec : Spec) (key : String) :
    spec.body.at ["spec", key] = List.lookup key (
      BodyPart.text "cidr" spec.cidr ++ BodyPart.text "cloud" spec.cloud
        ++ BodyPart.texts "connection_types" spec.connectionTypes
        ++ BodyPart.text "display_name" spec.displayName
        ++ BodyPart.present "environment" (some spec.environment.encode)
        ++ BodyPart.text "region" spec.region ++ BodyPart.texts "zones" spec.zones) := rfl

theorem changeBody_at (s : State) (key : String) :
    s.changeBody.at ["spec", key] =
      if key = "display_name" ∧ s.displayName ≠ "" then some (.str s.displayName)
      else if key = "environment" then some (Reference.encode ⟨s.environmentId⟩) else none := by
  unfold State.changeBody
  simp only [Spec.body_at, List.lookup_append, lookup_text, lookup_texts, lookup_present]
  by_cases named : key = "display_name" ∧ s.displayName ≠ ""
  · simp [named]
  · by_cases environment : key = "environment"
    · simp [environment]
    · simp [named, environment]

end Network

namespace FlinkComputePool

theorem Spec.body_at (spec : Spec) (key : String) :
    spec.body.at ["spec", key] = List.lookup key (
      BodyPart.text "cloud" spec.cloud ++ BodyPart.text "display_name" spec.displayName
        ++ BodyPart.present "environment" (some spec.environment.encode)
        ++ BodyPart.present "max_cfu" (spec.maxCfu.map Json.int64)
        ++ BodyPart.text "region" spec.region) := rfl

theorem changeBody_at (s : State) (changed : List String) (key : String) :
    (s.changeBody changed).at ["spec", key] =
      if key = "display_name" ∧ "display_name" ∈ changed ∧ s.displayName ≠ "" then
        some (.str s.displayName)
      else if key = "environment" then some (Reference.encode ⟨s.environmentId⟩)
      else if key = "max_cfu" ∧ "max_cfu" ∈ changed then s.maxCfu.map Json.int64 else none := by
  unfold State.changeBody
  simp only [Spec.body_at, List.lookup_append, lookup_text, lookup_present,
    List.contains_iff_mem]
  by_cases name : key = "display_name"
  · subst name
    by_cases renamed : "display_name" ∈ changed
    · simp [renamed]
    · simp [renamed]
  · by_cases environment : key = "environment"
    · simp [environment]
    · by_cases size : key = "max_cfu"
      · subst size
        by_cases resized : "max_cfu" ∈ changed
        · simp [resized]
        · simp [resized]
      · simp [name, environment, size]

end FlinkComputePool

namespace KafkaCluster

theorem Spec.body_at (spec : Spec) (key : String) :
    spec.body.at ["spec", key] = List.lookup key (
      BodyPart.text "availability" spec.availability ++ BodyPart.text "cloud" spec.cloud
        ++ BodyPart.present "config" (spec.config.map TypeConfig.encode)
        ++ BodyPart.text "display_name" spec.displayName
        ++ BodyPart.present "environment" (some spec.environment.encode)
        ++ BodyPart.present "network" (spec.network.map Reference.encode)
        ++ BodyPart.text "region" spec.region) := rfl

theorem changeBody_at (s : State) (changed : List String) (key : String) :
    (s.changeBody changed).at ["spec", key] =
      if key = "config" then
        if changed.any ClusterType.blockNames.contains then some s.typeConfig.encode else none
      else if key = "display_name" ∧ s.displayName ≠ "" then some (.str s.displayName)
      else if key = "environment" then some (Reference.encode ⟨s.environmentId⟩) else none := by
  unfold State.changeBody
  simp only [Spec.body_at, List.lookup_append, lookup_text, lookup_present]
  by_cases config : key = "config"
  · subst config
    by_cases retyped : changed.any ClusterType.blockNames.contains = true
    · simp [retyped]
    · simp [retyped]
  · by_cases name : key = "display_name"
    · subst name
      by_cases empty : s.displayName = ""
      · simp [empty]
      · simp [empty]
    · by_cases environment : key = "environment"
      · simp [environment]
      · simp [config, name, environment]

end KafkaCluster

namespace ItemKind

variable {item : ItemKind}

/-- The one write of an update of an item. -/
def patch (item : ItemKind) (desired : item.kind.State) (changed : List String) : Write :=
  ⟨.patch, item.target desired, some (item.change desired changed)⟩

/-- A channel that goes through the one write of an update. -/
structure Works (item : ItemKind) (channel : Channel item.kind.State) : Prop where
  delivers : ∀ {priorState : Json} {prior desired : item.kind.State} {changed : List String}
    {merged : List (String × Json)}, Prepared item.kind priorState prior desired changed merged →
    channel.name ∈ changed → ¬channel.same prior desired →
    (channel.tells prior desired (item.patch desired changed) ↔ ¬channel.lost desired)
  keeps : ∀ {priorState : Json} {prior desired : item.kind.State} {changed : List String}
    {merged : List (String × Json)}, Prepared item.kind priorState prior desired changed merged →
    channel.mentions (item.patch desired changed) →
    channel.tells prior desired (item.patch desired changed) ∧
      ∀ source, priorState = .obj source → Keyed.Sorted source → channel.name ∉ changed →
        channel.same prior desired

def delivery (item : ItemKind) (channels : List (Channel item.kind.State))
    (covers : channels.map Channel.name = item.kind.schema.configurableNames)
    (works : ∀ channel ∈ channels, item.Works channel) : Delivery where
  api := item.api
  channels := channels
  covers := covers
  delivers := by
    rintro context priorState prior desired changed merged writes prepared ⟨⟩ channel member _
      changes differs
    rw [← (works channel member).delivers prepared changes differs]
    simp only [List.mem_singleton, exists_eq_left]
    rfl
  keeps := by
    rintro context priorState prior desired changed merged writes prepared ⟨⟩ write inside channel
      member mentions
    obtain rfl := List.mem_singleton.mp inside
    exact (works channel member).keeps prepared mentions

/-- An attribute that never changes in place and that no PATCH mentions. -/
theorem works_of_unplaced {name : String} {keys : List String}
    {same : item.kind.State → item.kind.State → Prop} {told : item.kind.State → Option Json}
    (fixed : name ∉ item.kind.updatable)
    (unplaced : ∀ desired changed, (item.change desired changed).at keys = none) :
    item.Works (.field name keys same told) where
  delivers prepared changes _ := absurd (prepared.updatable name changes) fixed
  keeps := by
    intro priorState prior desired changed merged _ mentions
    have found : ((item.change desired changed).at keys).isSome = true := mentions
    rw [unplaced] at found
    cases found

/-- An attribute that a PATCH tells as it is desired, if it mentions it. -/
theorem works_of_field {name : String} {keys : List String}
    {same : item.kind.State → item.kind.State → Prop} {told : item.kind.State → Option Json}
    {lost : item.kind.State → Prop}
    (exact_of_found : ∀ {desired changed found},
      (item.change desired changed).at keys = some found → told desired = some found)
    (placed : ∀ {priorState prior desired changed merged},
      Prepared item.kind priorState prior desired changed merged → name ∈ changed →
        (((item.change desired changed).at keys).isSome = true ↔ ¬lost desired))
    (kept : ∀ {prior desired changed merged source},
      Prepared item.kind (.obj source) prior desired changed merged → Keyed.Sorted source →
        name ∉ changed → same prior desired) :
    item.Works (.field name keys same told lost) where
  delivers := by
    intro priorState prior desired changed merged prepared changes _
    refine Iff.trans ?_ (placed prepared changes)
    constructor
    · rintro ⟨some, found⟩
      have here : (item.change desired changed).at keys = told desired := found
      rw [here]
      exact some
    · intro mentioned
      obtain ⟨found, here⟩ := Option.isSome_iff_exists.mp mentioned
      refine ⟨?_, ?_⟩
      · rw [exact_of_found here]
        rfl
      · rw [exact_of_found here]
        exact here
  keeps := by
    intro priorState prior desired changed merged prepared mentions
    obtain ⟨found, here⟩ : ∃ found, (item.change desired changed).at keys = some found :=
      Option.isSome_iff_exists.mp mentions
    refine ⟨⟨?_, ?_⟩, ?_⟩
    · rw [exact_of_found here]
      rfl
    · rw [exact_of_found here]
      exact here
    · rintro source rfl sorted
      exact kept prepared sorted

/-- An attribute that a PATCH tells as it is desired, but not always. -/
theorem works_of_gated {name : String} {keys : List String}
    {same : item.kind.State → item.kind.State → Prop} {told : item.kind.State → Option Json}
    {lost : item.kind.State → Prop} (gate : item.kind.State → List String → Prop)
    [∀ desired changed, Decidable (gate desired changed)]
    (at_keys : ∀ desired changed, (item.change desired changed).at keys =
      if gate desired changed then told desired else none)
    (placed : ∀ {priorState prior desired changed merged},
      Prepared item.kind priorState prior desired changed merged → name ∈ changed →
        (gate desired changed ∧ (told desired).isSome = true ↔ ¬lost desired))
    (kept : ∀ {prior desired changed merged source},
      Prepared item.kind (.obj source) prior desired changed merged → Keyed.Sorted source →
        name ∉ changed → same prior desired) :
    item.Works (.field name keys same told lost) := by
  apply works_of_field _ _ kept
  · intro desired changed found here
    rw [at_keys] at here
    split at here
    · exact here
    · cases here
  · intro priorState prior desired changed merged prepared changes
    rw [at_keys, ← placed prepared changes]
    split
    · next opens => simp [opens]
    · next shut => simp [shut]

end ItemKind

theorem isSome_single {α β : Type} {f : α → β} {block : List α} (some : block ≠ []) :
    ((single? block).map f).isSome = true := by
  cases block with
  | nil => exact absurd rfl some
  | cons => rfl

theorem absent_none {α : Type} {empty : α} : ∀ value, none = some value → value = empty :=
  fun _ impossible => by cases impossible

theorem absent_some {α : Type} {empty : α} : ∀ value, some empty = some value → value = empty :=
  fun _ given => (Option.some.inj given).symm

end Provisioner

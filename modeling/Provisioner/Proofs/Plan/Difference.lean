import Provisioner.Proofs.Lifecycle.Replacement
import Provisioner.Proofs.Plan.Matching

/-!
# A plan is a difference

A plan of a change fills what the proposal leaves to the server and lists the names under which the
result differs from the prior state: each of them once, in the order of the schema, and no other.
Carrying out its changes on the prior state leaves nothing to change, and planning its result again
gives the same plan.
-/

namespace Provisioner

set_option autoImplicit false

theorem same_unordered_iff {items others : List Json} (unsigned : ∀ item ∈ items, item.Unsigned)
    (unsignedOthers : ∀ item ∈ others, item.Unsigned) :
    (unordered (.arr items)).same (unordered (.arr others)) = true ↔ items.Perm others := by
  have kept : ∀ {list : List Json}, (∀ item ∈ list, item.Unsigned) →
      Json.UnsignedItems (list.mergeSort fun a b => a.compact ≤ b.compact) := by
    intro list all
    exact Json.unsignedItems_iff.mpr fun item member => all item (List.mem_mergeSort.mp member)
  constructor
  · intro same
    simp only [unordered, Json.same] at same
    have ordered := Json.eq_of_sameItems (kept unsigned) (kept unsignedOthers) same
    exact (List.mergeSort_perm items _).symm.trans (ordered ▸ List.mergeSort_perm others _)
  · intro perm
    rw [unordered_of_perm perm]
    exact Json.same_self _

/-- Carries out a change: the new value takes the place of the old one, or the entry goes. -/
def Change.carryOut (entries : List (String × Json)) (change : Change) : List (String × Json) :=
  match change.after with
  | some value => Keyed.insert change.path value entries
  | none => Keyed.erase change.path entries

section CarryOut

variable {entries : List (String × Json)}

theorem sorted_carryOut (sorted : Keyed.Sorted entries) (change : Change) :
    Keyed.Sorted (change.carryOut entries) := by
  unfold Change.carryOut
  split
  · exact Keyed.sorted_insert _ _ sorted
  · exact Keyed.sorted_erase _ sorted

theorem lookup_carryOut_self (sorted : Keyed.Sorted entries) (change : Change) :
    (change.carryOut entries).lookup change.path = change.after := by
  unfold Change.carryOut
  split
  · next value given => rw [Keyed.lookup_insert_self, given]
  · next gone => rw [Keyed.lookup_erase_self _ sorted, gone]

theorem lookup_carryOut_of_ne {change : Change} {name : String} (other : name ≠ change.path) :
    (change.carryOut entries).lookup name = entries.lookup name := by
  unfold Change.carryOut
  split
  · exact Keyed.lookup_insert_of_ne _ other _
  · exact Keyed.lookup_erase_of_ne other

variable {changes : List Change}

theorem sorted_carryOut_all (sorted : Keyed.Sorted entries) :
    Keyed.Sorted (changes.foldl Change.carryOut entries) := by
  induction changes generalizing entries with
  | nil => exact sorted
  | cons change rest ih => exact ih (sorted_carryOut sorted change)

theorem lookup_carryOut_of_not_mem {name : String} (unnamed : name ∉ changes.map Change.path) :
    (changes.foldl Change.carryOut entries).lookup name = entries.lookup name := by
  induction changes generalizing entries with
  | nil => rfl
  | cons change rest ih =>
    rw [List.map_cons, List.mem_cons, not_or] at unnamed
    rw [List.foldl_cons, ih unnamed.2, lookup_carryOut_of_ne unnamed.1]

/-- Changes of different names do not undo each other. -/
theorem lookup_carryOut_of_mem (sorted : Keyed.Sorted entries)
    (distinct : (changes.map Change.path).Nodup) {change : Change} (member : change ∈ changes) :
    (changes.foldl Change.carryOut entries).lookup change.path = change.after := by
  induction changes generalizing entries with
  | nil => cases member
  | cons first rest ih =>
    rw [List.map_cons, List.nodup_cons] at distinct
    rw [List.foldl_cons]
    rcases List.mem_cons.mp member with rfl | later
    · rw [lookup_carryOut_of_not_mem distinct.1, lookup_carryOut_self sorted]
    · exact ih (sorted_carryOut sorted first) distinct.2 later

end CarryOut

namespace Schema

variable {schema : Schema} {source target merged : List (String × Json)} {name : String}

/-- The keys of a schema are in order, and no attribute has the name of a block. -/
structure Ordered (schema : Schema) : Prop where
  attributes : Keyed.Sorted schema.block.attributes
  blocks : Keyed.Sorted schema.block.blocks
  disjoint : ∀ a ∈ schema.block.attributes, ∀ b ∈ schema.block.blocks, a.1 ≠ b.1

/-- An attribute of the name meets the one condition, or a block of the name the other. -/
def Names (schema : Schema) (ofAttribute : Attribute → Bool) (ofNesting : Nesting → Bool)
    (name : String) : Prop :=
  (∃ a, (name, a) ∈ schema.block.attributes ∧ ofAttribute a = true) ∨
    ∃ nesting block, (name, nesting, block) ∈ schema.block.blocks ∧ ofNesting nesting = true

/-- The server fills the name where a configuration leaves it blank. -/
def Computed (schema : Schema) : String → Prop :=
  schema.Names (fun a => a.flags.computed) Nesting.computed

/-- A configuration may set the name. -/
def Configurable (schema : Schema) : String → Prop :=
  schema.Names (fun a => !a.flags.isComputedOnly) fun _ => true

/-- A change under the name replaces the object. -/
def Replacing (schema : Schema) : String → Prop :=
  schema.Names Attribute.forceNew Nesting.forceNew

theorem mem_computedNames_iff : name ∈ schema.computedNames ↔ schema.Computed name := by
  unfold computedNames Computed Names
  simp only [List.mem_append, List.mem_map, List.mem_filter, Prod.exists, exists_and_right,
    exists_eq_right]

theorem mem_configurableNames_iff :
    name ∈ schema.configurableNames ↔ schema.Configurable name := by
  unfold configurableNames Configurable Names
  simp only [List.mem_append, List.mem_map, List.mem_filter, Prod.exists, exists_and_right,
    exists_eq_right, and_true]

theorem isForceNew_iff (ordered : schema.Ordered) :
    schema.isForceNew name = true ↔ schema.Replacing name := by
  unfold isForceNew Replacing Names attribute? nesting?
  cases found : schema.block.attributes.lookup name with
  | some a =>
    have member := Keyed.mem_of_lookup found
    constructor
    · exact fun forced => Or.inl ⟨a, member, forced⟩
    · rintro (⟨a', member', forced⟩ | ⟨nesting, block, inBlocks, _⟩)
      · have same := found.symm.trans (Keyed.lookup_of_mem ordered.attributes member')
        rw [Option.some.inj same]
        exact forced
      · exact absurd rfl (ordered.disjoint _ member _ inBlocks)
  | none =>
    constructor
    · intro forced
      cases nested : schema.block.blocks.lookup name with
      | none =>
        rw [nested] at forced
        cases forced
      | some b =>
        rw [nested] at forced
        exact Or.inr ⟨b.1, b.2, Keyed.mem_of_lookup nested, forced⟩
    · rintro (⟨a, member, _⟩ | ⟨nesting, block, member, forced⟩)
      · rw [Keyed.lookup_of_mem ordered.attributes member] at found
        cases found
      · rw [Keyed.lookup_of_mem ordered.blocks member]
        exact forced

theorem nodup_configurableNames (ordered : schema.Ordered) :
    schema.configurableNames.Nodup := by
  unfold configurableNames
  refine List.nodup_append.mpr
    ⟨Keyed.nodup_keys (ordered.attributes.filter _), Keyed.nodup_keys ordered.blocks, ?_⟩
  intro key inAttributes other inBlocks
  obtain ⟨a, member, rfl⟩ := List.mem_map.mp inAttributes
  obtain ⟨b, memberBlocks, rfl⟩ := List.mem_map.mp inBlocks
  exact ordered.disjoint a (List.mem_filter.mp member).1 b memberBlocks

/-- Two values of one name that a plan should not tell apart: blank ones, equal ones, and sets with
the same items. -/
inductive Matches (schema : Schema) (name : String) : Option Json → Option Json → Prop
  | blank {before after : Option Json} (blankBefore : isBlank before = true)
      (blankAfter : isBlank after = true) : schema.Matches name before after
  | equal {before after : Option Json} (same : sameEntry before after = true) :
      schema.Matches name before after
  | reordered {items others : List Json} (isSet : schema.isSetName name = true)
      (perm : items.Perm others) : schema.Matches name (some (.arr items)) (some (.arr others))

/-- No item of a set holds a negative zero. -/
def UnsignedSets (schema : Schema) (entries : List (String × Json)) : Prop :=
  ∀ name items, schema.isSetName name = true → entries.lookup name = some (.arr items) →
    ∀ item ∈ items, item.Unsigned

theorem unchanged_iff {before after : Option Json} :
    unchanged before after = true ↔
      (isBlank before = true ∧ isBlank after = true) ∨ sameEntry before after = true := by
  unfold unchanged
  rw [Bool.or_eq_true, Bool.and_eq_true]

theorem matches_of_unordered (isSet : schema.isSetName name = true)
    (unsigned : schema.UnsignedSets source) (unsignedTarget : schema.UnsignedSets target)
    (same : sameEntry ((source.lookup name).map unordered)
      ((target.lookup name).map unordered) = true) :
    schema.Matches name (source.lookup name) (target.lookup name) := by
  cases found : source.lookup name with
  | none =>
    cases foundTarget : target.lookup name with
    | none => exact .equal rfl
    | some other =>
      rw [found, foundTarget] at same
      cases same
  | some value =>
    cases foundTarget : target.lookup name with
    | none =>
      rw [found, foundTarget] at same
      cases same
    | some other =>
      rw [found, foundTarget, Option.map_some, Option.map_some] at same
      cases value with
      | arr items =>
        cases other with
        | arr others =>
          exact .reordered isSet ((same_unordered_iff (unsigned name items isSet found)
            (unsignedTarget name others isSet foundTarget)).mp same)
        | _ => cases same
      | _ =>
        cases other with
        | arr others => cases same
        | _ => exact .equal same

theorem unchanged_unordered_of_same (isSet : schema.isSetName name = true)
    (unsigned : schema.UnsignedSets source) (unsignedTarget : schema.UnsignedSets target)
    (same : sameEntry (source.lookup name) (target.lookup name) = true) :
    unchanged ((source.lookup name).map unordered) ((target.lookup name).map unordered) = true := by
  cases found : source.lookup name with
  | none =>
    rw [found] at same
    cases foundTarget : target.lookup name with
    | none => rfl
    | some other =>
      rw [foundTarget] at same
      cases same
  | some value =>
    rw [found] at same
    cases foundTarget : target.lookup name with
    | none =>
      rw [foundTarget] at same
      cases same
    | some other =>
      rw [foundTarget] at same
      cases value with
      | arr items =>
        cases other with
        | arr others =>
          have unsignedItems := Json.unsignedItems_iff.mpr (unsigned name items isSet found)
          have unsignedOthers :=
            Json.unsignedItems_iff.mpr (unsignedTarget name others isSet foundTarget)
          rw [sameEntry, Json.same] at same
          rw [Json.eq_of_sameItems unsignedItems unsignedOthers same]
          exact unchanged_self _
        | _ => cases same
      | _ =>
        cases other with
        | arr others => cases same
        | _ => exact unchanged_iff.mpr (Or.inr same)

theorem agreesOn_iff (unsigned : schema.UnsignedSets source)
    (unsignedTarget : schema.UnsignedSets target) :
    schema.agreesOn (.obj source) (.obj target) name = true ↔
      schema.Matches name (source.lookup name) (target.lookup name) := by
  by_cases isSet : schema.isSetName name = true
  · unfold agreesOn
    rw [if_pos isSet]
    constructor
    · intro agrees
      rcases unchanged_iff.mp agrees with ⟨blank, blankTarget⟩ | same
      · rw [isBlank_unordered] at blank blankTarget
        exact .blank blank blankTarget
      · exact matches_of_unordered isSet unsigned unsignedTarget same
    · intro alike
      generalize before : source.lookup name = a at alike
      generalize after : target.lookup name = b at alike
      show unchanged ((source.lookup name).map unordered)
        ((target.lookup name).map unordered) = true
      cases alike with
      | blank blankBefore blankAfter =>
        rw [unchanged_iff, isBlank_unordered, isBlank_unordered, before, after]
        exact Or.inl ⟨blankBefore, blankAfter⟩
      | equal same =>
        exact unchanged_unordered_of_same isSet unsigned unsignedTarget (by rwa [before, after])
      | reordered _ perm =>
        rw [before, after, Option.map_some, Option.map_some, unordered_of_perm perm]
        exact unchanged_self _
  · unfold agreesOn
    rw [if_neg isSet]
    constructor
    · intro agrees
      rcases unchanged_iff.mp agrees with ⟨blank, blankTarget⟩ | same
      · exact .blank blank blankTarget
      · exact .equal same
    · intro alike
      apply unchanged_iff.mpr
      show isBlank (source.lookup name) = true ∧ isBlank (target.lookup name) = true ∨
        sameEntry (source.lookup name) (target.lookup name) = true
      generalize source.lookup name = before at alike
      generalize target.lookup name = after at alike
      cases alike with
      | blank blankBefore blankAfter => exact Or.inl ⟨blankBefore, blankAfter⟩
      | equal same => exact Or.inr same
      | reordered set => exact absurd set isSet

/-- What a plan makes of a proposal. -/
structure Fills (schema : Schema) (source target merged : List (String × Json)) : Prop where
  sorted : Keyed.Sorted merged
  taken : ∀ name value, schema.Computed name → isBlank (target.lookup name) = true →
    source.lookup name = some value → merged.lookup name = some value
  kept : ∀ name, ¬(schema.Computed name ∧ isBlank (target.lookup name) = true ∧
    source.lookup name ≠ none) → merged.lookup name = target.lookup name

/-- The changes lead from one object to another one, none of them in vain. -/
structure Leads (schema : Schema) (source merged : List (String × Json)) (changes : List Change) :
    Prop where
  inOrder : (changes.map Change.path).Sublist schema.configurableNames
  once : (changes.map Change.path).Nodup
  differs_iff : ∀ name, name ∈ changes.map Change.path ↔
    schema.Configurable name ∧ ¬schema.Matches name (source.lookup name) (merged.lookup name)
  sides : ∀ change ∈ changes, change.before = unlessBlank (source.lookup change.path) ∧
    change.after = unlessBlank (merged.lookup change.path) ∧
    ¬(change.before = none ∧ change.after = none) ∧
    sameEntry change.before change.after = false
  reachedSorted : Keyed.Sorted (changes.foldl Change.carryOut source)
  arrives :
    schema.changedNames (.obj (changes.foldl Change.carryOut source)) (.obj merged) = []

theorem fills_merge (schema : Schema) (source : List (String × Json))
    (sorted : Keyed.Sorted target) :
    schema.Fills source target (schema.computedNames.foldl (takeMissing source) target) where
  sorted := sorted_merge source _ sorted
  taken := by
    intro name value computed blank given
    rw [lookup_merge_of_mem source target (mem_computedNames_iff.mpr computed), if_pos blank,
      given]
    rfl
  kept := by
    intro name unfilled
    rcases lookup_merge_cases source target schema.computedNames name with
      kept | ⟨computed, blank, value, given, _⟩
    · exact kept
    · have present : source.lookup name ≠ none := by
        rw [given]
        exact Option.some_ne_none value
      exact absurd ⟨mem_computedNames_iff.mp computed, blank, present⟩ unfilled

/-- What a merge takes from the prior state has no negative zero, as nothing there has one. -/
theorem Fills.unsigned (fills : schema.Fills source target merged)
    (unsigned : schema.UnsignedSets source) (unsignedTarget : schema.UnsignedSets target) :
    schema.UnsignedSets merged := by
  intro name items isSet found
  by_cases filled : schema.Computed name ∧ isBlank (target.lookup name) = true ∧
    source.lookup name ≠ none
  · obtain ⟨computed, blank, present⟩ := filled
    obtain ⟨value, given⟩ := Option.ne_none_iff_exists'.mp present
    rw [fills.taken name value computed blank given] at found
    exact unsigned name items isSet (given.trans found)
  · rw [fills.kept name filled] at found
    exact unsignedTarget name items isSet found

/-- A change of a plan, between two objects. -/
def changeOf (schema : Schema) (source merged : List (String × Json)) (name : String) : Change where
  path := name
  before := unlessBlank (source.lookup name)
  after := unlessBlank (merged.lookup name)
  requiresReplace := schema.isForceNew name

theorem plan_obj (schema : Schema) (source target : List (String × Json)) :
    schema.plan (some (.obj source)) (.obj target) =
      .ofChanges (.obj (schema.computedNames.foldl (takeMissing source) target))
        ((schema.changedNames (.obj source)
          (.obj (schema.computedNames.foldl (takeMissing source) target))).map
          (schema.changeOf source (schema.computedNames.foldl (takeMissing source) target))) :=
  rfl

theorem paths_changeOf (names : List String) :
    (names.map (schema.changeOf source merged)).map Change.path = names := by
  rw [List.map_map]
  exact List.map_id _

theorem mem_changedNames_iff {prior desired : Json} :
    name ∈ schema.changedNames prior desired ↔
      name ∈ schema.configurableNames ∧ ¬schema.agreesOn prior desired name = true := by
  unfold changedNames
  rw [List.mem_filter, Bool.not_eq_true, Bool.not_eq_true']

theorem unlessBlank_of_blank {value : Option Json} (blank : isBlank value = true) :
    unlessBlank value = none := if_pos blank

theorem unlessBlank_of_not_blank {value : Option Json} (filled : isBlank value = false) :
    unlessBlank value = value := if_neg (Bool.eq_false_iff.mp filled)

theorem sides_differ {before after : Option Json} (differs : ¬schema.Matches name before after) :
    sameEntry (unlessBlank before) (unlessBlank after) = false := by
  apply Bool.eq_false_iff.mpr
  intro same
  cases blank : isBlank before with
  | true =>
    cases blankAfter : isBlank after with
    | true => exact differs (.blank blank blankAfter)
    | false =>
      rw [unlessBlank_of_blank blank, unlessBlank_of_not_blank blankAfter] at same
      cases after with
      | none => cases blankAfter
      | some value => cases same
  | false =>
    cases blankAfter : isBlank after with
    | true =>
      rw [unlessBlank_of_not_blank blank, unlessBlank_of_blank blankAfter] at same
      cases before with
      | none => cases blank
      | some value => cases same
    | false =>
      rw [unlessBlank_of_not_blank blank, unlessBlank_of_not_blank blankAfter] at same
      exact differs (.equal same)

theorem agreesOn_congr_prior {others : List (String × Json)} {desired : Json}
    (same : source.lookup name = others.lookup name) :
    schema.agreesOn (.obj source) desired name = schema.agreesOn (.obj others) desired name := by
  unfold agreesOn Json.get?
  simp only [same]

/-- Where a change was carried out nothing is left to change. -/
theorem agreesOn_after {reached : List (String × Json)}
    (there : reached.lookup name = unlessBlank (merged.lookup name)) :
    schema.agreesOn (.obj reached) (.obj merged) name = true := by
  cases blank : isBlank (merged.lookup name) with
  | true =>
    rw [unlessBlank_of_blank blank] at there
    exact agreesOn_of_blank (isBlank_of_none there) blank
  | false =>
    rw [unlessBlank_of_not_blank blank] at there
    exact agreesOn_of_eq there

theorem changedNames_after (sorted : Keyed.Sorted source)
    (once : (schema.changedNames (.obj source) (.obj merged)).Nodup) :
    schema.changedNames (.obj (((schema.changedNames (.obj source) (.obj merged)).map
      (schema.changeOf source merged)).foldl Change.carryOut source)) (.obj merged) = [] := by
  have paths : ((schema.changedNames (.obj source) (.obj merged)).map
      (schema.changeOf source merged)).map Change.path =
        schema.changedNames (.obj source) (.obj merged) := paths_changeOf _
  apply List.filter_eq_nil_iff.mpr
  intro name configurable
  rw [Bool.not_eq_true', Bool.not_eq_false]
  by_cases changed : name ∈ schema.changedNames (.obj source) (.obj merged)
  · rw [← paths] at once
    exact agreesOn_after (lookup_carryOut_of_mem sorted once (List.mem_map_of_mem changed))
  · have unnamed := changed
    rw [← paths] at unnamed
    rw [agreesOn_congr_prior (lookup_carryOut_of_not_mem unnamed)]
    rw [mem_changedNames_iff, not_and, Classical.not_not] at changed
    exact changed configurable

theorem leads_of_changedNames (ordered : schema.Ordered) (sorted : Keyed.Sorted source)
    (unsigned : schema.UnsignedSets source) (unsignedMerged : schema.UnsignedSets merged) :
    schema.Leads source merged ((schema.changedNames (.obj source) (.obj merged)).map
      (schema.changeOf source merged)) := by
  have sublist : (schema.changedNames (.obj source) (.obj merged)).Sublist
      schema.configurableNames := List.filter_sublist
  have once := (nodup_configurableNames ordered).sublist sublist
  have differs : ∀ name, name ∈ schema.changedNames (.obj source) (.obj merged) ↔
      schema.Configurable name ∧
        ¬schema.Matches name (source.lookup name) (merged.lookup name) := by
    intro name
    rw [mem_changedNames_iff, mem_configurableNames_iff, agreesOn_iff unsigned unsignedMerged]
  refine ⟨?_, ?_, ?_, ?_, sorted_carryOut_all sorted, changedNames_after sorted once⟩
  · rw [paths_changeOf]
    exact sublist
  · rw [paths_changeOf]
    exact once
  · intro name
    rw [paths_changeOf]
    exact differs name
  · intro change member
    obtain ⟨name, changed, rfl⟩ := List.mem_map.mp member
    have apart := sides_differ ((differs name).mp changed).2
    refine ⟨rfl, rfl, ?_, apart⟩
    rintro ⟨noBefore, noAfter⟩
    have equal : sameEntry (schema.changeOf source merged name).before
        (schema.changeOf source merged name).after = true := by
      rw [noBefore, noAfter]
      rfl
    exact Bool.eq_false_iff.mp apart equal

/-- A plan of a change is the difference between the prior state and what it makes of the proposal:
complete, without repetition or idle changes, and stable. -/
theorem plan_difference (ordered : schema.Ordered) (sorted : Keyed.Sorted source)
    (sortedTarget : Keyed.Sorted target) (unsigned : schema.UnsignedSets source)
    (unsignedTarget : schema.UnsignedSets target) :
    ∃ merged, (schema.plan (some (.obj source)) (.obj target)).plannedState = .obj merged ∧
      schema.Fills source target merged ∧
      schema.Leads source merged (schema.plan (some (.obj source)) (.obj target)).changes ∧
      ((schema.plan (some (.obj source)) (.obj target)).requiresReplace = true ↔
        ∃ change ∈ (schema.plan (some (.obj source)) (.obj target)).changes,
          schema.Replacing change.path) ∧
      schema.plan (some (.obj source)) (.obj merged) =
        schema.plan (some (.obj source)) (.obj target) := by
  have fills := fills_merge schema source sortedTarget
  refine ⟨schema.computedNames.foldl (takeMissing source) target, rfl, fills, ?_, ?_, ?_⟩
  · exact leads_of_changedNames ordered sorted unsigned (fills.unsigned unsigned unsignedTarget)
  · simp only [plan_obj, Plan.ofChanges, List.any_eq_true]
    apply exists_congr
    intro change
    apply and_congr_right
    intro member
    obtain ⟨name, _, rfl⟩ := List.mem_map.mp member
    exact isForceNew_iff ordered
  · rw [plan_obj, plan_obj, merge_idempotent source _ sortedTarget]

end Schema

namespace Network

/-- A network in one region, as it was recorded. -/
def settled : List (String × Json) := [
  ("cidr", .str "10.0.0.0/16"),
  ("cloud", .str "AWS"),
  ("connection_types", .strings ["PEERING", "PRIVATELINK"]),
  ("display_name", .str "net"),
  ("environment", .arr [.obj [("id", .str "env-1")]]),
  ("id", .str "n-1"),
  ("region", .str "eu-1"),
  ("zones", .strings ["a", "b"])]

/-- The same network in another region, with one of its sets in another order. -/
def moved : List (String × Json) := [
  ("cidr", .null),
  ("cloud", .str "AWS"),
  ("connection_types", .strings ["PRIVATELINK", "PEERING"]),
  ("display_name", .str ""),
  ("environment", .arr [.obj [("id", .str "env-1")]]),
  ("region", .str "us-1"),
  ("zones", .arr [])]

theorem ordered_schema : schema.Ordered where
  attributes := Keyed.sorted_of_keys _ rfl (by decide)
  blocks := List.pairwise_singleton _ _
  disjoint := by
    intro a member b inBlocks
    obtain rfl := List.mem_singleton.mp inBlocks
    have distinct : ∀ key ∈ schema.block.attributes.map Prod.fst, key ≠ "environment" := by decide
    exact distinct a.1 (List.mem_map_of_mem member)

theorem unsigned_of_texts {entries : List (String × Json)}
    (texts : ∀ entry ∈ entries, ∀ items, entry.2 = .arr items →
      schema.isSetName entry.1 = true → ∃ list : List String, items = list.map .str) :
    schema.UnsignedSets entries := by
  intro name items isSet found item member
  obtain ⟨list, rfl⟩ := texts _ (Keyed.mem_of_lookup found) items rfl isSet
  obtain ⟨text, _, rfl⟩ := List.mem_map.mp member
  exact trivial

theorem unsigned_settled : schema.UnsignedSets settled := by
  apply unsigned_of_texts
  intro entry member items isList isSet
  simp only [settled, List.mem_cons, List.not_mem_nil, or_false] at member
  rcases member with rfl | rfl | rfl | rfl | rfl | rfl | rfl | rfl
  · cases isList
  · cases isList
  · exact ⟨_, (Json.arr.inj isList).symm⟩
  · cases isList
  · cases isSet
  · cases isList
  · cases isList
  · exact ⟨_, (Json.arr.inj isList).symm⟩

theorem unsigned_moved : schema.UnsignedSets moved := by
  apply unsigned_of_texts
  intro entry member items isList isSet
  simp only [moved, List.mem_cons, List.not_mem_nil, or_false] at member
  rcases member with rfl | rfl | rfl | rfl | rfl | rfl | rfl
  · cases isList
  · cases isList
  · exact ⟨_, (Json.arr.inj isList).symm⟩
  · cases isList
  · cases isSet
  · cases isList
  · exact ⟨[], (Json.arr.inj isList).symm⟩

/-- The plan of a network that is to move. -/
theorem plan_difference_moved :
    schema.Ordered ∧ Keyed.Sorted settled ∧ Keyed.Sorted moved ∧ schema.UnsignedSets settled ∧
    schema.UnsignedSets moved ∧
    ∃ merged, (schema.plan (some (.obj settled)) (.obj moved)).plannedState = .obj merged ∧
      schema.Fills settled moved merged ∧
      schema.Leads settled merged (schema.plan (some (.obj settled)) (.obj moved)).changes ∧
      ((schema.plan (some (.obj settled)) (.obj moved)).requiresReplace = true ↔
        ∃ change ∈ (schema.plan (some (.obj settled)) (.obj moved)).changes,
          schema.Replacing change.path) ∧
      schema.plan (some (.obj settled)) (.obj merged) =
        schema.plan (some (.obj settled)) (.obj moved) := by
  have sortedSettled : Keyed.Sorted settled := Keyed.sorted_of_keys _ rfl (by decide)
  have sortedMoved : Keyed.Sorted moved := Keyed.sorted_of_keys _ rfl (by decide)
  exact ⟨ordered_schema, sortedSettled, sortedMoved, unsigned_settled, unsigned_moved,
    Schema.plan_difference ordered_schema sortedSettled sortedMoved unsigned_settled
      unsigned_moved⟩

end Network

end Provisioner

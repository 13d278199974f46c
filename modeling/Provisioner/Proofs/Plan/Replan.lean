import Provisioner.Proofs.Keyed
import Provisioner.Proofs.Plan.Merge

/-!
# Planning a planned state

A merge fills what the configuration leaves blank, so a second merge with the same prior state finds
nothing to fill. And it stays valid, as long as what the prior state has to give is valid: a merge
sets no other name, and the groups of a schema name nothing that is computed.
-/

namespace Provisioner

set_option autoImplicit false

section Merge

variable {source target : List (String × Json)}

theorem takeMissing_of_filled (sorted : Keyed.Sorted target) {name : String}
    (filled : isBlank (target.lookup name) = true → ∀ value, source.lookup name = some value →
      target.lookup name = some value) : takeMissing source target name = target := by
  unfold takeMissing
  by_cases blank : isBlank (target.lookup name) = true
  · rw [if_pos blank]
    cases given : source.lookup name with
    | none => rfl
    | some value => exact Keyed.insert_of_lookup sorted (filled blank value given)
  · rw [if_neg blank]

theorem merge_of_filled (sorted : Keyed.Sorted target) {names : List String}
    (filled : ∀ name ∈ names, isBlank (target.lookup name) = true → ∀ value,
      source.lookup name = some value → target.lookup name = some value) :
    names.foldl (takeMissing source) target = target := by
  induction names with
  | nil => rfl
  | cons name rest ih =>
    have first := takeMissing_of_filled sorted (filled name List.mem_cons_self)
    rw [List.foldl_cons, first]
    exact ih fun other member => filled other (List.mem_cons_of_mem _ member)

/-- What a merge has under a name is what the configuration has there, unless that is blank and the
prior state has something. -/
theorem lookup_merge_cases (source target : List (String × Json)) (names : List String)
    (name : String) :
    (names.foldl (takeMissing source) target).lookup name = target.lookup name ∨
      name ∈ names ∧ isBlank (target.lookup name) = true ∧ ∃ value,
        source.lookup name = some value ∧
          (names.foldl (takeMissing source) target).lookup name = some value := by
  by_cases member : name ∈ names
  · rw [lookup_merge_of_mem source target member]
    by_cases blank : isBlank (target.lookup name) = true
    · rw [if_pos blank]
      cases given : source.lookup name with
      | none => exact Or.inl rfl
      | some value => exact Or.inr ⟨member, blank, value, rfl, rfl⟩
    · rw [if_neg blank]
      exact Or.inl rfl
  · exact Or.inl (lookup_merge_of_not_mem member)

theorem merge_idempotent (source : List (String × Json)) (names : List String)
    (sorted : Keyed.Sorted target) :
    names.foldl (takeMissing source) (names.foldl (takeMissing source) target) =
      names.foldl (takeMissing source) target := by
  apply merge_of_filled (sorted_merge source names sorted)
  intro name member blank value given
  have merged := lookup_merge_of_mem source target member
  by_cases blankBefore : isBlank (target.lookup name) = true
  · rw [merged, if_pos blankBefore, given]
    rfl
  · rw [merged, if_neg blankBefore] at blank
    exact absurd blank blankBefore

end Merge

theorem mergeComputed_idempotent (schema : Schema) (prior : Json) {config : Json}
    (wellFormed : config.WellFormed) :
    schema.mergeComputed prior (schema.mergeComputed prior config) =
      schema.mergeComputed prior config := by
  cases prior with
  | obj source =>
    cases config with
    | obj target =>
      rw [mergeComputed_obj, mergeComputed_obj, merge_idempotent source _ wellFormed.1]
    | _ => rfl
  | _ => rfl

/-- What is wrong with one nested block of an object. -/
def Nesting.checkEntry (nesting : Nesting) (block : Block) (value : Option Json) (path : String) :
    List Diagnostic :=
  match value with
  | none | some .null => nesting.check [] path
  | some (.arr items) =>
    nesting.check items path
      ++ items.zipIdx.flatMap fun item => block.check item.1 (itemPath path item.2)
  | some other => [notAList other path]

theorem checkNested_eq_flatMap (blocks : List (String × Nesting × Block))
    (entries : List (String × Json)) (path : String) :
    checkNested blocks entries path =
      blocks.flatMap fun b => b.2.1.checkEntry b.2.2 (entries.lookup b.1) (joinPath path b.1) := by
  induction blocks with
  | nil => rw [checkNested]; rfl
  | cons head rest ih =>
    obtain ⟨name, nesting, block⟩ := head
    rw [checkNested, ih]
    rfl

theorem checkGroup_congr {source target : List (String × Json)} {group : List String}
    (same : ∀ name ∈ group, source.lookup name = target.lookup name) (path : String) :
    checkGroup source path group = checkGroup target path group := by
  have members : setMembers group source = setMembers group target := by
    apply List.filter_congr
    intro name member
    rw [same name member]
  unfold checkGroup
  rw [members]

theorem Block.check_obj (block : Block) (entries : List (String × Json)) (path : String) :
    block.check (.obj entries) path =
      (block.attributes.flatMap fun a => a.2.check (entries.lookup a.1) (joinPath path a.1))
        ++ (block.blocks.flatMap fun b =>
          b.2.1.checkEntry b.2.2 (entries.lookup b.1) (joinPath path b.1))
        ++ block.exactlyOneOf.flatMap (checkGroup entries path) := by
  obtain ⟨attributes, blocks, groups, description⟩ := block
  rw [Block.check, checkNested_eq_flatMap]

namespace Schema

variable {schema : Schema} {source target : List (String × Json)}

theorem validate_obj (schema : Schema) (entries : List (String × Json)) :
    schema.validate (.obj entries) =
      (schema.block.attributes.flatMap fun a => a.2.check (entries.lookup a.1) (joinPath "" a.1))
        ++ (schema.block.blocks.flatMap fun b =>
          b.2.1.checkEntry b.2.2 (entries.lookup b.1) (joinPath "" b.1))
        ++ schema.block.exactlyOneOf.flatMap (checkGroup entries "") :=
  schema.block.check_obj entries ""

/-- What a prior state has under the computed names passes validation. -/
structure Accepts (schema : Schema) (source : List (String × Json)) : Prop where
  attributes : ∀ a ∈ schema.block.attributes, a.1 ∈ schema.computedNames → ∀ value,
    source.lookup a.1 = some value → a.2.check (some value) (joinPath "" a.1) = []
  blocks : ∀ b ∈ schema.block.blocks, b.1 ∈ schema.computedNames → ∀ value,
    source.lookup b.1 = some value → b.2.1.checkEntry b.2.2 (some value) (joinPath "" b.1) = []
  groups : ∀ group ∈ schema.block.exactlyOneOf, ∀ name ∈ group, name ∉ schema.computedNames

theorem Accepts.validate_merge (accepts : schema.Accepts source) {found : Diagnostic}
    (wrong : found ∈
      schema.validate (.obj (schema.computedNames.foldl (takeMissing source) target))) :
    found ∈ schema.validate (.obj target) := by
  rw [validate_obj, List.mem_append, List.mem_append] at wrong ⊢
  rcases wrong with (inAttribute | inBlock) | inGroup
  · obtain ⟨a, member, at_a⟩ := List.mem_flatMap.mp inAttribute
    refine Or.inl (Or.inl (List.mem_flatMap.mpr ⟨a, member, ?_⟩))
    rcases lookup_merge_cases source target schema.computedNames a.1 with
      kept | ⟨computed, _, value, given, taken⟩
    · rw [kept] at at_a
      exact at_a
    · rw [taken, accepts.attributes a member computed value given] at at_a
      cases at_a
  · obtain ⟨b, member, at_b⟩ := List.mem_flatMap.mp inBlock
    refine Or.inl (Or.inr (List.mem_flatMap.mpr ⟨b, member, ?_⟩))
    rcases lookup_merge_cases source target schema.computedNames b.1 with
      kept | ⟨computed, _, value, given, taken⟩
    · rw [kept] at at_b
      exact at_b
    · rw [taken, accepts.blocks b member computed value given] at at_b
      cases at_b
  · obtain ⟨group, member, at_group⟩ := List.mem_flatMap.mp inGroup
    refine Or.inr (List.mem_flatMap.mpr ⟨group, member, ?_⟩)
    rw [checkGroup_congr fun name inside =>
      lookup_merge_of_not_mem (accepts.groups group member name inside)] at at_group
    exact at_group

theorem ensureValid_ok_iff {config : Json} :
    schema.ensureValid config = .ok () ↔
      ∀ found ∈ schema.validate config, found.isError = false := by
  have empty : ((schema.validate config).filter Diagnostic.isError).isEmpty = true ↔
      ∀ found ∈ schema.validate config, found.isError = false := by
    rw [List.isEmpty_iff, List.filter_eq_nil_iff]
    simp only [Bool.not_eq_true]
  rw [← empty]
  unfold ensureValid
  simp only
  split
  · next none => simp only [none]
  · next some => simp only [refuse, reduceCtorEq, some]

theorem Accepts.ensureValid_merge (accepts : schema.Accepts source) {config : Json}
    (valid : schema.ensureValid config = .ok ()) :
    schema.ensureValid (schema.mergeComputed (.obj source) config) = .ok () := by
  rcases obj_of_ensureValid valid with rfl | ⟨target, rfl⟩
  · exact valid
  · rw [mergeComputed_obj]
    rw [ensureValid_ok_iff] at valid ⊢
    intro found wrong
    exact valid found (accepts.validate_merge wrong)

/-- Planning what was planned gives the same plan. -/
theorem plan_idempotent (schema : Schema) (prior : Json) {config : Json}
    (wellFormed : config.WellFormed) :
    schema.plan (some prior) (schema.plan (some prior) config).plannedState =
      schema.plan (some prior) config := by
  unfold plan planChange
  simp only [Plan.ofChanges]
  rw [mergeComputed_idempotent schema prior wellFormed]

end Schema

namespace Lifecycle

variable {σ : Type} {l : Lifecycle σ}

theorem update_congr [Peer σ] {context : Context} {priorState config other : Json}
    (same : ∀ prior, l.prepareUpdate priorState config prior =
      l.prepareUpdate priorState other prior) :
    l.update context priorState config = l.update context priorState other := by
  unfold update
  simp only [same]

/-- An update to a planned state is the update to what was planned. -/
theorem update_planned [Peer σ] {source : List (String × Json)} {config : Json}
    (accepts : l.kind.schema.Accepts source) (wellFormed : config.WellFormed)
    (valid : l.kind.schema.ensureValid config = .ok ()) (context : Context) :
    l.update context (.obj source) (l.kind.schema.mergeComputed (.obj source) config) =
      l.update context (.obj source) config := by
  apply update_congr
  intro prior
  unfold prepareUpdate
  rw [accepts.ensureValid_merge valid, valid, mergeComputed_idempotent _ _ wellFormed]

end Lifecycle

end Provisioner

import Provisioner.Proofs.Plan.Matching

/-!
# Null entries

Checks, plans and decoders take a null entry for an absent one, so none of them sees whether the
null entries of an object are left out. Only a merge tells them apart: a null in the prior state
covers what is blank in the proposal, which shows once the null is left out. A plan takes all blank
values for the same and does not notice.
-/

namespace Provisioner

set_option autoImplicit false

namespace Json

/-- The entries without those of the given names that are null. -/
def omitNullEntries (names : List String) (entries : List (String × Json)) :
    List (String × Json) :=
  entries.filter fun entry => !(names.contains entry.1 && entry.2.isNull)

/-- An object without its null entries of the given names. Other values stay as they are. -/
def omitNulls (names : List String) : Json → Json
  | .obj entries => .obj (omitNullEntries names entries)
  | value => value

variable {names : List String} {key : String}

theorem eq_null_of_isNull {value : Json} (null : value.isNull = true) : value = .null := by
  cases value with
  | null => rfl
  | _ => cases null

theorem dropNullsEntries_omitNullEntries (names : List String) (entries : List (String × Json)) :
    dropNullsEntries (omitNullEntries names entries) = dropNullsEntries entries := by
  induction entries with
  | nil => rfl
  | cons head rest ih =>
    obtain ⟨key, value⟩ := head
    unfold omitNullEntries at ih ⊢
    rw [List.filter_cons]
    split
    · rw [dropNullsEntries, dropNullsEntries, ih]
    · next omitted =>
      have null : value.isNull = true := by simp_all
      rw [dropNullsEntries, if_pos null, ih]

theorem dropNulls_omitNulls (names : List String) (value : Json) :
    (value.omitNulls names).dropNulls = value.dropNulls := by
  cases value with
  | obj entries => exact congrArg Json.obj (dropNullsEntries_omitNullEntries names entries)
  | _ => rfl

section Entries

variable {entries : List (String × Json)}

theorem sorted_omitNullEntries (sorted : Keyed.Sorted entries) (names : List String) :
    Keyed.Sorted (omitNullEntries names entries) :=
  sorted.filter _

theorem lookup_omitNullEntries (sorted : Keyed.Sorted entries) (names : List String)
    (key : String) :
    (omitNullEntries names entries).lookup key = entries.lookup key ∨
      key ∈ names ∧ entries.lookup key = some .null ∧
        (omitNullEntries names entries).lookup key = none := by
  unfold omitNullEntries
  rw [Keyed.lookup_filter sorted fun name value => !(names.contains name && value.isNull)]
  cases found : entries.lookup key with
  | none => exact Or.inl rfl
  | some value =>
    rw [Option.filter_some]
    by_cases omitted : (names.contains key && value.isNull) = true
    · rw [Bool.and_eq_true, List.contains_iff_mem] at omitted
      refine Or.inr ⟨omitted.1, by rw [eq_null_of_isNull omitted.2], ?_⟩
      simp [omitted]
    · exact Or.inl (by simp_all)

theorem lookup_omitNullEntries_of_null (sorted : Keyed.Sorted entries) (listed : key ∈ names)
    (null : entries.lookup key = some .null) :
    (omitNullEntries names entries).lookup key = none := by
  unfold omitNullEntries
  rw [Keyed.lookup_filter sorted fun name value => !(names.contains name && value.isNull), null]
  simp [listed, isNull]

theorem blind_omitNullEntries {α : Type} (see : Option Json → α)
    (blind : see (some .null) = see none) (sorted : Keyed.Sorted entries) (names : List String)
    (key : String) :
    see ((omitNullEntries names entries).lookup key) = see (entries.lookup key) := by
  rcases lookup_omitNullEntries sorted names key with same | ⟨_, null, gone⟩
  · rw [same]
  · rw [gone, null, blind]

end Entries

theorem get?_omitNulls {value : Json} (wellFormed : value.WellFormed) (names : List String)
    (key : String) :
    (value.omitNulls names).get? key = value.get? key ∨
      key ∈ names ∧ value.get? key = some .null ∧ (value.omitNulls names).get? key = none := by
  cases value with
  | obj entries => exact lookup_omitNullEntries wellFormed.1 names key
  | _ => exact Or.inl rfl

end Json

/-- The same value, or two blank ones. -/
def SameOrBlank (a b : Option Json) : Prop := a = b ∨ isBlank a = true ∧ isBlank b = true

theorem isBlank_of_same : ∀ {a b : Json}, a.same b = true → isBlank (some a) = isBlank (some b)
  | .null, .null, _ | .bool _, .bool _, _ | .num _, .num _, _ => rfl
  | .str text, .str text', same => by
    have equal : text = text' := by simpa [Json.same] using same
    rw [equal]
  | .arr [], .arr [], _ | .arr (_ :: _), .arr (_ :: _), _ => rfl
  | .obj [], .obj [], _ | .obj (_ :: _), .obj (_ :: _), _ => rfl

theorem isBlank_of_sameEntry {a b : Option Json} (same : sameEntry a b = true) :
    isBlank a = isBlank b := by
  cases a with
  | none =>
    cases b with
    | none => rfl
    | some b => cases same
  | some a =>
    cases b with
    | none => cases same
    | some b => exact isBlank_of_same same

/-- A blank value is unchanged exactly where the other one is blank, too. -/
theorem unchanged_of_blank {a b : Option Json} (blank : isBlank a = true ∨ isBlank b = true) :
    unchanged a b = (isBlank a && isBlank b) := by
  cases both : isBlank a && isBlank b with
  | true => rw [unchanged, both, Bool.true_or]
  | false =>
    rw [unchanged, both, Bool.false_or]
    apply Bool.eq_false_iff.mpr
    intro same
    rw [isBlank_of_sameEntry same, Bool.and_self] at both
    rw [isBlank_of_sameEntry same, both] at blank
    simp at blank

namespace SameOrBlank

variable {a a' b b' : Option Json}

theorem isBlank_eq (alike : SameOrBlank a b) : isBlank a = isBlank b := by
  rcases alike with rfl | ⟨blank, blankOther⟩
  · rfl
  · rw [blank, blankOther]

theorem unordered (alike : SameOrBlank a b) :
    SameOrBlank (a.map Provisioner.unordered) (b.map Provisioner.unordered) := by
  rcases alike with rfl | ⟨blank, blankOther⟩
  · exact Or.inl rfl
  · exact Or.inr ⟨(isBlank_unordered a).trans blank, (isBlank_unordered b).trans blankOther⟩

theorem unlessBlank_eq (alike : SameOrBlank a b) :
    Schema.unlessBlank a = Schema.unlessBlank b := by
  rcases alike with rfl | ⟨blank, blankOther⟩
  · rfl
  · unfold Schema.unlessBlank
    rw [if_pos blank, if_pos blankOther]

/-- A plan does not tell blank values apart. -/
theorem unchanged_eq (before : SameOrBlank a a') (after : SameOrBlank b b') :
    unchanged a b = unchanged a' b' := by
  by_cases blank : isBlank a = true ∨ isBlank b = true
  · have blank' := blank
    rw [before.isBlank_eq, after.isBlank_eq] at blank'
    rw [unchanged_of_blank blank, unchanged_of_blank blank', before.isBlank_eq, after.isBlank_eq]
  · rw [not_or] at blank
    rcases before with rfl | ⟨blankBefore, _⟩
    · rcases after with rfl | ⟨blankAfter, _⟩
      · rfl
      · exact absurd blankAfter blank.2
    · exact absurd blankBefore blank.1

end SameOrBlank

namespace Schema

variable {schema : Schema} {names others : List String} {name : String} {prior desired : Json}

/-- Two objects that hold the same, but for what is blank in both. -/
def SameButBlanks (value other : Json) : Prop :=
  ∀ name, SameOrBlank (value.get? name) (other.get? name)

theorem sameButBlanks_omitNulls {value : Json} (wellFormed : value.WellFormed)
    (names : List String) :
    SameButBlanks (value.omitNulls names) value := by
  intro name
  rcases Json.get?_omitNulls wellFormed names name with same | ⟨_, null, gone⟩
  · exact Or.inl same
  · exact Or.inr ⟨by rw [gone]; rfl, by rw [null]; rfl⟩

theorem changedNames_of_blanks {prior' desired' : Json} (before : SameButBlanks prior prior')
    (after : SameButBlanks desired desired') :
    schema.changedNames prior desired = schema.changedNames prior' desired' := by
  apply List.filter_congr
  intro name _
  unfold agreesOn
  rw [(before name).unordered.unchanged_eq (after name).unordered,
    (before name).unchanged_eq (after name)]

/-- What a merge has under a name, of two sides as they are and of both without their null entries.
A null of the prior state covers what is blank in the proposal. -/
inductive Merges (schema : Schema) (names : List String) (prior proposed : Json) (name : String) :
    Option Json → Option Json → Prop
  | same (value : Option Json) : Merges schema names prior proposed name value value
  | omitted : Merges schema names prior proposed name (some .null) none
  | uncovered {blank : Json} (computed : name ∈ schema.computedNames) (listed : name ∈ names)
      (null : prior.get? name = some .null) (given : proposed.get? name = some blank)
      (isBlank : isBlank (some blank) = true) (notNull : blank.isNull = false) :
      Merges schema names prior proposed name (some .null) (some blank)

theorem Merges.sameOrBlank {proposed : Json} {value other : Option Json}
    (merges : schema.Merges names prior proposed name value other) : SameOrBlank other value := by
  cases merges with
  | same => exact Or.inl rfl
  | omitted => exact Or.inr ⟨rfl, rfl⟩
  | uncovered _ _ _ _ blank _ => exact Or.inr ⟨blank, rfl⟩

section Merge

open Json (omitNullEntries lookup_omitNullEntries)

variable {source target : List (String × Json)}

theorem isBlank_omitNullEntries (sorted : Keyed.Sorted target) :
    isBlank ((omitNullEntries others target).lookup name) = isBlank (target.lookup name) :=
  Json.blind_omitNullEntries isBlank rfl sorted others name

theorem merges_target (sorted : Keyed.Sorted target) :
    schema.Merges names prior desired name (target.lookup name)
      ((omitNullEntries others target).lookup name) := by
  rcases lookup_omitNullEntries sorted others name with same | ⟨_, null, gone⟩
  · rw [same]
    exact .same _
  · rw [null, gone]
    exact .omitted

theorem merges_of_mem (sortedSource : Keyed.Sorted source) (sortedTarget : Keyed.Sorted target)
    (computed : name ∈ schema.computedNames) :
    schema.Merges names (.obj source) (.obj target) name
      ((schema.computedNames.foldl (takeMissing source) target).lookup name)
      ((schema.computedNames.foldl (takeMissing (omitNullEntries names source))
        (omitNullEntries others target)).lookup name) := by
  rw [lookup_merge_of_mem _ _ computed, lookup_merge_of_mem _ _ computed,
    isBlank_omitNullEntries sortedTarget]
  by_cases blank : isBlank (target.lookup name) = true
  · rw [if_pos blank, if_pos blank]
    rcases lookup_omitNullEntries sortedSource names name with
      same | ⟨listed, null, gone⟩
    · rw [same]
      cases source.lookup name with
      | none => exact merges_target sortedTarget
      | some value => exact .same _
    · rw [null, gone, Option.none_or]
      rcases lookup_omitNullEntries sortedTarget others name with
        kept | ⟨_, _, absent⟩
      · rw [kept]
        cases given : target.lookup name with
        | none => exact .omitted
        | some value =>
          cases notNull : value.isNull with
          | true =>
            rw [Json.eq_null_of_isNull notNull]
            exact .same _
          | false => exact .uncovered computed listed null given (given ▸ blank) notNull
      · rw [absent]
        exact .omitted
  · rw [if_neg blank, if_neg blank]
    exact merges_target sortedTarget

theorem merges_obj (schema : Schema) (names others : List String)
    (sortedSource : Keyed.Sorted source) (sortedTarget : Keyed.Sorted target) (name : String) :
    schema.Merges names (.obj source) (.obj target) name
      ((schema.computedNames.foldl (takeMissing source) target).lookup name)
      ((schema.computedNames.foldl (takeMissing (omitNullEntries names source))
        (omitNullEntries others target)).lookup name) := by
  by_cases computed : name ∈ schema.computedNames
  · exact merges_of_mem sortedSource sortedTarget computed
  · rw [lookup_merge_of_not_mem computed, lookup_merge_of_not_mem computed]
    exact merges_target sortedTarget

end Merge

theorem merges_merge (schema : Schema) (names others : List String) {proposed : Json}
    (wellFormed : prior.WellFormed) (wellFormedProposed : proposed.WellFormed) (name : String) :
    schema.Merges names prior proposed name ((schema.mergeComputed prior proposed).get? name)
      ((schema.mergeComputed (prior.omitNulls names) (proposed.omitNulls others)).get? name) := by
  cases proposed with
  | obj target =>
    cases prior with
    | obj source => exact merges_obj schema names others wellFormed.1 wellFormedProposed.1 name
    | _ => exact merges_target wellFormedProposed.1
  | _ => cases prior <;> exact .same _

theorem changedNames_omitNulls {proposed : Json} (wellFormed : prior.WellFormed)
    (wellFormedProposed : proposed.WellFormed) :
    schema.changedNames (prior.omitNulls names)
        (schema.mergeComputed (prior.omitNulls names) (proposed.omitNulls others)) =
      schema.changedNames prior (schema.mergeComputed prior proposed) :=
  changedNames_of_blanks (sameButBlanks_omitNulls wellFormed names)
    fun name => (merges_merge schema names others wellFormed wellFormedProposed name).sameOrBlank

theorem changes_plan_omitNulls {prior : Option Json} {proposed : Json}
    (wellFormed : ∀ state, prior = some state → state.WellFormed)
    (wellFormedProposed : proposed.WellFormed) :
    (schema.plan (prior.map (Json.omitNulls names)) (proposed.omitNulls others)).changes =
      (schema.plan prior proposed).changes := by
  cases prior with
  | none =>
    have sides := fun name =>
      (sameButBlanks_omitNulls wellFormedProposed others name).unlessBlank_eq
    simp only [plan, Option.map_none, planCreation, Plan.ofChanges, sides]
  | some state =>
    have before := fun name =>
      (sameButBlanks_omitNulls (wellFormed state rfl) names name).unlessBlank_eq
    have after := fun name =>
      (merges_merge schema names others (wellFormed state rfl) wellFormedProposed
        name).sameOrBlank.unlessBlank_eq
    simp only [plan, Option.map_some, planChange, Plan.ofChanges, before, after,
      changedNames_omitNulls (wellFormed state rfl) wellFormedProposed]

theorem requiresReplace_eq_any (prior : Option Json) (proposed : Json) :
    (schema.plan prior proposed).requiresReplace =
      (schema.plan prior proposed).changes.any Change.requiresReplace := by
  cases prior <;> rfl

theorem validate_omitNulls (schema : Schema) (names : List String) {config : Json}
    (wellFormed : config.WellFormed) :
    schema.validate (config.omitNulls names) = schema.validate config := by
  cases config with
  | obj entries =>
    have sorted := wellFormed.1
    have attributes := fun (a : Attribute) (path name : String) =>
      Json.blind_omitNullEntries (fun value => a.check value path) rfl sorted names name
    have blocks := fun (nesting : Nesting) (block : Block) (path name : String) =>
      Json.blind_omitNullEntries (fun value => nesting.checkEntry block value path) rfl sorted names
        name
    have group : ∀ members, checkGroup (Json.omitNullEntries names entries) "" members =
        checkGroup entries "" members := by
      intro members
      unfold checkGroup setMembers
      simp only [Json.blind_omitNullEntries isSet rfl sorted names]
    show schema.validate (.obj (Json.omitNullEntries names entries)) = _
    rw [validate_obj, validate_obj]
    simp only [attributes, blocks, funext group]
  | _ => rfl

end Schema

end Provisioner

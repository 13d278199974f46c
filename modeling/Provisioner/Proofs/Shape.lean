import Mathlib.Data.List.Basic
import Provisioner.Proofs.Conformance
import Provisioner.Proofs.Plan.Nulls

/-!
# The shape of a value

A validation looks at the shape of a value alone: at the keys of its objects, the lengths of its
lists, the sort of every leaf and, of a number, whether it may stand for an integer. What a text
says, which truth value is given and how large a number is leaves every diagnostic as it is.
-/

namespace Provisioner

set_option autoImplicit false

namespace Keyed

variable {α β : Type}

/-- The entries with other values under the same keys. -/
def mapValues (change : String → α → β) (entries : List (String × α)) : List (String × β) :=
  entries.map fun entry => (entry.1, change entry.1 entry.2)

theorem lookup_mapValues (change : String → α → β) (entries : List (String × α)) (key : String) :
    (mapValues change entries).lookup key = (entries.lookup key).map (change key) := by
  induction entries with
  | nil => rfl
  | cons head rest ih =>
    obtain ⟨k, value⟩ := head
    rw [mapValues, List.map_cons, List.lookup_cons, List.lookup_cons]
    by_cases here : key = k
    · subst here
      simp
    · simp only [beq_false_of_ne here]
      exact ih

theorem mapValues_mapValues {γ : Type} {first : String → α → β} {second : String → β → γ}
    {both : String → α → γ} {entries : List (String × α)}
    (each : ∀ entry ∈ entries, second entry.1 (first entry.1 entry.2) = both entry.1 entry.2) :
    mapValues second (mapValues first entries) = mapValues both entries := by
  rw [mapValues, mapValues, mapValues, List.map_map]
  apply List.map_congr_left
  intro entry member
  exact congrArg (Prod.mk entry.1) (each entry member)

theorem mapValues_congr {change other : String → α → β} {entries : List (String × α)}
    (each : ∀ entry ∈ entries, change entry.1 entry.2 = other entry.1 entry.2) :
    mapValues change entries = mapValues other entries :=
  List.map_congr_left fun entry member => congrArg (Prod.mk entry.1) (each entry member)

theorem mapValues_eq_self {change : String → α → α} {entries : List (String × α)}
    (each : ∀ entry ∈ entries, change entry.1 entry.2 = entry.2) :
    mapValues change entries = entries := by
  have kept : mapValues change entries = mapValues (fun _ value => value) entries :=
    mapValues_congr each
  rw [kept]
  exact List.map_id entries

theorem keys_mapValues (change : String → α → β) (entries : List (String × α)) :
    (mapValues change entries).map Prod.fst = entries.map Prod.fst := by
  rw [mapValues, List.map_map]
  rfl

theorem sorted_mapValues {change : String → α → β} {entries : List (String × α)}
    (sorted : Sorted entries) : Sorted (mapValues change entries) :=
  List.pairwise_map.mpr sorted

theorem mapValues_eq_iff {change : String → α → β} {entries others : List (String × α)}
    (sorted : Sorted entries) : mapValues change entries = mapValues change others ↔
      entries.map Prod.fst = others.map Prod.fst ∧
        ∀ name value other, entries.lookup name = some value → others.lookup name = some other →
          change name value = change name other := by
  constructor
  · intro same
    have keys := congrArg (List.map Prod.fst) same
    rw [keys_mapValues, keys_mapValues] at keys
    refine ⟨keys, ?_⟩
    intro name value other found there
    have values := congrArg (List.lookup name) same
    rw [lookup_mapValues, lookup_mapValues, found, there] at values
    exact Option.some.inj values
  · rintro ⟨keys, each⟩
    have sortedOthers : Sorted others := sorted_of_keys _ keys.symm (List.pairwise_map.mpr sorted)
    apply eq_of_lookup_eq (sorted_mapValues sorted) (sorted_mapValues sortedOthers)
    intro name
    rw [lookup_mapValues, lookup_mapValues]
    cases found : entries.lookup name with
    | none =>
      rw [lookup_eq_none_iff, keys, ← lookup_eq_none_iff] at found
      rw [found]
    | some value =>
      obtain ⟨other, there⟩ : ∃ other, others.lookup name = some other := by
        rw [← Option.ne_none_iff_exists', ne_eq, lookup_eq_none_iff, ← keys, ← lookup_eq_none_iff,
          found]
        exact Option.some_ne_none value
      rw [there]
      exact congrArg some (each name value other found there)

end Keyed

/-- The smallest positive double. -/
def Double.least : Double := { negative := false, rank := 1 }

theorem Double.isWhole_least : Double.least.isWhole = false := by
  have small : ∀ places, places ≠ 0 → 1 < Nat.pow 2 places := fun _ => Nat.one_lt_two_pow
  have steps : Double.least.steps = 1 := by decide
  rw [isWhole, steps, Nat.mod_eq_of_lt (small 1074 (by decide))]
  rfl

namespace Json

mutual

/-- The value with a change made to every leaf, that is to whatever is no list and no object. -/
def mapLeaves (change : Json → Json) : Json → Json
  | .arr items => .arr (mapLeavesItems change items)
  | .obj entries => .obj (mapLeavesEntries change entries)
  | leaf => change leaf

def mapLeavesItems (change : Json → Json) : List Json → List Json
  | [] => []
  | item :: rest => item.mapLeaves change :: mapLeavesItems change rest

def mapLeavesEntries (change : Json → Json) : List (String × Json) → List (String × Json)
  | [] => []
  | (key, value) :: rest => (key, value.mapLeaves change) :: mapLeavesEntries change rest

end

@[simp] theorem mapLeaves_arr (change : Json → Json) (items : List Json) :
    (arr items).mapLeaves change = .arr (items.map (mapLeaves change)) := by
  have each : mapLeavesItems change items = items.map (mapLeaves change) := by
    induction items with
    | nil => rfl
    | cons item rest ih => rw [mapLeavesItems, ih, List.map_cons]
  rw [mapLeaves, each]

@[simp] theorem mapLeaves_obj (change : Json → Json) (entries : List (String × Json)) :
    (obj entries).mapLeaves change =
      .obj (Keyed.mapValues (fun _ => mapLeaves change) entries) := by
  have each : mapLeavesEntries change entries =
      Keyed.mapValues (fun _ => mapLeaves change) entries := by
    induction entries with
    | nil => rfl
    | cons entry rest ih =>
      obtain ⟨key, value⟩ := entry
      rw [mapLeavesEntries, ih]
      rfl
  rw [mapLeaves, each]

/-- What holds of every leaf, of a list if it holds of its items, and of an object if it holds of
its values holds of every value. -/
theorem nestedInduction {motive : Json → Prop} (null : motive .null)
    (bool : ∀ flag, motive (.bool flag)) (num : ∀ number, motive (.num number))
    (str : ∀ text, motive (.str text))
    (arr : ∀ items, (∀ item ∈ items, motive item) → motive (.arr items))
    (obj : ∀ entries, (∀ entry ∈ entries, motive entry.2) → motive (.obj entries))
    (value : Json) : motive value := by
  cases value with
  | null => exact null
  | bool flag => exact bool flag
  | num number => exact num number
  | str text => exact str text
  | arr items => exact arr items fun item _ => nestedInduction null bool num str arr obj item
  | obj entries =>
    exact obj entries fun entry _ => nestedInduction null bool num str arr obj entry.2
termination_by sizeOf value
decreasing_by
  · next member =>
    have smaller := List.sizeOf_lt_of_mem member
    simp only [Json.arr.sizeOf_spec]
    omega
  · next member =>
    have smaller := List.sizeOf_lt_of_mem member
    obtain ⟨key, value⟩ := entry
    simp only [Json.obj.sizeOf_spec, Prod.mk.sizeOf_spec] at smaller ⊢
    omega

/-- The shape of a leaf: one value stands for all truth values, one for all texts, and one each for
the numbers that are whole and those that are not. -/
def leafShape : Json → Json
  | .bool _ => .bool false
  | .num number => .num (if number.isWhole then .integer 0 else .double .least)
  | .str _ => .str ""
  | other => other

/-- The shape of a value. Two values have the same one if they have the same keys in every object,
the same length in every list, the same sort of leaf everywhere, and whole numbers in the same
places. -/
def shape : Json → Json := mapLeaves leafShape

@[simp] theorem shape_arr (items : List Json) : (arr items).shape = .arr (items.map shape) :=
  mapLeaves_arr leafShape items

@[simp] theorem shape_obj (entries : List (String × Json)) :
    (obj entries).shape = .obj (Keyed.mapValues (fun _ => shape) entries) :=
  mapLeaves_obj leafShape entries

@[simp] theorem sort_shape (value : Json) : value.shape.sort = value.sort := by
  cases value <;> rfl

@[simp] theorem isNull_shape (value : Json) : value.shape.isNull = value.isNull := by
  cases value <;> rfl

theorem isWhole_shape (number : Number) :
    (if number.isWhole then Number.integer 0 else .double .least).isWhole = number.isWhole := by
  cases number.isWhole with
  | true => rfl
  | false => exact Double.isWhole_least

end Json

open Json (shape)

theorem flatMap_zipIdx_map {α β γ : Type} {f : β × Nat → List γ} {g : α × Nat → List γ}
    (change : α → β) {items : List α}
    (each : ∀ item ∈ items, ∀ position, f (change item, position) = g (item, position)) :
    (items.map change).zipIdx.flatMap f = items.zipIdx.flatMap g := by
  rw [List.zipIdx_map, List.flatMap_map]
  apply List.flatMap_congr
  rintro ⟨item, position⟩ placed
  exact each item (List.fst_mem_of_mem_zipIdx placed) position

theorem AttributeType.check_shape (type : AttributeType) (value : Json) (path : String) :
    type.check value.shape path = type.check value path := by
  induction type generalizing value path with
  | string => cases value <;> rfl
  | bool => cases value <;> rfl
  | int64 =>
    cases value with
    | num number =>
      show (if Number.isWhole _ then [] else _) = (if number.isWhole then [] else _)
      rw [Json.isWhole_shape]
      rfl
    | _ => rfl
  | list element ih | set element ih =>
    cases value with
    | arr items =>
      rw [Json.shape_arr, check, check]
      exact flatMap_zipIdx_map shape fun item _ position => ih item _
    | obj entries => rfl
    | _ => rfl
  | map element ih =>
    cases value with
    | obj entries =>
      rw [Json.shape_obj, check, check, Keyed.mapValues, List.flatMap_map]
      simp only [ih]
    | _ => rfl

theorem Attribute.check_some (a : Attribute) {value : Json} (notNull : value.isNull = false)
    (path : String) :
    a.check (some value) path = if a.flags.isComputedOnly then [] else a.type.check value path := by
  unfold check
  cases value with
  | null => cases notNull
  | _ => rfl

theorem Attribute.check_shape (a : Attribute) (value : Option Json) (path : String) :
    a.check (value.map shape) path = a.check value path := by
  cases value with
  | none => rfl
  | some value =>
    cases null : value.isNull with
    | true =>
      rw [Json.eq_null_of_isNull null]
      rfl
    | false =>
      rw [Option.map_some, a.check_some (by rw [Json.isNull_shape, null]), a.check_some null,
        a.type.check_shape]

theorem isSet_shape (value : Option Json) : isSet (value.map shape) = isSet value := by
  cases value with
  | none => rfl
  | some value =>
    cases value with
    | arr items =>
      cases items with
      | nil => rfl
      | cons => rfl
    | _ => rfl

theorem checkGroup_shape (entries : List (String × Json)) (path : String) (group : List String) :
    checkGroup (Keyed.mapValues (fun _ => shape) entries) path group =
      checkGroup entries path group := by
  have members : setMembers group (Keyed.mapValues (fun _ => shape) entries) =
      setMembers group entries := by
    unfold setMembers
    simp only [Keyed.lookup_mapValues, isSet_shape]
  rw [checkGroup, members, checkGroup]

theorem Nesting.checkEntry_shape (n : Nesting) {block : Block}
    (each : ∀ item path, block.check item.shape path = block.check item path)
    (value : Option Json) (path : String) :
    n.checkEntry block (value.map shape) path = n.checkEntry block value path := by
  cases value with
  | none => rfl
  | some value =>
    cases value with
    | arr items =>
      rw [Option.map_some, Json.shape_arr, checkEntry, checkEntry, check, check, List.length_map]
      congr 1
      exact flatMap_zipIdx_map shape fun item _ position => each item _
    | _ => rfl

theorem notAnObject_shape (value : Json) (path : String) :
    notAnObject value.shape path = notAnObject value path := by
  rw [notAnObject, notAnObject, Json.sort_shape]

theorem Block.check_shape (block : Block) (value : Json) (path : String) :
    block.check value.shape path = block.check value path := by
  induction block using nestedInduction generalizing value path with
  | step block ih =>
    cases value with
    | null => rfl
    | obj entries =>
      rw [Json.shape_obj, check_obj, check_obj]
      congr 1
      · congr 1
        · simp only [Keyed.lookup_mapValues, Attribute.check_shape]
        · apply List.flatMap_congr
          intro b member
          rw [Keyed.lookup_mapValues]
          exact b.2.1.checkEntry_shape (ih b member) _ _
      · exact List.flatMap_congr fun group _ => checkGroup_shape entries path group
    | _ =>
      rw [check_of_not_object, check_of_not_object, notAnObject_shape]
      all_goals rfl

/-- The diagnostics of a schema tell the shape of a value and nothing else about it. -/
theorem Schema.validate_shape (schema : Schema) (value : Json) :
    schema.validate value.shape = schema.validate value := schema.block.check_shape value ""

end Provisioner

import Provisioner.Proofs.Kinds.Readable
import Provisioner.Proofs.Validation

/-!
# Values that conform to a schema

What a configuration has to be like, stated without paths, counters of 32 bits and diagnostics: of
the right type in every attribute that is not left to the server, with as many items in every nested
block as the block allows, and with exactly one entry set in every group. The validation reports
nothing exactly about the values that conform, provided that no list is too long to be counted.
-/

namespace Provisioner

set_option autoImplicit false

/-- A value is of a type. No list, set or map holds null. -/
inductive AttributeType.Holds : AttributeType → Json → Prop
  | string (text : String) : Holds .string (.str text)
  | integer (number : Int) : Holds .int64 (.num (.integer number))
  | whole {number : Double} (steps : Nat.pow 2 1074 ∣ number.steps) :
      Holds .int64 (.num (.double number))
  | bool (flag : Bool) : Holds .bool (.bool flag)
  | list {element : AttributeType} {items : List Json}
      (each : ∀ item ∈ items, Holds element item) : Holds (.list element) (.arr items)
  | set {element : AttributeType} {items : List Json}
      (each : ∀ item ∈ items, Holds element item) : Holds (.set element) (.arr items)
  | map {element : AttributeType} {entries : List (String × Json)}
      (each : ∀ entry ∈ entries, Holds element entry.2) : Holds (.map element) (.obj entries)

/-- What may stand for an attribute. -/
inductive Attribute.Admits (a : Attribute) : Option Json → Prop
  | absent (optional : a.flags.required = false) : a.Admits none
  | null (optional : a.flags.required = false) : a.Admits (some .null)
  | typed {value : Json} (holds : a.type.Holds value) : a.Admits (some value)

/-- The items of a nested block. An absent block has none. -/
inductive Items : Option Json → List Json → Prop
  | absent : Items none []
  | null : Items (some .null) []
  | list (items : List Json) : Items (some (.arr items)) items

/-- A block may occur so often. -/
structure Nesting.Allows (n : Nesting) (count : Nat) : Prop where
  enough : n.minItems ≤ count ∨ (count = 0 ∧ n.computed = true)
  notTooMany : n.maxItems = 0 ∨ count ≤ n.maxItems

/-- An entry holds something other than null and the empty list. -/
def Filled (value : Option Json) : Prop :=
  ∃ given, value = some given ∧ given ≠ .null ∧ given ≠ .arr []

/-- Of the entries that a group lists, exactly one is filled. -/
def FillsOne (group : List String) (entries : List (String × Json)) : Prop :=
  ∃ before name after, group = before ++ name :: after ∧ Filled (entries.lookup name) ∧
    ∀ other ∈ before ++ after, ¬Filled (entries.lookup other)

/-- A value conforms to a block. -/
inductive Block.Conforms : Block → Json → Prop
  | null (block : Block) : Conforms block .null
  | object {block : Block} {entries : List (String × Json)}
      (attributes : ∀ a ∈ block.attributes, a.2.flags.isComputedOnly = false →
        a.2.Admits (entries.lookup a.1))
      (counts : ∀ b ∈ block.blocks, ∃ items, Items (entries.lookup b.1) items ∧
        b.2.1.Allows items.length)
      (blocks : ∀ b ∈ block.blocks, ∀ items, Items (entries.lookup b.1) items →
        ∀ item ∈ items, Conforms b.2.2 item)
      (groups : ∀ group ∈ block.exactlyOneOf, FillsOne group entries) :
      Conforms block (.obj entries)

/-- Every list in the value has a length of 32 bits. -/
inductive Json.Short : Json → Prop
  | null : Short .null
  | bool (flag : Bool) : Short (.bool flag)
  | num (number : Number) : Short (.num number)
  | str (text : String) : Short (.str text)
  | arr {items : List Json} (short : items.length < UInt32.size)
      (each : ∀ item ∈ items, Short item) : Short (.arr items)
  | obj {entries : List (String × Json)} (each : ∀ entry ∈ entries, Short entry.2) :
      Short (.obj entries)

theorem flatMap_zipIdx_eq_nil_iff {α β : Type} {f : α × Nat → List β} {items : List α}
    {good : α → Prop} (each : ∀ item ∈ items, ∀ position, f (item, position) = [] ↔ good item) :
    items.zipIdx.flatMap f = [] ↔ ∀ item ∈ items, good item := by
  constructor
  · intro none item member
    obtain ⟨position, empty⟩ := flatMap_zipIdx_eq_nil none member
    exact (each item member position).mp empty
  · intro all
    rw [List.flatMap_eq_nil_iff]
    rintro ⟨item, position⟩ placed
    have member := List.fst_mem_of_mem_zipIdx placed
    exact (each item member position).mpr (all item member)

theorem AttributeType.check_eq_nil_iff (type : AttributeType) (value : Json) (path : String) :
    type.check value path = [] ↔ type.Holds value := by
  induction type generalizing value path with
  | string =>
    cases value with
    | str text => simpa [check] using Holds.string text
    | _ => exact iff_of_false (List.cons_ne_nil _ _) fun holds => by cases holds
  | bool =>
    cases value with
    | bool flag => simpa [check] using Holds.bool flag
    | _ => exact iff_of_false (List.cons_ne_nil _ _) fun holds => by cases holds
  | int64 =>
    cases value with
    | num number =>
      have admitted : (number.isWhole = true) ↔ Holds .int64 (.num number) := by
        cases number with
        | integer number => simpa [Number.isWhole] using Holds.integer number
        | double number =>
          rw [Number.isWhole, Double.isWhole, beq_iff_eq, ← Nat.dvd_iff_mod_eq_zero]
          refine ⟨.whole, ?_⟩
          rintro (_ | _ | steps)
          exact steps
      rw [check, ← admitted]
      cases number.isWhole <;> simp
    | _ => exact iff_of_false (List.cons_ne_nil _ _) fun holds => by cases holds
  | list element ih | set element ih =>
    cases value with
    | arr items =>
      rw [check, flatMap_zipIdx_eq_nil_iff fun item _ position => ih item _]
      constructor
      · intro each
        constructor
        exact each
      · intro holds
        cases holds
        assumption
    | _ => exact iff_of_false (List.cons_ne_nil _ _) fun holds => by cases holds
  | map element ih =>
    cases value with
    | obj entries =>
      simp only [check, List.flatMap_eq_nil_iff, ih]
      constructor
      · exact .map
      · intro holds
        cases holds
        assumption
    | _ => exact iff_of_false (List.cons_ne_nil _ _) fun holds => by cases holds

theorem AttributeType.not_holds_null (type : AttributeType) : ¬type.Holds .null := by
  intro holds
  cases holds

theorem Attribute.check_eq_nil_iff (a : Attribute) (value : Option Json) (path : String) :
    a.check value path = [] ↔ (a.flags.isComputedOnly = false → a.Admits value) := by
  have optional (unset : value = none ∨ value = some .null) :
      a.Admits value ↔ a.flags.required = false := by
    rcases unset with rfl | rfl
    · refine ⟨?_, .absent⟩
      rintro (optional | _ | _)
      exact optional
    · refine ⟨?_, .null⟩
      rintro (_ | optional | holds)
      · exact optional
      · exact (a.type.not_holds_null holds).elim
  unfold check
  cases a.flags.isComputedOnly with
  | true => simp
  | false =>
    simp only [Bool.false_eq_true, if_false, forall_const]
    split
    · rw [optional (Or.inl rfl)]
      simp
    · rw [optional (Or.inr rfl)]
      simp
    · next given notNull =>
      rw [a.type.check_eq_nil_iff]
      refine ⟨.typed, ?_⟩
      rintro (_ | _ | holds)
      · exact (notNull rfl).elim
      · exact holds

theorem Nesting.check_eq_nil_iff (n : Nesting) {items : List Json}
    (short : items.length < UInt32.size) (path : String) :
    n.check items path = [] ↔ n.Allows items.length := by
  unfold check
  rw [Nat.mod_eq_of_lt short]
  generalize items.length = count
  simp only [List.append_eq_nil_iff, ite_eq_right_iff, reduceCtorEq, imp_false]
  constructor
  · rintro ⟨enough, notTooMany⟩
    refine ⟨?_, by omega⟩
    by_cases few : count < n.minItems
    · exact Or.inr (Classical.not_not.mp fun other => enough ⟨few, other⟩)
    · exact Or.inl (Nat.le_of_not_lt few)
  · rintro ⟨enough, notTooMany⟩
    refine ⟨?_, by omega⟩
    rintro ⟨few, other⟩
    rcases enough with enough | left
    · omega
    · exact other left

theorem isSet_iff_filled (value : Option Json) : isSet value = true ↔ Filled value := by
  unfold isSet Filled
  split
  · simp
  · simp
  · simp
  · next given notNull notList =>
    have nonempty : given ≠ .arr [] := notList []
    simpa using ⟨notNull, nonempty⟩

theorem checkGroup_eq_nil_iff (entries : List (String × Json)) (path : String)
    (group : List String) : checkGroup entries path group = [] ↔ FillsOne group entries := by
  have one : (setMembers group entries).length = 1 ↔ FillsOne group entries := by
    simp only [List.length_eq_one_iff, setMembers, List.filter_eq_cons_iff, List.filter_eq_nil_iff,
      isSet_iff_filled, FillsOne, List.forall_mem_append]
    constructor
    · rintro ⟨name, before, after, split, first, filled, last⟩
      exact ⟨before, name, after, split, filled, first, last⟩
    · rintro ⟨before, name, after, split, filled, first, last⟩
      exact ⟨name, before, after, split, first, filled, last⟩
  rw [← one]
  unfold checkGroup
  simp

theorem Block.nestedInduction {motive : Block → Prop}
    (step : ∀ block, (∀ b ∈ block.blocks, motive b.2.2) → motive block) (block : Block) :
    motive block :=
  step block fun b _ => nestedInduction step b.2.2
termination_by sizeOf block
decreasing_by
  next member =>
  have smaller := List.sizeOf_lt_of_mem member
  obtain ⟨name, nesting, inner⟩ := b
  obtain ⟨attributes, blocks, groups, description⟩ := block
  simp only [Prod.mk.sizeOf_spec, Block.mk.sizeOf_spec] at smaller ⊢
  omega

theorem Nesting.checkEntry_eq_nil_iff {n : Nesting} {block : Block} {value : Option Json}
    {path : String} (short : ∀ items, value = some (.arr items) → items.length < UInt32.size)
    {good : Json → Prop} (each : ∀ items, value = some (.arr items) → ∀ item ∈ items, ∀ path,
      block.check item path = [] ↔ good item) :
    n.checkEntry block value path = [] ↔
      ∃ items, Items value items ∧ n.Allows items.length ∧ ∀ item ∈ items, good item := by
  have empty : n.check [] path = [] ↔ n.Allows 0 := n.check_eq_nil_iff (by decide) path
  unfold checkEntry
  split
  · rw [empty]
    constructor
    · exact fun allows => ⟨[], .absent, allows, List.forall_mem_nil _⟩
    · rintro ⟨_, _ | _ | _, allows, -⟩
      exact allows
  · rw [empty]
    constructor
    · exact fun allows => ⟨[], .null, allows, List.forall_mem_nil _⟩
    · rintro ⟨_, _ | _ | _, allows, -⟩
      exact allows
  · next items =>
    rw [List.append_eq_nil_iff, n.check_eq_nil_iff (short items rfl),
      flatMap_zipIdx_eq_nil_iff fun item member position => each items rfl item member _]
    constructor
    · exact fun passed => ⟨items, .list items, passed⟩
    · rintro ⟨_, _ | _ | _, passed⟩
      exact passed
  · next given notNull notList =>
    apply iff_of_false (List.cons_ne_nil _ _)
    rintro ⟨_, _ | _ | _, -, -⟩
    · exact notNull rfl
    · exact notList _ rfl

theorem Items.unique {value : Option Json} {items others : List Json} (first : Items value items)
    (second : Items value others) : items = others := by
  cases first <;> cases second <;> rfl

namespace Block

theorem conforms_obj_iff {block : Block} {entries : List (String × Json)} :
    block.Conforms (.obj entries) ↔
      (∀ a ∈ block.attributes, a.2.flags.isComputedOnly = false →
        a.2.Admits (entries.lookup a.1)) ∧
      (∀ b ∈ block.blocks, ∃ items, Items (entries.lookup b.1) items ∧
        b.2.1.Allows items.length ∧ ∀ item ∈ items, b.2.2.Conforms item) ∧
      ∀ group ∈ block.exactlyOneOf, FillsOne group entries := by
  constructor
  · rintro (_ | ⟨attributes, counts, blocks, groups⟩)
    refine ⟨attributes, ?_, groups⟩
    intro b member
    obtain ⟨items, given, allows⟩ := counts b member
    exact ⟨items, given, allows, blocks b member items given⟩
  · rintro ⟨attributes, blocks, groups⟩
    refine .object attributes ?_ ?_ groups
    · intro b member
      obtain ⟨items, given, allows, -⟩ := blocks b member
      exact ⟨items, given, allows⟩
    · intro b member others givenOthers
      obtain ⟨items, given, -, conform⟩ := blocks b member
      rwa [given.unique givenOthers] at conform

theorem check_null (block : Block) (path : String) : block.check .null path = [] := by
  obtain ⟨attributes, blocks, groups, description⟩ := block
  rw [check]

theorem check_of_not_object (block : Block) {value : Json} (notObject : value.obj? = none)
    (notNull : value.isNull = false) (path : String) :
    block.check value path = [notAnObject value path] := by
  obtain ⟨attributes, blocks, groups, description⟩ := block
  cases value with
  | obj => cases notObject
  | null => cases notNull
  | _ => rfl

theorem check_eq_nil_iff (block : Block) {value : Json} (short : value.Short) (path : String) :
    block.check value path = [] ↔ block.Conforms value := by
  -- By induction on the block: a value passes exactly if it conforms.
  induction block using nestedInduction generalizing value path with
  | step block ih =>
    cases short with
    | null => simpa [check_null] using Conforms.null block
    | obj each =>
      have shortEntry {name : String} {items : List Json}
          (found : List.lookup name _ = some (Json.arr items)) : (Json.arr items).Short :=
        each _ (Keyed.mem_of_lookup found)
      rw [check_obj_eq_nil_iff, conforms_obj_iff]
      refine and_congr ?_ (and_congr ?_ ?_)
      · exact forall₂_congr fun a _ => a.2.check_eq_nil_iff _ _
      · apply forall₂_congr
        intro b member
        apply Nesting.checkEntry_eq_nil_iff
        · intro items found
          cases shortEntry found with
          | arr short => exact short
        · intro items found item inside path
          cases shortEntry found with
          | arr _ each => exact ih b member (each item inside) path
      · exact forall₂_congr fun group _ => checkGroup_eq_nil_iff _ _ group
    | _ =>
      rw [check_of_not_object]
      · exact iff_of_false (List.cons_ne_nil _ _) fun conforms => by cases conforms
      · rfl
      · rfl

end Block

namespace Schema

/-- The check of a schema accepts the values that conform and no others. -/
theorem accepts_iff_conforms (schema : Schema) {value : Json} (short : value.Short) :
    (schema.validate value = [] ↔ schema.block.Conforms value) ∧
      (schema.ensureValid value = .ok () ↔ schema.block.Conforms value) := by
  have validates := schema.block.check_eq_nil_iff short ""
  exact ⟨validates, (schema.ensureValid_iff_validate value).trans validates⟩

/-- A schema with one nested block, which has to be there. -/
def ofReference : Schema where
  block.blocks := [("environment", .exactlyOne, .reference .mandatory)]

/-- A value with one item in that block. -/
def reference : Json := .obj [("environment", .arr [.obj [("id", .str "env-1")]])]

theorem accepts_iff_conforms_reference :
    reference.Short ∧ (ofReference.validate reference = [] ↔ ofReference.block.Conforms reference) ∧
      (ofReference.ensureValid reference = .ok () ↔ ofReference.block.Conforms reference) := by
  have short : reference.Short :=
    .obj <| List.forall_mem_singleton.mpr <| .arr (by decide) <| List.forall_mem_singleton.mpr <|
      .obj <| List.forall_mem_singleton.mpr <| .str "env-1"
  exact ⟨short, ofReference.accepts_iff_conforms short⟩

/-- An absent block does not conform as such. Nothing but the number of its items stands against an
empty object here. -/
theorem refuses_absent_block :
    ofReference.block.attributes = [] ∧ ofReference.block.exactlyOneOf = [] ∧
      (∀ b ∈ ofReference.block.blocks, (Json.obj []).get? b.1 = none) ∧
      ofReference.validate (.obj []) ≠ [] ∧ ofReference.ensureValid (.obj []) ≠ .ok () := by
  have refused : ofReference.validate (.obj []) ≠ [] := by
    rw [validate_obj]
    simp [ofReference, Nesting.checkEntry, Nesting.check, Nesting.exactlyOne]
  exact ⟨rfl, rfl, by simp [ofReference, Json.get?], refused,
    fun passed => refused ((ofReference.ensureValid_iff_validate _).mp passed)⟩

end Schema

end Provisioner

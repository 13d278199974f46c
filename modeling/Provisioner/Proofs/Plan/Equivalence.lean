import Provisioner.Kinds.Network
import Provisioner.Proofs.Plan.Matching
import Provisioner.Proofs.Plan.Nulls

/-!
# Drift as an equivalence

A plan sees less of a state than the state holds: of a zero not its sign, of a set not the order of
its items, and of a blank value nothing. Two states agree on a name exactly if the plan sees the
same under it. So the names that differ are the same ones whichever state comes first, and having
none is an equivalence of states.
-/

namespace Provisioner

set_option autoImplicit false

/-- The double as equality sees it, which does not tell the two zeros apart. -/
def Double.canonical (x : Double) : Double := if x.isZero then .zero else x

theorem Double.same_iff_canonical {x y : Double} :
    x.same y = true ↔ x.canonical = y.canonical := by
  have zero : Double.zero.isZero = true := rfl
  unfold Double.same Double.canonical
  rw [Bool.or_eq_true, Bool.and_eq_true, beq_iff_eq]
  by_cases zeroX : x.isZero = true
  · by_cases zeroY : y.isZero = true
    · simp only [zeroX, zeroY, and_self, or_true, if_true]
    · have apart : x ≠ y := by
        rintro rfl
        exact zeroY zeroX
      have apartZero : Double.zero ≠ y := by
        rintro rfl
        exact zeroY zero
      rw [if_pos zeroX, if_neg zeroY]
      simp only [apart, apartZero, zeroY, and_false, or_self, Bool.false_eq_true]
  · by_cases zeroY : y.isZero = true
    · have apart : x ≠ y := by
        rintro rfl
        exact zeroX zeroY
      have apartZero : x ≠ Double.zero := by
        rintro rfl
        exact zeroX zero
      rw [if_neg zeroX, if_pos zeroY]
      simp only [apart, apartZero, zeroX, false_and, or_self, Bool.false_eq_true]
    · rw [if_neg zeroX, if_neg zeroY]
      simp only [zeroX, Bool.false_eq_true, false_and, or_false]

def Number.canonical : Number → Number
  | .integer value => .integer value
  | .double value => .double value.canonical

theorem Number.same_iff_canonical {a b : Number} :
    a.same b = true ↔ a.canonical = b.canonical := by
  cases a with
  | integer value => cases b <;> simp [Number.same, Number.canonical]
  | double value =>
    cases b with
    | integer other => simp [Number.same, Number.canonical]
    | double other => simp [Number.same, Number.canonical, Double.same_iff_canonical]

namespace Json

mutual

/-- The value as equality sees it, with the canonical double in place of each number. -/
def canonical : Json → Json
  | .num value => .num value.canonical
  | .arr items => .arr (canonicalItems items)
  | .obj entries => .obj (canonicalEntries entries)
  | .null => .null
  | .bool value => .bool value
  | .str value => .str value

def canonicalItems : List Json → List Json
  | [] => []
  | item :: rest => item.canonical :: canonicalItems rest

def canonicalEntries : List (String × Json) → List (String × Json)
  | [] => []
  | (key, value) :: rest => (key, value.canonical) :: canonicalEntries rest

end

mutual

/-- By induction on both values: equality is equality of the canonical forms. -/
theorem same_iff_canonical : ∀ a b : Json, a.same b = true ↔ a.canonical = b.canonical
  | .null, b => by cases b <;> simp [Json.same, canonical]
  | .bool _, b => by cases b <;> simp [Json.same, canonical]
  | .num _, b => by cases b <;> simp [Json.same, canonical, Number.same_iff_canonical]
  | .str _, b => by cases b <;> simp [Json.same, canonical]
  | .arr items, b => by
    cases b with
    | arr others => simp only [Json.same, canonical, Json.arr.injEq, sameItems_iff_canonical]
    | _ => simp [Json.same, canonical]
  | .obj entries, b => by
    cases b with
    | obj others => simp only [Json.same, canonical, Json.obj.injEq, sameEntries_iff_canonical]
    | _ => simp [Json.same, canonical]

theorem sameItems_iff_canonical : ∀ items others : List Json,
    sameItems items others = true ↔ canonicalItems items = canonicalItems others
  | [], others => by cases others <;> simp [sameItems, canonicalItems]
  | item :: rest, [] => by simp [sameItems, canonicalItems]
  | item :: rest, other :: others => by
    rw [sameItems, Bool.and_eq_true, same_iff_canonical item other,
      sameItems_iff_canonical rest others, canonicalItems, canonicalItems, List.cons.injEq]

theorem sameEntries_iff_canonical : ∀ entries others : List (String × Json),
    sameEntries entries others = true ↔ canonicalEntries entries = canonicalEntries others
  | [], others => by cases others <;> simp [sameEntries, canonicalEntries]
  | (key, value) :: rest, [] => by simp [sameEntries, canonicalEntries]
  | (key, value) :: rest, (key', value') :: others => by
    rw [sameEntries, Bool.and_eq_true, Bool.and_eq_true, beq_iff_eq,
      same_iff_canonical value value', sameEntries_iff_canonical rest others, canonicalEntries,
      canonicalEntries, List.cons.injEq, Prod.mk.injEq]

end

end Json

theorem sameEntry_iff_canonical {a b : Option Json} :
    sameEntry a b = true ↔ a.map Json.canonical = b.map Json.canonical := by
  cases a <;> cases b <;> simp [sameEntry, Json.same_iff_canonical]

/-- What a plan sees of a value: nothing if it is blank. -/
def essence (value : Option Json) : Option Json :=
  if isBlank value then none else value.map Json.canonical

theorem essence_of_blank {value : Option Json} (blank : isBlank value = true) :
    essence value = none := if_pos blank

theorem essence_of_not_blank {value : Option Json} (filled : isBlank value = false) :
    essence value = value.map Json.canonical := by
  unfold essence
  rw [filled]
  rfl

theorem essence_ne_none {value : Option Json} (filled : isBlank value = false) :
    essence value ≠ none := by
  rw [essence_of_not_blank filled]
  cases value with
  | none => cases filled
  | some value => exact Option.some_ne_none _

theorem unchanged_iff_essence {a b : Option Json} :
    unchanged a b = true ↔ essence a = essence b := by
  cases blankA : isBlank a with
  | true =>
    rw [unchanged_of_blank (Or.inl blankA), blankA, Bool.true_and, essence_of_blank blankA]
    cases blankB : isBlank b with
    | true => simp only [essence_of_blank blankB]
    | false => simp only [(essence_ne_none blankB).symm, Bool.false_eq_true]
  | false =>
    cases blankB : isBlank b with
    | true =>
      rw [unchanged_of_blank (Or.inr blankB), blankA, Bool.false_and, essence_of_blank blankB]
      simp only [essence_ne_none blankA, Bool.false_eq_true]
    | false =>
      unfold unchanged
      rw [blankA, Bool.false_and, Bool.false_or, sameEntry_iff_canonical,
        essence_of_not_blank blankA, essence_of_not_blank blankB]

namespace Schema

variable {schema : Schema} {name : String}

/-- What a plan sees of a state under a name. -/
def seen (schema : Schema) (state : Json) (name : String) : Option Json :=
  essence (if schema.isSetName name then (state.get? name).map unordered else state.get? name)

theorem agreesOn_iff_seen {prior desired : Json} :
    schema.agreesOn prior desired name = true ↔
      schema.seen prior name = schema.seen desired name := by
  unfold agreesOn seen
  split
  · exact unchanged_iff_essence
  · exact unchanged_iff_essence

theorem mem_changedNames_iff_seen {prior desired : Json} :
    name ∈ schema.changedNames prior desired ↔
      name ∈ schema.configurableNames ∧ schema.seen prior name ≠ schema.seen desired name := by
  unfold changedNames
  rw [List.mem_filter, Bool.not_eq_true', Bool.eq_false_iff, ne_eq, agreesOn_iff_seen]

theorem changedNames_eq_nil_iff {prior desired : Json} :
    schema.changedNames prior desired = [] ↔
      ∀ name ∈ schema.configurableNames, schema.seen prior name = schema.seen desired name := by
  simp only [List.eq_nil_iff_forall_not_mem, mem_changedNames_iff_seen, not_and, ne_eq,
    Classical.not_not]

/-- Only what is seen counts for the names that differ. -/
theorem changedNames_congr {prior prior' desired desired' : Json}
    (priors : ∀ name, schema.seen prior name = schema.seen prior' name)
    (desires : ∀ name, schema.seen desired name = schema.seen desired' name) :
    schema.changedNames prior desired = schema.changedNames prior' desired' := by
  apply List.filter_congr
  intro name _
  congr 1
  apply Bool.eq_iff_iff.mpr
  rw [agreesOn_iff_seen, agreesOn_iff_seen, priors name, desires name]

theorem changedNames_comm (a b : Json) : schema.changedNames a b = schema.changedNames b a := by
  apply List.filter_congr
  intro name _
  congr 1
  apply Bool.eq_iff_iff.mpr
  rw [agreesOn_iff_seen, agreesOn_iff_seen]
  exact eq_comm

/-- Two states of which the second one has the items of one set attribute in another order. -/
inductive Reordered (schema : Schema) : Json → Json → Prop
  | intro {name : String} {a : Attribute} {element : AttributeType}
      (declared : schema.attribute? name = some a) (isSet : a.type = .set element)
      {entries : List (String × Json)} {items others : List Json}
      (given : entries.lookup name = some (.arr items)) (perm : items.Perm others) :
      schema.Reordered (.obj entries) (.obj (Keyed.insert name (.arr others) entries))

theorem Reordered.seen_eq {state other : Json} (reordered : schema.Reordered state other)
    (name : String) : schema.seen state name = schema.seen other name := by
  obtain @⟨set, a, element, declared, isSet, entries, items, others, given, perm⟩ := reordered
  unfold seen Json.get?
  by_cases same : name = set
  · subst same
    have isSetName : schema.isSetName name = true := by
      unfold isSetName
      rw [declared, Option.any_some, isSet]
      rfl
    simp only [if_pos isSetName, given, Keyed.lookup_insert_self, Option.map_some,
      unordered_of_perm perm]
  · simp only [Keyed.lookup_insert_of_ne _ same]

/-- Having no difference is an equivalence of states, the differences do not depend on which state
comes first, and the order of a set counts on neither side. -/
theorem drift_equivalence (schema : Schema) :
    Equivalence (fun a b => schema.changedNames a b = []) ∧
      (∀ a b, schema.changedNames a b = schema.changedNames b a) ∧
      ∀ state other, schema.Reordered state other → ∀ opposite,
        schema.changedNames state opposite = schema.changedNames other opposite ∧
          schema.changedNames opposite state = schema.changedNames opposite other := by
  refine ⟨⟨?_, ?_, ?_⟩, changedNames_comm, ?_⟩
  · intro a
    exact changedNames_eq_nil_iff.mpr fun _ _ => rfl
  · intro a b none
    rw [changedNames_comm]
    exact none
  · intro a b c first second
    rw [changedNames_eq_nil_iff] at first second ⊢
    exact fun name member => (first name member).trans (second name member)
  · intro state other reordered opposite
    exact ⟨changedNames_congr reordered.seen_eq fun _ => rfl,
      changedNames_congr (fun _ => rfl) reordered.seen_eq⟩

end Schema

namespace Network

/-- A configuration with connection types in some order. -/
def connected (types : List String) : Json :=
  .obj [("connection_types", .strings types), ("display_name", .str "net")]

/-- A network with its two connection types in the one order and in the other has not changed. -/
theorem drift_equivalence_connected :
    schema.Reordered (connected ["PEERING", "PRIVATELINK"])
        (connected ["PRIVATELINK", "PEERING"]) ∧
      schema.changedNames (connected ["PEERING", "PRIVATELINK"])
        (connected ["PRIVATELINK", "PEERING"]) = [] := by
  have declared : schema.attribute? "connection_types" =
      some (Attribute.textSet .mandatory).replacing := rfl
  have reordered : schema.Reordered (connected ["PEERING", "PRIVATELINK"])
      (connected ["PRIVATELINK", "PEERING"]) := .intro declared rfl rfl (.swap _ _ _)
  obtain ⟨equivalence, _, unordered⟩ := Schema.drift_equivalence schema
  refine ⟨reordered, ?_⟩
  rw [(unordered _ _ reordered _).1]
  exact equivalence.refl _

end Network

end Provisioner

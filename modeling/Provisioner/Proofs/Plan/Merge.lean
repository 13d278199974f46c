import Provisioner.Lifecycle
import Provisioner.Proofs.Json.Same

/-!
# Merged configurations

A merge changes an object only under the computed names that it leaves blank, and there it takes the
value of the prior state. A field that a plan finds unchanged decodes to the same value from both
sides.
-/

namespace Provisioner

set_option autoImplicit false

namespace Fields

variable {α : Type} {name : String} {absent : Option α} {decode : Decoder α}

/-- A decoder that reads a blank value as the empty one. -/
def BlankIs (decode : Decoder α) (empty : α) : Prop :=
  ∀ {given : Json} {value : α}, isBlank (some given) = true → decode given.dropNulls = .ok value →
    value = empty

theorem text_blankIs : BlankIs Decoder.text "" := by
  intro given value blank decoded
  cases given with
  | str text =>
    rw [← Except.ok.inj decoded]
    exact String.isEmpty_iff.mp blank
  | _ => cases decoded

theorem blockList_blankIs {item : Decoder α} : BlankIs (Decoder.blockList item) [] := by
  intro given value blank decoded
  cases given with
  | null => exact (Except.ok.inj decoded).symm
  | arr items =>
    cases items with
    | nil => exact (Except.ok.inj decoded).symm
    | cons => cases blank
  | _ => cases decoded

theorem single_of_blank {empty : α} (blankIs : BlankIs decode empty)
    (absentIs : ∀ value, absent = some value → value = empty) {entries : List (String × Json)}
    (sorted : Keyed.Sorted entries) (blank : isBlank (entries.lookup name) = true) {value : α}
    (decoded : (single name absent decode).ofEntries (Json.dropNullsEntries entries) = .ok value) :
    value = empty := by
  rcases (single_dropNulls_ok_iff sorted).mp decoded with ⟨given, found, _, read⟩ | ⟨_, missing⟩
  · rw [found] at blank
    exact blankIs blank read
  · exact absentIs value missing

theorem single_congr_lookup {source target : List (String × Json)}
    (sortedSource : Keyed.Sorted source) (sortedTarget : Keyed.Sorted target)
    (same : source.lookup name = target.lookup name) (absent : Option α) (decode : Decoder α) :
    (single name absent decode).ofEntries (Json.dropNullsEntries source) =
      (single name absent decode).ofEntries (Json.dropNullsEntries target) := by
  unfold single
  simp only [Json.lookup_dropNullsEntries sortedSource, Json.lookup_dropNullsEntries sortedTarget,
    same]

theorem single_of_sameEntry (respects : decode.Respects) {source target : List (String × Json)}
    (sortedSource : Keyed.Sorted source) (sortedTarget : Keyed.Sorted target)
    (same : sameEntry (source.lookup name) (target.lookup name) = true) {value : α}
    (decoded : (single name absent decode).ofEntries (Json.dropNullsEntries source) = .ok value) :
    (single name absent decode).ofEntries (Json.dropNullsEntries target) = .ok value := by
  rw [single_dropNulls_ok_iff sortedSource] at decoded
  rw [single_dropNulls_ok_iff sortedTarget]
  rcases decoded with ⟨given, found, notNull, read⟩ | ⟨missing | isNull, absentIs⟩
  · rw [found] at same
    cases foundTarget : target.lookup name with
    | none => simp [foundTarget, sameEntry] at same
    | some given' =>
      rw [foundTarget] at same
      refine Or.inl ⟨given', rfl, ?_, respects (Json.same_dropNulls same) read⟩
      rw [← Json.isNull_of_same same]
      exact notNull
  · rw [missing] at same
    cases foundTarget : target.lookup name with
    | none => exact Or.inr ⟨Or.inl rfl, absentIs⟩
    | some given' => simp [foundTarget, sameEntry] at same
  · rw [isNull] at same
    cases foundTarget : target.lookup name with
    | none => exact Or.inr ⟨Or.inl rfl, absentIs⟩
    | some given' =>
      rw [foundTarget] at same
      cases given' with
      | null => exact Or.inr ⟨Or.inr rfl, absentIs⟩
      | _ => cases same

theorem single_of_unchanged {empty : α} (respects : decode.Respects)
    (blankIs : BlankIs decode empty) (absentIs : ∀ value, absent = some value → value = empty)
    {source target : List (String × Json)} (sortedSource : Keyed.Sorted source)
    (sortedTarget : Keyed.Sorted target)
    (same : unchanged (source.lookup name) (target.lookup name) = true) {before after : α}
    (decodedBefore :
      (single name absent decode).ofEntries (Json.dropNullsEntries source) = .ok before)
    (decodedAfter :
      (single name absent decode).ofEntries (Json.dropNullsEntries target) = .ok after) :
    before = after := by
  unfold unchanged at same
  rw [Bool.or_eq_true, Bool.and_eq_true] at same
  rcases same with ⟨blankSource, blankTarget⟩ | equal
  · rw [single_of_blank blankIs absentIs sortedSource blankSource decodedBefore,
      single_of_blank blankIs absentIs sortedTarget blankTarget decodedAfter]
  · have kept := single_of_sameEntry respects sortedSource sortedTarget equal decodedBefore
    rw [decodedAfter] at kept
    exact (Except.ok.inj kept).symm

end Fields

section Merge

variable {source target : List (String × Json)}

/-- One step of a merge. -/
def takeMissing (source target : List (String × Json)) (name : String) : List (String × Json) :=
  if isBlank (target.lookup name) then
    match source.lookup name with
    | some value => Keyed.insert name value target
    | none => target
  else target

theorem mergeComputed_obj (schema : Schema) (source target : List (String × Json)) :
    schema.mergeComputed (.obj source) (.obj target) =
      .obj (schema.computedNames.foldl (takeMissing source) target) := rfl

theorem sorted_takeMissing (sorted : Keyed.Sorted target) (name : String) :
    Keyed.Sorted (takeMissing source target name) := by
  unfold takeMissing
  split
  · split
    · exact Keyed.sorted_insert name _ sorted
    · exact sorted
  · exact sorted

theorem lookup_takeMissing_self (source target : List (String × Json)) (name : String) :
    (takeMissing source target name).lookup name =
      if isBlank (target.lookup name) then (source.lookup name).or (target.lookup name)
      else target.lookup name := by
  unfold takeMissing
  split
  · cases source.lookup name with
    | none => rfl
    | some value => exact Keyed.lookup_insert_self name value target
  · rfl

theorem lookup_takeMissing_of_ne {name other : String} (ne : other ≠ name) :
    (takeMissing source target name).lookup other = target.lookup other := by
  unfold takeMissing
  split
  · cases source.lookup name with
    | none => rfl
    | some value => exact Keyed.lookup_insert_of_ne value ne target
  · rfl

theorem sorted_merge (source : List (String × Json)) (names : List String)
    (sorted : Keyed.Sorted target) :
    Keyed.Sorted (names.foldl (takeMissing source) target) := by
  induction names generalizing target with
  | nil => exact sorted
  | cons name rest ih => exact ih (sorted_takeMissing sorted name)

theorem lookup_merge_of_not_mem {names : List String} {key : String} (absent : key ∉ names) :
    (names.foldl (takeMissing source) target).lookup key = target.lookup key := by
  induction names generalizing target with
  | nil => rfl
  | cons name rest ih =>
    rw [List.mem_cons, not_or] at absent
    rw [List.foldl_cons, ih absent.2, lookup_takeMissing_of_ne absent.1]

/-- Taking a missing value twice is the same as taking it once. -/
theorem lookup_merge_of_mem (source target : List (String × Json)) {names : List String}
    {key : String} (member : key ∈ names) :
    (names.foldl (takeMissing source) target).lookup key =
      if isBlank (target.lookup key) then (source.lookup key).or (target.lookup key)
      else target.lookup key := by
  induction names generalizing target with
  | nil => cases member
  | cons name rest ih =>
    rw [List.foldl_cons]
    by_cases here : key = name
    · subst here
      have once := lookup_takeMissing_self source target key
      by_cases later : key ∈ rest
      · -- A second step finds the name filled, or again nothing to fill it with.
        rw [ih _ later, once]
        cases source.lookup key with
        | none => simp
        | some value =>
          by_cases blank : isBlank (target.lookup key) = true
          · simp [blank]
          · simp [blank]
      · rw [lookup_merge_of_not_mem later, once]
    · have later := (List.mem_cons.mp member).resolve_left here
      rw [ih _ later, lookup_takeMissing_of_ne here]

end Merge

theorem obj_of_ensureValid {schema : Schema} {config : Json}
    (valid : schema.ensureValid config = .ok ()) :
    config = .null ∨ ∃ entries, config = .obj entries := by
  have refused : schema.validate config ≠ [notAnObject config ""] := by
    intro found
    unfold Schema.ensureValid at valid
    rw [found] at valid
    cases valid
  unfold Schema.validate at refused
  generalize schema.block = block at refused
  cases block
  cases config with
  | null => exact Or.inl rfl
  | obj entries => exact Or.inr ⟨entries, rfl⟩
  | _ => simp [Block.check] at refused

namespace Schema

/-- The names whose change replaces an object have the same values on both sides. A set is left out,
as its items may stand in another order. -/
def KeepsForced (schema : Schema) (source target : List (String × Json)) : Prop :=
  ∀ name ∈ schema.configurableNames, schema.isForceNew name = true →
    schema.isSetName name = false →
      unchanged (source.lookup name) (target.lookup name) = true

/-- A prior state and a desired one that replaces nothing. -/
structure Kept (schema : Schema) (source target : List (String × Json)) : Prop where
  sortedSource : Keyed.Sorted source
  sortedTarget : Keyed.Sorted target
  forced : schema.KeepsForced source target

/-- A name whose change replaces the object, and which is no set. -/
def IsFixed (schema : Schema) (name : String) : Prop :=
  name ∈ schema.configurableNames ∧ schema.isForceNew name = true ∧
    schema.isSetName name = false

instance (schema : Schema) (name : String) : Decidable (schema.IsFixed name) :=
  inferInstanceAs (Decidable (_ ∧ _ ∧ _))

namespace Kept

open Fields

variable {schema : Schema} {source target : List (String × Json)} {name : String}

theorem block (kept : schema.Kept source target) (isFixed : schema.IsFixed name)
    {before after : List Reference}
    (decodedBefore : (defaulted name [] Reference.decodeBlock).ofEntries
      (Json.dropNullsEntries source) = .ok before)
    (decodedAfter : (defaulted name [] Reference.decodeBlock).ofEntries
      (Json.dropNullsEntries target) = .ok after) : before = after :=
  single_of_unchanged Reference.decodeBlock_respects blockList_blankIs
    (fun _ given => (Option.some.inj given).symm) kept.sortedSource kept.sortedTarget
    (kept.forced name isFixed.1 isFixed.2.1 isFixed.2.2) decodedBefore decodedAfter

theorem text (kept : schema.Kept source target) (isFixed : schema.IsFixed name)
    {absent : Option String} (absentIs : ∀ value, absent = some value → value = "")
    {before after : String}
    (decodedBefore : (single name absent Decoder.text).ofEntries
      (Json.dropNullsEntries source) = .ok before)
    (decodedAfter : (single name absent Decoder.text).ofEntries
      (Json.dropNullsEntries target) = .ok after) : before = after :=
  single_of_unchanged Decoder.text_respects text_blankIs absentIs kept.sortedSource
    kept.sortedTarget (kept.forced name isFixed.1 isFixed.2.1 isFixed.2.2) decodedBefore
    decodedAfter

end Kept

end Schema

/-- A computed text keeps its prior value exactly if the configuration leaves it blank or repeats
it. -/
theorem merged_text_eq_iff {names : List String} {name : String} (computed : name ∈ names)
    {source target : List (String × Json)} (sortedSource : Keyed.Sorted source)
    (sortedTarget : Keyed.Sorted target) {before after : String}
    (decodedBefore : (Fields.defaulted name "" Decoder.text).ofEntries
      (Json.dropNullsEntries source) = .ok before)
    (decodedAfter : (Fields.defaulted name "" Decoder.text).ofEntries
      (Json.dropNullsEntries (names.foldl (takeMissing source) target)) = .ok after) :
    before = after ↔
      isBlank (target.lookup name) = true ∨ target.lookup name = some (.str before) := by
  have absentIs : ∀ value : String, some "" = some value → value = "" :=
    fun _ given => (Option.some.inj given).symm
  have sortedMerged := sorted_merge source names sortedTarget
  have merged := lookup_merge_of_mem source target computed
  by_cases blank : isBlank (target.lookup name) = true
  · simp only [blank, true_or, iff_true]
    rw [if_pos blank] at merged
    -- Without a prior value both sides are blank; a blank text is the empty one.
    cases known : source.lookup name with
    | none =>
      rw [known] at merged
      have blankMerged : isBlank (List.lookup name (names.foldl (takeMissing source) target)) :=
        merged ▸ blank
      rw [Fields.single_of_blank Fields.text_blankIs absentIs sortedSource (by rw [known]; rfl)
          decodedBefore,
        Fields.single_of_blank Fields.text_blankIs absentIs sortedMerged blankMerged decodedAfter]
    | some value =>
      rw [known] at merged
      have same := Fields.single_congr_lookup sortedSource sortedMerged (known.trans merged.symm)
        (some "") Decoder.text
      exact Except.ok.inj (decodedBefore.symm.trans (same.trans decodedAfter))
  · rw [if_neg blank] at merged
    simp only [blank, Bool.false_eq_true, false_or]
    rcases (Fields.single_dropNulls_ok_iff sortedMerged).mp decodedAfter with
      ⟨given, found, _, read⟩ | ⟨missing, _⟩
    · rw [merged] at found
      cases given with
      | str text =>
        rw [found, ← Except.ok.inj read]
        simp only [Option.some.injEq, Json.str.injEq]
        exact eq_comm
      | _ => cases read
    · rw [merged] at missing
      rcases missing with none | isNull
      · exact absurd (by rw [none]; rfl) blank
      · exact absurd (by rw [isNull]; rfl) blank

namespace Lifecycle

variable {σ : Type} {l : Lifecycle σ}

theorem not_forceNew_of_guard {changed : List String} (guarded : l.guardUpdate changed = .ok ())
    {name : String} (member : name ∈ changed) : l.kind.schema.isForceNew name = false := by
  induction changed with
  | nil => cases member
  | cons head rest ih =>
    unfold guardUpdate at guarded
    split at guarded
    · cases guarded
    · next inPlace =>
      split at guarded
      · cases guarded
      · rcases List.mem_cons.mp member with rfl | later
        · exact Bool.eq_false_iff.mpr inPlace
        · exact ih guarded later

theorem keepsForced_of_guard {source target : List (String × Json)}
    (guarded : l.guardUpdate (l.kind.schema.changedNames (.obj source) (.obj target)) = .ok ()) :
    l.kind.schema.KeepsForced source target := by
  intro name configurable forced plain
  have agrees : l.kind.schema.agreesOn (.obj source) (.obj target) name = true := by
    apply Decidable.byContradiction
    intro differs
    have member : name ∈ l.kind.schema.changedNames (.obj source) (.obj target) :=
      List.mem_filter.mpr ⟨configurable, by simpa using differs⟩
    rw [not_forceNew_of_guard guarded member] at forced
    cases forced
  unfold Schema.agreesOn at agrees
  rw [plain] at agrees
  exact agrees

theorem prepareUpdate_ok_iff {priorState config : Json} {prior desired : l.kind.State}
    {changed : List String} :
    l.prepareUpdate priorState config prior = .ok (desired, changed) ↔
      l.kind.schema.ensureValid config = .ok () ∧
      l.kind.decode.fromState (l.kind.schema.mergeComputed priorState config) = .ok desired ∧
      changed = l.kind.schema.changedNames priorState
        (l.kind.schema.mergeComputed priorState config) ∧
      l.guardUpdate changed = .ok () ∧ l.kind.validateUpdate prior desired = .ok () := by
  unfold prepareUpdate
  simp only [bind, Except.bind]
  constructor
  · intro prepared
    split at prepared
    · cases prepared
    · next valid =>
      split at prepared
      · cases prepared
      · next decoded given =>
        split at prepared
        · cases prepared
        · next guarded =>
          split at prepared
          · cases prepared
          · next checked =>
            obtain ⟨rfl, rfl⟩ := Prod.mk.inj (Except.ok.inj prepared)
            exact ⟨valid, given, rfl, guarded, checked⟩
  · intro parts
    rcases parts with ⟨valid, decoded, rfl, guarded, checked⟩
    rw [valid, decoded]
    simp only
    rw [guarded, checked]

end Lifecycle

end Provisioner

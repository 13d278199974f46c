import Provisioner.Proofs.Plan.Replan
import Provisioner.Proofs.Plan.Unchanged
import Provisioner.Proofs.Plan.Unordered

/-!
# Values that a plan takes for the same

Every value is the same as itself, and a set is the same as one with its texts in another order.
What a plan finds changed differs in the configuration as it was given; a merge only adds to what
agrees.
-/

namespace Provisioner

set_option autoImplicit false

theorem Number.same_self (number : Number) : number.same number = true := by
  cases number <;> simp [Number.same, Double.same]

namespace Json

mutual

theorem same_self : ∀ value : Json, value.same value = true
  | .null => rfl
  | .bool flag => beq_self_eq_true flag
  | .num number => number.same_self
  | .str text => beq_self_eq_true text
  | .arr items => by
    rw [Json.same]
    exact sameItems_self items
  | .obj entries => by
    rw [Json.same]
    exact sameEntries_self entries

theorem sameItems_self : ∀ items : List Json, sameItems items items = true
  | [] => rfl
  | item :: rest => by
    rw [sameItems, same_self item, sameItems_self rest]
    rfl

theorem sameEntries_self : ∀ entries : List (String × Json), sameEntries entries entries = true
  | [] => rfl
  | (key, value) :: rest => by
    rw [sameEntries, beq_self_eq_true key, same_self value, sameEntries_self rest]
    rfl

end

end Json

theorem unchanged_self (value : Option Json) : unchanged value value = true := by
  cases value with
  | none => rfl
  | some value => simp [unchanged, sameEntry, Json.same_self]

theorem isBlank_of_none {value : Option Json} (absent : value = none) : isBlank value = true := by
  rw [absent]
  rfl

theorem isBlank_unordered (value : Option Json) :
    isBlank (value.map unordered) = isBlank value := by
  rcases value with _ | value
  · rfl
  · cases value with
    | arr items =>
      show (List.mergeSort items _).isEmpty = items.isEmpty
      apply Bool.eq_iff_iff.mpr
      simp only [List.isEmpty_iff, ← List.length_eq_zero_iff, List.length_mergeSort]
    | _ => rfl

namespace Schema

/-- Under a name the two values are the same, or two orders of a set. -/
inductive Alike (schema : Schema) (name : String) : Json → Json → Prop
  | same (value : Json) : schema.Alike name value value
  | reordered {texts others : List String} (isSet : schema.isSetName name = true)
      (perm : texts.Perm others) : schema.Alike name (.strings texts) (.strings others)

variable {schema : Schema} {name : String} {prior desired : Json}

theorem agreesOn_congr {entries others : List (String × Json)}
    (same : entries.lookup name = others.lookup name) :
    schema.agreesOn prior (.obj entries) name = schema.agreesOn prior (.obj others) name := by
  unfold agreesOn Json.get?
  simp only [same]

theorem agreesOn_of_eq (same : prior.get? name = desired.get? name) :
    schema.agreesOn prior desired name = true := by
  unfold agreesOn
  rw [same]
  split
  · exact unchanged_self _
  · exact unchanged_self _

theorem agreesOn_of_blank (before : isBlank (prior.get? name) = true)
    (after : isBlank (desired.get? name) = true) : schema.agreesOn prior desired name = true := by
  unfold agreesOn unchanged
  simp only [isBlank_unordered, before, after, Bool.and_self, Bool.true_or, ite_self]

theorem Alike.agreesOn {a b : Json} (alike : schema.Alike name a b)
    (before : prior.get? name = some a) (after : desired.get? name = some b) :
    schema.agreesOn prior desired name = true := by
  cases alike with
  | same => exact agreesOn_of_eq (before.trans after.symm)
  | reordered isSet perm =>
    unfold Schema.agreesOn
    have sets := unordered_of_perm (perm.map Json.str)
    rw [if_pos isSet, before, after, Option.map_some, Option.map_some, Json.strings, sets]
    exact unchanged_self _

theorem Alike.isBlank_eq {a b : Json} (alike : schema.Alike name a b) :
    isBlank (some a) = isBlank (some b) := by
  cases alike with
  | same => rfl
  | reordered _ perm =>
    show (List.map Json.str _).isEmpty = (List.map Json.str _).isEmpty
    apply Bool.eq_iff_iff.mpr
    simp only [List.isEmpty_iff, ← List.length_eq_zero_iff, List.length_map, perm.length_eq]

theorem exists_merged (schema : Schema) (prior : Json) {target : List (String × Json)}
    (sorted : Keyed.Sorted target) :
    ∃ merged, schema.mergeComputed prior (.obj target) = .obj merged ∧ Keyed.Sorted merged := by
  rcases schema.obj_or_unseen prior (.obj target) with ⟨source, rfl⟩ | ⟨_, same⟩
  · exact ⟨_, mergeComputed_obj schema source target, sorted_merge source _ sorted⟩
  · exact ⟨target, same, sorted⟩

/-- A merge leaves a changed name as the configuration has it: the change is one of the
configuration itself, and what the server computes changes only where the configuration says
something. -/
theorem differs_of_changed {target merged : List (String × Json)}
    (merging : schema.mergeComputed prior (.obj target) = .obj merged)
    (changes : name ∈ schema.changedNames prior (.obj merged)) :
    merged.lookup name = target.lookup name ∧
      schema.agreesOn prior (.obj target) name = false ∧
      (name ∈ schema.computedNames → isBlank (target.lookup name) = false) := by
  have differs : ¬schema.agreesOn prior (.obj merged) name = true := by
    simpa using (List.mem_filter.mp changes).2
  rcases schema.obj_or_unseen prior (.obj target) with ⟨source, rfl⟩ | ⟨unseen, same⟩
  · have isMerged : schema.computedNames.foldl (takeMissing source) target = merged :=
      Json.obj.inj ((mergeComputed_obj schema source target).symm.trans merging)
    -- What was taken from the prior state agrees with it.
    have notTaken : source.lookup name ≠ merged.lookup name :=
      fun taken => differs (agreesOn_of_eq taken)
    have kept : merged.lookup name = target.lookup name := by
      rcases lookup_merge_cases source target schema.computedNames name with
        kept | ⟨_, _, value, given, taken⟩
      · rw [← isMerged]
        exact kept
      · exact absurd (given.trans (isMerged ▸ taken).symm) notTaken
    refine ⟨kept, Bool.eq_false_iff.mpr ?_, fun computed => Bool.eq_false_iff.mpr ?_⟩
    · intro agrees
      exact differs ((agreesOn_congr kept).trans agrees)
    · intro blank
      have taken := lookup_merge_of_mem source target computed
      rw [if_pos blank, isMerged] at taken
      cases given : source.lookup name with
      | none =>
        have blankMerged := (congrArg isBlank kept).trans blank
        exact differs (agreesOn_of_blank (isBlank_of_none given) blankMerged)
      | some value => exact notTaken (given.trans (by rw [taken, given]; rfl))
  · have isTarget : target = merged := Json.obj.inj (same.symm.trans merging)
    subst isTarget
    refine ⟨rfl, Bool.eq_false_iff.mpr differs, fun _ => Bool.eq_false_iff.mpr ?_⟩
    intro blank
    exact differs (agreesOn_of_blank (isBlank_of_none (unseen name)) blank)

theorem differs_of_planned {target : List (String × Json)} (sorted : Keyed.Sorted target)
    {change : Change} (member : change ∈ (schema.plan (some prior) (.obj target)).changes) :
    change.path ∈ schema.configurableNames ∧
      schema.agreesOn prior (.obj target) change.path = false ∧
      (change.path ∈ schema.computedNames → isBlank (target.lookup change.path) = false) := by
  obtain ⟨name, changes, rfl⟩ := List.mem_map.mp member
  obtain ⟨merged, merging, _⟩ := schema.exists_merged prior sorted
  rw [merging] at changes
  exact ⟨(List.mem_filter.mp changes).1, (differs_of_changed merging changes).2⟩

end Schema

end Provisioner

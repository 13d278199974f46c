import Provisioner.Proofs.Plan.Merge

/-!
# Plans without changes

Where a plan finds no change, the prior state and the merged configuration hold the same under every
configurable name. A field reads the same value from both then, provided that its decoder tells
apart nothing that a plan takes for the same.
-/

namespace Provisioner

set_option autoImplicit false

theorem unchanged_none (value : Option Json) : unchanged none value = isBlank value := by
  cases value <;> simp [unchanged, isBlank, sameEntry]

theorem Schema.obj_or_unseen (schema : Schema) (prior proposed : Json) :
    (∃ source, prior = .obj source) ∨
      (∀ name, prior.get? name = none) ∧ schema.mergeComputed prior proposed = proposed := by
  cases prior with
  | obj source => exact Or.inl ⟨source, rfl⟩
  | _ => exact Or.inr ⟨fun _ => rfl, rfl⟩

namespace Fields

variable {α : Type} {decode : Decoder α} {empty : α}

/-- What a plan takes for the same value is one value to the decoder. -/
structure Agrees (decode : Decoder α) (empty : α) : Prop where
  respects : decode.Respects
  blankIs : BlankIs decode empty

theorem text_agrees : Agrees Decoder.text "" := ⟨Decoder.text_respects, text_blankIs⟩

theorem blockList_agrees (respects : decode.Respects) : Agrees (Decoder.blockList decode) [] :=
  ⟨Decoder.blockList_respects respects, blockList_blankIs⟩

theorem settings_agrees :
    Agrees (Decoder.nullAs Settings.empty Decoder.settings) Settings.empty where
  respects := Decoder.nullAs_respects Decoder.settings_respects Settings.empty
  blankIs := by
    intro given value blank decoded
    cases given with
    | null => exact (Except.ok.inj decoded).symm
    | obj entries =>
      cases entries with
      | nil => exact (Except.ok.inj decoded).symm
      | cons => cases blank
    | _ => cases decoded

theorem integer64_agrees : Agrees
    (fun value => if value.isNull then .ok none else (Decoder.integer64 value).map some) none where
  respects := optionalValue_respects Decoder.integer64_respects
  blankIs := by
    intro given value blank decoded
    cases given with
    | null => exact (Except.ok.inj decoded).symm
    | num => cases blank
    | bool => cases blank
    | _ => cases decoded

end Fields

namespace Schema

variable {schema : Schema} {source target : List (String × Json)} {name : String}

/-- A prior state and a merged configuration that holds the same. Sets are left out, as their items
may stand in another order. -/
structure Unchanged (schema : Schema) (source target : List (String × Json)) : Prop where
  sortedSource : Keyed.Sorted source
  sortedTarget : Keyed.Sorted target
  same : ∀ name ∈ schema.configurableNames, schema.isSetName name = false →
    unchanged (source.lookup name) (target.lookup name) = true

/-- A name that a configuration may set, and which is no set. -/
def IsPlain (schema : Schema) (name : String) : Prop :=
  name ∈ schema.configurableNames ∧ schema.isSetName name = false

instance (schema : Schema) (name : String) : Decidable (schema.IsPlain name) :=
  inferInstanceAs (Decidable (_ ∧ _))

namespace Unchanged

open Fields

variable {α : Type} {decode : Decoder α} {empty : α}

theorem field (holds : schema.Unchanged source target) (plain : schema.IsPlain name)
    (agrees : Agrees decode empty) {absent : Option α}
    (absentIs : ∀ value, absent = some value → value = empty) {before after : α}
    (decodedBefore : (single name absent decode).ofEntries
      (Json.dropNullsEntries source) = .ok before)
    (decodedAfter : (single name absent decode).ofEntries
      (Json.dropNullsEntries target) = .ok after) : before = after :=
  single_of_unchanged agrees.respects agrees.blankIs absentIs holds.sortedSource
    holds.sortedTarget (holds.same name plain.1 plain.2) decodedBefore decodedAfter

theorem required (holds : schema.Unchanged source target) (plain : schema.IsPlain name)
    (agrees : Agrees decode empty) {before after : α}
    (decodedBefore : (Fields.required name decode).ofEntries
      (Json.dropNullsEntries source) = .ok before)
    (decodedAfter : (Fields.required name decode).ofEntries
      (Json.dropNullsEntries target) = .ok after) : before = after :=
  holds.field plain agrees (fun _ impossible => by cases impossible) decodedBefore decodedAfter

theorem defaulted (holds : schema.Unchanged source target) (plain : schema.IsPlain name)
    (agrees : Agrees decode empty) {before after : α}
    (decodedBefore : (Fields.defaulted name empty decode).ofEntries
      (Json.dropNullsEntries source) = .ok before)
    (decodedAfter : (Fields.defaulted name empty decode).ofEntries
      (Json.dropNullsEntries target) = .ok after) : before = after :=
  holds.field plain agrees (fun _ given => (Option.some.inj given).symm) decodedBefore
    decodedAfter

end Unchanged

theorem agreesOn_of_unchanged {prior desired : Json}
    (none : schema.changedNames prior desired = [])
    (configurable : name ∈ schema.configurableNames) :
    schema.agreesOn prior desired name = true := by
  have all := List.filter_eq_nil_iff.mp none name configurable
  simpa using all

/-- A plan that finds no change finds the merged configuration unchanged. -/
theorem unchanged_of_changedNames (sortedSource : Keyed.Sorted source)
    (sortedTarget : Keyed.Sorted target)
    (none : schema.changedNames (.obj source) (.obj target) = []) :
    schema.Unchanged source target where
  sortedSource := sortedSource
  sortedTarget := sortedTarget
  same := by
    intro name configurable plain
    have agrees := agreesOn_of_unchanged none configurable
    unfold agreesOn at agrees
    rw [plain] at agrees
    exact agrees

end Schema

end Provisioner

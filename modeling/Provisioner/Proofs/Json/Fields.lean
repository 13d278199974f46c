import Provisioner.Json.Decoder

/-!
# Decoded records

When a record decodes, every one of its fields did. From an object a field takes the entry under its
own name and looks at nothing else.
-/

namespace Provisioner

set_option autoImplicit false

theorem mapError_eq_ok_iff {ε ε' α : Type} {change : ε → ε'} {result : Except ε α} {value : α} :
    result.mapError change = .ok value ↔ result = .ok value := by
  cases result with
  | error fault =>
    constructor
    · intro impossible
      cases impossible
    · intro impossible
      cases impossible
  | ok found =>
    constructor
    · intro same
      cases same
      rfl
    · intro same
      cases same
      rfl

namespace Fields

variable {α β γ : Type} {entries : List (String × Json)} {position : Nat} {items : List Json}

theorem both_ofEntries_ok_iff {combine : α → β → γ} {a : Fields α} {b : Fields β} {value : γ} :
    (both combine a b).ofEntries entries = .ok value ↔
      ∃ x y, a.ofEntries entries = .ok x ∧ b.ofEntries entries = .ok y ∧ combine x y = value := by
  unfold both
  simp only
  cases a.ofEntries entries <;> cases b.ofEntries entries <;> simp

theorem both_ofItems_ok_iff {combine : α → β → γ} {a : Fields α} {b : Fields β} {value : γ} :
    (both combine a b).ofItems position items = .ok value ↔
      ∃ x y, a.ofItems position items = .ok x ∧
        b.ofItems (position + a.count) (items.drop a.count) = .ok y ∧ combine x y = value := by
  unfold both
  simp only
  cases a.ofItems position items with
  | error => simp
  | ok x => cases b.ofItems (position + a.count) (items.drop a.count) <;> simp

@[simp] theorem seq_ofEntries_ok_iff {f : Fields (α → β)} {a : Fields α} {value : β} :
    (f <*> a).ofEntries entries = .ok value ↔
      ∃ g x, f.ofEntries entries = .ok g ∧ a.ofEntries entries = .ok x ∧ g x = value :=
  both_ofEntries_ok_iff

@[simp] theorem map_ofEntries_ok_iff {f : α → β} {a : Fields α} {value : β} :
    (f <$> a).ofEntries entries = .ok value ↔ ∃ x, a.ofEntries entries = .ok x ∧ f x = value := by
  refine Iff.trans both_ofEntries_ok_iff ?_
  simp [Fields.pure]

@[simp] theorem seq_ofItems_ok_iff {f : Fields (α → β)} {a : Fields α} {value : β} :
    (f <*> a).ofItems position items = .ok value ↔
      ∃ g x, f.ofItems position items = .ok g ∧
        a.ofItems (position + f.count) (items.drop f.count) = .ok x ∧ g x = value :=
  both_ofItems_ok_iff

@[simp] theorem map_ofItems_ok_iff {f : α → β} {a : Fields α} {value : β} :
    (f <$> a).ofItems position items = .ok value ↔
      ∃ x, a.ofItems position items = .ok x ∧ f x = value := by
  refine Iff.trans both_ofItems_ok_iff ?_
  simp [Fields.pure]

theorem single_ofEntries_ok_iff {name : String} {absent : Option α} {decode : Decoder α}
    {value : α} :
    (single name absent decode).ofEntries entries = .ok value ↔
      (∃ given, entries.lookup name = some given ∧ decode given = .ok value) ∨
        (entries.lookup name = none ∧ absent = some value) := by
  unfold single
  simp only
  cases entries.lookup name with
  | none => cases absent <;> simp
  | some given => simp [mapError_eq_ok_iff]

end Fields

namespace Decoder

variable {α : Type}

theorem record_obj_ok_iff {name : String} {fields : Fields α} {entries : List (String × Json)}
    {value : α} :
    record name fields (.obj entries) = .ok value ↔ fields.ofEntries entries = .ok value := by
  simp only [record]
  exact mapError_eq_ok_iff

theorem of_record_ok {name : String} {fields : Fields α} {source : Json} {value : α}
    (decoded : record name fields source = .ok value) :
    (∃ entries, source = .obj entries ∧ fields.ofEntries entries = .ok value) ∨
      ∃ items, source = .arr items ∧ fields.ofItems 0 items = .ok value := by
  cases source with
  | obj entries => exact Or.inl ⟨entries, rfl, record_obj_ok_iff.mp decoded⟩
  | arr items =>
    refine Or.inr ⟨items, rfl, ?_⟩
    unfold record at decoded
    simp only at decoded
    split at decoded
    · cases decoded
    · split at decoded
      · cases decoded
      · next given _ => rw [given, ← Except.ok.inj decoded]
  | _ => cases decoded

theorem fromState_ok_iff {decode : Decoder α} {source : Json} {value : α} :
    decode.fromState source = .ok value ↔ decode source.dropNulls = .ok value := by
  unfold fromState
  cases decode source.dropNulls <;> simp [refuse]

theorem fromAnswer_ok_iff {decode : Decoder α} {source : Json} {value : α} :
    decode.fromAnswer source = .ok value ↔ decode source = .ok value := by
  unfold fromAnswer
  cases decode source <;> simp [refuse]

end Decoder

end Provisioner

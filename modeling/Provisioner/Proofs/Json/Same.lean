import Provisioner.Kinds.Reference
import Provisioner.Proofs.Json.Fields
import Provisioner.Proofs.Keyed

/-!
# Values that are the same

What a plan takes for the same value stays so when null entries are dropped, and the decoders of
texts, lists and references do not tell the two apart.
-/

namespace Provisioner

set_option autoImplicit false

namespace Json

theorem isNull_of_same {a b : Json} (same : a.same b = true) : a.isNull = b.isNull := by
  cases a <;> cases b <;> first | rfl | simp [Json.same] at same

mutual

theorem same_dropNulls :
    ∀ {a b : Json}, a.same b = true → a.dropNulls.same b.dropNulls = true
  | .arr items, .arr items', same => by
    simp only [Json.same] at same
    simp only [dropNulls, Json.same]
    exact same_dropNullsItems same
  | .obj entries, .obj entries', same => by
    simp only [Json.same] at same
    simp only [dropNulls, Json.same]
    exact same_dropNullsEntries same
  | .null, .null, _ => rfl
  | .bool _, .bool _, same => same
  | .num _, .num _, same => same
  | .str _, .str _, same => same

theorem same_dropNullsItems :
    ∀ {items items' : List Json}, sameItems items items' = true →
      sameItems (dropNullsItems items) (dropNullsItems items') = true
  | [], [], _ => rfl
  | item :: rest, item' :: rest', same => by
    simp only [sameItems, Bool.and_eq_true] at same
    simp only [dropNullsItems, sameItems, Bool.and_eq_true]
    exact ⟨same_dropNulls same.1, same_dropNullsItems same.2⟩

theorem same_dropNullsEntries :
    ∀ {entries entries' : List (String × Json)}, sameEntries entries entries' = true →
      sameEntries (dropNullsEntries entries) (dropNullsEntries entries') = true
  | [], [], _ => rfl
  | (key, value) :: rest, (key', value') :: rest', same => by
    simp only [sameEntries, Bool.and_eq_true] at same
    obtain ⟨⟨keys, values⟩, later⟩ := same
    simp only [dropNullsEntries, isNull_of_same values]
    split
    · exact same_dropNullsEntries later
    · simp only [sameEntries, Bool.and_eq_true]
      exact ⟨⟨keys, same_dropNulls values⟩, same_dropNullsEntries later⟩

end

theorem same_lookup {entries entries' : List (String × Json)} (key : String)
    (same : sameEntries entries entries' = true) :
    (entries.lookup key = none ∧ entries'.lookup key = none) ∨
      ∃ value value', entries.lookup key = some value ∧ entries'.lookup key = some value' ∧
        value.same value' = true := by
  induction entries generalizing entries' with
  | nil =>
    cases entries' with
    | nil => exact Or.inl ⟨rfl, rfl⟩
    | cons => cases same
  | cons head rest ih =>
    cases entries' with
    | nil => cases same
    | cons head' rest' =>
      obtain ⟨k, value⟩ := head
      obtain ⟨k', value'⟩ := head'
      simp only [sameEntries, Bool.and_eq_true, beq_iff_eq] at same
      obtain ⟨⟨rfl, values⟩, later⟩ := same
      simp only [List.lookup_cons]
      by_cases found : key = k
      · subst found
        exact Or.inr ⟨value, value', by simp, by simp, values⟩
      · rw [beq_false_of_ne found]
        exact ih later

theorem length_of_same {items items' : List Json} (same : sameItems items items' = true) :
    items.length = items'.length := by
  induction items generalizing items' with
  | nil =>
    cases items' with
    | nil => rfl
    | cons => cases same
  | cons item rest ih =>
    cases items' with
    | nil => cases same
    | cons item' rest' =>
      simp only [sameItems, Bool.and_eq_true] at same
      rw [List.length_cons, List.length_cons, ih same.2]

/-- Dropping null entries leaves the others where they are, as keys occur once. -/
theorem lookup_dropNullsEntries {entries : List (String × Json)} (sorted : Keyed.Sorted entries)
    (key : String) :
    (dropNullsEntries entries).lookup key =
      (entries.lookup key).bind fun value =>
        if value.isNull then none else some value.dropNulls := by
  induction entries with
  | nil => rfl
  | cons head rest ih =>
    obtain ⟨k, value⟩ := head
    have tail := ih (List.pairwise_cons.mp sorted).2
    simp only [dropNullsEntries, List.lookup_cons]
    by_cases found : key = k
    · subst found
      -- Dropping this entry must not bring a later one of the same key to light.
      have absent : rest.lookup key = none := Keyed.lookup_tail_self sorted
      simp only [beq_self_eq_true, Option.bind_some]
      split
      · rw [tail, absent]
        rfl
      · simp
    · simp only [beq_false_of_ne found]
      split
      · exact tail
      · simp only [List.lookup_cons, beq_false_of_ne found]
        exact tail

end Json

namespace Decoder

variable {α : Type}

/-- The decoder does not tell apart what is the same. -/
def Respects (decode : Decoder α) : Prop :=
  ∀ {a b : Json} {value : α}, a.same b = true → decode a = .ok value → decode b = .ok value

theorem text_respects : Decoder.text.Respects := by
  intro a b value same decoded
  cases a with
  | str given =>
    cases b with
    | str other =>
      simp only [Json.same, beq_iff_eq] at same
      rw [← same]
      exact decoded
    | _ => cases same
  | _ => cases decoded

theorem integerIn_respects (low high : Int) (wanted : Shape) :
    (integerIn low high wanted).Respects := by
  intro a b value same decoded
  cases a with
  | num given =>
    cases b with
    | num other =>
      simp only [Json.same] at same
      cases given with
      | integer number =>
        cases other with
        | integer number' =>
          have equal : number = number' := by simpa [Number.same] using same
          rw [← equal]
          exact decoded
        | double => cases same
      | double => cases decoded
    | _ => cases same
  | _ => cases decoded

theorem map_respects {β : Type} {decode : Decoder α} (respects : decode.Respects) (f : α → β) :
    Decoder.Respects fun value => (decode value).map f := by
  intro a b value same decoded
  simp only at decoded ⊢
  cases given : decode a with
  | error fault =>
    rw [given] at decoded
    cases decoded
  | ok found =>
    rw [given] at decoded
    rw [respects same given]
    exact decoded

theorem integer64_respects : integer64.Respects :=
  map_respects (integerIn_respects _ _ _) Int64.ofInt

theorem textEntries_respects {entries entries' : List (String × Json)}
    {values : List (String × String)} (same : Json.sameEntries entries entries' = true)
    (decoded : textEntries entries = .ok values) : textEntries entries' = .ok values := by
  induction entries generalizing entries' values with
  | nil =>
    cases entries' with
    | nil => exact decoded
    | cons => cases same
  | cons head rest ih =>
    cases entries' with
    | nil => cases same
    | cons head' rest' =>
      obtain ⟨key, value⟩ := head
      obtain ⟨key', value'⟩ := head'
      simp only [Json.sameEntries, Bool.and_eq_true, beq_iff_eq] at same
      obtain ⟨⟨rfl, here⟩, later⟩ := same
      simp only [textEntries] at decoded ⊢
      split at decoded
      · cases decoded
      · next first given =>
        split at decoded
        · cases decoded
        · next others givenLater =>
          rw [text_respects here given]
          simp only
          rw [ih later givenLater]
          exact decoded

theorem settings_respects : settings.Respects := by
  intro a b value same decoded
  cases a with
  | obj entries =>
    cases b with
    | obj entries' =>
      simp only [Json.same] at same
      simp only [settings] at decoded ⊢
      cases given : textEntries entries with
      | error fault =>
        rw [given] at decoded
        cases decoded
      | ok texts =>
        rw [given] at decoded
        rw [textEntries_respects same given]
        exact decoded
    | _ => cases same
  | _ => cases decoded

theorem items_respects {decode : Decoder α} (respects : decode.Respects) {items items' : List Json}
    {values : List α} (same : Json.sameItems items items' = true)
    (decoded : Decoder.items decode items = .ok values) :
    Decoder.items decode items' = .ok values := by
  induction items generalizing items' values with
  | nil =>
    cases items' with
    | nil => exact decoded
    | cons => cases same
  | cons item rest ih =>
    cases items' with
    | nil => cases same
    | cons item' rest' =>
      simp only [Json.sameItems, Bool.and_eq_true] at same
      simp only [Decoder.items] at decoded ⊢
      split at decoded
      · cases decoded
      · next first given =>
        split at decoded
        · cases decoded
        · next later givenLater =>
          rw [respects same.1 given]
          simp only
          rw [ih same.2 givenLater]
          exact decoded

theorem list_respects {decode : Decoder α} (respects : decode.Respects) :
    (Decoder.list decode).Respects := by
  intro a b value same decoded
  cases a with
  | arr items =>
    cases b with
    | arr items' => exact items_respects respects (by simpa [Json.same] using same) decoded
    | _ => cases same
  | _ => cases decoded

theorem nullAs_respects {decode : Decoder α} (respects : decode.Respects) (empty : α) :
    (Decoder.nullAs empty decode).Respects := by
  intro a b value same decoded
  unfold nullAs at decoded ⊢
  rw [← Json.isNull_of_same same]
  split
  · next isNull =>
    rw [if_pos isNull] at decoded
    exact decoded
  · next notNull =>
    rw [if_neg notNull] at decoded
    exact respects same decoded

theorem blockList_respects {decode : Decoder α} (respects : decode.Respects) :
    (Decoder.blockList decode).Respects := nullAs_respects (list_respects respects) []

end Decoder

namespace Fields

variable {α β : Type}

theorem single_dropNulls_ok_iff {name : String} {absent : Option α} {decode : Decoder α}
    {entries : List (String × Json)} (sorted : Keyed.Sorted entries) {value : α} :
    (single name absent decode).ofEntries (Json.dropNullsEntries entries) = .ok value ↔
      (∃ given, entries.lookup name = some given ∧ given.isNull = false ∧
        decode given.dropNulls = .ok value) ∨
      ((entries.lookup name = none ∨ entries.lookup name = some .null) ∧
        absent = some value) := by
  rw [single_ofEntries_ok_iff, Json.lookup_dropNullsEntries sorted]
  cases entries.lookup name with
  | none => simp
  | some given =>
    cases given <;> simp [Json.isNull]

structure Respects (fields : Fields α) : Prop where
  entries : ∀ {s t : List (String × Json)} {value : α}, Json.sameEntries s t = true →
    fields.ofEntries s = .ok value → fields.ofEntries t = .ok value
  items : ∀ {s t : List Json} {position : Nat} {value : α}, Json.sameItems s t = true →
    fields.ofItems position s = .ok value → fields.ofItems position t = .ok value

theorem required_respects {decode : Decoder α} (respects : decode.Respects) (name : String) :
    (required name decode).Respects where
  entries := by
    intro s t value same decoded
    unfold required at decoded ⊢
    rw [single_ofEntries_ok_iff] at decoded ⊢
    rcases decoded with ⟨given, found, decoded⟩ | ⟨_, impossible⟩
    · rcases Json.same_lookup name same with ⟨absent, _⟩ | ⟨v, v', foundS, foundT, values⟩
      · rw [absent] at found
        cases found
      · rw [foundS] at found
        cases found
        exact Or.inl ⟨v', foundT, respects values decoded⟩
    · cases impossible
  items := by
    intro s t position value same decoded
    cases s with
    | nil => cases decoded
    | cons v rest =>
      cases t with
      | nil => cases same
      | cons v' rest' =>
        simp only [Json.sameItems, Bool.and_eq_true] at same
        unfold required single at decoded ⊢
        simp only at decoded ⊢
        cases given : decode v with
        | error fault =>
          rw [given] at decoded
          cases decoded
        | ok result =>
          rw [given] at decoded
          rw [respects same.1 given]
          exact decoded

theorem optionalValue_respects {decode : Decoder α} (respects : decode.Respects) :
    Decoder.Respects fun value =>
      if value.isNull then .ok none else (decode value).map some := by
  intro a b value same decoded
  simp only at decoded ⊢
  rw [← Json.isNull_of_same same]
  split
  · next isNull =>
    rw [if_pos isNull] at decoded
    exact decoded
  · next notNull =>
    rw [if_neg notNull] at decoded
    exact Decoder.map_respects respects some same decoded

theorem pure_respects (value : α) : (pure value : Fields α).Respects where
  entries _ decoded := decoded
  items _ decoded := decoded

theorem map_respects {fields : Fields α} (respects : fields.Respects) (f : α → β) :
    (f <$> fields).Respects where
  entries := by
    intro s t value same decoded
    rw [map_ofEntries_ok_iff] at decoded ⊢
    obtain ⟨x, given, result⟩ := decoded
    exact ⟨x, respects.entries same given, result⟩
  items := by
    intro s t position value same decoded
    rw [map_ofItems_ok_iff] at decoded ⊢
    obtain ⟨x, given, result⟩ := decoded
    exact ⟨x, respects.items same given, result⟩

end Fields

namespace Decoder

variable {α : Type}

theorem record_respects {fields : Fields α} (respects : fields.Respects) (name : String) :
    (Decoder.record name fields).Respects := by
  intro a b value same decoded
  cases a with
  | obj entries =>
    cases b with
    | obj entries' =>
      rw [record_obj_ok_iff] at decoded ⊢
      exact respects.entries (by simpa [Json.same] using same) decoded
    | _ => cases same
  | arr items =>
    cases b with
    | arr items' =>
      simp only [Json.same] at same
      simp only [record] at decoded ⊢
      cases given : fields.ofItems 0 items with
      | error fault =>
        rw [given] at decoded
        cases decoded
      | ok result =>
        rw [given] at decoded
        rw [respects.items same given, ← Json.length_of_same same]
        exact decoded
    | _ => cases same
  | _ => cases decoded

end Decoder

theorem Reference.decodeAs_respects (name : String) : (Reference.decodeAs name).Respects :=
  Decoder.record_respects
    (Fields.map_respects (Fields.required_respects Decoder.text_respects "id") Reference.mk) name

theorem Reference.decodeBlock_respects : Reference.decodeBlock.Respects :=
  Decoder.blockList_respects (Reference.decodeAs_respects "IdRef")

end Provisioner

import Mathlib
import Provisioner.Http.ErrorText

/-!
# What a failed request is reported with

The body of a failed request tells a text in one of three forms, and an entry of an error list
carries its detail or else its title. The text that is reported is looked for in the same order, but
an entry with a detail of another type is passed over together with its title. So the report is what
the body tells without such entries, and that is the whole text exactly if there are none, unless
what the body has beside its list says the same.
-/

namespace Provisioner.Http

set_option autoImplicit false

/-- The text that an entry of an error list carries: its detail, or else its title. -/
def carriedText (entry : Json) : Option String :=
  ((entry.get? "detail").bind Json.str?).or ((entry.get? "title").bind Json.str?)

/-- The entries of the error list of a body. -/
def listed (body : Json) : List Json := ((body.get? "errors").bind Json.arr?).getD []

/-- A body that tells a text in an error object. -/
def TellsNested (body : Json) (text : String) : Prop :=
  ∃ error, body.get? "error" = some error ∧ error.get? "message" = some (.str text)

/-- A body that tells a text beside everything else. -/
def TellsPlain (body : Json) (text : String) : Prop := body.get? "message" = some (.str text)

/-- What a body tells if its error list has certain texts. The raw body counts if it tells nothing
else. -/
inductive Tells (raw : String) (body : Json) (texts : List String) : String → Prop where
  | listed (some : texts ≠ []) : Tells raw body texts ("; ".intercalate texts)
  | nested {text : String} (none : texts = []) (nested : TellsNested body text) :
      Tells raw body texts text
  | plain {text : String} (none : texts = []) (notNested : ∀ other, ¬TellsNested body other)
      (plain : TellsPlain body text) : Tells raw body texts text
  | raw (none : texts = []) (notNested : ∀ text, ¬TellsNested body text)
      (notPlain : ∀ text, ¬TellsPlain body text) : Tells raw body texts (Text.trim raw)

/-- An entry with a title that does not count: it has a detail, but the detail is no text. -/
def HidesTitle (entry : Json) : Prop :=
  (entry.get? "detail").isSome ∧ (entry.get? "detail").bind Json.str? = none ∧
    ((entry.get? "title").bind Json.str?).isSome

instance : DecidablePred HidesTitle := fun _ => inferInstanceAs (Decidable (_ ∧ _ ∧ _))

theorem str?_eq_some_iff {value : Json} {text : String} :
    value.str? = some text ↔ value = .str text := by
  cases value with
  | str other => simp [Json.str?]
  | _ => simp [Json.str?]

section Reading

variable {body : Json} {text : String}

theorem nestedText_eq_some_iff : nestedText body = some text ↔ TellsNested body text := by
  unfold nestedText TellsNested
  simp only [Option.bind_eq_some_iff, str?_eq_some_iff]
  constructor
  · rintro ⟨_, ⟨error, found, message⟩, rfl⟩
    exact ⟨error, found, message⟩
  · rintro ⟨error, found, message⟩
    exact ⟨_, ⟨error, found, message⟩, rfl⟩

theorem plainText_eq_some_iff : plainText body = some text ↔ TellsPlain body text := by
  unfold plainText TellsPlain
  simp only [Option.bind_eq_some_iff, str?_eq_some_iff, exists_eq_right]

theorem not_tellsNested (none : nestedText body = none) : ¬TellsNested body text := by
  rw [← nestedText_eq_some_iff, none]
  simp

theorem not_tellsPlain (none : plainText body = none) : ¬TellsPlain body text := by
  rw [← plainText_eq_some_iff, none]
  simp

end Reading

theorem listText_eq (body : Json) :
    listText body =
      if (listed body).filterMap entryText = [] then none
      else some ("; ".intercalate ((listed body).filterMap entryText)) := by
  unfold listText listed
  cases (body.get? "errors").bind Json.arr? with
  | none => rfl
  | some entries => simp only [Option.getD_some, List.isEmpty_iff]

namespace Tells

variable {raw : String} {body : Json} {texts : List String} {a b : String}

theorem unique (first : Tells raw body texts a) (second : Tells raw body texts b) : a = b := by
  have nested : TellsNested body a → TellsNested body b → a = b := by
    intro ofA ofB
    rw [← nestedText_eq_some_iff] at ofA ofB
    exact Option.some.inj (ofA.symm.trans ofB)
  have plain : TellsPlain body a → TellsPlain body b → a = b := by
    intro ofA ofB
    exact Json.str.inj (Option.some.inj (ofA.symm.trans ofB))
  cases first with
  | listed given =>
    cases second with
    | listed => rfl
    | nested none | plain none | raw none => exact absurd none given
  | nested none ofA =>
    cases second with
    | listed given => exact absurd none given
    | nested _ ofB => exact nested ofA ofB
    | plain _ notNested => exact absurd ofA (notNested _)
    | raw _ notNested => exact absurd ofA (notNested _)
  | plain none notNested ofA =>
    cases second with
    | listed given => exact absurd none given
    | nested _ ofB => exact absurd ofB (notNested _)
    | plain _ _ ofB => exact plain ofA ofB
    | raw _ _ notPlain => exact absurd ofA (notPlain _)
  | raw none notNested notPlain =>
    cases second with
    | listed given => exact absurd none given
    | nested _ ofB => exact absurd ofB (notNested _)
    | plain _ _ ofB => exact absurd ofB (notPlain _)
    | raw => rfl

theorem of_none (none : texts = []) (tells : Tells raw body texts a) : Tells raw body [] a :=
  none ▸ tells

end Tells

theorem exists_tells (raw : String) (body : Json) (texts : List String) :
    ∃ text, Tells raw body texts text := by
  by_cases none : texts = []
  · cases nested : nestedText body with
    | some text => exact ⟨text, .nested none (nestedText_eq_some_iff.mp nested)⟩
    | none =>
      cases plain : plainText body with
      | some text =>
        exact ⟨text, .plain none (fun _ => not_tellsNested nested)
          (plainText_eq_some_iff.mp plain)⟩
      | none =>
        exact ⟨_, .raw none (fun _ => not_tellsNested nested) fun _ => not_tellsPlain plain⟩
  · exact ⟨_, .listed none⟩

/-- The report is what the body tells with the texts that are taken from its list. -/
theorem tells_errorText {raw : String} {body : Json} (read : Json.read raw = .ok body) :
    Tells raw body ((listed body).filterMap entryText) (errorText raw) := by
  unfold errorText
  simp only [read, listText_eq]
  by_cases none : (listed body).filterMap entryText = []
  · rw [if_pos none, Option.orElse_none]
    cases nested : nestedText body with
    | some text => exact .nested none (nestedText_eq_some_iff.mp nested)
    | none =>
      rw [Option.orElse_none]
      cases plain : plainText body with
      | some text =>
        exact .plain none (fun _ => not_tellsNested nested) (plainText_eq_some_iff.mp plain)
      | none => exact .raw none (fun _ => not_tellsNested nested) fun _ => not_tellsPlain plain
  · rw [if_neg none]
    exact .listed none

theorem entryText_eq (entry : Json) :
    entryText entry = if HidesTitle entry then none else carriedText entry := by
  unfold entryText carriedText
  cases found : entry.get? "detail" with
  | none =>
    have shows : ¬HidesTitle entry := by simp [HidesTitle, found]
    simp [shows]
  | some detail =>
    cases told : detail.str? with
    | some text =>
      have shows : ¬HidesTitle entry := by simp [HidesTitle, found, told]
      simp [shows, told]
    | none =>
      cases titled : (entry.get? "title").bind Json.str? with
      | none => simp [told]
      | some title =>
        have hides : HidesTitle entry := by simp [HidesTitle, found, told, titled]
        simp [hides, told]

/-- The texts that a list carries in entries that do not hide their titles. -/
def shownTexts (entries : List Json) : List String :=
  (entries.filter fun entry => ¬HidesTitle entry).filterMap carriedText

theorem filterMap_entryText (entries : List Json) :
    entries.filterMap entryText = shownTexts entries := by
  unfold shownTexts
  rw [List.filterMap_filter]
  congr 1
  funext entry
  rw [entryText_eq]
  by_cases hides : HidesTitle entry <;> simp [hides]

theorem shownTexts_sublist (entries : List Json) :
    (shownTexts entries).Sublist (entries.filterMap carriedText) :=
  List.filter_sublist.filterMap carriedText

theorem shownTexts_of_open {entries : List Json} (shows : ∀ entry ∈ entries, ¬HidesTitle entry) :
    shownTexts entries = entries.filterMap carriedText := by
  unfold shownTexts
  rw [List.filter_eq_self.mpr]
  simpa using shows

theorem length_shownTexts_lt {entries : List Json} {entry : Json} (member : entry ∈ entries)
    (hides : HidesTitle entry) :
    (shownTexts entries).length < (entries.filterMap carriedText).length := by
  obtain ⟨before, after, rfl⟩ := List.append_of_mem member
  obtain ⟨title, titled⟩ := Option.isSome_iff_exists.mp hides.2.2
  have carried : carriedText entry = some title := by
    unfold carriedText
    rw [hides.2.1, titled, Option.none_or]
  have front := (shownTexts_sublist before).length_le
  have behind := (shownTexts_sublist after).length_le
  have split : shownTexts (before ++ entry :: after) = shownTexts before ++ shownTexts after := by
    unfold shownTexts
    rw [List.filter_append, List.filter_cons_of_neg (by simpa using hides), List.filterMap_append]
  rw [split, List.filterMap_append, List.filterMap_cons_some carried]
  simp only [List.length_append, List.length_cons]
  omega

/-- The characters of joined texts, a separator counted behind each of them. -/
theorem length_joined {texts : List String} (given : texts ≠ []) :
    ("; ".intercalate texts).length + 2 = (texts.map fun text => text.length + 2).sum := by
  induction texts with
  | nil => exact absurd rfl given
  | cons first rest ih =>
    cases rest with
    | nil => simp
    | cons next later =>
      have joined : "; ".intercalate (first :: next :: later) =
          first ++ "; " ++ "; ".intercalate (next :: later) := String.intercalate_cons_cons
      have separator : "; ".length = 2 := rfl
      have counted := ih (List.cons_ne_nil _ _)
      rw [joined, String.length_append, String.length_append, List.map_cons, List.sum_cons,
        ← counted, separator]
      omega

/-- Each text that is left out takes its separator with it. -/
theorem sum_add_length_le {short long : List String} (part : short.Sublist long) :
    (short.map fun text => text.length + 2).sum + long.length ≤
      (long.map fun text => text.length + 2).sum + short.length := by
  induction part with
  | slnil => exact Nat.le_refl _
  | cons text _ ih =>
    simp only [List.map_cons, List.sum_cons, List.length_cons]
    omega
  | cons_cons text _ ih =>
    simp only [List.map_cons, List.sum_cons, List.length_cons]
    omega

theorem length_joined_lt {short long : List String} (given : short ≠ [])
    (part : short.Sublist long) (fewer : short.length < long.length) :
    ("; ".intercalate short).length < ("; ".intercalate long).length := by
  have shorter := sum_add_length_le part
  have some : long ≠ [] := List.ne_nil_of_length_pos (by omega)
  rw [← length_joined given, ← length_joined some] at shorter
  omega

/-- A text that is not JSON is reported as it is, without the blanks around it. Of any other one the
report is what it tells without the entries that hide their titles. That is what it tells with all
of them exactly if no entry hides its title, or if no other entry carries a text and the body, apart
from its list, tells just what the list carries. -/
theorem errorText_tells_iff (raw : String) :
    (∀ fault, Json.read raw = .error fault → errorText raw = Text.trim raw) ∧
    ∀ body, Json.read raw = .ok body →
      let carried := (listed body).filterMap carriedText
      (∃! text, Tells raw body carried text) ∧
      Tells raw body (shownTexts (listed body)) (errorText raw) ∧
      (Tells raw body carried (errorText raw) ↔
        (∀ entry ∈ listed body, ¬HidesTitle entry) ∨
          (shownTexts (listed body) = [] ∧ Tells raw body [] ("; ".intercalate carried))) := by
  constructor
  · intro fault unread
    unfold errorText
    simp only [unread]
  · intro body read carried
    have shown := tells_errorText read
    rw [filterMap_entryText] at shown
    obtain ⟨text, tells⟩ := exists_tells raw body carried
    refine ⟨⟨text, tells, fun _ other => other.unique tells⟩, shown, ?_⟩
    constructor
    · intro whole
      rw [or_iff_not_imp_left]
      intro some
      push Not at some
      obtain ⟨entry, member, hides⟩ := some
      have fewer := length_shownTexts_lt member hides
      have given : carried ≠ [] := List.ne_nil_of_length_pos (Nat.zero_lt_of_lt fewer)
      have joined := whole.unique (.listed given)
      rw [joined] at shown
      -- Where other texts are shown, leaving one out makes the report shorter.
      by_cases none : shownTexts (listed body) = []
      · exact ⟨none, shown.of_none none⟩
      · have shorter := length_joined_lt none (shownTexts_sublist (listed body)) fewer
        rw [shown.unique (.listed none)] at shorter
        exact absurd shorter (Nat.lt_irrefl _)
    · rintro (shows | ⟨none, same⟩)
      · rw [shownTexts_of_open shows] at shown
        exact shown
      · rw [(shown.of_none none).unique same]
        by_cases given : carried = []
        · rw [given] at same ⊢
          exact same
        · exact .listed given

/-- An error list of a title and of a title with a detail, beside a message. -/
def mixed (detail : Json) : Json :=
  .obj [
    ("errors", .arr [
      .obj [("title", .str "b")],
      .obj [("detail", detail), ("title", .str "c")]]),
    ("message", .str "m")]

/-- The body with a text for the detail. -/
def detailedText : String :=
  "\x7b\"errors\":[\x7b\"title\":\"b\"\x7d,\x7b\"detail\":\"a\",\"title\":\"c\"\x7d],\"message\":\"m\"\x7d"

/-- The body with a number for the detail. -/
def numberedText : String :=
  "\x7b\"errors\":[\x7b\"title\":\"b\"\x7d,\x7b\"detail\":7,\"title\":\"c\"\x7d],\"message\":\"m\"\x7d"

/-- A detail is told behind the title of the other entry; a number in its place takes the title of
its own entry away. -/
theorem errorText_tells_mixed :
    (Json.read detailedText = .ok (mixed (.str "a")) ∧
      Tells detailedText (mixed (.str "a")) ["b", "a"] (errorText detailedText)) ∧
    Json.read numberedText = .ok (mixed (.int 7)) ∧
      ¬Tells numberedText (mixed (.int 7)) ["b", "c"] (errorText numberedText) := by
  constructor
  · have read : Json.read detailedText = .ok (mixed (.str "a")) := by cbv
    obtain ⟨_, _, exactly⟩ := (errorText_tells_iff detailedText).2 _ read
    exact ⟨read, exactly.mpr (Or.inl (by decide))⟩
  · have read : Json.read numberedText = .ok (mixed (.int 7)) := by cbv
    obtain ⟨_, _, exactly⟩ := (errorText_tells_iff numberedText).2 _ read
    refine ⟨read, fun told => ?_⟩
    rcases exactly.mp told with shows | ⟨none, _⟩
    · exact shows _ (List.mem_cons_of_mem _ List.mem_cons_self) ⟨rfl, rfl, rfl⟩
    · have shown : shownTexts (listed (mixed (.int 7))) = ["b"] := by rfl
      rw [shown] at none
      cases none

/-- An error list whose only entry has a title and, for its detail, a null. -/
def nullDetail : Json :=
  .obj [("errors", .arr [.obj [("detail", .null), ("title", .str "quota exceeded")]])]

def nullDetailText : String :=
  "\x7b\"errors\":[\x7b\"detail\":null,\"title\":\"quota exceeded\"\x7d]\x7d"

theorem nullDetail_read : Json.read nullDetailText = .ok nullDetail := by cbv

theorem tells_nullDetail : Tells nullDetailText nullDetail
    ((listed nullDetail).filterMap carriedText) "quota exceeded" := by
  have carried : (listed nullDetail).filterMap carriedText = ["quota exceeded"] := by rfl
  rw [carried]
  exact .listed (List.cons_ne_nil _ _)

/-- The title is there, and the report is the raw body instead. -/
theorem errorText_hides_title :
    Json.read nullDetailText = .ok nullDetail ∧
      Tells nullDetailText nullDetail ((listed nullDetail).filterMap carriedText)
        "quota exceeded" ∧
      errorText nullDetailText = nullDetailText ∧ errorText nullDetailText ≠ "quota exceeded" := by
  have unlisted : (listed nullDetail).filterMap entryText = [] := by rfl
  have notNested : ∀ text, ¬TellsNested nullDetail text := fun text => not_tellsNested (by rfl)
  have notPlain : ∀ text, ¬TellsPlain nullDetail text := fun text => not_tellsPlain (by rfl)
  have trimmed : Text.trim nullDetailText = nullDetailText := by rfl
  have report : errorText nullDetailText = nullDetailText := by
    rw [(tells_errorText nullDetail_read).unique (.raw unlisted notNested notPlain), trimmed]
  refine ⟨nullDetail_read, tells_nullDetail, report, ?_⟩
  rw [report]
  decide

end Provisioner.Http

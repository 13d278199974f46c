import Provisioner.Proofs.Kinds.Canonical
import Provisioner.Proofs.Kinds.Channels

/-!
# Servers that keep what they are sent

An answer tells of an object what was sent to create it. It may put a set in another order, say more
about an object that a reference names, and fill in what the schema leaves to the server. Whatever
is told in this way is read, and as the value that was asked for.
-/

namespace Provisioner

set_option autoImplicit false

/-- A value is told as it was sent: the same, a set in another order, or a reference with more than
the identifier. -/
inductive Json.Repeats : Json → Json → Prop
  | same (value : Json) : Repeats value value
  | reordered {texts others : List String} (perm : others.Perm texts) :
      Repeats (.strings texts) (.strings others)
  | linked {id : String} {entries : List (String × Json)}
      (named : entries.lookup "id" = some (.str id)) :
      Repeats (Reference.encode ⟨id⟩) (.obj entries)

/-- What is told at one place of a body: what was sent there, or else nothing, or a readable value
that the server fills in. -/
inductive Echoed (fills : Prop) (reads : Json → Prop) : Option Json → Option Json → Prop
  | repeated {sent told : Json} (repeats : sent.Repeats told) :
      Echoed fills reads (some sent) (some told)
  | left : Echoed fills reads none none
  | filled {told : Json} (computed : fills) (readable : reads told) :
      Echoed fills reads none (some told)

/-- An attribute or a block: where it stands in the bodies, and what can be read there. -/
structure Part where
  name : String
  keys : List String
  reads : Json → Prop

/-- A decoder reads the value. -/
def Decoder.Reads {α : Type} (decode : Decoder α) (value : Json) : Prop :=
  ∃ result, decode value = .ok result

def Part.of {α : Type} (name : String) (keys : List String) (decode : Decoder α) : Part :=
  ⟨name, keys, decode.Reads⟩

/-- What a server tells of an object of one kind. -/
structure Echo where
  item : ItemKind
  parts : List Part
  /-- The object is ready, and has the size that was asked for. -/
  ready : item.kind.State → Json → Prop
  covers : ∀ name ∈ item.kind.schema.configurableNames, name ∈ parts.map Part.name

/-- An answer that tells of a ready object what was sent to create it. -/
structure Echo.Tells (echo : Echo) (desired : echo.item.kind.State) (told : Json) : Prop where
  identified : ∃ id, told.get? "id" = some (.str id)
  parts : ∀ part ∈ echo.parts, Echoed (part.name ∈ echo.item.kind.schema.computedNames) part.reads
    ((echo.item.posted desired).at part.keys) (told.at part.keys)
  ready : echo.ready desired told

namespace Json.Repeats

theorem strings_injective {texts others : List String}
    (same : Json.strings texts = Json.strings others) : texts = others := by
  have items : texts.map Json.str = others.map Json.str := Json.arr.inj same
  exact (List.map_inj_right fun _ _ => Json.str.inj).mp items

theorem of_str {text : String} {told : Json} (repeats : (Json.str text).Repeats told) :
    told = .str text := by
  cases repeats
  rfl

theorem of_int64 {value : Int64} {told : Json} (repeats : (Json.int64 value).Repeats told) :
    told = .int64 value := by
  cases repeats
  rfl

theorem of_strings {texts : List String} {told : Json}
    (repeats : (Json.strings texts).Repeats told) :
    ∃ others : List String, told = .strings others ∧ others.Perm texts := by
  generalize sent : Json.strings texts = value at repeats
  cases repeats with
  | same => exact ⟨texts, sent.symm, .refl _⟩
  | @reordered given others perm =>
    rw [strings_injective sent]
    exact ⟨others, rfl, perm⟩
  | linked => cases sent

theorem of_reference {id : String} {told : Json}
    (repeats : (Reference.encode ⟨id⟩).Repeats told) :
    ∃ entries, told = .obj entries ∧ entries.lookup "id" = some (.str id) := by
  generalize sent : Reference.encode ⟨id⟩ = value at repeats
  cases repeats with
  | same => exact ⟨_, sent.symm, rfl⟩
  | reordered => cases sent
  | linked named =>
    cases sent
    exact ⟨_, rfl, named⟩

theorem of_obj {entries : List (String × Json)} {told : Json}
    (repeats : (Json.obj entries).Repeats told) (other : entries.map Prod.fst ≠ ["id"]) :
    told = .obj entries := by
  generalize sent : Json.obj entries = value at repeats
  cases repeats with
  | same => rfl
  | reordered => cases sent
  | linked =>
    cases sent
    exact absurd rfl other

end Json.Repeats

theorem Reference.decodeAs_of_lookup {name id : String} {entries : List (String × Json)}
    (named : entries.lookup "id" = some (.str id)) :
    Reference.decodeAs name (.obj entries) = .ok ⟨id⟩ := by
  apply Decoder.record_obj_ok_iff.mpr
  apply Fields.map_ofEntries_ok_iff.mpr
  exact ⟨id, Fields.single_ofEntries_ok_iff.mpr (.inl ⟨.str id, named, rfl⟩), rfl⟩

theorem Decoder.blockList_strings (texts : List String) :
    Decoder.blockList Decoder.text (.strings texts) = .ok texts := by
  have kept : (Json.strings texts).dropNulls = .strings texts := by
    show Json.arr (Json.dropNullsItems (texts.map .str)) = .arr (texts.map .str)
    rw [Json.dropNullsItems_eq_map, List.map_map]
    rfl
  have read := (Decoder.blockList_inverts Decoder.text_inverts).read texts
  exact kept ▸ read

namespace Echoed

variable {α : Type} {decode : Decoder α} {fills : Prop} {sent : Option Json}
  {entries : List (String × Json)} {key : String}

theorem mono {reads other : Json → Prop} {told : Option Json}
    (echoed : Echoed fills reads sent told) (weaker : ∀ {value}, reads value → other value) :
    Echoed fills other sent told := by
  cases echoed with
  | repeated repeats => exact .repeated repeats
  | left => exact .left
  | filled computed readable => exact .filled computed (weaker readable)

theorem read (empty : α) (agrees : α → Prop)
    (echoed : Echoed fills decode.Reads sent (entries.lookup key))
    (repeats : ∀ {value told}, sent = some value → value.Repeats told →
      ∃ result, decode told = .ok result ∧ agrees result) (left : sent = none → agrees empty) :
    ∃ result, (Fields.defaulted key empty decode).ofEntries entries = .ok result ∧
      (agrees result ∨ fills ∧ sent = none) := by
  generalize found : entries.lookup key = told at echoed
  cases echoed with
  | repeated repetition =>
    obtain ⟨result, decoded, agreeing⟩ := repeats rfl repetition
    exact ⟨result, Fields.single_ofEntries_ok_iff.mpr (.inl ⟨_, found, decoded⟩), .inl agreeing⟩
  | left =>
    exact ⟨empty, Fields.single_ofEntries_ok_iff.mpr (.inr ⟨found, rfl⟩), .inl (left rfl)⟩
  | filled computed readable =>
    obtain ⟨result, decoded⟩ := readable
    exact ⟨result, Fields.single_ofEntries_ok_iff.mpr (.inl ⟨_, found, decoded⟩),
      .inr ⟨computed, rfl⟩⟩

theorem text {value : String} (echoed : Echoed fills Decoder.text.Reads sent (entries.lookup key))
    (sends : sent = if value ≠ "" then some (.str value) else none) :
    ∃ result, (Fields.defaulted key "" Decoder.text).ofEntries entries = .ok result ∧
      (result = value ∨ fills ∧ value = "") := by
  subst sends
  have reading := echoed.read "" (fun result => result = value)
  simp only [ite_eq_right_iff, ne_eq, reduceCtorEq, imp_false, Decidable.not_not,
    Option.ite_none_right_eq_some] at reading
  apply reading
  · intro given told isSent repeats
    cases isSent.2
    exact ⟨value, by rw [repeats.of_str]; rfl, rfl⟩
  · exact Eq.symm

theorem texts {values : List String}
    (echoed : Echoed fills (Decoder.blockList Decoder.text).Reads sent (entries.lookup key))
    (sends : sent = if values ≠ [] then some (.strings values) else none) :
    ∃ result, (Fields.defaulted key [] (Decoder.blockList Decoder.text)).ofEntries entries =
        .ok result ∧ (result.Perm values ∨ fills ∧ values = []) := by
  subst sends
  have reading := echoed.read [] (fun result => result.Perm values)
  simp only [ite_eq_right_iff, ne_eq, reduceCtorEq, imp_false, Decidable.not_not,
    Option.ite_none_right_eq_some] at reading
  apply reading
  · intro given told isSent repeats
    cases isSent.2
    obtain ⟨others, rfl, perm⟩ := repeats.of_strings
    exact ⟨others, Decoder.blockList_strings others, perm⟩
  · rintro rfl
    exact .refl _

theorem optional {value : Option α} {encode : α → Json}
    (echoed : Echoed fills decode.Reads sent (entries.lookup key))
    (sends : sent = value.map encode)
    (repeats : ∀ {item told}, (encode item).Repeats told →
      told.isNull = false ∧ decode told = .ok item) :
    ∃ result, (Fields.optional key decode).ofEntries entries = .ok result ∧
      (result = value ∨ fills ∧ value = none) := by
  subst sends
  have nullable : Echoed fills (Decoder.Reads fun value =>
      if value.isNull then .ok none else (decode value).map some) (value.map encode)
      (entries.lookup key) := by
    apply echoed.mono
    rintro told ⟨result, decoded⟩
    by_cases null : told.isNull = true
    · exact ⟨none, if_pos null⟩
    · exact ⟨some result, by simp only [null, decoded]; rfl⟩
  have reading := nullable.read none (fun result => result = value)
  simp only [Option.map_eq_none_iff, Option.map_eq_some_iff] at reading
  apply reading
  · intro given told isSent repetition
    obtain ⟨item, rfl, rfl⟩ := isSent
    obtain ⟨notNull, decoded⟩ := repeats repetition
    exact ⟨some item, by simp only [notNull, decoded]; rfl, rfl⟩
  · exact Eq.symm

theorem sent_text {value : String} {absent : Option String}
    (echoed : Echoed fills Decoder.text.Reads sent (entries.lookup key))
    (sends : sent = some (.str value)) :
    (Fields.single key absent Decoder.text).ofEntries entries = .ok value := by
  subst sends
  generalize found : entries.lookup key = told at echoed
  cases echoed with
  | repeated repeats =>
    rw [repeats.of_str] at found
    exact Fields.single_ofEntries_ok_iff.mpr (.inl ⟨_, found, rfl⟩)

theorem reference {id : String}
    (echoed : Echoed fills Reference.decodeObject.Reads sent (entries.lookup key))
    (sends : sent = some (Reference.encode ⟨id⟩)) :
    (Fields.defaulted key ⟨""⟩ Reference.decodeObject).ofEntries entries = .ok ⟨id⟩ := by
  subst sends
  generalize found : entries.lookup key = told at echoed
  cases echoed with
  | repeated repeats =>
    obtain ⟨inner, rfl, named⟩ := repeats.of_reference
    exact Fields.single_ofEntries_ok_iff.mpr
      (.inl ⟨_, found, Reference.decodeAs_of_lookup named⟩)

theorem unsent (empty : α) (echoed : Echoed fills decode.Reads sent (entries.lookup key))
    (sends : sent = none) :
    ∃ result, (Fields.defaulted key empty decode).ofEntries entries = .ok result := by
  obtain ⟨result, decoded, _⟩ := echoed.read empty (fun _ => True)
    (fun isSent _ => by simp [sends] at isSent) fun _ => trivial
  exact ⟨result, decoded⟩

theorem spec {reads : Json → Prop} {told value : Json}
    (echoed : Echoed fills reads sent (told.at ["spec", key])) (sends : sent = some value) :
    ∃ entries, told.get? "spec" = some (.obj entries) ∧
      ∀ other, told.at ["spec", other] = entries.lookup other := by
  subst sends
  have within : ∀ other, told.at ["spec", other] =
      (told.get? "spec").bind fun inner => inner.get? other := fun _ => rfl
  generalize found : told.at ["spec", key] = given at echoed
  cases echoed with
  | repeated =>
    rw [within] at found
    obtain ⟨inner, here, there⟩ := Option.bind_eq_some_iff.mp found
    cases inner with
    | obj entries =>
      refine ⟨entries, here, ?_⟩
      intro other
      rw [within, here]
      rfl
    | _ => cases there

end Echoed

theorem Json.obj_of_get? {value found : Json} {key : String} (given : value.get? key = some found) :
    ∃ entries, value = .obj entries ∧ entries.lookup key = some found := by
  cases value with
  | obj entries => exact ⟨entries, rfl, given⟩
  | _ => cases given

/-- The value under a key is read as one with a property. -/
def Json.Holds {α : Type} (value : Json) (key : String) (decode : Decoder α)
    (property : α → Prop) : Prop :=
  ∃ given result, value.get? key = some given ∧ decode given = .ok result ∧ property result

theorem Json.Holds.required {α : Type} {entries : List (String × Json)} {key : String}
    {decode : Decoder α} {property : α → Prop}
    (holds : (Json.obj entries).Holds key decode property) :
    ∃ result, (Fields.required key decode).ofEntries entries = .ok result ∧ property result := by
  obtain ⟨given, result, found, decoded, satisfied⟩ := holds
  exact ⟨result, Fields.single_ofEntries_ok_iff.mpr (.inl ⟨given, found, decoded⟩), satisfied⟩

theorem Schema.Alike.of_eq {α : Type} {schema : Schema} {name : String} {encode : α → Json}
    {a b : α} (same : a = b) : schema.Alike name (encode a) (encode b) := by
  rw [same]
  exact .same _

/-- A name under which a configuration says what it wants, with no longer a list than a check can
count. -/
structure Schema.Decides (schema : Schema) (target : List (String × Json)) (name : String) :
    Prop where
  filled : name ∈ schema.computedNames → isBlank (target.lookup name) = false
  counted : ∀ items, target.lookup name = some (.arr items) → items.length < UInt32.size

/-- A kind whose objects, once created, are as their configuration wants them if the server tells
what it was sent. -/
structure Mirror extends Echo where
  /-- What a remote object has that was told so. -/
  shows : item.kind.State → item.kind.Remote → Prop
  reads : ∀ {desired : item.kind.State} {told : Json}, toEcho.Tells desired told →
    ∃ remote, item.remote told = .ok remote ∧ shows desired remote
  settles : ∀ {desired : item.kind.State} {created seen : item.kind.Remote},
    shows desired created → shows desired seen →
      item.kind.classify seen (item.kind.toState created desired) = .ok .stable
  agrees : ∀ {target : List (String × Json)} {desired : item.kind.State}
    {created looked : item.kind.Remote} {name : String}, item.kind.schema.Clean target →
    item.kind.decode (.obj (Json.dropNullsEntries target)) = .ok desired →
    shows desired created → shows desired looked → name ∈ item.kind.schema.configurableNames →
    item.kind.schema.Decides target name →
      item.kind.schema.agreesOn
        (item.kind.encode (item.kind.toState looked (item.kind.toState created desired)))
        (.obj target) name = true

theorem Reference.blockOr_idOf {block : List Reference} (single : block.length ≤ 1) :
    (⟨Reference.idOf block⟩ : Reference).blockOr block = block := by
  unfold Reference.blockOr
  match block, single with
  | [], _ => rfl
  | [reference], _ =>
    split
    · rfl
    · rfl

namespace Schema.Clean

variable {schema : Schema} {target : List (String × Json)} {name : String} {nesting : Nesting}
  {flags : Flags} {block : List Reference}

theorem stated_reference (clean : schema.Clean target)
    (member : (name, nesting, .reference flags) ∈ schema.block.blocks)
    (decoded : (Fields.defaulted name [] Reference.decodeBlock).ofEntries
      (Json.dropNullsEntries target) = .ok block) :
    Stated Reference.encodeBlock [] (target.lookup name) block := by
  apply clean.stated member (fun _ read => by cases read) _ decoded
  intro entries sorted only
  have names : ∀ id, Reference.encode ⟨id⟩ = .obj [("id", .str id)] := fun _ => rfl
  exact Decoder.record_canonical names Decoder.text_canonical sorted
    fun entry inside => List.mem_singleton.mp (only entry inside)

/-- The environment of an object is told, and where it is not named it is known. -/
theorem agreesOn_environment (clean : schema.Clean target)
    (member : ("environment", nesting, .reference flags) ∈ schema.block.blocks)
    (limit : nesting.maxItems = 1) (decides : schema.Decides target "environment")
    (decoded : (Fields.defaulted "environment" [] Reference.decodeBlock).ofEntries
      (Json.dropNullsEntries target) = .ok block) {prior : Json} {created looked : Reference}
    (toldFirst : created = ⟨Reference.idOf block⟩) (toldLast : looked = ⟨Reference.idOf block⟩)
    (before : prior.get? "environment" =
      some (Reference.encodeBlock (looked.blockOr (created.blockOr block)))) :
    schema.agreesOn prior (.obj target) "environment" = true := by
  have stated := clean.stated_reference member decoded
  have single := clean.length_le_one member limit stated decides.counted
  rw [toldFirst, toldLast, Reference.blockOr_idOf single, Reference.blockOr_idOf single] at before
  exact stated.agreesOn isBlank_items before (.inl (.same _)) decides.filled

end Schema.Clean

theorem toList_single {α : Type} {block : List α} (single : block.length ≤ 1) :
    (single? block).toList = block := by
  match block, single with
  | [], _ => rfl
  | [_], _ => rfl

theorem eq_of_choice {α : Type} {block : List α} {item : α} {chosen : Prop} [Decidable chosen]
    (single : block.length ≤ 1) (only : block ≠ [] ↔ chosen)
    (same : ∀ first, single? block = some first → item = first) :
    (if chosen then [item] else []) = block := by
  match block, single with
  | [], _ =>
    rw [if_neg fun holds => only.mpr holds rfl]
  | [first], _ =>
    rw [if_pos (only.mp (List.cons_ne_nil _ _)), same first rfl]

end Provisioner

import Provisioner.Proofs.Kinds.Readable
import Provisioner.Proofs.Settings
import Provisioner.Proofs.Shape
import Provisioner.Redaction

/-!
# Configurations with their secrets emptied

What a validation of an object reports stays the same when every text inside a sensitive attribute
is emptied. The schema looks at the shape of the configuration only. A secret that has passed it
decodes whatever its texts say, so a fault of the decoder is about something else, and the checks of
a new object look at the names of secret settings but not at their values.
-/

namespace Provisioner

set_option autoImplicit false

open Http (Wire)

namespace Json

def emptyText : Json → Json
  | .str _ => .str ""
  | other => other

/-- The value with all of its texts emptied. -/
def emptied : Json → Json := mapLeaves emptyText

@[simp] theorem emptied_arr (items : List Json) : (arr items).emptied = .arr (items.map emptied) :=
  mapLeaves_arr emptyText items

@[simp] theorem emptied_obj (entries : List (String × Json)) :
    (obj entries).emptied = .obj (Keyed.mapValues (fun _ => emptied) entries) :=
  mapLeaves_obj emptyText entries

theorem shape_emptied (value : Json) : value.emptied.shape = value.shape := by
  induction value using nestedInduction with
  | null | bool | num | str => rfl
  | arr items ih =>
    rw [emptied_arr, shape_arr, shape_arr, List.map_map]
    exact congrArg arr (List.map_congr_left ih)
  | obj entries ih =>
    rw [emptied_obj, shape_obj, shape_obj]
    exact congrArg obj (Keyed.mapValues_mapValues ih)

end Json

mutual

/-- The value with the texts in its sensitive attributes emptied, at any depth of nested blocks. -/
def Block.veil : Block → Json → Json
  | ⟨attributes, blocks, _, _⟩, value =>
    match value with
    | .obj entries =>
      .obj (Keyed.mapValues (fun name given =>
        if (attributes.lookup name).any fun a => a.flags.sensitive then given.emptied
        else veilNested blocks name given) entries)
    | other => other

/-- Veils what stands under the name of a nested block. -/
def veilNested : List (String × Nesting × Block) → String → Json → Json
  | [], _, value => value
  | (name, _, block) :: rest, key, value =>
    if key = name then adjustItems block.veil value else veilNested rest key value

end

def Schema.veil (schema : Schema) (value : Json) : Json := schema.block.veil value

namespace Block

/-- Whether the texts under a name are secret as a whole. -/
def isSecret (block : Block) (name : String) : Bool :=
  (block.attributes.lookup name).any fun a => a.flags.sensitive

/-- What an entry of an object looks like when it is veiled. -/
def veilEntry (block : Block) (name : String) (value : Json) : Json :=
  if block.isSecret name then value.emptied else veilNested block.blocks name value

@[simp] theorem veil_obj (block : Block) (entries : List (String × Json)) :
    block.veil (.obj entries) = .obj (Keyed.mapValues block.veilEntry entries) := by
  obtain ⟨attributes, blocks, groups, description⟩ := block
  rw [veil]
  rfl

theorem veil_of_not_object (block : Block) {value : Json} (notObject : value.obj? = none) :
    block.veil value = value := by
  obtain ⟨attributes, blocks, groups, description⟩ := block
  cases value with
  | obj => cases notObject
  | _ => rfl

theorem veilEntry_of_isSecret {block : Block} {name : String} (secret : block.isSecret name = true)
    (value : Json) : block.veilEntry name value = value.emptied := by
  rw [veilEntry, if_pos secret]

theorem veilNested_cases (blocks : List (String × Nesting × Block)) (name : String)
    (value : Json) : veilNested blocks name value = value ∨
      ∃ b ∈ blocks, b.1 = name ∧ veilNested blocks name value = adjustItems b.2.2.veil value := by
  induction blocks with
  | nil => exact Or.inl rfl
  | cons head rest ih =>
    obtain ⟨key, nesting, block⟩ := head
    rw [veilNested]
    split
    · next same => exact Or.inr ⟨_, List.mem_cons_self, same.symm, rfl⟩
    · rcases ih with untouched | ⟨b, member, named, veiled⟩
      · exact Or.inl untouched
      · exact Or.inr ⟨b, List.mem_cons_of_mem _ member, named, veiled⟩

theorem shape_veilEntry {block : Block} (name : String)
    (blocks : ∀ b ∈ block.blocks, ∀ item, (b.2.2.veil item).shape = item.shape) (value : Json) :
    (block.veilEntry name value).shape = value.shape := by
  unfold veilEntry
  split
  · exact value.shape_emptied
  · rcases veilNested_cases block.blocks name value with untouched | ⟨b, member, -, veiled⟩
    · rw [untouched]
    · rw [veiled]
      cases value with
      | arr items =>
        rw [adjustItems, Json.shape_arr, Json.shape_arr, List.map_map]
        exact congrArg Json.arr (List.map_congr_left fun item _ => blocks b member item)
      | _ => rfl

theorem shape_veil (block : Block) (value : Json) : (block.veil value).shape = value.shape := by
  -- By induction on the block: veiling a value leaves its shape as it is.
  induction block using nestedInduction generalizing value with
  | step block ih =>
    cases value with
    | obj entries =>
      rw [veil_obj, Json.shape_obj, Json.shape_obj]
      apply congrArg Json.obj
      exact Keyed.mapValues_mapValues fun entry _ => shape_veilEntry entry.1 ih entry.2
    | _ =>
      rw [veil_of_not_object]
      rfl

theorem isNull_veilEntry (block : Block) (name : String) (value : Json) :
    (block.veilEntry name value).isNull = value.isNull := by
  rw [← Json.isNull_shape, shape_veilEntry name (fun b _ => b.2.2.shape_veil), Json.isNull_shape]

end Block

theorem Schema.validate_veil (schema : Schema) (value : Json) :
    schema.validate (schema.veil value) = schema.validate value := by
  rw [← schema.validate_shape, veil, Block.shape_veil, schema.validate_shape]

mutual

/-- No attribute is sensitive, in the block or in a nested one. -/
def Block.isOpen : Block → Bool
  | ⟨attributes, blocks, _, _⟩ =>
    attributes.all (fun a => !a.2.flags.sensitive) && isOpenNested blocks

def isOpenNested : List (String × Nesting × Block) → Bool
  | [] => true
  | (_, _, block) :: rest => block.isOpen && isOpenNested rest

end

theorem isOpenNested_iff {blocks : List (String × Nesting × Block)} :
    isOpenNested blocks = true ↔ ∀ b ∈ blocks, b.2.2.isOpen = true := by
  induction blocks with
  | nil => simp [isOpenNested]
  | cons head rest ih =>
    obtain ⟨name, nesting, block⟩ := head
    rw [isOpenNested, Bool.and_eq_true, ih, List.forall_mem_cons]

namespace Block

theorem isOpen_iff {block : Block} :
    block.isOpen = true ↔ (∀ a ∈ block.attributes, a.2.flags.sensitive = false) ∧
      ∀ b ∈ block.blocks, b.2.2.isOpen = true := by
  obtain ⟨attributes, blocks, groups, description⟩ := block
  rw [isOpen, Bool.and_eq_true, isOpenNested_iff]
  simp

theorem isSecret_of_isOpen {block : Block} (isOpen : block.isOpen = true) (name : String) :
    block.isSecret name = false := by
  unfold isSecret
  cases found : block.attributes.lookup name with
  | none => rfl
  | some a => exact (isOpen_iff.mp isOpen).1 _ (Keyed.mem_of_lookup found)

theorem veilEntry_of_not_secret {block : Block} {name : String}
    (notSecret : block.isSecret name = false)
    (blocks : ∀ b ∈ block.blocks, b.1 = name → ∀ item, b.2.2.veil item = item) (value : Json) :
    block.veilEntry name value = value := by
  rw [veilEntry, notSecret]
  rcases veilNested_cases block.blocks name value with untouched | ⟨b, member, named, veiled⟩
  · exact untouched
  · refine veiled.trans ?_
    cases value with
    | arr items =>
      rw [adjustItems, List.map_congr_left fun item _ => blocks b member named item, List.map_id']
    | _ => rfl

theorem veil_of_isOpen (block : Block) (isOpen : block.isOpen = true) (value : Json) :
    block.veil value = value := by
  -- By induction on the block: without sensitive attributes nothing is veiled.
  induction block using nestedInduction generalizing value with
  | step block ih =>
    have untouched (name : String) (given : Json) : block.veilEntry name given = given :=
      veilEntry_of_not_secret (isSecret_of_isOpen isOpen name)
        (fun b member _ => ih b member ((isOpen_iff.mp isOpen).2 b member)) given
    cases value with
    | obj entries =>
      rw [veil_obj, Keyed.mapValues]
      simp only [untouched, List.map_id']
    | _ =>
      rw [veil_of_not_object]
      rfl

/-- Nothing under the name is sensitive. -/
def isOpenAt (block : Block) (name : String) : Bool :=
  !block.isSecret name && block.blocks.all fun b => b.1 != name || b.2.2.isOpen

theorem veilEntry_of_isOpenAt {block : Block} {name : String} (isOpen : block.isOpenAt name = true)
    (value : Json) : block.veilEntry name value = value := by
  rw [isOpenAt, Bool.and_eq_true, Bool.not_eq_true', List.all_eq_true] at isOpen
  apply veilEntry_of_not_secret isOpen.1
  intro b member named
  have nested := isOpen.2 b member
  rw [named, bne_self_eq_false, Bool.false_or] at nested
  exact b.2.2.veil_of_isOpen nested

end Block

/-- Two readings agree: both fail with the same fault, or they give related values. -/
inductive Agree {ε α : Type} (related : α → α → Prop) : Except ε α → Except ε α → Prop
  | error (fault : ε) : Agree related (.error fault) (.error fault)
  | ok {x y : α} (values : related x y) : Agree related (.ok x) (.ok y)

namespace Agree

variable {ε α β : Type} {related : α → α → Prop} {first second : Except ε α}

theorem of_eq (same : first = second) : Agree Eq first second := by
  subst same
  cases first with
  | error fault => exact .error fault
  | ok value => exact .ok rfl

theorem mapError {ε' : Type} {change : ε → ε'} (agree : Agree related first second) :
    Agree related (first.mapError change) (second.mapError change) := by
  cases agree with
  | error fault => exact .error (change fault)
  | ok values => exact .ok values

theorem bind_eq {next : α → Except ε β} (agree : Agree related first second)
    (same : ∀ x y, related x y → next x = next y) : first.bind next = second.bind next := by
  cases agree with
  | error fault => rfl
  | ok values => exact same _ _ values

end Agree

namespace Fields

variable {α β γ : Type} {R : α → α → Prop} {S : β → β → Prop} {T : γ → γ → Prop}
  {s t : List (String × Json)}

theorem agree_both {combine : α → β → γ} {a : Fields α} {b : Fields β}
    (combines : ∀ x y, R x y → ∀ x' y', S x' y' → T (combine x x') (combine y y'))
    (first : Agree R (a.ofEntries s) (a.ofEntries t))
    (second : Agree S (b.ofEntries s) (b.ofEntries t)) :
    Agree T ((both combine a b).ofEntries s) ((both combine a b).ofEntries t) := by
  unfold both
  simp only
  generalize a.ofEntries s = ofFirst, a.ofEntries t = ofFirstOther at first
  generalize b.ofEntries s = ofSecond, b.ofEntries t = ofSecondOther at second
  cases first with
  | error fault =>
    cases second with
    | error later => exact .error _
    | ok => exact .error fault
  | ok values =>
    cases second with
    | error fault => exact .error fault
    | ok others => exact .ok (combines _ _ values _ _ others)

/-- Functions are related if they take related values to related ones. -/
theorem agree_seq {f : Fields (α → β)} {a : Fields α}
    (functions : Agree (fun g h => ∀ x y, R x y → S (g x) (h y)) (f.ofEntries s) (f.ofEntries t))
    (values : Agree R (a.ofEntries s) (a.ofEntries t)) :
    Agree S ((f <*> a).ofEntries s) ((f <*> a).ofEntries t) :=
  agree_both (fun _ _ takes => takes) functions values

theorem agree_map {f : α → β} {a : Fields α} (takes : ∀ x y, R x y → S (f x) (f y))
    (values : Agree R (a.ofEntries s) (a.ofEntries t)) :
    Agree S ((f <$> a).ofEntries s) ((f <$> a).ofEntries t) :=
  agree_both (R := fun g h => g = f ∧ h = f)
    (by rintro _ _ ⟨rfl, rfl⟩; exact takes) (.ok ⟨rfl, rfl⟩) values

theorem agree_seq_same {f : Fields (α → β)} {a : Fields α}
    (functions : Agree (fun g h => ∀ x, S (g x) (h x)) (f.ofEntries s) (f.ofEntries t))
    (same : Agree Eq (a.ofEntries s) (a.ofEntries t)) :
    Agree S ((f <*> a).ofEntries s) ((f <*> a).ofEntries t) :=
  agree_both (by rintro _ _ takes x _ rfl; exact takes x) functions same

theorem agree_map_same {f : α → β} {a : Fields α} (takes : ∀ x, S (f x) (f x))
    (same : Agree Eq (a.ofEntries s) (a.ofEntries t)) :
    Agree S ((f <$> a).ofEntries s) ((f <$> a).ofEntries t) :=
  agree_map (by rintro x _ rfl; exact takes x) same

variable {name : String} {absent : Option α} {decode : Decoder α}

theorem agree_absent (missing : s.lookup name = none) (missingOther : t.lookup name = none)
    (same : ∀ value, absent = some value → R value value) :
    Agree R ((single name absent decode).ofEntries s)
      ((single name absent decode).ofEntries t) := by
  unfold single
  simp only [missing, missingOther]
  cases absent with
  | none => exact .error _
  | some value => exact .ok (same value rfl)

theorem agree_present {x y : Json} (found : s.lookup name = some x)
    (foundOther : t.lookup name = some y) (decoded : Agree R (decode x) (decode y)) :
    Agree R ((single name absent decode).ofEntries s)
      ((single name absent decode).ofEntries t) := by
  unfold single
  simp only [found, foundOther]
  exact decoded.mapError

end Fields

namespace Decoder

variable {α : Type} {R : α → α → Prop} {decode : Decoder α}

theorem agree_record {name : String} {fields : Fields α} {s t : List (String × Json)}
    (agree : Agree R (fields.ofEntries s) (fields.ofEntries t)) :
    Agree R (record name fields (.obj s)) (record name fields (.obj t)) := agree.mapError

theorem agree_fromState {x y : Json} (agree : Agree R (decode x.dropNulls) (decode y.dropNulls)) :
    Agree R (decode.fromState x) (decode.fromState y) := by
  unfold fromState
  generalize decode x.dropNulls = first, decode y.dropNulls = second at agree
  cases agree with
  | error fault => exact .error _
  | ok values => exact .ok values

theorem agree_items {f g : Json → Json} {given : List Json}
    (each : ∀ item ∈ given, Agree R (decode (f item)) (decode (g item))) :
    Agree (fun _ _ => True) (items decode (given.map f)) (items decode (given.map g)) := by
  -- By induction on the items, of which the first one that does not decode counts.
  induction given with
  | nil => exact .ok trivial
  | cons item rest ih =>
    obtain ⟨here, later⟩ := List.forall_mem_cons.mp each
    have others := ih later
    rw [List.map_cons, List.map_cons, items, items]
    generalize decode (f item) = first, decode (g item) = second at here
    generalize items decode (rest.map f) = tail, items decode (rest.map g) = tailOther at others
    cases here with
    | error fault => exact .error fault
    | ok values =>
      cases others with
      | error fault => exact .error fault
      | ok _ => exact .ok trivial

end Decoder

theorem Block.admits_of_valid {block : Block} {entries : List (String × Json)} {path : String}
    (valid : block.check (.obj entries) path = []) (name : String) {a : Attribute}
    (found : block.attributes.lookup name = some a) (checked : a.flags.isComputedOnly = false) :
    a.Admits (entries.lookup name) :=
  (a.check_eq_nil_iff _ _).mp
    ((Block.check_obj_eq_nil_iff.mp valid).1 _ (Keyed.mem_of_lookup found)) checked

theorem Nesting.items_of_valid {n : Nesting} {block : Block} {value : Json} {path : String}
    (valid : n.checkEntry block (some value) path = []) (notNull : value.isNull = false) :
    ∃ items, value = .arr items ∧ ∀ item ∈ items, ∃ path, block.check item path = [] := by
  cases value with
  | null => cases notNull
  | arr items =>
    refine ⟨items, rfl, ?_⟩
    intro item member
    obtain ⟨position, passed⟩ :=
      flatMap_zipIdx_eq_nil (List.append_eq_nil_iff.mp valid).2 member
    exact ⟨_, passed⟩
  | _ => cases valid

section Veiled

variable {α : Type} {R : α → α → Prop} {block : Block} {entries : List (String × Json)}
  {name : String} {absent : Option α} {decode : Decoder α}

theorem lookup_dropNulls_veiled (block : Block) (sorted : Keyed.Sorted entries) (name : String) :
    (Json.dropNullsEntries (Keyed.mapValues block.veilEntry entries)).lookup name =
      (entries.lookup name).bind fun value =>
        if value.isNull then none else some (block.veilEntry name value).dropNulls := by
  rw [Json.lookup_dropNullsEntries (Keyed.sorted_mapValues sorted), Keyed.lookup_mapValues]
  cases entries.lookup name with
  | none => rfl
  | some value => simp only [Option.map_some, Option.bind_some, Block.isNull_veilEntry]

theorem agree_single (sorted : Keyed.Sorted entries)
    (unset : ∀ value, absent = some value → R value value)
    (given : ∀ value, entries.lookup name = some value → value.isNull = false →
      Agree R (decode value.dropNulls) (decode (block.veilEntry name value).dropNulls)) :
    Agree R ((Fields.single name absent decode).ofEntries (Json.dropNullsEntries entries))
      ((Fields.single name absent decode).ofEntries
        (Json.dropNullsEntries (Keyed.mapValues block.veilEntry entries))) := by
  have here := Json.lookup_dropNullsEntries sorted name
  have there := lookup_dropNulls_veiled block sorted name
  cases found : entries.lookup name with
  | none =>
    rw [found] at here there
    exact Fields.agree_absent here there unset
  | some value =>
    rw [found] at here there
    simp only [Option.bind_some] at here there
    cases null : value.isNull with
    | true =>
      rw [if_pos null] at here there
      exact Fields.agree_absent here there unset
    | false =>
      rw [null] at here there
      exact Fields.agree_present here there (given value found null)

theorem agree_open (sorted : Keyed.Sorted entries) (isOpen : block.isOpenAt name = true) :
    Agree Eq ((Fields.single name absent decode).ofEntries (Json.dropNullsEntries entries))
      ((Fields.single name absent decode).ofEntries
        (Json.dropNullsEntries (Keyed.mapValues block.veilEntry entries))) := by
  apply agree_single sorted (fun _ _ => rfl)
  intro value _ _
  rw [Block.veilEntry_of_isOpenAt isOpen]
  exact .of_eq rfl

end Veiled

/-- A configuration that passes the schema is read and checked alike with its secrets emptied. -/
def Kind.Discreet (kind : Kind Wire) : Prop :=
  ∀ config : Json, config.WellFormed → kind.schema.validate config = [] →
    (kind.decode.fromState config).bind kind.validateCreate =
      (kind.decode.fromState (kind.schema.veil config)).bind kind.validateCreate

theorem Kind.discreet_of_isOpen {kind : Kind Wire} (isOpen : kind.schema.block.isOpen = true) :
    kind.Discreet := by
  intro config _ _
  rw [Schema.veil, Block.veil_of_isOpen _ isOpen]

theorem Kind.discreet_of_objects {kind : Kind Wire}
    {R : kind.State → kind.State → Prop}
    (checks : ∀ s t, R s t → kind.validateCreate s = kind.validateCreate t)
    (objects : ∀ entries, (Json.obj entries).WellFormed →
      kind.schema.validate (.obj entries) = [] →
      Agree R (kind.decode (.obj (Json.dropNullsEntries entries))) (kind.decode
        (.obj (Json.dropNullsEntries (Keyed.mapValues kind.schema.block.veilEntry entries))))) :
    kind.Discreet := by
  intro config wellFormed valid
  cases config with
  | obj entries =>
    rw [Schema.veil, Block.veil_obj]
    exact (Decoder.agree_fromState (objects entries wellFormed valid)).bind_eq checks
  | _ =>
    rw [Schema.veil, Block.veil_of_not_object]
    rfl

theorem Settings.contains_ofList (entries : List (String × String)) (name : String) :
    (ofList entries).contains name = entries.any fun entry => entry.1 == name := by
  rw [contains, get?_ofList, Option.isSome_map, Bool.eq_iff_iff, List.getLast?_isSome,
    List.any_eq_true]
  simp [List.filter_eq_nil_iff]

theorem exists_texts {entries : List (String × Json)}
    (each : ∀ entry ∈ entries, AttributeType.Holds .string entry.2) :
    ∃ texts : List (String × String), entries = texts.map fun entry => (entry.1, .str entry.2) := by
  induction entries with
  | nil => exact ⟨[], rfl⟩
  | cons entry rest ih =>
    obtain ⟨key, value⟩ := entry
    obtain ⟨here, later⟩ := List.forall_mem_cons.mp each
    obtain ⟨texts, rfl⟩ := ih later
    cases here with
    | string text => exact ⟨(key, text) :: texts, rfl⟩

namespace Connector

/-- The states differ in the values of secret settings only. -/
structure SameButSecrets (s t : State) : Prop where
  plain : s.plain = t.plain
  status : s.status = t.status
  names : ∀ name, s.secret.contains name = t.secret.contains name

theorem check_of_sameButSecrets {s t : State} (same : SameButSecrets s t) : s.check = t.check := by
  have shared : s.sharedName? = t.sharedName? := by
    unfold State.sharedName?
    rw [same.plain, funext same.names]
  rw [State.check, State.check, same.plain, same.status, shared]

def SameNames (s t : Settings) : Prop := ∀ name, s.contains name = t.contains name

theorem agree_settings {settings : Json} (holds : AttributeType.Holds (.map .string) settings) :
    Agree SameNames (decodeSettings settings.dropNulls)
      (decodeSettings settings.emptied.dropNulls) := by
  rcases holds with _ | _ | _ | _ | _ | _ | each
  obtain ⟨texts, rfl⟩ := exists_texts each
  have decoded (entries : List (String × String)) :
      decodeSettings (Json.obj (entries.map fun entry => (entry.1, .str entry.2))).dropNulls =
        .ok (.ofList entries) := by
    rw [decodeSettings, Decoder.nullAs, Json.isNull_dropNulls, if_neg (by simp [Json.isNull]),
      Json.dropNulls, Json.dropNullsEntries_texts, Decoder.settings, Decoder.textEntries_texts]
    rfl
  have emptied : Keyed.mapValues (fun _ => Json.emptied)
      (texts.map fun entry => (entry.1, Json.str entry.2)) =
        (texts.map fun entry => (entry.1, "")).map fun entry => (entry.1, Json.str entry.2) := by
    rw [Keyed.mapValues, List.map_map, List.map_map]
    rfl
  rw [Json.emptied_obj, emptied, decoded, decoded]
  refine .ok ?_
  intro name
  rw [Settings.contains_ofList, Settings.contains_ofList, List.any_map]
  rfl

theorem discreet : kind.Discreet := by
  apply Kind.discreet_of_objects (R := SameButSecrets)
  · exact fun s t => check_of_sameButSecrets
  · intro entries wellFormed valid
    have sorted := wellFormed.1
    apply Decoder.agree_record
    refine Fields.agree_seq_same (Fields.agree_seq (R := SameNames) (Fields.agree_seq_same
      (Fields.agree_seq_same (Fields.agree_seq_same (Fields.agree_map_same ?_
        ?_) ?_) ?_) ?_) ?_) ?_
    · intro id environment cluster plain secret other names status
      exact ⟨rfl, rfl, names⟩
    · exact agree_open sorted (by decide)
    · exact agree_open sorted (by decide)
    · exact agree_open sorted (by decide)
    · exact agree_open sorted (by decide)
    · apply agree_single sorted (fun _ _ _ => rfl)
      intro secret given _
      have admitted := Block.admits_of_valid valid "config_sensitive" rfl rfl
      rw [given] at admitted
      rw [Block.veilEntry_of_isSecret (by decide)]
      cases admitted with
      | null => exact .ok fun _ => rfl
      | typed holds => exact agree_settings holds
    · exact agree_open sorted (by decide)

end Connector

namespace KafkaTopic

/-- The key of a cluster as a topic may name it. -/
def credentialsBlock : Block where
  attributes := [("key", (Attribute.text .mandatory).secret),
    ("secret", (Attribute.text .mandatory).secret)]

theorem agree_credentials {item : Json} (wellFormed : item.WellFormed) {path : String}
    (valid : credentialsBlock.check item path = []) :
    Agree (fun _ _ => True) (decodeCredentials item.dropNulls)
      (decodeCredentials (credentialsBlock.veil item).dropNulls) := by
  cases item with
  | obj entries =>
    have sorted := wellFormed.1
    have text (name : String)
        (listed : credentialsBlock.attributes.lookup name =
          some (Attribute.text .mandatory).secret) :
        Agree (fun _ _ => True)
          ((Fields.required name Decoder.text).ofEntries (Json.dropNullsEntries entries))
          ((Fields.required name Decoder.text).ofEntries (Json.dropNullsEntries
            (Keyed.mapValues credentialsBlock.veilEntry entries))) := by
      have admitted := Block.admits_of_valid valid name listed rfl
      have isSecret : credentialsBlock.isSecret name = true := by
        rw [Block.isSecret, listed]
        rfl
      apply agree_single sorted (fun _ impossible => by cases impossible)
      intro value given _
      rw [given] at admitted
      rw [Block.veilEntry_of_isSecret isSecret]
      cases admitted with
      | null optional => cases optional
      | typed holds =>
        cases holds with
        | string text => exact .ok trivial
    rw [Block.veil_obj]
    apply Decoder.agree_record
    refine Fields.agree_seq (Fields.agree_map ?_ (text "key" rfl)) (text "secret" rfl)
    exact fun _ _ _ _ _ _ => trivial
  | null => exact .error _
  | _ =>
    rw [Block.check_of_not_object] at valid
    · cases valid
    · rfl
    · rfl

def SamePartitions (s t : State) : Prop := s.partitions = t.partitions

theorem discreet : kind.Discreet := by
  apply Kind.discreet_of_objects (R := SamePartitions)
  · intro s t (same : s.partitions = t.partitions)
    show s.check = t.check
    unfold State.check
    rw [same]
  · intro entries wellFormed valid
    have sorted := wellFormed.1
    apply Decoder.agree_record
    refine Fields.agree_seq (R := fun _ _ => True) (Fields.agree_seq_same (Fields.agree_seq_same
      (Fields.agree_seq_same (Fields.agree_seq_same (Fields.agree_seq_same (Fields.agree_map_same ?_
        ?_) ?_) ?_) ?_) ?_) ?_) ?_
    · intro id name partitions config cluster endpoint _ _ _
      rfl
    · exact agree_open sorted (by decide)
    · exact agree_open sorted (by decide)
    · exact agree_open sorted (by decide)
    · exact agree_open sorted (by decide)
    · exact agree_open sorted (by decide)
    · exact agree_open sorted (by decide)
    · apply agree_single sorted (fun _ _ => trivial)
      intro value given notNull
      have entry := (Block.check_obj_eq_nil_iff.mp valid).2.1 _ List.mem_cons_self
      rw [given] at entry
      obtain ⟨items, rfl, passed⟩ := Nesting.items_of_valid entry notNull
      show Agree _ (Decoder.items decodeCredentials (Json.dropNullsItems items))
        (Decoder.items decodeCredentials
          (Json.dropNullsItems (items.map credentialsBlock.veil)))
      rw [Json.dropNullsItems_eq_map, Json.dropNullsItems_eq_map, List.map_map]
      apply Decoder.agree_items
      intro item member
      obtain ⟨path, valid⟩ := passed item member
      exact agree_credentials ((wellFormed.of_lookup given).of_item member) valid

end KafkaTopic

theorem discreet_of_mem_kinds {kind : Kind Wire} (member : kind ∈ kinds) : kind.Discreet := by
  simp only [kinds, List.mem_cons, List.not_mem_nil, or_false] at member
  rcases member with rfl | rfl | rfl | rfl | rfl | rfl | rfl
  · exact Connector.discreet
  · exact Kind.discreet_of_isOpen (by decide)
  · exact Kind.discreet_of_isOpen (by decide)
  · exact Kind.discreet_of_isOpen (by decide)
  · exact KafkaTopic.discreet
  · exact Kind.discreet_of_isOpen (by decide)
  · exact Kind.discreet_of_isOpen (by decide)

/-- What a validation reports does not depend on what the texts in sensitive attributes say. -/
theorem Lifecycle.validate_veil {l : Lifecycle Wire} (discreet : l.kind.Discreet) {config : Json}
    (wellFormed : config.WellFormed) :
    l.validate (l.kind.schema.veil config) = l.validate config := by
  unfold validate
  simp only [Schema.validate_veil]
  cases valid : l.kind.schema.validate config with
  | nil =>
    rw [discreet config wellFormed valid]
  | cons => rfl

end Provisioner

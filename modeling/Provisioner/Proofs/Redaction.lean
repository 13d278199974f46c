import Provisioner.Proofs.Kinds.Veiled

/-!
# What a redacted copy tells

Of a sensitive attribute a redacted copy tells whether it is set and, if it is a map, under which
keys. Two values that agree on that much inside their sensitive attributes, and on everything
outside of them, have the same copy. A copy agrees with its own value in this sense, so nothing else
is changed, and a copy of a copy is no different.
-/

namespace Provisioner

set_option autoImplicit false

namespace Json

/-- A secret that is masked as a whole: it is set, and it is no map. -/
def IsWhole : Json → Prop
  | .null | .obj _ => False
  | .str text => text ≠ ""
  | _ => True

/-- Two secrets that differ in nothing but what a redacted copy hides. -/
inductive Alike : Json → Json → Prop
  | null : Alike .null .null
  | empty : Alike (.str "") (.str "")
  | maps {entries others : List (String × Json)}
      (keys : entries.map Prod.fst = others.map Prod.fst) : Alike (.obj entries) (.obj others)
  | whole {secret other : Json} (given : secret.IsWhole) (givenOther : other.IsWhole) :
      Alike secret other

theorem maskText_ne_empty : maskText ≠ "" := by decide

theorem mask_of_isWhole {secret : Json} (given : secret.IsWhole) :
    mask secret = .str maskText := by
  cases secret with
  | null => cases given
  | obj => cases given
  | str text =>
    have filled : ¬text.isEmpty = true := fun empty => given (String.isEmpty_iff.mp empty)
    rw [mask, if_neg filled]
  | _ => rfl

theorem cases_of_not_isWhole {secret : Json} (other : ¬secret.IsWhole) :
    secret = .null ∨ secret = .str "" ∨ ∃ entries, secret = .obj entries := by
  cases secret with
  | null => exact Or.inl rfl
  | str text => exact Or.inr (Or.inl (congrArg str (Classical.not_not.mp other)))
  | obj entries => exact Or.inr (Or.inr ⟨entries, rfl⟩)
  | _ => exact absurd trivial other

theorem mask_ne_of_not_isWhole {secret : Json} (other : ¬secret.IsWhole) :
    mask secret ≠ .str maskText := by
  rcases cases_of_not_isWhole other with rfl | rfl | ⟨entries, rfl⟩
  · nofun
  · exact fun same => maskText_ne_empty (Json.str.inj same).symm
  · nofun

theorem mask_obj (entries : List (String × Json)) :
    mask (.obj entries) = .obj ((entries.map Prod.fst).map fun key => (key, .str maskText)) := by
  rw [mask, List.map_map]
  rfl

theorem mask_eq_iff {secret other : Json} : mask secret = mask other ↔ secret.Alike other := by
  constructor
  · intro same
    by_cases given : secret.IsWhole
    · have givenOther : other.IsWhole := Classical.byContradiction fun not =>
        mask_ne_of_not_isWhole not (same ▸ mask_of_isWhole given)
      exact .whole given givenOther
    · have notOther : ¬other.IsWhole := fun givenOther =>
        mask_ne_of_not_isWhole given (same ▸ mask_of_isWhole givenOther)
      rcases cases_of_not_isWhole given with rfl | rfl | ⟨entries, rfl⟩
      · rcases cases_of_not_isWhole notOther with rfl | rfl | ⟨others, rfl⟩
        · exact .null
        · cases same
        · cases same
      · rcases cases_of_not_isWhole notOther with rfl | rfl | ⟨others, rfl⟩
        · cases same
        · exact .empty
        · cases same
      · rcases cases_of_not_isWhole notOther with rfl | rfl | ⟨others, rfl⟩
        · cases same
        · cases same
        · have keys := congrArg (List.map Prod.fst) (obj.inj same)
          rw [List.map_map, List.map_map] at keys
          exact .maps keys
  · rintro (_ | _ | keys | ⟨given, givenOther⟩)
    · rfl
    · rfl
    · rw [mask_obj, mask_obj, keys]
    · rw [mask_of_isWhole given, mask_of_isWhole givenOther]

theorem alike_mask (secret : Json) : secret.Alike (mask secret) := by
  by_cases given : secret.IsWhole
  · rw [mask_of_isWhole given]
    exact .whole given maskText_ne_empty
  · rcases cases_of_not_isWhole given with rfl | rfl | ⟨entries, rfl⟩
    · exact .null
    · exact .empty
    · apply Alike.maps
      rw [List.map_map]
      rfl

end Json

namespace Block

/-- The names in a block and in the blocks within it are in order, those of attributes and those of
blocks each for themselves. An attribute and a block may share a name. -/
inductive Ordered : Block → Prop
  | intro {block : Block} (attributes : Keyed.Sorted block.attributes)
      (blocks : Keyed.Sorted block.blocks) (nested : ∀ b ∈ block.blocks, Ordered b.2.2) :
      Ordered block

mutual

/-- Two values are the same but for their secrets, and the secrets are alike. Where a nested block
is no list, there is no telling what is secret in it, and the two have to be equal. -/
inductive AgreeOpenly : Block → Json → Json → Prop
  | same (block : Block) (value : Json) : AgreeOpenly block value value
  | objects {block : Block} {entries others : List (String × Json)}
      (keys : entries.map Prod.fst = others.map Prod.fst)
      (each : ∀ name value other, entries.lookup name = some value →
        others.lookup name = some other → AgreeUnder block name value other) :
      AgreeOpenly block (.obj entries) (.obj others)

/-- The values of two objects under one name. -/
inductive AgreeUnder : Block → String → Json → Json → Prop
  | same (block : Block) (name : String) (value : Json) : AgreeUnder block name value value
  | secret {block : Block} {name : String} {value other : Json}
      (sensitive : block.isSecret name = true) (alike : value.Alike other) :
      AgreeUnder block name value other
  | items {block : Block} {name : String} {nesting : Nesting} {inner : Block}
      {items others : List Json} (plain : block.isSecret name = false)
      (listed : (name, nesting, inner) ∈ block.blocks) (length : items.length = others.length)
      (each : ∀ pair ∈ items.zip others, AgreeOpenly inner pair.1 pair.2) :
      AgreeUnder block name (.arr items) (.arr others)

end

end Block

theorem adjustEntry_eq_mapValues {entries : List (String × Json)} (sorted : Keyed.Sorted entries)
    (key : String) (change : Json → Json) : adjustEntry key change entries =
      Keyed.mapValues (fun name value => if name = key then change value else value) entries := by
  induction entries with
  | nil => rfl
  | cons head rest ih =>
    obtain ⟨k, value⟩ := head
    obtain ⟨below, later⟩ := List.pairwise_cons.mp sorted
    rw [adjustEntry, Keyed.mapValues, List.map_cons]
    by_cases here : key = k
    · subst here
      have others : Keyed.mapValues (fun name value => if name = key then change value else value)
          rest = rest :=
        Keyed.mapValues_eq_self fun entry member =>
          if_neg (String.ne_of_lt (below entry member)).symm
      rw [if_pos rfl, if_pos rfl]
      exact congrArg _ others.symm
    · rw [if_neg here, if_neg (Ne.symm here), ih later]
      rfl

/-- What a list of attributes makes of the value under a name. -/
def maskUnder (attributes : List (String × Attribute)) (name : String) (value : Json) : Json :=
  if (attributes.lookup name).any fun a => a.flags.sensitive then mask value else value

theorem maskUnder_of_absent {attributes : List (String × Attribute)} {name : String}
    (absent : attributes.lookup name = none) (value : Json) :
    maskUnder attributes name value = value := by
  rw [maskUnder, absent]
  rfl

theorem maskUnder_cons_self (attributes : List (String × Attribute)) (name : String)
    (a : Attribute) (value : Json) : maskUnder ((name, a) :: attributes) name value =
      if a.flags.sensitive then mask value else value := by
  rw [maskUnder, List.lookup_cons_self]
  rfl

theorem maskUnder_cons_of_ne {attributes : List (String × Attribute)} {key name : String}
    (other : name ≠ key) (a : Attribute) (value : Json) :
    maskUnder ((key, a) :: attributes) name value = maskUnder attributes name value := by
  rw [maskUnder, Keyed.lookup_cons_of_ne other, maskUnder]

theorem maskAttributes_eq_mapValues {attributes : List (String × Attribute)}
    (ordered : Keyed.Sorted attributes) {entries : List (String × Json)}
    (sorted : Keyed.Sorted entries) :
    maskAttributes attributes entries = Keyed.mapValues (maskUnder attributes) entries := by
  -- By induction on the attributes: each name occurs in one of them only, so no value is masked
  -- twice.
  induction attributes generalizing entries with
  | nil => exact (Keyed.mapValues_eq_self fun _ _ => rfl).symm
  | cons head rest ih =>
    obtain ⟨key, a⟩ := head
    have absent := Keyed.lookup_tail_self ordered
    have later := (List.pairwise_cons.mp ordered).2
    rw [maskAttributes, List.foldl_cons]
    cases sensitive : a.flags.sensitive with
    | true =>
      rw [if_pos rfl, adjustEntry_eq_mapValues sorted]
      refine (ih later (Keyed.sorted_mapValues sorted)).trans ?_
      apply Keyed.mapValues_mapValues
      intro entry _
      by_cases here : entry.1 = key
      · rw [here, maskUnder_of_absent absent, maskUnder_cons_self, sensitive, if_pos rfl]
        rfl
      · rw [maskUnder_cons_of_ne here, if_neg here]
    | false =>
      refine (ih later sorted).trans ?_
      apply Keyed.mapValues_congr
      intro entry _
      by_cases here : entry.1 = key
      · rw [here, maskUnder_of_absent absent, maskUnder_cons_self, sensitive]
        rfl
      · rw [maskUnder_cons_of_ne here]

/-- What a list of nested blocks makes of the value under a name. -/
def redactUnder (blocks : List (String × Nesting × Block)) (name : String) (value : Json) : Json :=
  match blocks.lookup name with
  | some (_, block) => adjustItems block.redact value
  | none => value

theorem redactUnder_of_absent {blocks : List (String × Nesting × Block)} {name : String}
    (absent : blocks.lookup name = none) (value : Json) :
    redactUnder blocks name value = value := by
  rw [redactUnder, absent]

theorem redactUnder_of_listed {blocks : List (String × Nesting × Block)} {name : String}
    {nesting : Nesting} {block : Block} (listed : blocks.lookup name = some (nesting, block))
    (value : Json) : redactUnder blocks name value = adjustItems block.redact value := by
  rw [redactUnder, listed]

theorem redactNested_eq_mapValues {blocks : List (String × Nesting × Block)}
    (ordered : Keyed.Sorted blocks) {entries : List (String × Json)}
    (sorted : Keyed.Sorted entries) :
    redactNested blocks entries = Keyed.mapValues (redactUnder blocks) entries := by
  -- By induction on the blocks, as for attributes.
  induction blocks generalizing entries with
  | nil => exact (Keyed.mapValues_eq_self fun _ _ => rfl).symm
  | cons head rest ih =>
    obtain ⟨key, nesting, block⟩ := head
    have absent := Keyed.lookup_tail_self ordered
    have later := (List.pairwise_cons.mp ordered).2
    rw [redactNested, adjustEntry_eq_mapValues sorted, ih later (Keyed.sorted_mapValues sorted)]
    apply Keyed.mapValues_mapValues
    intro entry _
    by_cases here : entry.1 = key
    · rw [here, redactUnder_of_absent absent, redactUnder_of_listed List.lookup_cons_self,
        if_pos rfl]
    · rw [if_neg here]
      unfold redactUnder
      rw [Keyed.lookup_cons_of_ne here]

theorem adjustItems_mask (change : Json → Json) (secret : Json) :
    adjustItems change (mask secret) = mask secret := by
  cases secret with
  | str text =>
    rw [mask]
    split <;> rfl
  | _ => rfl

theorem redactUnder_mask (blocks : List (String × Nesting × Block)) (name : String)
    (secret : Json) : redactUnder blocks name (mask secret) = mask secret := by
  unfold redactUnder
  split
  · exact adjustItems_mask _ _
  · rfl

namespace Block

/-- What becomes of the value under a name. -/
def redactEntry (block : Block) (name : String) (value : Json) : Json :=
  if block.isSecret name then mask value else redactUnder block.blocks name value

variable {block : Block} {name : String}

theorem redactEntry_of_secret (sensitive : block.isSecret name = true) (value : Json) :
    block.redactEntry name value = mask value := by
  rw [redactEntry, if_pos sensitive]

theorem redactEntry_of_plain (plain : block.isSecret name = false) (value : Json) :
    block.redactEntry name value = redactUnder block.blocks name value := by
  rw [redactEntry, plain, if_neg Bool.false_ne_true]

/-- Where attributes and blocks share a name, the mask of the attribute is what stays. -/
theorem redact_obj (ordered : block.Ordered) {entries : List (String × Json)}
    (sorted : Keyed.Sorted entries) :
    block.redact (.obj entries) = .obj (Keyed.mapValues block.redactEntry entries) := by
  obtain ⟨attributes, blocks, _⟩ := ordered
  obtain ⟨attributeList, blockList, groups, description⟩ := block
  rw [redact, maskAttributes_eq_mapValues attributes sorted,
    redactNested_eq_mapValues blocks (Keyed.sorted_mapValues sorted)]
  apply congrArg Json.obj
  apply Keyed.mapValues_mapValues
  intro entry _
  unfold redactEntry isSecret maskUnder
  split
  · exact redactUnder_mask _ _ _
  · rfl

theorem redact_of_not_object (block : Block) {value : Json} (notObject : value.obj? = none) :
    block.redact value = value := by
  obtain ⟨attributes, blocks, groups, description⟩ := block
  cases value with
  | obj => cases notObject
  | _ => rfl

theorem map_eq_map_iff_zip {items others : List Json} (length : items.length = others.length)
    (change : Json → Json) : items.map change = others.map change ↔
      ∀ pair ∈ items.zip others, change pair.1 = change pair.2 := by
  have first : items.map change = (items.zip others).map (change ∘ Prod.fst) := by
    rw [← List.map_map, List.map_fst_zip (Nat.le_of_eq length)]
  have second : others.map change = (items.zip others).map (change ∘ Prod.snd) := by
    rw [← List.map_map, List.map_snd_zip (Nat.le_of_eq length.symm)]
  rw [first, second, List.map_inj_left]
  rfl

theorem mem_zip_map {items : List Json} {change : Json → Json} {pair : Json × Json}
    (member : pair ∈ items.zip (items.map change)) : pair.1 ∈ items ∧ pair.2 = change pair.1 := by
  have zipped : items.zip (items.map change) = items.map fun item => (id item, change item) := by
    rw [← List.zip_map', List.map_id]
  rw [zipped] at member
  obtain ⟨item, inside, rfl⟩ := List.mem_map.mp member
  exact ⟨inside, rfl⟩

theorem redactEntry_eq_of_agreeUnder (blocks : Keyed.Sorted block.blocks) {value other : Json}
    (wellFormed : value.WellFormed)
    (nested : ∀ b ∈ block.blocks, ∀ {value other : Json}, value.WellFormed →
      b.2.2.AgreeOpenly value other → b.2.2.redact value = b.2.2.redact other)
    (agree : block.AgreeUnder name value other) :
    block.redactEntry name value = block.redactEntry name other := by
  cases agree with
  | same => rfl
  | secret sensitive alike =>
    rw [redactEntry_of_secret sensitive, redactEntry_of_secret sensitive,
      Json.mask_eq_iff.mpr alike]
  | @items _ _ nesting inner items others plain listed length each =>
    have found := Keyed.lookup_of_mem blocks listed
    rw [redactEntry_of_plain plain, redactEntry_of_plain plain, redactUnder_of_listed found,
      redactUnder_of_listed found]
    apply congrArg Json.arr
    apply (map_eq_map_iff_zip length _).mpr
    intro pair member
    exact nested _ listed (wellFormed.of_item (List.of_mem_zip member).1) (each pair member)

theorem redact_eq_of_agreeOpenly (ordered : block.Ordered) {value other : Json}
    (wellFormed : value.WellFormed) (agree : block.AgreeOpenly value other) :
    block.redact value = block.redact other := by
  -- By induction on the block: what a copy tells is what values that agree openly share.
  induction block using nestedInduction generalizing value other with
  | step block ih =>
    cases agree with
    | same => rfl
    | @objects _ entries others keys each =>
      have sorted : Keyed.Sorted entries := wellFormed.1
      have sortedOthers : Keyed.Sorted others :=
        Keyed.sorted_of_keys _ keys.symm (List.pairwise_map.mpr sorted)
      rw [redact_obj ordered sorted, redact_obj ordered sortedOthers]
      obtain ⟨_, blocks, nested⟩ := ordered
      apply congrArg Json.obj
      refine (Keyed.mapValues_eq_iff sorted).mpr ⟨keys, ?_⟩
      intro name value other found there
      exact redactEntry_eq_of_agreeUnder blocks (wellFormed.of_lookup found)
        (fun b listed _ _ => ih b listed (nested b listed)) (each name value other found there)

theorem agreeUnder_redactEntry {value : Json} (wellFormed : value.WellFormed)
    (nested : ∀ b ∈ block.blocks, ∀ {value : Json}, value.WellFormed →
      b.2.2.AgreeOpenly value (b.2.2.redact value)) :
    block.AgreeUnder name value (block.redactEntry name value) := by
  cases sensitive : block.isSecret name with
  | true =>
    rw [redactEntry_of_secret sensitive]
    exact .secret sensitive value.alike_mask
  | false =>
    rw [redactEntry_of_plain sensitive]
    cases listed : block.blocks.lookup name with
    | none =>
      rw [redactUnder_of_absent listed]
      exact .same block name value
    | some inner =>
      rw [redactUnder_of_listed listed]
      cases value with
      | arr items =>
        have member := Keyed.mem_of_lookup listed
        refine .items sensitive member (List.length_map _).symm ?_
        intro pair paired
        obtain ⟨inside, redacted⟩ := mem_zip_map paired
        rw [redacted]
        exact nested _ member (wellFormed.of_item inside)
      | _ => exact .same block name _

theorem agreeOpenly_redact (ordered : block.Ordered) {value : Json}
    (wellFormed : value.WellFormed) : block.AgreeOpenly value (block.redact value) := by
  -- By induction on the block: a copy differs from its value in secrets only, and is alike there.
  induction block using nestedInduction generalizing value with
  | step block ih =>
    cases value with
    | obj entries =>
      rw [redact_obj ordered wellFormed.1]
      obtain ⟨_, _, nested⟩ := ordered
      refine .objects (Keyed.keys_mapValues _ _).symm ?_
      intro name value other found there
      rw [Keyed.lookup_mapValues, found] at there
      obtain rfl := Option.some.inj there
      exact agreeUnder_redactEntry (wellFormed.of_lookup found) fun b listed _ =>
        ih b listed (nested b listed)
    | _ =>
      rw [redact_of_not_object]
      · exact .same block _
      · rfl

theorem eq_of_redact_eq (ordered : block.Ordered) {value other : Json}
    (wellFormed : other.WellFormed) (notObject : value.obj? = none)
    (same : block.redact value = block.redact other) : value = other := by
  rw [block.redact_of_not_object notObject] at same
  cases objects : other.obj? with
  | none => rw [same, block.redact_of_not_object objects]
  | some others =>
    cases other with
    | obj others =>
      rw [redact_obj ordered wellFormed.1] at same
      rw [same] at notObject
      cases notObject
    | _ => cases objects

theorem adjustItems_cases {change : Json → Json} {value other : Json}
    (same : adjustItems change value = adjustItems change other) : value = other ∨
      ∃ items others, value = .arr items ∧ other = .arr others ∧
        items.map change = others.map change := by
  cases value with
  | arr items =>
    cases other with
    | arr others => exact Or.inr ⟨items, others, rfl, rfl, Json.arr.inj same⟩
    | _ => cases same
  | _ =>
    cases other with
    | arr others => cases same
    | _ => exact Or.inl same

theorem agreeUnder_of_redactEntry_eq {value other : Json} (wellFormed : value.WellFormed)
    (wellFormedOther : other.WellFormed)
    (nested : ∀ b ∈ block.blocks, ∀ {value other : Json}, value.WellFormed → other.WellFormed →
      b.2.2.redact value = b.2.2.redact other → b.2.2.AgreeOpenly value other)
    (same : block.redactEntry name value = block.redactEntry name other) :
    block.AgreeUnder name value other := by
  cases sensitive : block.isSecret name with
  | true =>
    rw [redactEntry_of_secret sensitive, redactEntry_of_secret sensitive] at same
    exact .secret sensitive (Json.mask_eq_iff.mp same)
  | false =>
    rw [redactEntry_of_plain sensitive, redactEntry_of_plain sensitive] at same
    cases listed : block.blocks.lookup name with
    | none =>
      rw [redactUnder_of_absent listed, redactUnder_of_absent listed] at same
      rw [same]
      exact .same block name other
    | some inner =>
      rw [redactUnder_of_listed listed, redactUnder_of_listed listed] at same
      rcases adjustItems_cases same with equal | ⟨items, others, rfl, rfl, copies⟩
      · rw [equal]
        exact .same block name other
      · have member := Keyed.mem_of_lookup listed
        have length : items.length = others.length := by
          simpa using congrArg List.length copies
        refine .items sensitive member length ?_
        intro pair paired
        have inside := List.of_mem_zip paired
        exact nested _ member (wellFormed.of_item inside.1) (wellFormedOther.of_item inside.2)
          ((map_eq_map_iff_zip length _).mp copies pair paired)

theorem agreeOpenly_of_redact_eq (ordered : block.Ordered) {value other : Json}
    (wellFormed : value.WellFormed) (wellFormedOther : other.WellFormed)
    (same : block.redact value = block.redact other) : block.AgreeOpenly value other := by
  -- By induction on the block: what is no secret shows in the copy.
  induction block using nestedInduction generalizing value other with
  | step block ih =>
    cases value with
    | obj entries =>
      cases other with
      | obj others =>
        have sorted : Keyed.Sorted entries := wellFormed.1
        rw [redact_obj ordered sorted, redact_obj ordered wellFormedOther.1] at same
        obtain ⟨keys, each⟩ := (Keyed.mapValues_eq_iff sorted).mp (Json.obj.inj same)
        obtain ⟨_, _, nested⟩ := ordered
        refine .objects keys ?_
        intro name value other found there
        exact agreeUnder_of_redactEntry_eq (wellFormed.of_lookup found)
          (wellFormedOther.of_lookup there) (fun b listed _ _ => ih b listed (nested b listed))
          (each name value other found there)
      | _ =>
        rw [eq_of_redact_eq ordered wellFormed rfl same.symm]
        exact .same block _
    | _ =>
      rw [eq_of_redact_eq ordered wellFormedOther rfl same]
      exact .same block other

end Block

namespace Schema

/-- Two values have the same redacted copy exactly if they differ in nothing but secrets, and there
only in what a mask hides. A copy itself is such a value, and its own copy. -/
theorem redact_hides_secrets (schema : Schema) (ordered : schema.block.Ordered) (value : Json)
    (wellFormed : value.WellFormed) :
    (∀ other : Json, other.WellFormed →
      (schema.redact value = schema.redact other ↔ schema.block.AgreeOpenly value other)) ∧
    schema.block.AgreeOpenly value (schema.redact value) ∧
    schema.redact (schema.redact value) = schema.redact value := by
  have agree := Block.agreeOpenly_redact ordered wellFormed
  refine ⟨?_, agree, ?_⟩
  · intro other wellFormedOther
    constructor
    · exact Block.agreeOpenly_of_redact_eq ordered wellFormed wellFormedOther
    · exact Block.redact_eq_of_agreeOpenly ordered wellFormed
  · exact (Block.redact_eq_of_agreeOpenly ordered wellFormed agree).symm

end Schema

namespace KafkaTopic

theorem ordered_schema_block : schema.block.Ordered := by
  have leaf {attributes : List (String × Attribute)} (ordered : Keyed.Sorted attributes) :
      ({ attributes } : Block).Ordered := ⟨ordered, List.Pairwise.nil, nofun⟩
  refine ⟨Keyed.sorted_of_keys _ rfl (by decide), Keyed.sorted_of_keys _ rfl (by decide), ?_⟩
  refine List.forall_mem_cons.mpr ⟨?_, List.forall_mem_singleton.mpr ?_⟩
  · exact leaf (Keyed.sorted_of_keys _ rfl (by decide))
  · exact leaf (List.pairwise_singleton _ _)

/-- A topic that brings a key of its cluster. -/
def withKey (name key secret : String) : Json :=
  .obj [
    ("credentials", .arr [.obj [("key", .str key), ("secret", .str secret)]]),
    ("topic_name", .str name)]

theorem wellFormed_withKey (name key secret : String) : (withKey name key secret).WellFormed := by
  refine ⟨Keyed.sorted_of_keys ["credentials", "topic_name"] rfl (by decide), ⟨⟨?_, ?_⟩, trivial⟩,
    trivial, trivial⟩
  · exact Keyed.sorted_of_keys ["key", "secret"] rfl (by decide)
  · exact ⟨trivial, trivial, trivial⟩

/-- Keys are not told apart, names are. -/
theorem redact_hides_secrets_key :
    schema.block.Ordered ∧ (withKey "orders" "K1" "one").WellFormed ∧
      (withKey "orders" "K2" "two").WellFormed ∧ (withKey "events" "K1" "one").WellFormed ∧
      schema.block.AgreeOpenly (withKey "orders" "K1" "one") (withKey "orders" "K2" "two") ∧
      ¬schema.block.AgreeOpenly (withKey "orders" "K1" "one") (withKey "events" "K1" "one") ∧
      schema.redact (withKey "orders" "K1" "one") = withKey "orders" maskText maskText ∧
      schema.redact (withKey "orders" maskText maskText) = withKey "orders" maskText maskText := by
  have hides := schema.redact_hides_secrets ordered_schema_block (withKey "orders" "K1" "one")
    (wellFormed_withKey _ _ _)
  have copy : schema.redact (withKey "orders" "K1" "one") =
    withKey "orders" maskText maskText := rfl
  have agree := (hides.1 (withKey "orders" "K2" "two") (wellFormed_withKey _ _ _)).mp rfl
  have again := hides.2.2
  rw [copy] at again
  refine ⟨ordered_schema_block, wellFormed_withKey _ _ _, wellFormed_withKey _ _ _,
    wellFormed_withKey _ _ _, agree, ?_, copy, again⟩
  intro agreeNames
  have same := (hides.1 (withKey "events" "K1" "one") (wellFormed_withKey _ _ _)).mpr agreeNames
  have names : (withKey "orders" maskText maskText).get? "topic_name" =
      (withKey "events" maskText maskText).get? "topic_name" :=
    congrArg (fun copy : Json => copy.get? "topic_name") same
  exact absurd (Json.str.inj (Option.some.inj names)) (by decide)

end KafkaTopic

end Provisioner

import Mathlib.Data.List.TakeWhile
import Provisioner.ImportKey

/-!
# Joined identifiers read back

A key is cut at every slash, and the parts of a composite identifier are not escaped. So a composite
identifier is read back as its parts exactly if none of them holds a slash; one that does makes the
key too long. The other way round, the parts of a key always join to the key again: every text is
cut in just one way.
-/

namespace Provisioner

set_option autoImplicit false

theorem splitChars_eq_splitOn (separator : Char) (chars : List Char) :
    splitChars separator chars = chars.splitOn separator := by
  induction chars with
  | nil => exact (List.splitOn_nil separator).symm
  | cons c rest ih =>
    unfold splitChars
    rw [ih]
    unfold List.splitOn
    rw [List.splitOnP_cons_eq_if_modifyHead]
    by_cases here : c = separator
    · rw [if_pos here, if_pos (beq_iff_eq.mpr here)]
    · rw [if_neg here, if_neg (by simpa using here)]
      cases found : rest.splitOnP (· == separator) with
      | nil => exact absurd found (List.splitOnP_ne_nil _ rest)
      | cons => rfl

theorem splitChars_append (separator : Char) (front rest : List Char) :
    splitChars separator (front ++ separator :: rest) =
      splitChars separator front ++ splitChars separator rest := by
  simp only [splitChars_eq_splitOn, List.splitOn_append_cons_self]

theorem splitChars_of_not_mem {separator : Char} {chars : List Char} (absent : separator ∉ chars) :
    splitChars separator chars = [chars] := by
  rw [splitChars_eq_splitOn, List.splitOn_eq_singleton absent]

theorem length_splitChars (separator : Char) (chars : List Char) :
    (splitChars separator chars).length = chars.count separator + 1 := by
  induction chars with
  | nil => rfl
  | cons c rest ih =>
    unfold splitChars
    by_cases here : c = separator
    · rw [if_pos here, List.length_cons, ih, here, List.count_cons_self]
    · rw [if_neg here, List.count_cons_of_ne here, ← ih]
      cases found : splitChars separator rest with
      | nil => simp [found] at ih
      | cons => rfl

theorem length_idSegments (id : String) :
    (idSegments id).length = id.toList.count idSeparator + 1 := by
  unfold idSegments
  rw [List.length_map, length_splitChars]

theorem Text.isBlank_iff_trim {text : String} : isBlank text = true ↔ trim text = "" := by
  unfold isBlank trim dropBlankEnd
  rw [List.all_eq_true, String.ofList_eq_empty_iff, List.reverse_eq_nil_iff,
    List.dropWhile_eq_nil_iff]
  constructor
  · intro blank c member
    exact blank c ((List.dropWhile_sublist _).subset (List.mem_reverse.mp member))
  · intro rest c member
    rw [← List.takeWhile_append_dropWhile (p := isBlankChar) (l := text.toList)] at member
    rcases List.mem_append.mp member with front | behind
    · exact List.mem_takeWhile_imp front
    · exact rest c (List.mem_reverse.mpr behind)

/-- A text that can be one part of a key. -/
def Plain (text : String) : Prop := idSeparator ∉ text.toList ∧ Text.isBlank text = false

theorem toList_compositeId (segments : List String) :
    (compositeId segments).toList = [idSeparator].intercalate (segments.map String.toList) := by
  unfold compositeId
  rw [String.toList_intercalate]
  rfl

theorem mem_compositeId {segments : List String} {c : Char}
    (member : c ∈ (compositeId segments).toList) :
    c = idSeparator ∨ ∃ text ∈ segments, c ∈ text.toList := by
  induction segments with
  | nil => cases member
  | cons first rest ih =>
    cases rest with
    | nil =>
      have single : compositeId [first] = first := String.intercalate_singleton
      rw [single] at member
      exact Or.inr ⟨first, by simp, member⟩
    | cons next later =>
      have joined : compositeId (first :: next :: later) =
          first ++ "/" ++ compositeId (next :: later) := String.intercalate_cons_cons
      rw [joined, String.toList_append, String.toList_append, List.mem_append,
        List.mem_append] at member
      rcases member with (inFirst | slash) | inRest
      · exact Or.inr ⟨first, by simp, inFirst⟩
      · exact Or.inl (List.mem_singleton.mp slash)
      · rcases ih inRest with slash | ⟨text, inside, occurs⟩
        · exact Or.inl slash
        · exact Or.inr ⟨text, List.mem_cons_of_mem _ inside, occurs⟩

theorem count_compositeId {segments : List String} (some : segments ≠ []) :
    (compositeId segments).toList.count idSeparator + 1 =
      segments.length + (segments.flatMap String.toList).count idSeparator := by
  induction segments with
  | nil => exact absurd rfl some
  | cons first rest ih =>
    cases rest with
    | nil =>
      simp only [compositeId, String.intercalate_singleton, List.length_singleton,
        List.flatMap_singleton]
      omega
    | cons next later =>
      have counted := ih (List.cons_ne_nil _ _)
      have joined : compositeId (first :: next :: later) =
          first ++ "/" ++ compositeId (next :: later) := String.intercalate_cons_cons
      have slash : "/".toList.count idSeparator = 1 := rfl
      rw [joined, List.flatMap_cons, List.count_append, String.toList_append,
        String.toList_append, List.count_append, List.count_append, List.length_cons]
      omega

theorem idSegments_compositeId {segments : List String} (some : segments ≠ [])
    (plain : ∀ text ∈ segments, idSeparator ∉ text.toList) :
    idSegments (compositeId segments) = segments := by
  have parts : ∀ part ∈ segments.map String.toList, idSeparator ∉ part := by
    intro part member
    obtain ⟨text, inside, rfl⟩ := List.mem_map.mp member
    exact plain text inside
  unfold idSegments
  rw [toList_compositeId, splitChars_eq_splitOn,
    List.splitOn_intercalate _ parts (by simpa using some), List.map_map]
  simp

theorem compositeId_idSegments (text : String) : compositeId (idSegments text) = text := by
  have read : String.toList ∘ String.ofList = id := by
    funext chars
    exact String.toList_ofList
  apply String.toList_injective
  unfold idSegments
  rw [toList_compositeId, List.map_map, read, List.map_id, splitChars_eq_splitOn,
    List.intercalate_splitOn]

theorem idSegments_ne_nil (text : String) : idSegments text ≠ [] := by
  have length := length_idSegments text
  intro none
  rw [none] at length
  cases length

/-- The parts of a text between its slashes: they hold none, and joined by slashes they are the
text. -/
structure SplitsInto (text : String) (parts : List String) : Prop where
  some : parts ≠ []
  unslashed : ∀ part ∈ parts, '/' ∉ part.toList
  joined : "/".intercalate parts = text

theorem splitsInto_iff {text : String} {parts : List String} :
    SplitsInto text parts ↔ parts = idSegments text := by
  constructor
  · rintro ⟨some, unslashed, rfl⟩
    exact (idSegments_compositeId some unslashed).symm
  · rintro rfl
    refine ⟨idSegments_ne_nil text, ?_, compositeId_idSegments text⟩
    intro part member inside
    -- Joining the parts already uses as many slashes as the text has.
    have counted := count_compositeId (idSegments_ne_nil text)
    rw [compositeId_idSegments, length_idSegments] at counted
    have none : ((idSegments text).flatMap String.toList).count idSeparator = 0 := by omega
    exact List.count_eq_zero.mp none (List.mem_flatMap.mpr ⟨part, member, inside⟩)

theorem existsUnique_splitsInto (text : String) : ∃! parts, SplitsInto text parts :=
  ⟨idSegments text, splitsInto_iff.mpr rfl, fun _ splits => splitsInto_iff.mp splits⟩

theorem lookup_zip {names segments : List String} (distinct : names.Nodup)
    (length : segments.length = names.length) {i : Nat} (bound : i < names.length) :
    (names.zip segments).lookup names[i] = segments[i]? := by
  induction names generalizing segments i with
  | nil => cases bound
  | cons name rest ih =>
    cases segments with
    | nil => cases length
    | cons segment others =>
      obtain ⟨fresh, distinctRest⟩ := List.nodup_cons.mp distinct
      cases i with
      | zero => simp
      | succ i =>
        have inRest : i < rest.length := Nat.lt_of_succ_lt_succ bound
        have other : (rest[i] == name) = false := by
          rw [beq_eq_false_iff_ne]
          rintro rfl
          exact fresh (List.getElem_mem inRest)
        rw [List.zip_cons_cons, List.getElem_cons_succ, List.getElem?_cons_succ, List.lookup_cons,
          other]
        exact ih distinctRest (Nat.succ.inj length) inRest

namespace ImportKey

theorem parse_ok_iff {raw : String} {names : List String} {key : ImportKey} :
    parse raw names = .ok key ↔ key.names = names ∧ key.segments = idSegments raw ∧
      (idSegments raw).length = names.length ∧
      ∀ segment ∈ idSegments raw, Text.isBlank segment = false := by
  unfold parse
  simp only
  split
  · next accepted =>
    constructor
    · intro given
      obtain rfl := Except.ok.inj given
      refine ⟨rfl, rfl, accepted.1, ?_⟩
      simpa using accepted.2
    · rintro ⟨rfl, same, _⟩
      cases key
      simp only at same
      subst same
      rfl
  · next refused =>
    constructor
    · intro given
      cases given
    · rintro ⟨_, _, length, none⟩
      exact absurd ⟨length, by simpa using none⟩ refused

/-- A composite identifier with as many parts as a key has names is accepted exactly if each part is
plain, and is read back as its parts. -/
theorem parse_compositeId_ok_iff {segments names : List String} (some : segments ≠ [])
    (length : segments.length = names.length) {key : ImportKey} :
    parse (compositeId segments) names = .ok key ↔
      (∀ text ∈ segments, Plain text) ∧ key.names = names ∧ key.segments = segments := by
  rw [parse_ok_iff]
  constructor
  · rintro ⟨sameNames, sameSegments, sameLength, notBlank⟩
    have unslashed : ∀ text ∈ segments, idSeparator ∉ text.toList := by
      have counted := count_compositeId some
      rw [length_idSegments, ← length] at sameLength
      have none : (segments.flatMap String.toList).count idSeparator = 0 := by omega
      intro text member inside
      exact List.count_eq_zero.mp none (List.mem_flatMap.mpr ⟨text, member, inside⟩)
    rw [idSegments_compositeId some unslashed] at sameSegments notBlank
    exact ⟨fun text member => ⟨unslashed text member, notBlank text member⟩, sameNames,
      sameSegments⟩
  · rintro ⟨plain, sameNames, sameSegments⟩
    rw [idSegments_compositeId some fun text member => (plain text member).1]
    exact ⟨sameNames, sameSegments, length, fun text member => (plain text member).2⟩

/-- A key that is too short for a composite identifier refuses it, whatever its parts are. -/
theorem parse_compositeId_of_lt {segments names : List String} (some : segments ≠ [])
    (short : names.length < segments.length) (key : ImportKey) :
    parse (compositeId segments) names ≠ .ok key := by
  intro parsed
  obtain ⟨_, _, length, _⟩ := parse_ok_iff.mp parsed
  have counted := count_compositeId some
  rw [length_idSegments] at length
  omega

/-- What is accepted: a text with as many parts as there are names, none of them blank. -/
theorem exists_parse_iff {raw : String} {names : List String} :
    (∃ key, parse raw names = .ok key) ↔ ∃ parts, SplitsInto raw parts ∧
      parts.length = names.length ∧ ∀ part ∈ parts, Text.trim part ≠ "" := by
  have visible : ∀ part, Text.trim part ≠ "" ↔ Text.isBlank part = false := by
    intro part
    rw [Ne, ← Text.isBlank_iff_trim, Bool.not_eq_true]
  simp only [visible, splitsInto_iff, exists_eq_left]
  constructor
  · rintro ⟨key, parsed⟩
    exact (parse_ok_iff.mp parsed).2.2
  · rintro ⟨length, notBlank⟩
    exact ⟨⟨names, idSegments raw, length⟩, parse_ok_iff.mpr ⟨rfl, rfl, length, notBlank⟩⟩

theorem getLast?_segments {key : ImportKey} (given : key.segments ≠ []) :
    key.segments.getLast? = some key.leaf := by
  unfold leaf
  rw [List.getLast?_eq_some_getLast given, Option.getD_some]

theorem segment?_getElem {key : ImportKey} (distinct : key.names.Nodup) {i : Nat}
    (bound : i < key.names.length) : key.segment? key.names[i] = key.segments[i]? :=
  lookup_zip distinct key.length_eq bound

theorem segment?_leaf {key : ImportKey} {front : List String} {last : String}
    (names : key.names = front ++ [last]) (distinct : key.names.Nodup) :
    key.segment? last = some key.leaf := by
  have lengths := key.length_eq
  rw [names, List.length_append, List.length_singleton] at lengths
  have bound : front.length < key.names.length := by simp [names]
  have named : key.names[front.length] = last := by simp [names]
  have given : key.segments ≠ [] := List.ne_nil_of_length_eq_add_one lengths
  rw [← named, segment?_getElem distinct bound, ← getLast?_segments given,
    List.getLast?_eq_getElem?, lengths]
  rfl

theorem plain_segment {raw : String} {names : List String} {key : ImportKey}
    (parsed : parse raw names = .ok key) (distinct : names.Nodup) {name : String}
    (member : name ∈ names) : Plain (key.segment name) := by
  obtain ⟨rfl, same, _, notBlank⟩ := parse_ok_iff.mp parsed
  obtain ⟨i, bound, rfl⟩ := List.getElem_of_mem member
  have within : i < key.segments.length := key.length_eq ▸ bound
  have inside : key.segments[i] ∈ idSegments raw := same ▸ List.getElem_mem within
  unfold segment
  rw [segment?_getElem distinct bound, List.getElem?_eq_getElem within, Option.getD_some]
  exact ⟨(splitsInto_iff.mpr rfl).unslashed _ inside, notBlank _ inside⟩

/-- Parsing and joining undo each other. A text is accepted exactly if its parts are as many as the
names and none is blank; the key then has these parts, each under its name and the last one as its
leaf, and joins them to the text again. And whatever is joined from plain parts is accepted and
gives the parts back. -/
theorem parse_inverts_compositeId (raw : String) (names : List String) (given : names ≠ [])
    (distinct : names.Nodup) :
    (∃! parts, SplitsInto raw parts) ∧
    ((∃ key, parse raw names = .ok key) ↔ ∃ parts, SplitsInto raw parts ∧
      parts.length = names.length ∧ ∀ part ∈ parts, Text.trim part ≠ "") ∧
    (∀ key, parse raw names = .ok key →
      SplitsInto raw key.segments ∧ key.segments.length = names.length ∧ key.toId = raw ∧
        compositeId key.segments = raw ∧ key.segments.getLast? = some key.leaf ∧
        ∀ i (bound : i < names.length), key.segment? names[i] = key.segments[i]?) ∧
    ∀ segments : List String, segments.length = names.length →
      (∀ segment ∈ segments, '/' ∉ segment.toList ∧ Text.trim segment ≠ "") →
      ∃ key, parse (compositeId segments) names = .ok key ∧ key.segments = segments := by
  refine ⟨existsUnique_splitsInto raw, exists_parse_iff, ?_, ?_⟩
  · intro key parsed
    obtain ⟨rfl, same, _, _⟩ := parse_ok_iff.mp parsed
    have splits := splitsInto_iff.mpr same
    exact ⟨splits, key.length_eq, splits.joined, splits.joined, getLast?_segments splits.some,
      fun i bound => segment?_getElem distinct bound⟩
  · intro segments length plain
    have some : segments ≠ [] := by
      rintro rfl
      exact given (List.length_eq_zero_iff.mp length.symm)
    have splits : SplitsInto (compositeId segments) segments :=
      ⟨some, fun segment member => (plain segment member).1, rfl⟩
    obtain ⟨key, parsed⟩ := exists_parse_iff.mpr
      ⟨segments, splits, length, fun segment member => (plain segment member).2⟩
    exact ⟨key, parsed, (parse_ok_iff.mp parsed).2.1.trans (splitsInto_iff.mp splits).symm⟩

/-- The key of a pool keeps the blanks around a part; a part of nothing else is refused. -/
theorem parse_inverts_compositeId_padded :
    let names := ["environment_id", "compute_pool_id"]
    names ≠ [] ∧ names.Nodup ∧
      (∃ key, parse " env 1/cp-\u00e9 " names = .ok key ∧ key.toId = " env 1/cp-\u00e9 " ∧
        key.segment? "environment_id" = some " env 1" ∧
        key.segment? "compute_pool_id" = some "cp-\u00e9 ") ∧
      ¬∃ key, parse "env-1/\u3000" names = .ok key := by
  intro names
  have given : names ≠ [] := by simp [names]
  have distinct : names.Nodup := by decide
  refine ⟨given, distinct, ?_, ?_⟩
  · obtain ⟨_, _, read, joined⟩ :=
      parse_inverts_compositeId " env 1/cp-\u00e9 " names given distinct
    obtain ⟨key, parsed, segments⟩ := joined [" env 1", "cp-\u00e9 "] rfl (by decide)
    obtain ⟨_, _, same, _, _, named⟩ := read key parsed
    refine ⟨key, parsed, same, ?_, ?_⟩
    · have first := named 0 (by decide)
      rw [segments] at first
      exact first
    · have second := named 1 (by decide)
      rw [segments] at second
      exact second
  · rw [(parse_inverts_compositeId "env-1/\u3000" names given distinct).2.1]
    rintro ⟨parts, splits, _, visible⟩
    obtain rfl := splitsInto_iff.mp splits
    exact visible "\u3000" (by decide) (by decide)

end ImportKey

end Provisioner

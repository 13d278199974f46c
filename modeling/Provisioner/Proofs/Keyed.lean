import Provisioner.Keyed

/-!
# Lists in key order as maps

A list in key order is determined by what it has under each key. So inserting what is there already
changes nothing, and entries that are in order stay as they are when they are put in order.
-/

namespace Provisioner.Keyed

set_option autoImplicit false

variable {α : Type} {entries : List (String × α)}

theorem sorted_of_keys (keys : List String) (same : entries.map Prod.fst = keys)
    (ordered : keys.Pairwise (· < ·)) : Sorted entries := by
  rw [← same] at ordered
  exact List.pairwise_map.mp ordered

theorem nodup_keys (sorted : Sorted entries) : (entries.map Prod.fst).Nodup :=
  List.pairwise_map.mpr (sorted.imp fun below => String.ne_of_lt below)

theorem lookup_eq_none_iff {key : String} :
    entries.lookup key = none ↔ key ∉ entries.map Prod.fst := by
  rw [List.lookup_eq_none_iff, List.mem_map]
  constructor
  · rintro none ⟨entry, member, rfl⟩
    simpa using none entry member
  · intro absent entry member
    rw [bne_iff_ne]
    exact fun same => absent ⟨entry, member, same.symm⟩

theorem lookup_cons_of_ne {key name : String} (other : name ≠ key) (value : α) :
    ((key, value) :: entries).lookup name = entries.lookup name := by
  rw [List.lookup_cons, beq_false_of_ne other]

theorem lookup_tail_self {key : String} {value : α} {rest : List (String × α)}
    (sorted : Sorted ((key, value) :: rest)) : rest.lookup key = none := by
  rw [List.lookup_eq_none_iff]
  intro entry member
  have less := (List.pairwise_cons.mp sorted).1 entry member
  rw [bne_iff_ne]
  intro same
  rw [← same] at less
  exact String.lt_irrefl _ less

theorem mem_of_lookup {key : String} {value : α} (found : entries.lookup key = some value) :
    (key, value) ∈ entries := by
  induction entries with
  | nil => cases found
  | cons head rest ih =>
    obtain ⟨k, v⟩ := head
    rw [List.lookup_cons] at found
    by_cases here : key = k
    · subst here
      rw [beq_self_eq_true] at found
      cases found
      exact List.mem_cons_self
    · rw [beq_false_of_ne here] at found
      exact List.mem_cons_of_mem _ (ih found)

theorem lookup_of_mem {key : String} {value : α} (sorted : Sorted entries)
    (member : (key, value) ∈ entries) : entries.lookup key = some value := by
  induction entries with
  | nil => cases member
  | cons head rest ih =>
    obtain ⟨k, v⟩ := head
    obtain ⟨below, later⟩ := List.pairwise_cons.mp sorted
    rcases List.mem_cons.mp member with here | there
    · cases here
      rw [List.lookup_cons, beq_self_eq_true]
    · rw [List.lookup_cons, beq_false_of_ne (String.ne_of_lt (below _ there)).symm]
      exact ih later there

theorem eq_of_lookup_eq {left right : List (String × α)} (sortedLeft : Sorted left)
    (sortedRight : Sorted right) (same : ∀ key, left.lookup key = right.lookup key) :
    left = right := by
  induction left generalizing right with
  | nil =>
    cases right with
    | nil => rfl
    | cons head rest =>
      have impossible := same head.1
      rw [List.lookup_cons, beq_self_eq_true] at impossible
      cases impossible
  | cons head rest ih =>
    obtain ⟨key, value⟩ := head
    cases right with
    | nil =>
      have impossible := same key
      rw [List.lookup_cons, beq_self_eq_true] at impossible
      cases impossible
    | cons other later =>
      obtain ⟨key', value'⟩ := other
      have keys : key = key' := by
        apply Classical.byContradiction
        intro different
        have found : later.lookup key = some value := by
          have there := same key
          rw [List.lookup_cons, List.lookup_cons, beq_self_eq_true, beq_false_of_ne different]
            at there
          exact there.symm
        have foundOther : rest.lookup key' = some value' := by
          have here := same key'
          rw [List.lookup_cons, List.lookup_cons, beq_self_eq_true,
            beq_false_of_ne (Ne.symm different)] at here
          exact here
        have less : key' < key := (List.pairwise_cons.mp sortedRight).1 _ (mem_of_lookup found)
        have greater : key < key' :=
          (List.pairwise_cons.mp sortedLeft).1 _ (mem_of_lookup foundOther)
        exact String.lt_irrefl _ (String.lt_trans less greater)
      subst keys
      have values : value = value' := by
        have here := same key
        rw [List.lookup_cons, List.lookup_cons, beq_self_eq_true] at here
        exact Option.some.inj here
      subst values
      have rests : rest = later := by
        apply ih (List.pairwise_cons.mp sortedLeft).2 (List.pairwise_cons.mp sortedRight).2
        intro query
        by_cases here : query = key
        · rw [here, lookup_tail_self sortedLeft, lookup_tail_self sortedRight]
        · have there := same query
          rw [List.lookup_cons, List.lookup_cons, beq_false_of_ne here] at there
          exact there
      rw [rests]

theorem insert_of_lookup {key : String} {value : α} (sorted : Sorted entries)
    (found : entries.lookup key = some value) : insert key value entries = entries := by
  apply eq_of_lookup_eq (sorted_insert key value sorted) sorted
  intro query
  by_cases here : query = key
  · rw [here, lookup_insert_self, found]
  · rw [lookup_insert_of_ne value here]

theorem lookup_foldl_insert (sorted : Sorted entries) (kept : List (String × α)) (key : String) :
    (entries.foldl (fun kept entry => insert entry.1 entry.2 kept) kept).lookup key =
      (entries.lookup key).or (kept.lookup key) := by
  -- By induction on the entries left: what is kept so far is found below them.
  induction entries generalizing kept with
  | nil => rfl
  | cons head rest ih =>
    obtain ⟨k, v⟩ := head
    rw [List.foldl_cons, ih (List.pairwise_cons.mp sorted).2, List.lookup_cons]
    by_cases here : key = k
    · subst here
      rw [lookup_tail_self sorted, lookup_insert_self, beq_self_eq_true]
      rfl
    · rw [lookup_insert_of_ne v here, beq_false_of_ne here]

theorem ofList_of_sorted (sorted : Sorted entries) : ofList entries = entries := by
  apply eq_of_lookup_eq (sorted_ofList entries) sorted
  intro key
  unfold ofList
  rw [lookup_foldl_insert sorted]
  exact Option.or_none

/-- A key stands in one entry at most, so that entry alone decides whether the key is left. -/
theorem lookup_filter (sorted : Sorted entries) (keep : String → α → Bool) (key : String) :
    (entries.filter fun entry => keep entry.1 entry.2).lookup key =
      (entries.lookup key).filter (keep key) := by
  induction entries with
  | nil => rfl
  | cons head rest ih =>
    obtain ⟨k, v⟩ := head
    have later := ih (List.pairwise_cons.mp sorted).2
    by_cases here : key = k
    · subst here
      rw [lookup_tail_self sorted] at later
      rw [List.lookup_cons, beq_self_eq_true]
      cases kept : keep key v with
      | true => simp [kept, Option.filter]
      | false =>
        rw [List.filter_cons_of_neg (by simp [kept]), later]
        simp [kept, Option.filter]
    · rw [List.lookup_cons, beq_false_of_ne here, ← later]
      cases kept : keep k v with
      | true => simp [kept, List.lookup_cons, beq_false_of_ne here]
      | false => simp [kept]

theorem mem_of_mem_erase {key : String} {entry : String × α} (member : entry ∈ erase key entries) :
    entry ∈ entries := by
  induction entries with
  | nil => cases member
  | cons head rest ih =>
    unfold erase at member
    split at member
    · exact List.mem_cons_of_mem _ member
    · rcases List.mem_cons.mp member with here | later
      · exact here ▸ List.mem_cons_self
      · exact List.mem_cons_of_mem _ (ih later)

theorem sorted_erase (key : String) (sorted : Sorted entries) : Sorted (erase key entries) := by
  induction entries with
  | nil => exact sorted
  | cons head rest ih =>
    obtain ⟨below, later⟩ := List.pairwise_cons.mp sorted
    unfold erase
    split
    · exact later
    · exact List.pairwise_cons.mpr
        ⟨fun entry member => below entry (mem_of_mem_erase member), ih later⟩

/-- Keys occur once, so that no later entry comes to light. -/
theorem lookup_erase_self (key : String) (sorted : Sorted entries) :
    (erase key entries).lookup key = none := by
  induction entries with
  | nil => rfl
  | cons head rest ih =>
    obtain ⟨k, v⟩ := head
    simp only [erase]
    split
    · next here =>
      subst here
      exact lookup_tail_self sorted
    · next other =>
      rw [List.lookup_cons, beq_false_of_ne other]
      exact ih (List.pairwise_cons.mp sorted).2

theorem lookup_erase_of_ne {key other : String} (ne : other ≠ key) :
    (erase key entries).lookup other = entries.lookup other := by
  induction entries with
  | nil => rfl
  | cons head rest ih =>
    obtain ⟨k, v⟩ := head
    simp only [erase]
    split
    · next here =>
      subst here
      rw [List.lookup_cons, beq_false_of_ne ne]
    · rw [List.lookup_cons, List.lookup_cons, ih]

end Provisioner.Keyed

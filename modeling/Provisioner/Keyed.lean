/-!
# Lists in key order

Objects, schemas and configuration maps are lists of entries whose keys increase strictly in code
point order. Inserting under a key that is present replaces its value, so keys stay distinct, and
two sorted lists with the same entries are the same list.
-/

namespace Provisioner.Keyed

set_option autoImplicit false

def Sorted {α : Type} (entries : List (String × α)) : Prop :=
  entries.Pairwise fun a b => a.1 < b.1

def insert {α : Type} (key : String) (value : α) : List (String × α) → List (String × α)
  | [] => [(key, value)]
  | (k, v) :: rest =>
    if key < k then (key, value) :: (k, v) :: rest
    else if key = k then (key, value) :: rest
    else (k, v) :: insert key value rest

def erase {α : Type} (key : String) : List (String × α) → List (String × α)
  | [] => []
  | (k, v) :: rest => if key = k then rest else (k, v) :: erase key rest

/-- Entries in any order; of two with the same key the later one stays. -/
def ofList {α : Type} (entries : List (String × α)) : List (String × α) :=
  entries.foldl (fun kept entry => insert entry.1 entry.2 kept) []

theorem lt_of_not_lt_of_ne {a b : String} (notLess : ¬a < b) (ne : a ≠ b) : b < a := by
  rcases Decidable.em (b < a) with less | notGreater
  · exact less
  · exact absurd (String.le_antisymm (String.not_lt.mp notGreater) (String.not_lt.mp notLess)) ne

theorem key_mem_insert {α : Type} {key k : String} {value : α} {entries : List (String × α)}
    (mem : k ∈ (insert key value entries).map Prod.fst) :
    k = key ∨ k ∈ entries.map Prod.fst := by
  induction entries with
  | nil => simpa [insert] using mem
  | cons head rest ih =>
    obtain ⟨h, v⟩ := head
    simp only [insert] at mem
    split at mem
    · simpa using mem
    · split at mem
      · next same => subst same; simpa using mem
      · simp only [List.map_cons, List.mem_cons] at mem ⊢
        rcases mem with first | later
        · exact Or.inr (Or.inl first)
        · rcases ih later with new | old
          · exact Or.inl new
          · exact Or.inr (Or.inr old)

theorem sorted_insert {α : Type} (key : String) (value : α) {entries : List (String × α)}
    (sorted : Sorted entries) : Sorted (insert key value entries) := by
  induction entries with
  | nil => simp [insert, Sorted]
  | cons head rest ih =>
    obtain ⟨k, v⟩ := head
    have above := (List.pairwise_cons.mp sorted).1
    have tail := (List.pairwise_cons.mp sorted).2
    simp only [insert]
    split
    · next less =>
      refine List.pairwise_cons.mpr ⟨?_, sorted⟩
      intro entry mem
      rcases List.mem_cons.mp mem with rfl | later
      · exact less
      · exact String.lt_trans less (above entry later)
    · split
      · next same =>
        subst same
        exact List.pairwise_cons.mpr ⟨above, tail⟩
      · next notLess ne =>
        refine List.pairwise_cons.mpr ⟨?_, ih tail⟩
        intro entry mem
        rcases key_mem_insert (List.mem_map_of_mem mem) with new | old
        · show k < entry.1
          rw [new]
          exact lt_of_not_lt_of_ne notLess ne
        · obtain ⟨other, otherMem, otherKey⟩ := List.mem_map.mp old
          show k < entry.1
          rw [← otherKey]
          exact above other otherMem

theorem sorted_ofList {α : Type} (entries : List (String × α)) : Sorted (ofList entries) := by
  suffices general : ∀ (kept : List (String × α)), Sorted kept →
      Sorted (entries.foldl (fun kept entry => insert entry.1 entry.2 kept) kept) by
    exact general [] List.Pairwise.nil
  induction entries with
  | nil => intro kept sorted; exact sorted
  | cons head rest ih => intro kept sorted; exact ih _ (sorted_insert _ _ sorted)

theorem lookup_insert_self {α : Type} (key : String) (value : α) (entries : List (String × α)) :
    (insert key value entries).lookup key = some value := by
  induction entries with
  | nil => simp [insert]
  | cons head rest ih =>
    obtain ⟨k, v⟩ := head
    simp only [insert]
    split
    · simp
    · split
      · simp
      · next ne => simp [List.lookup_cons, beq_false_of_ne ne, ih]

theorem lookup_insert_of_ne {α : Type} {key other : String} (value : α) (ne : other ≠ key)
    (entries : List (String × α)) :
    (insert key value entries).lookup other = entries.lookup other := by
  induction entries with
  | nil => simp [insert, List.lookup_cons, beq_false_of_ne ne]
  | cons head rest ih =>
    obtain ⟨k, v⟩ := head
    simp only [insert]
    split
    · simp [List.lookup_cons, beq_false_of_ne ne]
    · split
      · next same => subst same; simp [List.lookup_cons, beq_false_of_ne ne]
      · simp only [List.lookup_cons, ih]

end Provisioner.Keyed

import Provisioner.Proofs.Keyed
import Provisioner.Settings

/-!
# Settings as maps

Settings are determined by what they have under each name. What filtered, joined or listed settings
have under a name follows from what their parts have there: of a list the last entry counts, and of
two maps the second one.
-/

namespace Provisioner

set_option autoImplicit false

namespace Keyed

variable {α : Type} {entries : List (String × α)}

theorem lookup_foldl_insert_last (entries kept : List (String × α)) (key : String) :
    (entries.foldl (fun kept entry => insert entry.1 entry.2 kept) kept).lookup key =
      ((entries.filter fun entry => entry.1 == key).getLast?.map Prod.snd).or
        (kept.lookup key) := by
  -- By induction on the entries left: the last one with the key counts, and what is kept so far is
  -- found below it.
  induction entries generalizing kept with
  | nil => rfl
  | cons head rest ih =>
    obtain ⟨k, v⟩ := head
    rw [List.foldl_cons, ih]
    by_cases here : k = key
    · subst here
      rw [lookup_insert_self, List.filter_cons_of_pos (by simp), List.getLast?_cons]
      cases (rest.filter fun entry => entry.1 == k).getLast? <;> rfl
    · rw [lookup_insert_of_ne v (Ne.symm here), List.filter_cons_of_neg (by simpa using here)]

theorem lookup_ofList (entries : List (String × α)) (key : String) :
    (ofList entries).lookup key =
      (entries.filter fun entry => entry.1 == key).getLast?.map Prod.snd := by
  unfold ofList
  rw [lookup_foldl_insert_last]
  exact Option.or_none

end Keyed

namespace Settings

theorem ext_get? {s t : Settings} (same : ∀ name, s.get? name = t.get? name) : s = t :=
  eq_of_entries_eq (Keyed.eq_of_lookup_eq s.sorted t.sorted same)

theorem eq_iff_get? {s t : Settings} : s = t ↔ ∀ name, s.get? name = t.get? name :=
  ⟨fun same name => by rw [same], ext_get?⟩

@[simp] theorem get?_empty (name : String) : empty.get? name = none := rfl

@[simp] theorem get?_filter (s : Settings) (keep : String → String → Bool) (name : String) :
    (s.filter keep).get? name = (s.get? name).filter (keep name) :=
  Keyed.lookup_filter s.sorted keep name

theorem get?_insert (s : Settings) (name value key : String) :
    (s.insert name value).get? key = if key = name then some value else s.get? key := by
  by_cases here : key = name
  · subst here
    rw [if_pos rfl]
    exact Keyed.lookup_insert_self key value s.entries
  · rw [if_neg here]
    exact Keyed.lookup_insert_of_ne value here s.entries

theorem get?_of_mem {s : Settings} {name value : String} (member : (name, value) ∈ s.entries) :
    s.get? name = some value := Keyed.lookup_of_mem s.sorted member

theorem get?_ofList (entries : List (String × String)) (name : String) :
    (ofList entries).get? name =
      (entries.filter fun entry => entry.1 == name).getLast?.map Prod.snd :=
  Keyed.lookup_ofList entries name

theorem entries_foldl_insert (added : List (String × String)) (s : Settings) :
    (added.foldl (fun all entry => all.insert entry.1 entry.2) s).entries =
      added.foldl (fun kept entry => Keyed.insert entry.1 entry.2 kept) s.entries := by
  induction added generalizing s with
  | nil => rfl
  | cons head rest ih => exact ih _

@[simp] theorem get?_union (s t : Settings) (name : String) :
    (s.union t).get? name = (t.get? name).or (s.get? name) := by
  unfold get? union
  rw [entries_foldl_insert]
  exact Keyed.lookup_foldl_insert t.sorted s.entries name

theorem contains_eq_true_iff {s : Settings} {name : String} :
    s.contains name = true ↔ ∃ value, s.get? name = some value := Option.isSome_iff_exists

theorem filter_eq_filter_iff {s : Settings} {keep keep' : String → String → Bool} :
    s.filter keep = s.filter keep' ↔
      ∀ name value, s.get? name = some value → keep name value = keep' name value := by
  rw [eq_iff_get?]
  constructor
  · intro same name value found
    have here := same name
    rw [get?_filter, get?_filter, found] at here
    cases kept : keep name value <;> cases kept' : keep' name value <;>
      simp_all [Option.filter]
  · intro same name
    rw [get?_filter, get?_filter]
    cases found : s.get? name with
    | none => rfl
    | some value => simp [Option.filter, same name value found]

theorem contains_filter (s : Settings) (keep : String → Bool) (name : String) :
    (s.filter fun name _ => keep name).contains name = (keep name && s.contains name) := by
  unfold contains
  rw [get?_filter]
  cases s.get? name with
  | none => simp
  | some value => cases kept : keep name <;> simp [Option.filter]

theorem isEmpty_iff {s : Settings} : s.isEmpty = true ↔ ∀ name, s.contains name = false := by
  constructor
  · intro none name
    unfold contains get?
    rw [List.isEmpty_iff.mp none]
    rfl
  · intro absent
    have same : s = empty := ext_get? fun name => by simpa [contains] using absent name
    rw [same]
    rfl

end Settings

/-- A setting in a written state, under the name of the map that holds it. -/
def Json.setting? (state : Json) (map name : String) : Option Json :=
  (state.get? map).bind fun settings => settings.get? name

end Provisioner

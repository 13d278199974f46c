import Provisioner.Json.Basic

/-!
# Settings

A map from names to texts, as topics and connectors are configured with. The entries are in key
order with distinct keys, so equal maps are equal values.
-/

namespace Provisioner

set_option autoImplicit false

structure Settings where
  entries : List (String × String)
  sorted : Keyed.Sorted entries

namespace Settings

theorem eq_of_entries_eq {a b : Settings} (same : a.entries = b.entries) : a = b := by
  cases a; cases b; simp_all

instance : DecidableEq Settings := fun a b =>
  if same : a.entries = b.entries then isTrue (eq_of_entries_eq same)
  else isFalse fun eq => same (congrArg entries eq)

def empty : Settings := ⟨[], List.Pairwise.nil⟩

def isEmpty (s : Settings) : Bool := s.entries.isEmpty

def get? (s : Settings) (name : String) : Option String := s.entries.lookup name

def contains (s : Settings) (name : String) : Bool := (s.get? name).isSome

def names (s : Settings) : List String := s.entries.map Prod.fst

def insert (s : Settings) (name value : String) : Settings :=
  ⟨Keyed.insert name value s.entries, Keyed.sorted_insert name value s.sorted⟩

def ofList (entries : List (String × String)) : Settings :=
  ⟨Keyed.ofList entries, Keyed.sorted_ofList entries⟩

/-- Both maps together; where they share a name the second one's value counts. -/
def union (s t : Settings) : Settings :=
  t.entries.foldl (fun all entry => all.insert entry.1 entry.2) s

def filter (s : Settings) (keep : String → String → Bool) : Settings :=
  ⟨s.entries.filter fun entry => keep entry.1 entry.2, s.sorted.filter _⟩

def encode (s : Settings) : Json := .obj (s.entries.map fun entry => (entry.1, .str entry.2))

end Settings

end Provisioner

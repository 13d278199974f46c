import Mathlib.Data.List.Perm.Subperm
import Provisioner.Proofs.Kinds.Deliveries

/-!
# Alterations as the least patch

A change of a topic's settings is sent as a list of entries, each of which sets one setting or takes
one back. Carried out one after the other they lead from the prior settings to the desired ones;
none of them could be left out, and no other list of entries that leads there is shorter.
-/

namespace Provisioner.KafkaTopic

set_option autoImplicit false

/-- The setting that an entry is about. -/
def settingOf (entry : Json) : Option String := (entry.get? "name").bind Json.str?

/-- What a cluster makes of an entry: with a value it sets the setting, and with the operation
`DELETE` it takes the setting back. Any other entry changes nothing. -/
def carryOut (settings : Settings) (entry : Json) : Settings :=
  match settingOf entry, (entry.get? "value").bind Json.str?,
    (entry.get? "operation").bind Json.str? with
  | some name, some value, _ => settings.insert name value
  | some name, none, some "DELETE" => settings.filter fun other _ => other != name
  | _, _, _ => settings

/-- The entries that are sent for a change of settings. -/
def entriesBetween (prior desired : Settings) : List Json :=
  (Alteration.between prior desired).map Alteration.encode

/-- An entry either sets a value or takes the setting back. -/
def SetsOrDeletes (entry : Json) : Prop :=
  (∃ value, entry.get? "value" = some (.str value)) ∧ entry.get? "operation" = none ∨
    entry.get? "value" = none ∧ entry.get? "operation" = some (.str "DELETE")

theorem settingOf_encode (alteration : Alteration) :
    settingOf alteration.encode = some alteration.name := by
  cases alteration <;> rfl

theorem carryOut_encode (settings : Settings) (alteration : Alteration) :
    carryOut settings alteration.encode = Alteration.apply settings alteration := by
  cases alteration <;> rfl

theorem setsOrDeletes_encode (alteration : Alteration) : SetsOrDeletes alteration.encode := by
  cases alteration with
  | set name value => exact Or.inl ⟨⟨value, rfl⟩, rfl⟩
  | reset name => exact Or.inr ⟨rfl, rfl⟩

theorem get?_carryOut_of_ne {entry : Json} {key : String} (other : settingOf entry ≠ some key)
    (settings : Settings) : (carryOut settings entry).get? key = settings.get? key := by
  unfold carryOut
  cases named : settingOf entry with
  | none => rfl
  | some name =>
    have different : key ≠ name := fun same => other (named.trans (congrArg some same.symm))
    split
    · rename_i about _
      cases about
      rw [Settings.get?_insert, if_neg different]
    · rename_i about _ _
      cases about
      rw [Settings.get?_filter]
      cases settings.get? key <;> simp [Option.filter, different]
    · rfl

theorem get?_foldl_carryOut_of_not_mem {patch : List Json} {key : String}
    (unnamed : key ∉ patch.filterMap settingOf) (settings : Settings) :
    (patch.foldl carryOut settings).get? key = settings.get? key := by
  induction patch generalizing settings with
  | nil => rfl
  | cons entry rest ih =>
    rw [List.mem_filterMap] at unnamed
    have later : key ∉ rest.filterMap settingOf := by
      intro member
      obtain ⟨entry, inside, named⟩ := List.mem_filterMap.mp member
      exact unnamed ⟨entry, List.mem_cons_of_mem _ inside, named⟩
    rw [List.foldl_cons, ih later]
    exact get?_carryOut_of_ne (fun named => unnamed ⟨entry, List.mem_cons_self, named⟩) settings

namespace Alteration

/-- What is set is desired and what is reset is not, so that no name occurs among both. -/
theorem nodup_names_between (prior desired : Settings) :
    ((between prior desired).map name).Nodup := by
  have sets (settings : Settings) :
      (settings.entries.map fun entry => set entry.1 entry.2).map name = settings.names :=
    List.map_map
  have resets (settings : Settings) : (settings.names.map reset).map name = settings.names :=
    List.map_map.trans (List.map_id _)
  unfold between
  rw [List.map_append, sets, resets, List.nodup_append]
  refine ⟨Keyed.nodup_keys (Settings.sorted _), Keyed.nodup_keys (Settings.sorted _), ?_⟩
  intro key inSets other inResets
  obtain ⟨⟨_, value⟩, kept, rfl⟩ := List.mem_map.mp inSets
  obtain ⟨⟨_, _⟩, dropped, rfl⟩ := List.mem_map.mp inResets
  rintro rfl
  have wanted := Settings.get?_of_mem (List.mem_filter.mp kept).1
  have unwanted := (List.mem_filter.mp dropped).2
  simp [Settings.contains, wanted] at unwanted

/-- A patch that leads to the desired settings names every setting in which they differ. -/
theorem names_between_subset {prior desired : Settings} {patch : List Json}
    (leads : patch.foldl carryOut prior = desired) :
    (between prior desired).map name ⊆ patch.filterMap settingOf := by
  intro key member
  obtain ⟨alteration, between, rfl⟩ := List.mem_map.mp member
  apply Decidable.byContradiction
  intro unnamed
  have kept := get?_foldl_carryOut_of_not_mem unnamed prior
  rw [leads] at kept
  exact (value?_of_mem_between between).2 kept.symm

end Alteration

theorem length_entriesBetween_le {prior desired : Settings} {patch : List Json}
    (leads : patch.foldl carryOut prior = desired) :
    (entriesBetween prior desired).length ≤ patch.length := by
  have named := (List.subperm_of_subset (Alteration.nodup_names_between prior desired)
    (Alteration.names_between_subset leads)).length_le
  calc
    (entriesBetween prior desired).length = ((Alteration.between prior desired).map _).length := by
      rw [entriesBetween, List.length_map, List.length_map]
    _ ≤ (patch.filterMap settingOf).length := named
    _ ≤ patch.length := List.length_filterMap_le _ _

theorem foldl_entriesBetween (prior desired : Settings) :
    (entriesBetween prior desired).foldl carryOut prior = desired := by
  rw [entriesBetween, List.foldl_map]
  simp only [carryOut_encode]
  exact Alteration.foldl_between prior desired

theorem nodup_settings_entriesBetween (prior desired : Settings) :
    ((entriesBetween prior desired).map settingOf).Nodup := by
  have named : (entriesBetween prior desired).map settingOf =
      ((Alteration.between prior desired).map Alteration.name).map some := by
    rw [entriesBetween, List.map_map, List.map_map]
    exact List.map_congr_left fun alteration _ => settingOf_encode alteration
  rw [named]
  exact List.pairwise_map.mpr ((Alteration.nodup_names_between prior desired).imp
    fun different same => different (Option.some.inj same))

theorem changes_of_mem_entriesBetween {prior desired : Settings} {entry : Json}
    (sent : entry ∈ entriesBetween prior desired) : ∃ name, settingOf entry = some name ∧
      (carryOut prior entry).get? name ≠ prior.get? name := by
  obtain ⟨alteration, between, rfl⟩ := List.mem_map.mp sent
  refine ⟨alteration.name, settingOf_encode alteration, ?_⟩
  obtain ⟨value, differs⟩ := Alteration.value?_of_mem_between between
  rw [carryOut_encode, Alteration.get?_apply, if_pos rfl, value]
  exact differs.symm

/-- What is sent for a change of settings leads from the prior ones to the desired ones. No setting
has two entries, every entry changes its setting, and no shorter list leads there; so nothing is
sent exactly if nothing changes. -/
theorem alterations_least_patch (prior desired : Settings) :
    (entriesBetween prior desired).foldl carryOut prior = desired ∧
    ((entriesBetween prior desired).map settingOf).Nodup ∧
    (∀ entry ∈ entriesBetween prior desired, SetsOrDeletes entry ∧
      ∃ name, settingOf entry = some name ∧ (carryOut prior entry).get? name ≠ prior.get? name) ∧
    (entriesBetween prior desired = [] ↔ prior = desired) ∧
    ∀ patch : List Json, patch.foldl carryOut prior = desired →
      (entriesBetween prior desired).length ≤ patch.length := by
  refine ⟨foldl_entriesBetween prior desired, nodup_settings_entriesBetween prior desired, ?_, ?_,
    fun patch => length_entriesBetween_le⟩
  · intro entry sent
    refine ⟨?_, changes_of_mem_entriesBetween sent⟩
    obtain ⟨alteration, _, rfl⟩ := List.mem_map.mp sent
    exact setsOrDeletes_encode alteration
  · constructor
    · intro none
      have leads := foldl_entriesBetween prior desired
      rwa [none] at leads
    · rintro rfl
      have shortest := @length_entriesBetween_le prior prior [] rfl
      exact List.length_eq_zero_iff.mp (Nat.le_zero.mp shortest)

def settingsBefore : Settings := .ofList [("changed", "1"), ("dropped", "1"), ("kept", "1")]

def settingsAfter : Settings := .ofList [("added", "2"), ("changed", "2"), ("kept", "1")]

/-- The one leads to the other in more steps than are needed. -/
def detour : List Json :=
  [Alteration.reset "kept", .reset "dropped", .set "changed" "2", .set "added" "2",
    .set "kept" "1"].map Alteration.encode

/-- A change that keeps one setting, changes one, drops one and adds one. -/
theorem alterations_least_patch_detour :
    (Alteration.reset "dropped").encode ∈ entriesBetween settingsBefore settingsAfter ∧
      detour.foldl carryOut settingsBefore = settingsAfter ∧
      (entriesBetween settingsBefore settingsAfter).foldl carryOut settingsBefore =
        settingsAfter ∧
      ((entriesBetween settingsBefore settingsAfter).map settingOf).Nodup ∧
      (SetsOrDeletes (Alteration.reset "dropped").encode ∧
        ∃ name, settingOf (Alteration.reset "dropped").encode = some name ∧
          (carryOut settingsBefore (Alteration.reset "dropped").encode).get? name ≠
            settingsBefore.get? name) ∧
      (entriesBetween settingsBefore settingsAfter).length ≤ detour.length ∧
      entriesBetween settingsBefore settingsAfter =
        [.obj [("name", .str "added"), ("value", .str "2")],
          .obj [("name", .str "changed"), ("value", .str "2")],
          .obj [("name", .str "dropped"), ("operation", .str "DELETE")]] := by
  have leads : detour.foldl carryOut settingsBefore = settingsAfter := by decide
  have sent : (Alteration.reset "dropped").encode ∈
      entriesBetween settingsBefore settingsAfter :=
    List.mem_cons_of_mem _ (List.mem_cons_of_mem _ List.mem_cons_self)
  obtain ⟨reaches, once, each, _, least⟩ :=
    alterations_least_patch settingsBefore settingsAfter
  exact ⟨sent, leads, reaches, once, each _ sent, least detour leads, rfl⟩

end Provisioner.KafkaTopic

import Provisioner.Kinds.KafkaTopic
import Provisioner.Proofs.Settings

/-!
# The settings of a topic

A cluster reports the settings of a topic one by one, and of several reports of one setting the last
one counts. Where that report withholds the value, the state takes the known one; where nothing is
known, or the value is told, the state holds the last value that was told.
-/

namespace Provisioner.KafkaTopic

set_option autoImplicit false

namespace Remote

/-- What the cluster reports of a setting that was made on the topic itself. -/
def reports (remote : Remote) (name : String) : List ReportedSetting :=
  remote.settings.filter fun report => report.name == name && report.isOwn

/-- The last value that the cluster tells of a setting. -/
def told? (remote : Remote) (name : String) : Option String :=
  ((remote.reports name).filterMap ReportedSetting.value).getLast?

/-- The last report of a setting leaves its value out. -/
def Withholds (remote : Remote) (name : String) : Prop :=
  ∃ report, (remote.reports name).getLast? = some report ∧ report.value = none

/-- The only report of a setting leaves its value out. -/
def OnlyWithholds (remote : Remote) (name : String) : Prop :=
  ∃ report, remote.reports name = [report] ∧ report.value = none

theorem OnlyWithholds.told {remote : Remote} {name : String}
    (only : remote.OnlyWithholds name) : remote.told? name = none := by
  obtain ⟨report, alone, withheld⟩ := only
  unfold told?
  rw [alone]
  simp [withheld]

end Remote

namespace State

theorem entries_of_reports (known : Settings) (name : String) (settings : List ReportedSetting) :
    ((settings.filterMap (ReportedSetting.entry? known)).filter fun entry =>
        entry.1 == name).map Prod.snd =
      (settings.filter fun report => report.name == name).filterMap fun report =>
        report.value.or (known.get? name) := by
  induction settings with
  | nil => rfl
  | cons report rest ih =>
    by_cases here : report.name = name
    · subst here
      rw [List.filter_cons_of_pos (by simp), List.filterMap_cons, List.filterMap_cons]
      unfold ReportedSetting.entry? at ih ⊢
      cases report.value.or (known.get? report.name) with
      | none => exact ih
      | some value => simpa using ih
    · rw [List.filter_cons_of_neg (by simpa using here), List.filterMap_cons, ← ih]
      unfold ReportedSetting.entry?
      cases report.value.or (known.get? report.name) with
      | none => rfl
      | some value => simp [here]

/-- A setting of a state: the last value that is reported, or that was known where it is withheld.
-/
theorem get?_ofRemote (remote : Remote) (prior : State) (name : String) :
    (ofRemote remote prior).config.get? name =
      ((remote.reports name).filterMap fun report =>
        report.value.or (prior.config.get? name)).getLast? := by
  show (Settings.ofList _).get? name = _
  rw [Settings.get?_ofList, ← List.getLast?_map, entries_of_reports, List.filter_filter]
  rfl

theorem get?_of_unknown {remote : Remote} {prior : State} {name : String}
    (unknown : prior.config.get? name = none) :
    (ofRemote remote prior).config.get? name = remote.told? name := by
  rw [get?_ofRemote, unknown]
  simp only [Option.or_none]
  rfl

theorem get?_of_known {remote : Remote} {prior : State} {name value : String}
    (known : prior.config.get? name = some value) :
    (ofRemote remote prior).config.get? name =
      (remote.reports name).getLast?.map fun report => report.value.getD value := by
  rw [get?_ofRemote, known, ← List.getLast?_map, ← List.filterMap_eq_map]
  congr 2
  funext report
  simp only [Function.comp_apply]
  cases report.value <;> rfl

theorem get?_of_withheld {remote : Remote} {prior : State} {name value : String}
    (known : prior.config.get? name = some value) (withheld : remote.Withholds name) :
    (ofRemote remote prior).config.get? name = some value := by
  obtain ⟨report, last, hidden⟩ := withheld
  rw [get?_of_known known, last]
  simp [hidden]

theorem get?_of_told {remote : Remote} {name : String} (told : ¬remote.Withholds name)
    (prior : State) : (ofRemote remote prior).config.get? name = remote.told? name := by
  cases known : prior.config.get? name with
  | none => exact get?_of_unknown known
  | some value =>
    rw [get?_of_known known]
    unfold Remote.told?
    rcases List.eq_nil_or_concat (remote.reports name) with none | ⟨earlier, last, split⟩
    · rw [none]
      rfl
    · rw [List.concat_eq_append] at split
      rw [split, List.filterMap_append, List.getLast?_append, List.getLast?_append]
      cases shown : last.value with
      | none => exact absurd ⟨last, by rw [split]; simp, shown⟩ told
      | some value => simp [shown]

/-- A state has the known value of every setting that the cluster withholds. -/
def KeepsWithheld (made known : State) (remote : Remote) : Prop :=
  ∀ name value, known.config.get? name = some value → remote.Withholds name →
    made.config.get? name = some value

theorem keepsWithheld_ofRemote (remote : Remote) (prior : State) :
    (ofRemote remote prior).KeepsWithheld prior remote :=
  fun _ _ known withheld => get?_of_withheld known withheld

/-- A state that takes nothing from what was asked for differs from one that does only in what the
cluster withholds. -/
theorem config_eq_iff (remote : Remote) {forgotten asked : State}
    (unknown : ∀ name, forgotten.config.get? name = none) :
    (ofRemote remote forgotten).config = (ofRemote remote asked).config ↔
      ∀ name value, asked.config.get? name = some value → remote.Withholds name →
        remote.told? name = some value := by
  rw [Settings.eq_iff_get?]
  constructor
  · intro same name value known withheld
    rw [← get?_of_unknown (unknown name), same, get?_of_withheld known withheld]
  · intro repeated name
    rw [get?_of_unknown (unknown name)]
    by_cases withheld : remote.Withholds name
    · cases known : asked.config.get? name with
      | none => rw [get?_of_unknown known]
      | some value => rw [get?_of_withheld known withheld, repeated name value known withheld]
    · rw [get?_of_told withheld]

end State

end Provisioner.KafkaTopic

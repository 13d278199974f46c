import Provisioner.Proofs.Kinds.ConnectorSettings
import Provisioner.Proofs.Lifecycle.Requested
import Provisioner.Proofs.Lifecycle.Settled

/-!
# What a new connector is recorded with

A creation records the settings that were asked for as long as the answer to its POST repeats them.
A server that repeats some of them loses the others for the state, and from one that repeats none the
state takes whatever the last look shows.
-/

namespace Provisioner

set_option autoImplicit false

open Http

namespace Connector

/-- The settings that a creation records: those that were asked for and that the answer to the POST
repeats, or all that look like a user's if it repeats none. In the first case they are the reported
ones that were asked for exactly if the answer leaves out none of these, in the second exactly if what
looks like a user's is what was asked for. They are it for every last look exactly if the answer
repeats all that was asked for. -/
theorem recorded_settings_iff (waits : Transition → Option WaitOptions) (context : Context)
    (config : Json) (w after : World Wire) (state : Json)
    (run : Lifecycle.create ⟨kind, waits⟩ context config w = (.ok state, after)) :
    ∃ creation : Creation api waits context config w after,
    ∃ desired made : State, ∃ created final : Remote,
      creation.desired = desired ∧ creation.created = created ∧ creation.final = final ∧
      made = .ofRemote final (.ofRemote created desired) ∧ state = made.encode ∧
      (created.Repeats desired → made.plain = final.config.filter fun name _ =>
        desired.plain.contains name && created.config.contains name) ∧
      (¬created.Repeats desired → made.plain = final.config.filter desired.adopts) ∧
      (made.plain = desired.asked final ↔
        (created.Repeats desired ∧ ∀ name, desired.plain.contains name = true →
          final.config.contains name = true → created.config.contains name = true) ∨
        (¬created.Repeats desired ∧ ∀ name value, final.config.get? name = some value →
          desired.adopts name value = desired.plain.contains name)) ∧
      ((∀ shown : Remote,
          (State.ofRemote shown (.ofRemote created desired)).plain = desired.asked shown) ↔
        ∀ name, desired.plain.contains name = true → created.config.contains name = true) := by
  have ran : Lifecycle.create ⟨api.kind, waits⟩ context config w = (.ok state, after) := run
  obtain ⟨creation, made⟩ := creation_of_create ran
  obtain ⟨_, checked, _⟩ := Lifecycle.submit_ok_iff.mp creation.submission
  have known : ∃ name, (State.plain creation.desired).contains name = true :=
    ⟨"name", State.contains_name_of_check checked⟩
  exact ⟨creation, _, _, _, _, rfl, rfl, rfl, rfl, made, plain_of_repeated known,
    plain_of_unrepeated known, plain_eq_asked_iff known, always_asked_iff known⟩

def echoAnswer : Answer :=
  .ofText "\x7b\"name\":\"sink\",\"config\":\x7b\"name\":\"sink\"\x7d\x7d"

def defaultsAnswer : Answer := .ofText "\x7b\"name\":\"sink\",\"tasks.max\":\"1\"\x7d"

def defaults : Settings :=
  ⟨[("name", "sink"), ("tasks.max", "1")], List.pairwise_pair.mpr (by decide)⟩

theorem echo_gives :
    echoAnswer.Gives Remote.decodeCreated ⟨"sink", ⟨"", none⟩, askedState.plain⟩ :=
  Answer.ofText_gives
    (.obj [("config", .obj [("name", .str "sink")]), ("name", .str "sink")])
    (by cbv) (by cbv) (by cbv)

theorem defaults_give : defaultsAnswer.Gives Decoder.settings defaults :=
  Answer.ofText_gives (.obj [("name", .str "sink"), ("tasks.max", .str "1")])
    (by cbv) (by cbv) (by cbv)

/-- A server that sets a default of its own. -/
def defaultsWorld (created : Answer) : World Wire where
  peer := {
    script := [created, runningAnswer, defaultsAnswer, runningAnswer, defaultsAnswer] }

theorem create_with_defaults {answer : Answer} {created : Remote}
    (gives : answer.Gives Remote.decodeCreated created)
    (found : (State.ofRemote created askedState).path = askedState.path)
    (unset : created.status.state = "") :
    ∃ after, ∃ creation : Creation api (fun _ => none) Context.plain askedConfig
        (defaultsWorld answer) after,
      Lifecycle.create ⟨kind, fun _ => none⟩ Context.plain askedConfig (defaultsWorld answer) =
        (.ok creation.state, after) ∧
      creation.desired = askedState ∧ creation.created = created ∧
      creation.final = (⟨"sink", ⟨running, none⟩, defaults⟩ : Remote) := by
  have decoded : Lifecycle.decodeValid ⟨api.kind, fun _ => none⟩ askedConfig =
      .ok askedState := by rfl
  have stable : classify ⟨"sink", ⟨running, none⟩, defaults⟩ (.ofRemote created askedState) =
      .ok .stable := (stable_iff _ _).mpr ⟨Or.inl rfl, Or.inl unset⟩
  exact creation_of_answers api (fun _ => none) Context.plain_accepting decoded (by cbv) rfl gives
    (congrArg Except.ok found) (.two running_gives defaults_give) stable
    (.two running_gives defaults_give) ⟨rfl, rfl⟩

/-- A server that answers without settings makes the creation record a setting that nobody asked for.
-/
theorem create_records_unasked :
    ∃ after, ∃ creation : Creation api (fun _ => none) Context.plain askedConfig
        (defaultsWorld createdAnswer) after,
      ∃ desired : State, ∃ final : Remote,
        Lifecycle.create ⟨kind, fun _ => none⟩ Context.plain askedConfig
          (defaultsWorld createdAnswer) = (.ok creation.state, after) ∧
        creation.desired = desired ∧ creation.final = final ∧
        desired.plain.contains "tasks.max" = false ∧
        creation.state.setting? "config_nonsensitive" "tasks.max" = some (.str "1") ∧
        (desired.asked final).get? "tasks.max" = none := by
  obtain ⟨after, creation, run, asked, created, final⟩ :=
    create_with_defaults created_gives rfl rfl
  refine ⟨after, creation, _, _, run, asked, final, by decide, ?_, by decide⟩
  unfold Creation.state
  rw [asked, created, final]
  rfl

/-- A server that repeats what was asked for leaves nothing else in the state. -/
theorem recorded_settings_echoed :
    ∃ state after, Lifecycle.create ⟨kind, fun _ => none⟩ Context.plain askedConfig
        (defaultsWorld echoAnswer) = (.ok state, after) ∧
      state.setting? "config_nonsensitive" "name" = some (.str "sink") ∧
      state.setting? "config_nonsensitive" "tasks.max" = none ∧
      ∃ creation : Creation api (fun _ => none) Context.plain askedConfig
        (defaultsWorld echoAnswer) after,
      ∃ desired made : State, ∃ created : Remote,
        creation.desired = desired ∧ creation.created = created ∧ state = made.encode ∧
        ((∀ shown : Remote,
            (State.ofRemote shown (.ofRemote created desired)).plain = desired.asked shown) ↔
          ∀ name, desired.plain.contains name = true → created.config.contains name = true) := by
  obtain ⟨after, creation, run, asked, answered, final⟩ := create_with_defaults echo_gives rfl rfl
  have written : creation.state.setting? "config_nonsensitive" "name" = some (.str "sink") ∧
      creation.state.setting? "config_nonsensitive" "tasks.max" = none := by
    unfold Creation.state
    rw [asked, answered, final]
    exact ⟨rfl, rfl⟩
  obtain ⟨course, desired, made, created, _, wanted, accepted, _, _, encoded, _, _, _, always⟩ :=
    recorded_settings_iff (fun _ => none) Context.plain askedConfig (defaultsWorld echoAnswer)
      after _ run
  exact ⟨_, after, run, written.1, written.2, course, desired, made, created, wanted, accepted,
    encoded, always⟩

end Connector

end Provisioner

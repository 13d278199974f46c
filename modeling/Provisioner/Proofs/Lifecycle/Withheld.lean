import Provisioner.Proofs.Kinds.RoundTrip
import Provisioner.Proofs.Kinds.TopicSettings
import Provisioner.Proofs.Lifecycle.Recorded
import Provisioner.Proofs.Lifecycle.Settled
import Provisioner.Proofs.Plan.Merge

/-!
# Settings that a cluster withholds

A cluster does not tell the values of secret settings. A read and an update take them from what was
known, or asked for, before. A creation does not: the answer to its POST tells no settings at all, so
by the time of the last look what was asked for is forgotten, and a setting that is withheld there
is lost.
-/

namespace Provisioner

set_option autoImplicit false

open Http

namespace KafkaTopic

theorem settings_of_created {answer : Json} {created : Remote}
    (decoded : decodeCreated.fromAnswer answer = .ok created) : created.settings = [] := by
  have described := Decoder.fromAnswer_ok_iff.mp decoded
  unfold decodeCreated at described
  cases topic : Description.decode answer with
  | error fault =>
    rw [topic] at described
    cases described
  | ok topic =>
    rw [topic] at described
    rw [← Except.ok.inj described]

theorem settings_of_creation {waits : Transition → Option WaitOptions} {context : Context}
    {config : Json} {w after : World Wire} (creation : Creation api waits context config w after) :
    Remote.settings creation.created = [] := by
  obtain ⟨path, _, called⟩ := creation.posted
  obtain ⟨_, _, body, _, _, decoded⟩ := called.answered
  exact settings_of_created decoded

theorem get?_of_created {created : Remote} (none : created.settings = []) (prior : State)
    (name : String) : (State.ofRemote created prior).config.get? name = .none := by
  rw [State.get?_ofRemote]
  unfold Remote.reports
  rw [none]
  rfl

/-- What becomes of the settings that the cluster withholds. A read and an update keep them. A
creation records what the cluster tells in the last look and nothing else; that is what it would make
of the last look from what was asked for exactly if the cluster tells every value that it withholds
in the end in an earlier report of the same look, and a setting whose only report is withheld is
lost. -/
theorem withheld_settings_iff (waits : Transition → Option WaitOptions) (context : Context)
    (w after : World Wire) (state : Json) :
    let l : Lifecycle Wire := ⟨kind, waits⟩
    (∀ config, l.create context config w = (.ok state, after) →
      ∃ creation : Creation api waits context config w after,
      ∃ desired made : State, ∃ created final : Remote,
        creation.desired = desired ∧ creation.created = created ∧ creation.final = final ∧
        made = .ofRemote final (.ofRemote created desired) ∧ state = made.encode ∧
        (∀ name, made.config.get? name = final.told? name) ∧
        (made.config = (State.ofRemote final desired).config ↔
          ∀ name value, desired.config.get? name = some value → final.Withholds name →
            final.told? name = some value) ∧
        ∀ name, final.OnlyWithholds name → made.config.get? name = none) ∧
    (∀ known, l.read context known w = (.ok (some state), after) →
      ∃ session, ∃ prior : State, ∃ remote : Remote,
        kind.decode.fromState known = .ok prior ∧
        Recorded api session prior remote state w after ∧
        state = (State.ofRemote remote prior).encode ∧
        (State.ofRemote remote prior).KeepsWithheld prior remote) ∧
    ∀ known config, l.update context known config w = (.ok state, after) →
      ∃ session, ∃ desired : State, ∃ remote : Remote,
        kind.decode.fromState (kind.schema.mergeComputed known config) = .ok desired ∧
        Recorded api session desired remote state w after ∧
        state = (State.ofRemote remote desired).encode ∧
        (State.ofRemote remote desired).KeepsWithheld desired remote := by
  intro l
  refine ⟨?_, ?_, ?_⟩
  · intro config run
    have ran : Lifecycle.create ⟨api.kind, waits⟩ context config w = (.ok state, after) := run
    obtain ⟨creation, made⟩ := creation_of_create ran
    have forgotten := get?_of_created (settings_of_creation creation) creation.desired
    refine ⟨creation, _, _, _, _, rfl, rfl, rfl, rfl, made, ?_, ?_, ?_⟩
    · intro name
      exact State.get?_of_unknown (forgotten name)
    · exact State.config_eq_iff _ forgotten
    · intro name only
      exact (State.get?_of_unknown (forgotten name)).trans only.told
  · intro known run
    obtain ⟨prior, decoded, refreshed⟩ := Lifecycle.read_ok_iff.mp run
    have ran : Lifecycle.refresh ⟨api.kind, waits⟩ context prior false w =
      (.ok (some state), after) := refreshed
    obtain ⟨session, remote, recorded, _⟩ := Recorded.of_refresh ran
    exact ⟨session, prior, remote, decoded, recorded, recorded.made,
      State.keepsWithheld_ofRemote remote prior⟩
  · intro known config run
    have ran : Lifecycle.update ⟨api.kind, waits⟩ context known config w = (.ok state, after) := run
    obtain ⟨session, desired, remote, recorded, prior, changed, _, prepared⟩ :=
      Recorded.of_update ran
    exact ⟨session, desired, remote, (Lifecycle.prepareUpdate_ok_iff.mp prepared).2.1, recorded,
      recorded.made, State.keepsWithheld_ofRemote remote desired⟩

/-- A topic with a secret setting. -/
def secretConfig : Json :=
  .obj [
    ("config", .obj [("sasl.secret", .str "s3cret")]),
    ("kafka_cluster", .arr [.obj [("id", .str "lkc-1")]]),
    ("rest_endpoint", .str "https://lkc-1.example"),
    ("topic_name", .str "orders")]

def secretState : State where
  id := ""
  topicName := "orders"
  partitions := none
  config := ⟨[("sasl.secret", "s3cret")], by simp [Keyed.Sorted]⟩
  kafkaCluster := [⟨"lkc-1"⟩]
  restEndpoint := "https://lkc-1.example"
  credentials := []

def ordersAnswer : Answer :=
  .ofText "\x7b\"cluster_id\":\"lkc-1\",\"partitions_count\":6,\"topic_name\":\"orders\"\x7d"

def withheldAnswer : Answer :=
  .ofText "\x7b\"data\":[\x7b\"name\":\"sasl.secret\",\"source\":\"DYNAMIC_TOPIC_CONFIG\",\"value\":null\x7d]\x7d"

def withheld : ReportedSetting := ⟨"sasl.secret", none, "DYNAMIC_TOPIC_CONFIG"⟩

theorem orders_gives : ordersAnswer.Gives Description.decode ⟨"lkc-1", "orders", 6⟩ :=
  Answer.ofText_gives
    (.obj [
      ("cluster_id", .str "lkc-1"), ("partitions_count", .int 6), ("topic_name", .str "orders")])
    (by cbv) (by cbv) (by cbv)

theorem accepted_gives : ordersAnswer.Gives decodeCreated ⟨⟨"lkc-1", "orders", 6⟩, []⟩ :=
  Answer.ofText_gives
    (.obj [
      ("cluster_id", .str "lkc-1"), ("partitions_count", .int 6), ("topic_name", .str "orders")])
    (by cbv) (by cbv) (by cbv)

theorem withheld_gives : withheldAnswer.Gives ReportedSetting.decodeList [withheld] :=
  Answer.ofText_gives
    (.obj [("data", .arr [.obj [
      ("name", .str "sasl.secret"), ("source", .str "DYNAMIC_TOPIC_CONFIG"), ("value", .null)]])])
    (by cbv) (by cbv) (by cbv)

/-- A cluster that makes the topic at once and withholds the setting in every look. -/
def withheldWorld : World Wire where
  peer := { script := [ordersAnswer, ordersAnswer, withheldAnswer, ordersAnswer, withheldAnswer] }

theorem create_secret :
    ∃ after, ∃ creation : Creation api (fun _ => none) Context.plain secretConfig withheldWorld
        after,
      Lifecycle.create ⟨kind, fun _ => none⟩ Context.plain secretConfig withheldWorld =
        (.ok creation.state, after) ∧
      creation.desired = secretState ∧
      creation.created = (⟨⟨"lkc-1", "orders", 6⟩, []⟩ : Remote) ∧
      creation.final = (⟨⟨"lkc-1", "orders", 6⟩, [withheld]⟩ : Remote) := by
  have decoded : Lifecycle.decodeValid ⟨api.kind, fun _ => none⟩ secretConfig =
      .ok secretState := by rfl
  exact creation_of_answers api (fun _ => none) Context.plain_accepting decoded (by rfl) rfl
    accepted_gives rfl (.two orders_gives withheld_gives) rfl (.two orders_gives withheld_gives)
    ⟨rfl, rfl⟩

/-- A creation that was asked for a setting, saw it withheld in the last look, and left it out of the
state. -/
theorem create_loses_withheld :
    ∃ after, ∃ creation : Creation api (fun _ => none) Context.plain secretConfig withheldWorld
        after,
      ∃ desired : State, ∃ final : Remote,
        Lifecycle.create ⟨kind, fun _ => none⟩ Context.plain secretConfig withheldWorld =
          (.ok creation.state, after) ∧
        creation.desired = desired ∧ creation.final = final ∧
        desired.config.get? "sasl.secret" = some "s3cret" ∧
        final.settings = [⟨"sasl.secret", none, "DYNAMIC_TOPIC_CONFIG"⟩] ∧
        creation.state.setting? "config" "sasl.secret" = none ∧
        (State.ofRemote final desired).encode.setting? "config" "sasl.secret" =
          some (.str "s3cret") := by
  obtain ⟨after, creation, run, asked, created, final⟩ := create_secret
  refine ⟨after, creation, _, _, run, asked, final, by decide, rfl, ?_, rfl⟩
  unfold Creation.state
  rw [asked, created, final]
  rfl

/-- A cluster that withholds the setting in one look. -/
def lookedAtWorld : World Wire where
  peer := { script := [ordersAnswer, withheldAnswer] }

theorem read_secret :
    ∃ after, Lifecycle.read ⟨kind, fun _ => none⟩ Context.plain secretState.encode lookedAtWorld =
      (.ok (some (State.ofRemote ⟨⟨"lkc-1", "orders", 6⟩, [withheld]⟩ secretState).encode),
        after) := by
  exact api.read_of_answers (fun _ => none) Context.plain_accepting (round_trips secretState) rfl
    (.two orders_gives withheld_gives) rfl (by decide) ⟨rfl, rfl⟩

/-- A setting that is withheld in every look is lost by the creation of its topic and kept by a read
of it. -/
theorem withheld_settings_secret :
    (∃ state after, Lifecycle.create ⟨kind, fun _ => none⟩ Context.plain secretConfig
        withheldWorld = (.ok state, after) ∧
      state.setting? "config" "sasl.secret" = none ∧
      ∃ creation : Creation api (fun _ => none) Context.plain secretConfig withheldWorld after,
      ∃ made : State, ∃ final : Remote, creation.final = final ∧ state = made.encode ∧
        ∀ name, made.config.get? name = final.told? name) ∧
    ∃ state after, Lifecycle.read ⟨kind, fun _ => none⟩ Context.plain secretState.encode
        lookedAtWorld = (.ok (some state), after) ∧
      state.setting? "config" "sasl.secret" = some (.str "s3cret") ∧
      ∃ prior : State, ∃ remote : Remote,
        kind.decode.fromState secretState.encode = .ok prior ∧
        state = (State.ofRemote remote prior).encode ∧
        (State.ofRemote remote prior).KeepsWithheld prior remote := by
  constructor
  · obtain ⟨after, creation, run, asked, created, final⟩ := create_secret
    refine ⟨_, after, run, ?_, ?_⟩
    · unfold Creation.state
      rw [asked, created, final]
      rfl
    · obtain ⟨creation, _, made, _, final, _, _, looked, _, written, told, _⟩ :=
        (withheld_settings_iff (fun _ => none) Context.plain withheldWorld after _).1 _ run
      exact ⟨creation, made, final, looked, written, told⟩
  · obtain ⟨after, run⟩ := read_secret
    obtain ⟨_, prior, remote, decoded, _, written, keeps⟩ :=
      (withheld_settings_iff (fun _ => none) Context.plain lookedAtWorld after _).2.1 _ run
    exact ⟨_, after, run, rfl, prior, remote, decoded, written, keeps⟩

end KafkaTopic

end Provisioner

import Mathlib
import Provisioner.Proofs.Json.Fields
import Provisioner.Proofs.Kinds.Classified
import Provisioner.Proofs.Kinds.RoundTrip
import Provisioner.Proofs.Lifecycle.Prompt
import Provisioner.Proofs.Lifecycle.Requests

/-!
# What a wait was waiting for

An update waits for the state that was asked for. A creation waits for what the server made of it in
its answer to the POST. The two differ where that answer tells something else than was asked: a new
connector has no status yet, so every status will do, and a cluster may be answered in another size.
-/

namespace Provisioner

set_option autoImplicit false

open Http

/-- A transition that waits until the object has settled. -/
inductive Mutation where
  | create (config : Json)
  | update (prior config : Json)

namespace Mutation

def run (l : Lifecycle Wire) (context : Context) : Mutation → Op Wire Json
  | .create config => l.create context config
  | .update prior config => l.update context prior config

/-- An update that changes nothing sends nothing but a look at the object. -/
def Writes (l : Lifecycle Wire) (context : Context) (w : World Wire) : Mutation → Prop
  | .create _ => True
  | .update prior config =>
    ∃ entry ∈ (l.update context prior config).sent w, entry.request.method ≠ .get

def IsUpdate : Mutation → Prop
  | .create _ => False
  | .update _ _ => True

end Mutation

/-- A mutation asked for a desired state and waited for an expected one, which the last poll saw. -/
inductive Awaited (l : Lifecycle Wire) (context : Context) (w : World Wire) :
    Mutation → l.kind.State → l.kind.State → l.kind.Remote → Prop where
  | create {config : Json} {desired accepted : l.kind.State} {submitted : World Wire}
      {earlier : List (Wait.Poll Wire l.kind.Remote)} {last : Wait.Poll Wire l.kind.Remote}
      {seen : l.kind.Remote}
      (submission : l.submit context config w = (.ok (desired, accepted), submitted))
      (settled : l.Settles (l.session context desired) accepted .create submitted earlier last
        seen) :
      Awaited l context w (.create config) desired accepted seen
  | update {priorState config : Json} {prior desired : l.kind.State} {changed : List String}
      {told : World Wire} {earlier : List (Wait.Poll Wire l.kind.Remote)}
      {last : Wait.Poll Wire l.kind.Remote} {seen : l.kind.Remote}
      (decoded : l.kind.decode.fromState priorState = .ok prior)
      (prepared : l.prepareUpdate priorState config prior = .ok (desired, changed))
      (telling : l.kind.update (l.session context desired) prior desired changed w =
        (.ok (), told))
      (settled : l.Settles (l.session context desired) desired .update told earlier last seen) :
      Awaited l context w (.update priorState config) desired desired seen

namespace Awaited

variable {l : Lifecycle Wire} {context : Context} {w : World Wire} {mutation : Mutation}
  {desired expected : l.kind.State} {seen : l.kind.Remote}

theorem stable (awaited : Awaited l context w mutation desired expected seen) :
    l.kind.classify seen expected = .ok .stable := by
  cases awaited with
  | create _ settled => exact settled.stable.2
  | update _ _ _ settled => exact settled.stable.2

theorem stable_of_update (awaited : Awaited l context w mutation desired expected seen)
    (updated : mutation.IsUpdate) : l.kind.classify seen desired = .ok .stable := by
  cases awaited with
  | create => exact updated.elim
  | update _ _ _ settled => exact settled.stable.2

end Awaited

theorem awaited_of_run (api : Api) {waits : Transition → Option WaitOptions} {context : Context}
    {mutation : Mutation} {w after : World Wire} {state : Json}
    (run : mutation.run ⟨api.kind, waits⟩ context w = (.ok state, after))
    (writes : mutation.Writes ⟨api.kind, waits⟩ context w) :
    ∃ desired expected seen,
      Awaited ⟨api.kind, waits⟩ context w mutation desired expected seen := by
  cases mutation with
  | create config =>
    obtain ⟨desired, accepted, submitted, settled, submission, settling, _⟩ :=
      Lifecycle.create_ok_iff.mp run
    obtain ⟨earlier, last, seen, settles, _⟩ := Lifecycle.settles_of_settle settling
    exact ⟨desired, accepted, seen, .create submission settles⟩
  | update priorState config =>
    obtain ⟨prior, desired, changed, settled, decoded, prepared, writing, finishing⟩ :=
      Lifecycle.update_ok_iff.mp run
    by_cases nothing : changed = []
    · rw [if_pos nothing] at writing
      subst writing
      obtain ⟨entry, member, wrote⟩ := writes
      have same : (Lifecycle.update ⟨api.kind, waits⟩ context priorState config).sent settled =
          (Lifecycle.finish ⟨api.kind, waits⟩
            ⟨context, api.kind.credentials context desired⟩ desired "Updated").sent settled := by
        have ran : Lifecycle.update ⟨api.kind, waits⟩ context priorState config settled =
          (.ok state, after) := run
        have finished : Lifecycle.finish ⟨api.kind, waits⟩
          ⟨context, api.kind.credentials context desired⟩ desired "Updated" settled =
          (.ok state, after) := finishing
        unfold Operation.sent
        rw [ran, finished]
      rw [same] at member
      obtain ⟨path, _, place, _, get⟩ := (api.sends_finish waits
        ⟨context, api.kind.credentials context desired⟩ desired "Updated").of_sent settled member
      rw [get] at wrote
      exact absurd rfl wrote
    · rw [if_neg nothing] at writing
      obtain ⟨told, telling, settling⟩ := writing
      obtain ⟨earlier, last, seen, settles, _⟩ := Lifecycle.settles_of_settle settling
      exact ⟨desired, desired, seen, .update decoded prepared telling settles⟩

namespace Connector

theorem status_of_created {answer : Json} {created : Remote}
    (decoded : Remote.decodeCreated.fromAnswer answer = .ok created) :
    created.status.state = "" := by
  rcases Decoder.of_record_ok (Decoder.fromAnswer_ok_iff.mp decoded) with
    ⟨entries, _, fields⟩ | ⟨items, _, fields⟩
  · simp only [Fields.seq_ofEntries_ok_iff, Fields.map_ofEntries_ok_iff] at fields
    obtain ⟨_, config, ⟨name, _, rfl⟩, _, rfl⟩ := fields
    rfl
  · simp only [Fields.seq_ofItems_ok_iff, Fields.map_ofItems_ok_iff] at fields
    obtain ⟨_, config, ⟨name, _, rfl⟩, _, rfl⟩ := fields
    rfl

theorem stable_as_asked_iff {desired expected : State} {seen : Remote}
    (stable : classify seen expected = .ok .stable) :
    classify seen desired = .ok .stable ↔
      desired.status = "" ∨ seen.status.state = desired.status := by
  rw [stable_iff] at stable ⊢
  simp only [stable.1, true_and]
  exact or_congr_right eq_comm

/-- Every poll that ends the wait shows what was asked only if no status was. -/
theorem created_as_asked_iff {answer : Json} {created : Remote} (desired : State)
    (decoded : Remote.decodeCreated.fromAnswer answer = .ok created) :
    (∀ seen, classify seen (.ofRemote created desired) = .ok .stable →
      classify seen desired = .ok .stable) ↔ desired.status = "" := by
  have unset : (State.ofRemote created desired).status = "" := status_of_created decoded
  constructor
  · intro always
    -- The server may answer with either settled status, and no request fits both.
    have seenIn : ∀ status, status = running ∨ status = paused →
        desired.status = "" ∨ desired.status = status := by
      intro status settled
      have stable := always ⟨"", ⟨status, none⟩, .empty⟩
        ((stable_iff _ _).mpr ⟨settled, Or.inl unset⟩)
      exact ((stable_iff _ _).mp stable).2
    rcases seenIn running (Or.inl rfl) with none | asRunning
    · exact none
    · rcases seenIn paused (Or.inr rfl) with none | asPaused
      · exact none
      · rw [asRunning] at asPaused
        exact absurd asPaused (by decide)
  · intro none seen stable
    exact (stable_as_asked_iff stable).mpr (Or.inl none)

end Connector

namespace KafkaCluster

/-- A cluster of the size asked for, as far as a size was asked for and one is reported. -/
def HasSize (remote : Remote) (desired : State) : Prop :=
  ∀ size cku, single? desired.dedicated = some size → remote.status.cku = some cku →
    cku = size.cku

theorem stable_as_asked_iff {desired expected : State} {seen : Remote}
    (stable : classify seen expected = .ok .stable) :
    classify seen desired = .ok .stable ↔ HasSize seen desired := by
  rw [stable_iff] at stable ⊢
  simp only [stable.1, stable.2.1, true_and, isResizing_eq_false_iff]
  unfold HasSize
  constructor
  · intro same size cku asked reported
    exact (same size cku asked reported).symm
  · intro same size cku asked reported
    exact (same size cku asked reported).symm

theorem exists_other_size {size : Size} {expected : Option Size} (other : expected ≠ some size) :
    ∃ cku, (∀ accepted, expected = some accepted → accepted.cku = cku) ∧ cku ≠ size.cku := by
  cases expected with
  | none => exact ⟨size.cku + 1, by simp, by simp⟩
  | some accepted =>
    refine ⟨accepted.cku, by simp, ?_⟩
    intro same
    apply other
    cases accepted
    cases size
    simp_all

/-- Every poll that ends the wait shows the size that was asked only if the server's answer to the
POST repeats it. -/
theorem created_as_asked_iff (created : Remote) (desired : State) :
    (∀ seen, classify seen (.ofRemote created desired) = .ok .stable →
      classify seen desired = .ok .stable) ↔
      ∀ size, single? desired.dedicated = some size →
        single? (State.ofRemote created desired).dedicated = some size := by
  constructor
  · intro always size asked
    apply Decidable.byContradiction
    intro other
    obtain ⟨cku, admitted, different⟩ := exists_other_size other
    let seen : Remote := {
      id := ""
      spec := { config := some ⟨"Dedicated", none⟩ }
      status := ⟨"PROVISIONED", some cku, none⟩
      resourceName := "" }
    have settled : seen.isResizing (.ofRemote created desired) = false := by
      rw [isResizing_eq_false_iff]
      rintro accepted _ answered ⟨⟩
      exact admitted accepted answered
    have stable := always seen ((stable_iff seen _).mpr ⟨rfl, rfl, settled⟩)
    have kept := ((stable_iff seen _).mp stable).2.2
    exact different ((isResizing_eq_false_iff seen desired).mp kept size cku asked rfl).symm
  · intro repeated seen stable
    refine (stable_as_asked_iff stable).mpr ?_
    intro size cku asked reported
    have settled := ((stable_iff _ _).mp stable).2.2
    exact ((isResizing_eq_false_iff _ _).mp settled size cku (repeated size asked) reported).symm

end KafkaCluster

/-- What the last poll of a successful transition saw. For an update it is what was asked. For a
creation it is so exactly if the connector is in the status asked for, or the cluster has the size
asked for; and the server can make it otherwise whenever a status was asked for, or whenever its
answer to the POST does not repeat the size. -/
theorem awaited_as_asked_iff (waits : Transition → Option WaitOptions) (context : Context)
    (mutation : Mutation) (w : World Wire) (state : Json) (after : World Wire) :
    (mutation.run ⟨Connector.kind, waits⟩ context w = (.ok state, after) →
      mutation.Writes ⟨Connector.kind, waits⟩ context w →
      ∃ desired expected : Connector.State, ∃ seen : Connector.Remote,
        Awaited ⟨Connector.kind, waits⟩ context w mutation desired expected seen ∧
        (mutation.IsUpdate → Connector.classify seen desired = .ok .stable) ∧
        (Connector.classify seen desired = .ok .stable ↔
          desired.status = "" ∨ seen.status.state = desired.status)) ∧
    (mutation.run ⟨KafkaCluster.kind, waits⟩ context w = (.ok state, after) →
      mutation.Writes ⟨KafkaCluster.kind, waits⟩ context w →
      ∃ desired expected : KafkaCluster.State, ∃ seen : KafkaCluster.Remote,
        Awaited ⟨KafkaCluster.kind, waits⟩ context w mutation desired expected seen ∧
        (mutation.IsUpdate → KafkaCluster.classify seen desired = .ok .stable) ∧
        (KafkaCluster.classify seen desired = .ok .stable ↔
          KafkaCluster.HasSize seen desired)) ∧
    (∀ (answer : Json) (created : Connector.Remote) (desired : Connector.State),
      Connector.Remote.decodeCreated.fromAnswer answer = .ok created →
      ((∀ seen, Connector.classify seen (.ofRemote created desired) = .ok .stable →
        Connector.classify seen desired = .ok .stable) ↔ desired.status = "")) ∧
    ∀ (created : KafkaCluster.Remote) (desired : KafkaCluster.State),
      (∀ seen, KafkaCluster.classify seen (.ofRemote created desired) = .ok .stable →
        KafkaCluster.classify seen desired = .ok .stable) ↔
        ∀ size, single? desired.dedicated = some size →
          single? (KafkaCluster.State.ofRemote created desired).dedicated = some size := by
  refine ⟨?_, ?_, ?_, KafkaCluster.created_as_asked_iff⟩
  · intro run writes
    obtain ⟨desired, expected, seen, awaited⟩ := awaited_of_run Connector.api run writes
    exact ⟨desired, expected, seen, awaited, awaited.stable_of_update,
      Connector.stable_as_asked_iff awaited.stable⟩
  · intro run writes
    obtain ⟨desired, expected, seen, awaited⟩ :=
      awaited_of_run ItemKind.kafkaClusters.api run writes
    exact ⟨desired, expected, seen, awaited, awaited.stable_of_update,
      KafkaCluster.stable_as_asked_iff awaited.stable⟩
  · intro answer created desired decoded
    exact Connector.created_as_asked_iff desired decoded

namespace Connector

def askedConfig : Json :=
  .obj [
    ("config_nonsensitive", .obj [("name", .str "sink")]),
    ("environment", .arr [.obj [("id", .str "env-1")]]),
    ("kafka_cluster", .arr [.obj [("id", .str "lkc-1")]]),
    ("status", .str "RUNNING")]

def askedState : State where
  id := ""
  environment := [⟨"env-1"⟩]
  kafkaCluster := [⟨"lkc-1"⟩]
  plain := ⟨[("name", "sink")], by simp [Keyed.Sorted]⟩
  secret := .empty
  status := running

def createdAnswer : Answer := .ofText "\x7b\"name\":\"sink\"\x7d"

def pausedAnswer : Answer :=
  .ofText "\x7b\"name\":\"sink\",\"connector\":\x7b\"state\":\"PAUSED\"\x7d\x7d"

def runningAnswer : Answer :=
  .ofText "\x7b\"name\":\"sink\",\"connector\":\x7b\"state\":\"RUNNING\"\x7d\x7d"

def settingsAnswer : Answer := createdAnswer

def sink (status : String) : Remote := ⟨"sink", ⟨status, none⟩, askedState.plain⟩

theorem created_gives :
    createdAnswer.Gives Remote.decodeCreated ⟨"sink", ⟨"", none⟩, .empty⟩ :=
  Answer.ofText_gives (.obj [("name", .str "sink")]) (by cbv) (by cbv) (by cbv)

theorem paused_gives : pausedAnswer.Gives Remote.decodeStatus ("sink", ⟨paused, none⟩) :=
  Answer.ofText_gives
    (.obj [("connector", .obj [("state", .str "PAUSED")]), ("name", .str "sink")])
    (by cbv) (by cbv) (by cbv)

theorem running_gives : runningAnswer.Gives Remote.decodeStatus ("sink", ⟨running, none⟩) :=
  Answer.ofText_gives
    (.obj [("connector", .obj [("state", .str "RUNNING")]), ("name", .str "sink")])
    (by cbv) (by cbv) (by cbv)

theorem settings_gives : settingsAnswer.Gives Decoder.settings askedState.plain :=
  Answer.ofText_gives (.obj [("name", .str "sink")]) (by cbv) (by cbv) (by cbv)

/-- Every look after the creation is answered with the same status. -/
def sinkWorld (status : Answer) : World Wire where
  peer := { script := [createdAnswer, status, settingsAnswer, status, settingsAnswer] }

theorem create_sink {status : String} {answer : Answer}
    (gives : answer.Gives Remote.decodeStatus ("sink", ⟨status, none⟩))
    (settled : status = running ∨ status = paused) :
    ∃ state after expected,
      (Mutation.create askedConfig).run ⟨kind, fun _ => none⟩ Context.plain (sinkWorld answer) =
        (.ok state, after) ∧
      Awaited ⟨kind, fun _ => none⟩ Context.plain (sinkWorld answer) (.create askedConfig)
        askedState expected (sink status) := by
  have decoded : Lifecycle.decodeValid ⟨kind, fun _ => none⟩ askedConfig = .ok askedState := by
    rfl
  have ready : Ready (sinkWorld answer)
      [createdAnswer, answer, settingsAnswer, answer, settingsAnswer] := ⟨rfl, rfl⟩
  have stable : classify (sink status)
      (.ofRemote ⟨"sink", ⟨"", none⟩, .empty⟩ askedState) = .ok .stable :=
    (stable_iff _ _).mpr ⟨settled, Or.inl rfl⟩
  obtain ⟨submitted, poll, after, submission, settles, run⟩ :=
    Api.create_of_answers Connector.api (fun _ => none) Context.plain_accepting decoded (by cbv) rfl
      created_gives rfl (.two gives settings_gives) stable (.two gives settings_gives) ready
  exact ⟨_, after, _, run, .create submission settles⟩

/-- A connector that is asked to run but starts paused passes for created. -/
theorem create_accepts_paused :
    ∃ state after expected,
      (Mutation.create askedConfig).run ⟨kind, fun _ => none⟩ Context.plain
        (sinkWorld pausedAnswer) = (.ok state, after) ∧
      Awaited ⟨kind, fun _ => none⟩ Context.plain (sinkWorld pausedAnswer) (.create askedConfig)
        askedState expected (sink paused) ∧
      askedState.status = running ∧
      classify (sink paused) askedState ≠ .ok .stable := by
  obtain ⟨state, after, expected, run, awaited⟩ := create_sink paused_gives (Or.inr rfl)
  refine ⟨state, after, expected, run, awaited, rfl, ?_⟩
  rw [ne_eq, stable_iff]
  decide

def pausedSink : State := { askedState with id := "env-1/lkc-1/sink", status := paused }

theorem resume_sink :
    (∃ state after, (Mutation.update pausedSink.encode askedConfig).run ⟨kind, fun _ => none⟩
        Context.plain (sinkWorld runningAnswer) = (.ok state, after)) ∧
      (Mutation.update pausedSink.encode askedConfig).Writes ⟨kind, fun _ => none⟩ Context.plain
        (sinkWorld runningAnswer) := by
  have decoded : kind.decode.fromState pausedSink.encode = .ok pausedSink := round_trips pausedSink
  have prepared : Lifecycle.prepareUpdate ⟨kind, fun _ => none⟩ pausedSink.encode askedConfig
      pausedSink = .ok ({ pausedSink with status := running }, ["status"]) := by rfl
  have ready : Ready (sinkWorld runningAnswer)
      [createdAnswer, runningAnswer, settingsAnswer, runningAnswer, settingsAnswer] := ⟨rfl, rfl⟩
  obtain ⟨_, result, succeeds, _⟩ := created_gives
  constructor
  · obtain ⟨after, run⟩ := api.update_of_answers (fun _ => none) Context.plain_accepting decoded
      prepared (by simp) rfl succeeds rfl (.two running_gives settings_gives)
      ((stable_iff _ _).mpr ⟨Or.inl rfl, Or.inr rfl⟩) (.two running_gives settings_gives) ready
    exact ⟨_, after, run⟩
  · obtain ⟨entry, member, method, _⟩ := api.write_sent (fun _ => none) Context.plain_accepting
      decoded prepared (by simp) rfl ready succeeds
    refine ⟨entry, member, ?_⟩
    rw [method]
    decide

end Connector

/-- A connector that is asked to run and does: a new one, and one that was paused. -/
theorem awaited_as_asked_running :
    (∃ state after,
      (Mutation.create Connector.askedConfig).run ⟨Connector.kind, fun _ => none⟩ Context.plain
        (Connector.sinkWorld Connector.runningAnswer) = (.ok state, after) ∧
      (∃ desired expected : Connector.State, ∃ seen : Connector.Remote,
        Awaited ⟨Connector.kind, fun _ => none⟩ Context.plain
          (Connector.sinkWorld Connector.runningAnswer) (.create Connector.askedConfig) desired
          expected seen ∧
        (Connector.classify seen desired = .ok .stable ↔
          desired.status = "" ∨ seen.status.state = desired.status)) ∧
      ¬∀ seen, Connector.classify seen
          (.ofRemote ⟨"sink", ⟨"", none⟩, .empty⟩ Connector.askedState) = .ok .stable →
        Connector.classify seen Connector.askedState = .ok .stable) ∧
    (Mutation.update Connector.pausedSink.encode Connector.askedConfig).Writes
      ⟨Connector.kind, fun _ => none⟩ Context.plain
      (Connector.sinkWorld Connector.runningAnswer) ∧
    ∃ desired expected : Connector.State, ∃ seen : Connector.Remote,
      Awaited ⟨Connector.kind, fun _ => none⟩ Context.plain
        (Connector.sinkWorld Connector.runningAnswer)
        (.update Connector.pausedSink.encode Connector.askedConfig) desired expected seen ∧
      Connector.classify seen desired = .ok .stable := by
  obtain ⟨state, after, _, run, _⟩ :=
    Connector.create_sink Connector.running_gives (Or.inl rfl)
  obtain ⟨⟨resumed, done, resuming⟩, writes⟩ := Connector.resume_sink
  refine ⟨⟨state, after, run, ?_, ?_⟩, writes, ?_⟩
  · obtain ⟨desired, expected, seen, awaited, _, exactly⟩ :=
      (awaited_as_asked_iff _ _ _ _ _ _).1 run trivial
    exact ⟨desired, expected, seen, awaited, exactly⟩
  · have decoded : Connector.Remote.decodeCreated.fromAnswer (.obj [("name", .str "sink")]) =
        .ok ⟨"sink", ⟨"", none⟩, .empty⟩ := by cbv
    rw [(awaited_as_asked_iff (fun _ => none) Context.plain (.create Connector.askedConfig)
      (Connector.sinkWorld Connector.runningAnswer) state after).2.2.1 _ _ _ decoded]
    decide
  · obtain ⟨desired, expected, seen, awaited, stable, _⟩ :=
      (awaited_as_asked_iff _ _ _ _ _ _).1 resuming writes
    exact ⟨desired, expected, seen, awaited, stable trivial⟩

end Provisioner

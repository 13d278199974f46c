import Provisioner.Proofs.Kinds.Place
import Provisioner.Proofs.Kinds.Recheck
import Provisioner.Proofs.Lifecycle.Requested

/-!
# Updates without changes

An update that changes nothing is one read, if the rules of its kind let it pass. They are applied
to everything the prior state holds, also to what the server chose. So whether it passes depends on
the state alone, but for the name of a connector whose settings do not tell it; and where it does
not pass it is refused before anything is sent.
-/

namespace Provisioner

set_option autoImplicit false

open Http
open Operation (bind_of_ok)

theorem gets_of_mem_kinds {kind : Kind Wire} (member : kind ∈ kinds) (session : Session)
    (known : kind.State) :
    (kind.read session known).Sends fun request => request.method = .get := by
  rw [← kind_apis] at member
  obtain ⟨api, _, rfl⟩ := List.mem_map.mp member
  apply Operation.Sends.mono (api.sends_read session known)
  intro request looks
  obtain ⟨_, _, _, _, rfl⟩ := looks
  rfl

namespace Schema

variable {schema : Schema} {prior config : Json}

theorem changedNames_of_plan (none : (schema.plan (some prior) config).changes = []) :
    schema.changedNames prior (schema.mergeComputed prior config) = [] := by
  unfold plan planChange Plan.ofChanges at none
  exact List.map_eq_nil_iff.mp none

end Schema

namespace Lifecycle

variable {σ : Type} {l : Lifecycle σ} {context : Context}

theorem written_of_read {known found : Json} {w after : World σ}
    (run : l.read context known w = (.ok (some found), after)) :
    ∃ state, found = l.kind.encode state := by
  obtain ⟨state, _, refreshed⟩ := read_ok_iff.mp run
  obtain ⟨remote, _, _, _, _, _, written, _⟩ := refresh_some_iff.mp refreshed
  exact ⟨l.kind.toState remote state, written⟩

theorem update_of_unchanged [Peer σ] {priorState config : Json} {prior desired : l.kind.State}
    (decodedPrior : l.kind.decode.fromState priorState = .ok prior)
    (valid : l.kind.schema.ensureValid config = .ok ())
    (decoded : l.kind.decode.fromState (l.kind.schema.mergeComputed priorState config) =
      .ok desired)
    (none : l.kind.schema.changedNames priorState
      (l.kind.schema.mergeComputed priorState config) = []) :
    l.update context priorState config =
      Op.about l.kind.name (some (l.kind.id prior)) (do
        Operation.ofExcept (l.kind.validateUpdate prior desired)
        l.finish (l.session context desired) desired "Updated") := by
  have prepared : l.prepareUpdate priorState config prior =
      (l.kind.validateUpdate prior desired).map fun _ => (desired, []) := by
    unfold prepareUpdate
    simp only [valid, decoded, none, guardUpdate, bind, Except.bind]
    cases l.kind.validateUpdate prior desired <;> rfl
  funext w
  unfold update
  rw [bind_of_ok (Op.about_ok_iff.mpr (Operation.ofExcept_ok_iff.mpr ⟨decodedPrior, rfl⟩))]
  simp only [prepared]
  cases l.kind.validateUpdate prior desired <;> rfl

theorem sent_finish {l : Lifecycle Wire} (session : Session) (expected : l.kind.State)
    (step : String) (w : World Wire) :
    (l.finish session expected step).sent w = (l.kind.read session expected).sent w := by
  unfold Operation.sent finish
  rw [Operation.run_bind]
  rcases l.kind.read session expected w with ⟨error | remote, finished⟩
  · rfl
  · rfl

end Lifecycle

namespace Recheck

variable {recheck : Recheck} {state desired : recheck.kind.State} {config : Json}

/-- Where a plan finds no change, the rules of a kind come to what the table says. -/
theorem decides_of_plan (member : recheck.kind ∈ kinds) (wellFormed : config.WellFormed)
    (valid : recheck.kind.schema.ensureValid config = .ok ())
    (decoded : recheck.kind.decode.fromState
      (recheck.kind.schema.mergeComputed (recheck.kind.encode state) config) = .ok desired)
    (none : (recheck.kind.schema.plan (some (recheck.kind.encode state)) config).changes = []) :
    Decides (recheck.kind.validateUpdate state desired) (recheck.Passes state desired) := by
  have kept := recheck.round_trips state
  have unchanged := Schema.changedNames_of_plan none
  obtain ⟨source, encoded, sorted⟩ := recheck.writes_sorted state
  rw [encoded] at kept decoded unchanged
  rw [Decoder.fromState_ok_iff] at kept decoded
  rcases obj_of_ensureValid valid with rfl | ⟨target, rfl⟩
  · exact absurd decoded (decode_null_of_mem_kinds member desired)
  · rw [mergeComputed_obj] at decoded unchanged
    apply recheck.decides _ kept decoded
    exact Schema.unchanged_of_changedNames sorted (sorted_merge source _ wellFormed.1) unchanged

end Recheck

/-- An update to a configuration that a plan finds to change nothing passes the guard, and it passes
the rules of its kind exactly if what the prior state holds passes them. Then it is one read and
sends GETs only. Otherwise it is refused with a validation error and leaves the world as it was.
Every state that a read returns is such a prior state. -/
theorem update_of_empty_plan_iff (recheck : Recheck) (member : recheck ∈ Recheck.all)
    (waits : Transition → Option WaitOptions) (context : Context) :
    let kind := recheck.kind
    let l : Lifecycle Wire := ⟨kind, waits⟩
    Recheck.all.map Recheck.kind = kinds ∧
    (∀ known w found after, l.read context known w = (.ok (some found), after) →
      ∃ state, found = kind.encode state) ∧
    ∀ (state desired : kind.State) (config : Json), config.WellFormed →
      kind.schema.ensureValid config = .ok () →
      let prior := kind.encode state
      let merged := kind.schema.mergeComputed prior config
      kind.decode.fromState merged = .ok desired →
      (kind.schema.plan (some prior) config).changes = [] →
        l.guardUpdate (kind.schema.changedNames prior merged) = .ok () ∧
        (kind.validateUpdate state desired = .ok () ↔ recheck.Passes state desired) ∧
        (recheck.Passes state desired → ∀ w,
          l.update context prior config w = Op.about kind.name (some (kind.id state))
            (l.finish (l.session context desired) desired "Updated") w ∧
          (l.update context prior config).sent w =
            (kind.read (l.session context desired) desired).sent w ∧
          ∀ entry ∈ (l.update context prior config).sent w, entry.request.method = .get) ∧
        (¬recheck.Passes state desired → ∃ error : Error, error.failure.kind = "Validation" ∧
          ∀ w, l.update context prior config w = (.error error, w)) := by
  intro kind l
  have listed : kind ∈ kinds := by
    rw [← Recheck.kinds_all]
    exact List.mem_map_of_mem member
  refine ⟨Recheck.kinds_all, fun known w found after => Lifecycle.written_of_read, ?_⟩
  intro state desired config wellFormed valid prior merged decoded none
  have unchanged := Schema.changedNames_of_plan none
  have decides := Recheck.decides_of_plan listed wellFormed valid decoded none
  have update : l.update context prior config = Op.about kind.name (some (kind.id state)) (do
      Operation.ofExcept (kind.validateUpdate state desired)
      l.finish (l.session context desired) desired "Updated") :=
    l.update_of_unchanged (recheck.round_trips state) valid decoded unchanged
  refine ⟨?_, decides.ok_iff, ?_, ?_⟩
  · show l.guardUpdate (kind.schema.changedNames prior merged) = .ok ()
    rw [unchanged]
    rfl
  · intro passes w
    rw [decides.ok_iff.mpr passes] at update
    have same : l.update context prior config w = Op.about kind.name (some (kind.id state))
        (l.finish (l.session context desired) desired "Updated") w := congrFun update w
    have sent : (l.update context prior config).sent w =
        (kind.read (l.session context desired) desired).sent w := by
      rw [← l.sent_finish (l.session context desired) desired "Updated" w]
      unfold Operation.sent
      rw [same]
      rfl
    refine ⟨same, sent, ?_⟩
    intro entry inside
    rw [sent] at inside
    exact (gets_of_mem_kinds listed _ desired).of_sent w inside
  · intro fails
    cases checked : kind.validateUpdate state desired with
    | ok => exact absurd (decides.ok_iff.mp checked) fails
    | error error =>
      rw [checked] at update
      have refusal := decides.refusal checked
      rw [← Error.isRefusal_about error kind.name (some (kind.id state))] at refusal
      exact ⟨_, (Error.isRefusal_iff _).mp refusal, fun w => congrFun update w⟩

namespace Connector

/-- A configuration that leaves the status to the server. -/
def unaskedConfig : Json :=
  .obj [
    ("config_nonsensitive", .obj [("name", .str "sink")]),
    ("environment", .arr [.obj [("id", .str "env-1")]]),
    ("kafka_cluster", .arr [.obj [("id", .str "lkc-1")]])]

def failedAnswer : Answer :=
  .ofText "\x7b\"name\":\"sink\",\"connector\":\x7b\"state\":\"FAILED\"\x7d\x7d"

theorem failed_gives : failedAnswer.Gives Remote.decodeStatus ("sink", ⟨"FAILED", none⟩) :=
  Answer.ofText_gives
    (.obj [("connector", .obj [("state", .str "FAILED")]), ("name", .str "sink")])
    (by cbv) (by cbv) (by cbv)

def failedWorld : World Wire where
  peer := { script := [failedAnswer, settingsAnswer] }

/-- The connector as it is after a look at it. -/
def seenAs (status : String) : State where
  id := "env-1/lkc-1/sink"
  environment := [⟨"env-1"⟩]
  kafkaCluster := [⟨"lkc-1"⟩]
  plain := askedState.plain
  secret := .empty
  status := status

theorem unasked_valid : schema.ensureValid unaskedConfig = .ok () := rfl

theorem unasked_decoded (status : String) :
    State.decode.fromState (schema.mergeComputed (seenAs status).encode unaskedConfig) =
      .ok (seenAs status) := by
  cbv

/-- A connector that is read as failed. Its configuration asks for no status, and a plan finds
nothing to change; yet the update is refused for the status that the server reported. -/
theorem unchanged_update_refused :
    (∃ after, Lifecycle.read ⟨kind, fun _ => none⟩ Context.plain askedState.encode failedWorld =
      (.ok (some (seenAs "FAILED").encode), after)) ∧
    schema.ensureValid unaskedConfig = .ok () ∧
    State.decode.fromState (schema.mergeComputed (seenAs "FAILED").encode unaskedConfig) =
      .ok (seenAs "FAILED") ∧
    (schema.plan (some (seenAs "FAILED").encode) unaskedConfig).changes = [] ∧
    ∀ w, Lifecycle.update ⟨kind, fun _ => none⟩ Context.plain (seenAs "FAILED").encode
      unaskedConfig w = (.error {
        failure := .validation "'status' must be RUNNING or PAUSED, got 'FAILED'"
        subject := some ⟨"confluent_connector", "env-1/lkc-1/sink"⟩ }, w) := by
  have unchanged : (schema.plan (some (seenAs "FAILED").encode) unaskedConfig).changes = [] := rfl
  refine ⟨?_, unasked_valid, unasked_decoded "FAILED", unchanged, ?_⟩
  · have ready : Ready failedWorld [failedAnswer, settingsAnswer] := ⟨rfl, rfl⟩
    have answered : (api.reading askedState.path).Answered
        ([failedAnswer, settingsAnswer] ++ []) (sink "FAILED") :=
      .two failed_gives settings_gives
    let session : Session := ⟨Context.plain, none⟩
    have accepting : session.context.client.retry.Accepting := Context.plain_accepting
    obtain ⟨after, reading, _⟩ := Api.read_of_ready accepting rfl answered ready
    have refreshed : Lifecycle.refresh ⟨kind, fun _ => none⟩ Context.plain askedState false
        failedWorld = (.ok (some (seenAs "FAILED").encode),
          Lifecycle.logged ⟨kind, fun _ => none⟩ "Read" (seenAs "FAILED") after) :=
      Lifecycle.refresh_some_iff.mpr ⟨_, .failed, after, reading, rfl, by decide, rfl, rfl⟩
    exact ⟨_, Lifecycle.read_ok_iff.mpr ⟨askedState, round_trips askedState, refreshed⟩⟩
  · intro w
    have update : Lifecycle.update ⟨kind, fun _ => none⟩ Context.plain _ unaskedConfig = _ :=
      Lifecycle.update_of_unchanged (l := ⟨kind, fun _ => none⟩) (round_trips (seenAs "FAILED"))
        unasked_valid (unasked_decoded "FAILED") (Schema.changedNames_of_plan unchanged)
    exact (congrFun update w).trans rfl

/-- A paused connector whose configuration asks for no status passes: an update only reads it. -/
theorem unchanged_update_reads :
    Recheck.connectors ∈ Recheck.all ∧
    Recheck.connectors.Passes (seenAs paused) (seenAs paused) ∧
    ∀ w, Lifecycle.update ⟨kind, fun _ => none⟩ Context.plain (seenAs paused).encode
        unaskedConfig w =
          Op.about "confluent_connector" (some "env-1/lkc-1/sink")
            (Lifecycle.finish ⟨kind, fun _ => none⟩ ⟨Context.plain, none⟩ (seenAs paused)
              "Updated") w ∧
      ∀ entry ∈ (Lifecycle.update ⟨kind, fun _ => none⟩ Context.plain (seenAs paused).encode
        unaskedConfig).sent w, entry.request.method = .get := by
  have listed : Recheck.connectors ∈ Recheck.all := List.mem_cons_self
  have wellFormed : unaskedConfig.WellFormed := by
    refine ⟨Keyed.sorted_of_keys ["config_nonsensitive", "environment", "kafka_cluster"] rfl
      (by decide), ?_⟩
    simp [Json.WellFormed, Json.WellFormedEntries, Json.WellFormedItems, Keyed.Sorted]
  have passes : Recheck.connectors.Passes (seenAs paused) (seenAs paused) :=
    ⟨fun _ => rfl, by decide⟩
  refine ⟨listed, passes, ?_⟩
  intro w
  have update := (update_of_empty_plan_iff Recheck.connectors listed (fun _ => none)
    Context.plain).2.2 (seenAs paused) (seenAs paused) unaskedConfig wellFormed unasked_valid
    (unasked_decoded paused) rfl
  obtain ⟨same, _, gets⟩ := update.2.2.1 passes w
  exact ⟨same, gets⟩

end Connector

end Provisioner

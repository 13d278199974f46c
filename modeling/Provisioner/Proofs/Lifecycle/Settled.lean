import Mathlib
import Provisioner.Proofs.Lifecycle.Prompt

/-!
# A created object has settled

A creation that gives a state went through one accepted POST, polls of which the last one alone
found the object stable, and one more look, which is the last thing it sent and the source of the
state. A poll that finds the object failed ends the creation there, with the reason that poll was
given.
-/

namespace Provisioner

set_option autoImplicit false

open Http

/-- The course of a creation that gave a state. -/
structure Creation (api : Api) (waits : Transition → Option WaitOptions) (context : Context)
    (config : Json) (w after : World Wire) where
  desired : api.kind.State
  created : api.kind.Remote
  submitted : World Wire
  posts : List Exchange
  earlier : List (Wait.Poll Wire api.kind.Remote)
  last : Wait.Poll Wire api.kind.Remote
  seen : api.kind.Remote
  looks : List Exchange
  final : api.kind.Remote
  submission : Lifecycle.submit ⟨api.kind, waits⟩ context config w =
    (.ok (desired, api.kind.toState created desired), submitted)
  posting : Transcript w.peer posts submitted.peer
  posted : api.Posted ⟨context, api.kind.credentials context desired⟩ desired posts created
  settled : Lifecycle.Settles ⟨api.kind, waits⟩ ⟨context, api.kind.credentials context desired⟩
    (api.kind.toState created desired) .create submitted earlier last seen
  looking : Transcript last.finish.peer looks after.peer
  looked : api.Seen ⟨context, api.kind.credentials context desired⟩
    (api.kind.toState created desired) looks final

/-- The state of the last look, with what it leaves out taken from the accepted object. -/
def Creation.state {api : Api} {waits : Transition → Option WaitOptions} {context : Context}
    {config : Json} {w after : World Wire} (creation : Creation api waits context config w after) :
    Json :=
  api.kind.encode (api.kind.toState creation.final
    (api.kind.toState creation.created creation.desired))

theorem creation_of_create {api : Api} {waits : Transition → Option WaitOptions}
    {context : Context} {config state : Json} {w after : World Wire}
    (run : Lifecycle.create ⟨api.kind, waits⟩ context config w = (.ok state, after)) :
    ∃ creation : Creation api waits context config w after, state = creation.state := by
  obtain ⟨desired, accepted, submitted, settled, submission, settling, finishing⟩ :=
    Lifecycle.create_ok_iff.mp run
  have submitRun := submission
  obtain ⟨_, _, created, creating, rfl⟩ := Lifecycle.submit_ok_iff.mp submitRun
  obtain ⟨posts, posting, posted⟩ := Api.posted_of_create creating
  obtain ⟨earlier, last, seen, settles, rfl⟩ := Lifecycle.settles_of_settle settling
  obtain ⟨final, finished, reading, rfl, rfl⟩ := Lifecycle.finish_ok_iff.mp finishing
  obtain ⟨looks, looking, looked⟩ := Api.seen_of_read reading
  exact ⟨⟨desired, created, submitted, posts, earlier, last, seen, looks, final, submission,
    posting, posted, settles, looking, looked⟩, rfl⟩

theorem creation_of_answers (api : Api) (waits : Transition → Option WaitOptions)
    {context : Context} {w : World Wire} {config : Json} {desired : api.kind.State}
    {created seen final : api.kind.Remote} {collection path : String} {answer : Answer}
    {polled looked : List Answer} (accepting : context.client.retry.Accepting)
    (decoded : Lifecycle.decodeValid ⟨api.kind, waits⟩ config = .ok desired)
    (valid : api.kind.validateCreate desired = .ok ())
    (posted : api.collection context desired = .ok collection)
    (gives : answer.Gives api.created created)
    (found : api.object context (api.kind.toState created desired) = .ok path)
    (answered : (api.reading path).Answered polled seen)
    (classified : api.kind.classify seen (api.kind.toState created desired) = .ok .stable)
    (answeredLast : (api.reading path).Answered looked final)
    (ready : Ready w (answer :: (polled ++ looked))) :
    ∃ after, ∃ creation : Creation api waits context config w after,
      Lifecycle.create ⟨api.kind, waits⟩ context config w = (.ok creation.state, after) ∧
      creation.desired = desired ∧ creation.created = created ∧ creation.final = final := by
  let session : Session := ⟨context, api.kind.credentials context desired⟩
  have acceptingHere : session.context.client.retry.Accepting := accepting
  have readyLogged : Ready (Lifecycle.logged ⟨api.kind, waits⟩ "Creating" desired w)
      (answer :: (polled ++ looked)) := ⟨ready.running, ready.next⟩
  obtain ⟨submitted, creating, readySubmitted⟩ :=
    Api.create_of_ready acceptingHere posted gives readyLogged
  have submission : Lifecycle.submit ⟨api.kind, waits⟩ context config w =
      (.ok (desired, api.kind.toState created desired), submitted) :=
    Lifecycle.submit_ok_iff.mpr ⟨decoded, valid, created, creating, rfl⟩
  obtain ⟨poll, settles, settling, readySettled⟩ :=
    api.settles_of_ready waits session acceptingHere found answered classified .create
      readySubmitted
  rw [← List.append_nil looked] at readySettled
  obtain ⟨finished, reading, _⟩ := Api.read_of_ready acceptingHere found answeredLast readySettled
  obtain ⟨posts, posting, postedWith⟩ := Api.posted_of_create creating
  obtain ⟨looks, looking, lookedAt⟩ := Api.seen_of_read reading
  let state := api.kind.toState final (api.kind.toState created desired)
  let after := Lifecycle.logged ⟨api.kind, waits⟩ "Created" state finished
  refine ⟨after, ⟨desired, created, submitted, posts, [], poll, seen, looks, final, submission,
    posting, postedWith, settles, looking, lookedAt⟩, ?_, rfl, rfl, rfl⟩
  refine Lifecycle.create_ok_iff.mpr ⟨desired, _, submitted, poll.finish, submission, settling, ?_⟩
  exact Lifecycle.finish_ok_iff.mpr ⟨final, finished, reading, rfl, rfl⟩

theorem create_of_failed_poll {l : Lifecycle Wire} {context : Context} {config : Json}
    {w submitted : World Wire} {desired accepted : l.kind.State}
    (submission : l.submit context config w = (.ok (desired, accepted), submitted))
    {polls : List (Wait.Poll Wire l.kind.Remote)}
    {result : Except Error (Observation l.kind.Remote) × World Wire}
    (waits : l.Waits (l.session context desired) accepted .create submitted polls result)
    {poll : Wait.Poll Wire l.kind.Remote} (member : poll ∈ polls) {remote : l.kind.Remote}
    (failed : l.Found (l.session context desired) accepted poll remote .failed) :
    l.create context config w =
      (.error {
        failure := .remoteFailed (l.kind.failureReason remote)
        subject := some ⟨l.kind.name, l.kind.id accepted⟩ }, poll.finish) := by
  have settling := Lifecycle.settle_of_failed waits member failed
  unfold Lifecycle.create
  rw [Operation.bind_of_ok (Op.about_ok_iff.mpr submission)]
  refine Op.about_error_iff.mpr ⟨_, Operation.bind_of_error settling _, rfl⟩

/-- Every creation of every kind: a state is that of a settled object, and a poll that finds the
object failed is the last thing a creation does. -/
theorem create_settles (api : Api) (waits : Transition → Option WaitOptions) (context : Context)
    (config : Json) (w : World Wire) :
    let l : Lifecycle Wire := ⟨api.kind, waits⟩
    apis.map Api.kind = kinds ∧
      (∀ state after, l.create context config w = (.ok state, after) →
        ∃ creation : Creation api waits context config w after, state = creation.state) ∧
      ∀ desired accepted submitted polls result,
        l.submit context config w = (.ok (desired, accepted), submitted) →
        l.Waits (l.session context desired) accepted .create submitted polls result →
        ∀ poll ∈ polls, ∀ remote,
          l.Found (l.session context desired) accepted poll remote .failed →
          l.create context config w =
            (.error {
              failure := .remoteFailed (l.kind.failureReason remote)
              subject := some ⟨l.kind.name, l.kind.id accepted⟩ }, poll.finish) := by
  refine ⟨kind_apis, ?_, ?_⟩
  · intro state after run
    exact creation_of_create run
  · intro desired accepted submitted polls result submission waiting poll member remote failed
    exact create_of_failed_poll submission waiting member failed

namespace Network

def sampleConfig : Json :=
  .obj [
    ("cloud", .str "AWS"),
    ("connection_types", .strings ["PEERING"]),
    ("environment", .arr [.obj [("id", .str "env-1")]]),
    ("region", .str "eu-1")]

def sampleState : State where
  id := ""
  displayName := ""
  cloud := "AWS"
  region := "eu-1"
  connectionTypes := ["PEERING"]
  cidr := ""
  zones := []
  environment := [⟨"env-1"⟩]
  resourceName := ""

def sampleRemote (phase : String) : Remote where
  id := "n-1"
  spec := {}
  status := ⟨phase, none, none⟩
  resourceName := ""

def readyAnswer : Answer :=
  .ofText "\x7b\"id\":\"n-1\",\"spec\":\x7b\x7d,\"status\":\x7b\"phase\":\"READY\"\x7d\x7d"

def failedAnswer : Answer :=
  .ofText "\x7b\"id\":\"n-1\",\"spec\":\x7b\x7d,\"status\":\x7b\"phase\":\"FAILED\"\x7d\x7d"

theorem ready_gives : readyAnswer.Gives Remote.decode (sampleRemote "READY") :=
  Answer.ofText_gives
    (.obj [
      ("id", .str "n-1"), ("spec", .obj []), ("status", .obj [("phase", .str "READY")])])
    (by cbv) (by cbv) (by cbv)

theorem failed_gives : failedAnswer.Gives Remote.decode (sampleRemote "FAILED") :=
  Answer.ofText_gives
    (.obj [
      ("id", .str "n-1"), ("spec", .obj []), ("status", .obj [("phase", .str "FAILED")])])
    (by cbv) (by cbv) (by cbv)

def sampleWorld (script : List Answer) : World Wire where
  peer := { script }

theorem sample_ready (script : List Answer) : Ready (sampleWorld script) script :=
  ⟨rfl, Wire.upcoming_of_script script rfl⟩

end Network

/-- A network that gets ready is created, and one whose first poll finds it failed is not. -/
theorem create_settles_network :
    (∃ state after,
      Lifecycle.create ⟨Network.kind, fun _ => none⟩ Context.plain Network.sampleConfig
          (Network.sampleWorld [Network.readyAnswer, Network.readyAnswer, Network.readyAnswer]) =
        (.ok state, after) ∧
      ∃ creation : Creation ItemKind.networks.api (fun _ => none) Context.plain
          Network.sampleConfig
          (Network.sampleWorld [Network.readyAnswer, Network.readyAnswer, Network.readyAnswer])
          after,
        state = creation.state) ∧
    ∃ after,
      Lifecycle.create ⟨Network.kind, fun _ => none⟩ Context.plain Network.sampleConfig
          (Network.sampleWorld [Network.readyAnswer, Network.failedAnswer]) =
        (.error {
          failure := .remoteFailed "remote object entered phase FAILED"
          subject := some ⟨"confluent_network", "n-1"⟩ }, after) := by
  have decoded : Lifecycle.decodeValid ⟨Network.kind, fun _ => none⟩ Network.sampleConfig =
      .ok Network.sampleState := by rfl
  have valid : Network.kind.validateCreate Network.sampleState = .ok () := by rfl
  constructor
  · obtain ⟨_, _, after, _, _, run⟩ := Api.create_of_answers ItemKind.networks.api
      (fun _ => none) Context.plain_accepting decoded valid rfl
      Network.ready_gives rfl (.one Network.ready_gives) (by cbv) (.one Network.ready_gives)
      (Network.sample_ready [Network.readyAnswer, Network.readyAnswer, Network.readyAnswer])
    exact ⟨_, after, run,
      (create_settles ItemKind.networks.api (fun _ => none) Context.plain _ _).2.1 _ _ run⟩
  · obtain ⟨submitted, submission, readySubmitted⟩ := Api.submit_of_ready
      ItemKind.networks.api (fun _ => none) Context.plain_accepting decoded valid rfl
      Network.ready_gives (Network.sample_ready [Network.readyAnswer, Network.failedAnswer])
    obtain ⟨poll, waiting, failed, _⟩ := Api.waits_of_ready ItemKind.networks.api
      (fun _ => none) ⟨Context.plain, none⟩ Context.plain_accepting rfl
      (.one Network.failed_gives) (by cbv) (by decide) .create readySubmitted
    exact ⟨poll.finish,
      (create_settles ItemKind.networks.api (fun _ => none) Context.plain _ _).2.2 _ _ _ _ _
        submission waiting poll (by simp) _ failed⟩

end Provisioner

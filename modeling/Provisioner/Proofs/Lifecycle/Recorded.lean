import Mathlib
import Provisioner.Proofs.Kinds.Classified
import Provisioner.Proofs.Lifecycle.Prompt
import Provisioner.Proofs.Lifecycle.Requests
import Provisioner.Proofs.Provider.Calls

/-!
# What a recorded state was made of

Every operation that gives a state makes it of the last object it read. A read, an import and a
lookup judge that object first. A creation and an update judge the polls before it, but not the last
read itself; so what they record can be an object whose status, or whose type, the kind does not
know.
-/

namespace Provisioner

set_option autoImplicit false

open Http

/-- The operations that give a state. -/
inductive Recording where
  | create (config : Json)
  | read (known : Json)
  | update (prior config : Json)
  | importKey (raw : String)
  | lookUp (config : Json)

namespace Recording

def run (l : Lifecycle Wire) (context : Context) : Recording → Op Wire (Option Json)
  | .create config => do pure (some (← l.create context config))
  | .read known => l.read context known
  | .update prior config => do pure (some (← l.update context prior config))
  | .importKey raw => do pure (some (← l.importKey context raw))
  | .lookUp config => do
    let key ← Operation.ofExcept (lookupKey l.kind.name config)
    pure (some (← l.importKey context key))

/-- Whether the operation judges the very object that it records. -/
def Judges : Recording → Prop
  | .create _ | .update _ _ => False
  | .read _ | .importKey _ | .lookUp _ => True

end Recording

/-- A state made of the object that the last exchanges of a run showed, with what they leave out
taken from an expected state. -/
structure Recorded (api : Api) (session : Session) (expected : api.kind.State)
    (remote : api.kind.Remote) (state : Json) (w after : World Wire) : Prop where
  looked : ∃ earlier middle looks, Transcript w.peer earlier middle ∧
    Transcript middle looks after.peer ∧ api.Seen session expected looks remote
  made : state = api.kind.encode (api.kind.toState remote expected)

namespace Recorded

variable {api : Api} {waits : Transition → Option WaitOptions} {context : Context}
  {w after : World Wire} {state : Json}

theorem of_finish {session : Session} {expected : api.kind.State} {step : String}
    {before : World Wire} {earlier : List Exchange}
    (transcript : Transcript w.peer earlier before.peer)
    (run : Lifecycle.finish ⟨api.kind, waits⟩ session expected step before =
      (.ok state, after)) :
    ∃ remote, Recorded api session expected remote state w after := by
  obtain ⟨remote, finished, read, made, rfl⟩ := Lifecycle.finish_ok_iff.mp run
  obtain ⟨looks, looking, seen⟩ := Api.seen_of_read read
  exact ⟨remote, ⟨earlier, before.peer, looks, transcript, looking, seen⟩, made⟩

theorem of_refresh {known : api.kind.State} {isNew : Bool}
    (run : Lifecycle.refresh ⟨api.kind, waits⟩ context known isNew w = (.ok (some state), after)) :
    ∃ session remote, Recorded api session known remote state w after ∧
      api.kind.Classifies remote known := by
  obtain ⟨remote, found, finished, read, classified, _, made, rfl⟩ :=
    Lifecycle.refresh_some_iff.mp run
  obtain ⟨looks, looking, seen⟩ := Api.seen_of_read read
  exact ⟨_, remote, ⟨⟨[], w.peer, looks, .none _, looking, seen⟩, made⟩, found, classified⟩

theorem of_importKey {raw : String}
    (run : Lifecycle.importKey ⟨api.kind, waits⟩ context raw w = (.ok state, after)) :
    ∃ session expected remote, Recorded api session expected remote state w after ∧
      api.kind.Classifies remote expected := by
  obtain ⟨key, _, refreshed⟩ := Lifecycle.importKey_ok_iff.mp run
  obtain ⟨session, remote, recorded, classified⟩ := of_refresh refreshed
  exact ⟨session, _, remote, recorded, classified⟩

theorem of_create {config : Json}
    (run : Lifecycle.create ⟨api.kind, waits⟩ context config w = (.ok state, after)) :
    ∃ session expected remote, Recorded api session expected remote state w after := by
  obtain ⟨desired, accepted, submitted, settled, submission, settling, finishing⟩ :=
    Lifecycle.create_ok_iff.mp run
  obtain ⟨_, _, created, creating, _⟩ := Lifecycle.submit_ok_iff.mp submission
  obtain ⟨posts, posting, _⟩ := Api.posted_of_create creating
  obtain ⟨polls, polling⟩ := (api.sends_settle waits _ accepted .create).transcript settling
  have all : Transcript w.peer (posts ++ polls) settled.peer := posting.append polling
  obtain ⟨remote, recorded⟩ := of_finish all finishing
  exact ⟨_, accepted, remote, recorded⟩

theorem of_update {priorState config : Json}
    (run : Lifecycle.update ⟨api.kind, waits⟩ context priorState config w = (.ok state, after)) :
    ∃ session desired remote, Recorded api session desired remote state w after ∧
      ∃ prior changed, api.kind.decode.fromState priorState = .ok prior ∧
        Lifecycle.prepareUpdate ⟨api.kind, waits⟩ priorState config prior =
          .ok (desired, changed) := by
  obtain ⟨prior, desired, changed, settled, decoded, prepared, writing, finishing⟩ :=
    Lifecycle.update_ok_iff.mp run
  by_cases nothing : changed = []
  · rw [if_pos nothing] at writing
    subst writing
    obtain ⟨remote, recorded⟩ := of_finish (.none _) finishing
    exact ⟨_, desired, remote, recorded, prior, changed, decoded, prepared⟩
  · rw [if_neg nothing] at writing
    obtain ⟨told, telling, settling⟩ := writing
    obtain ⟨tells, transcript⟩ := (api.sends_writes _ prior desired changed).transcript telling
    obtain ⟨polls, polling⟩ := (api.sends_settle waits _ desired .update).transcript settling
    obtain ⟨remote, recorded⟩ := of_finish (transcript.append polling) finishing
    exact ⟨_, desired, remote, recorded, prior, changed, decoded, prepared⟩

/-- Every state comes from a last look, which a judging operation has judged. -/
theorem of_run (api : Api) {waits : Transition → Option WaitOptions} {op : Recording}
    (run : op.run ⟨api.kind, waits⟩ context w = (.ok (some state), after)) :
    ∃ session expected remote, Recorded api session expected remote state w after ∧
      (op.Judges → api.kind.Classifies remote expected) := by
  cases op with
  | create config =>
    obtain ⟨session, expected, remote, recorded⟩ := of_create (Operation.some_ok_iff.mp run)
    exact ⟨session, expected, remote, recorded, False.elim⟩
  | update prior config =>
    obtain ⟨session, desired, remote, recorded, _⟩ := of_update (Operation.some_ok_iff.mp run)
    exact ⟨session, desired, remote, recorded, False.elim⟩
  | read known =>
    obtain ⟨expected, _, refreshed⟩ := Lifecycle.read_ok_iff.mp run
    obtain ⟨session, remote, recorded, classified⟩ := of_refresh refreshed
    exact ⟨session, expected, remote, recorded, fun _ => classified⟩
  | importKey raw =>
    obtain ⟨session, expected, remote, recorded, classified⟩ :=
      of_importKey (Operation.some_ok_iff.mp run)
    exact ⟨session, expected, remote, recorded, fun _ => classified⟩
  | lookUp config =>
    obtain ⟨key, _, rest⟩ := Operation.bind_ofExcept_ok_iff.mp run
    obtain ⟨session, expected, remote, recorded, classified⟩ :=
      of_importKey (Operation.some_ok_iff.mp rest)
    exact ⟨session, expected, remote, recorded, fun _ => classified⟩

end Recorded

namespace KafkaCluster

/-- The blocks of a state that choose a type. -/
def chosenBlocks (state : Json) : List String :=
  ClusterType.blockNames.filter fun name => !isBlank (state.get? name)

theorem chosenBlocks_encode (remote : Remote) (expected : State) :
    chosenBlocks (State.ofRemote remote expected).encode =
      (remote.type?.map fun type => match type with
        | .basic => "basic"
        | .standard => "standard"
        | .dedicated => "dedicated").toList := by
  unfold chosenBlocks State.ofRemote
  cases remote.type? with
  | none => rfl
  | some type => cases type <;> rfl

theorem one_block_iff (remote : Remote) (expected : State) :
    (chosenBlocks (State.ofRemote remote expected).encode).length = 1 ↔
      remote.type?.isSome = true := by
  rw [chosenBlocks_encode]
  cases remote.type? <;> simp

end KafkaCluster

/-- The object that a state was made of has been judged exactly if the operation judges what it
records or the kind knows the object anyway; and a recorded cluster has one type exactly if the
operation judges or the server reports a known type. -/
theorem recorded_classified_iff (waits : Transition → Option WaitOptions) (context : Context)
    (op : Recording) (w : World Wire) (state : Json) (after : World Wire) :
    judges.map (fun judge => judge.api.kind) = kinds ∧
      (∀ judge : Judge, op.run ⟨judge.api.kind, waits⟩ context w = (.ok (some state), after) →
        ∃ session expected remote, Recorded judge.api session expected remote state w after ∧
          (judge.api.kind.Classifies remote expected ↔ op.Judges ∨ judge.recognizes remote)) ∧
      (op.run ⟨KafkaCluster.kind, waits⟩ context w = (.ok (some state), after) →
        ∃ session, ∃ expected : KafkaCluster.State, ∃ remote : KafkaCluster.Remote,
          Recorded ItemKind.kafkaClusters.api session expected remote state w after ∧
          ((KafkaCluster.chosenBlocks state).length = 1 ↔
            op.Judges ∨ remote.type?.isSome = true)) := by
  refine ⟨kind_judges, ?_, ?_⟩
  · intro judge run
    obtain ⟨session, expected, remote, recorded, judged⟩ := Recorded.of_run judge.api run
    refine ⟨session, expected, remote, recorded, ?_⟩
    constructor
    · intro classified
      exact Or.inr ((judge.classifies_iff remote expected).mp classified)
    · intro parts
      rcases parts with judging | recognized
      · exact judged judging
      · exact (judge.classifies_iff remote expected).mpr recognized
  · intro run
    obtain ⟨session, expected, remote, recorded, judged⟩ :=
      Recorded.of_run ItemKind.kafkaClusters.api run
    refine ⟨session, expected, remote, recorded, ?_⟩
    rw [recorded.made]
    refine Iff.trans (KafkaCluster.one_block_iff remote expected) ?_
    constructor
    · exact Or.inr
    · intro parts
      rcases parts with judging | known
      · exact ((Judge.kafkaClusters.classifies_iff remote expected).mp (judged judging)).1
      · exact known

namespace KafkaCluster

def basicConfig : Json :=
  .obj [
    ("availability", .str "SINGLE_ZONE"),
    ("basic", .arr [.obj []]),
    ("cloud", .str "AWS"),
    ("display_name", .str "main"),
    ("environment", .arr [.obj [("id", .str "env-1")]]),
    ("region", .str "eu-1")]

def basicState : State where
  id := ""
  displayName := "main"
  availability := "SINGLE_ZONE"
  cloud := "AWS"
  region := "eu-1"
  basic := [()]
  standard := []
  dedicated := []
  environment := [⟨"env-1"⟩]
  network := []
  bootstrapEndpoint := ""
  restEndpoint := ""
  resourceName := ""

def provisioned (typeName : String) : Remote where
  id := "lkc-1"
  spec := { config := some ⟨typeName, none⟩ }
  status := ⟨"PROVISIONED", none, none⟩
  resourceName := ""

def basicAnswer : Answer :=
  .ofText "\x7b\"id\":\"lkc-1\",\"spec\":\x7b\"config\":\x7b\"kind\":\"Basic\"\x7d\x7d,\"status\":\x7b\"phase\":\"PROVISIONED\"\x7d\x7d"

def enterpriseAnswer : Answer :=
  .ofText "\x7b\"id\":\"lkc-1\",\"spec\":\x7b\"config\":\x7b\"kind\":\"Enterprise\"\x7d\x7d,\"status\":\x7b\"phase\":\"PROVISIONED\"\x7d\x7d"

theorem basic_gives : basicAnswer.Gives Remote.decode (provisioned "Basic") :=
  Answer.ofText_gives
    (.obj [
      ("id", .str "lkc-1"), ("spec", .obj [("config", .obj [("kind", .str "Basic")])]),
      ("status", .obj [("phase", .str "PROVISIONED")])])
    (by cbv) (by cbv) (by cbv)

theorem enterprise_gives : enterpriseAnswer.Gives Remote.decode (provisioned "Enterprise") :=
  Answer.ofText_gives
    (.obj [
      ("id", .str "lkc-1"), ("spec", .obj [("config", .obj [("kind", .str "Enterprise")])]),
      ("status", .obj [("phase", .str "PROVISIONED")])])
    (by cbv) (by cbv) (by cbv)

/-- A server that makes the cluster at once. -/
def clusterWorld (last : Answer) : World Wire where
  peer := { script := [basicAnswer, basicAnswer, last] }

theorem create_basic {final : Remote} {answer : Answer} (gives : answer.Gives Remote.decode final) :
    ∃ after, (Recording.create basicConfig).run ⟨kind, fun _ => none⟩ Context.plain
        (clusterWorld answer) =
      (.ok (some (State.ofRemote final (State.ofRemote (provisioned "Basic") basicState)).encode),
        after) := by
  have decoded : Lifecycle.decodeValid ⟨kind, fun _ => none⟩ basicConfig = .ok basicState := by
    rfl
  have ready : Ready (clusterWorld answer) [basicAnswer, basicAnswer, answer] := ⟨rfl, rfl⟩
  obtain ⟨_, _, after, _, _, run⟩ := Api.create_of_answers ItemKind.kafkaClusters.api
    (fun _ => none) Context.plain_accepting decoded (by cbv) rfl basic_gives rfl (.one basic_gives)
    (by cbv) (.one gives) ready
  exact ⟨after, Operation.some_ok_iff.mpr run⟩

/-- A server that answers the last look with a type of its own leaves a state without any type. -/
theorem create_records_unknown_type :
    ∃ state after, (Recording.create basicConfig).run ⟨kind, fun _ => none⟩ Context.plain
        (clusterWorld enterpriseAnswer) =
        (.ok (some state), after) ∧
      chosenBlocks state = [] ∧
      ∃ session expected remote,
        Recorded ItemKind.kafkaClusters.api session expected remote state
          (clusterWorld enterpriseAnswer) after ∧
        ¬kind.Classifies remote expected := by
  obtain ⟨after, run⟩ := create_basic enterprise_gives
  have noBlock : chosenBlocks
      (State.ofRemote (provisioned "Enterprise")
        (State.ofRemote (provisioned "Basic") basicState)).encode = [] := by
    rw [chosenBlocks_encode]
    rfl
  refine ⟨_, after, run, noBlock, ?_⟩
  obtain ⟨session, expected, remote, recorded, _⟩ :=
    Recorded.of_run ItemKind.kafkaClusters.api run
  refine ⟨session, expected, remote, recorded, ?_⟩
  intro classified
  have known := ((Judge.kafkaClusters.classifies_iff remote expected).mp classified).1
  have one := (one_block_iff remote expected).mpr known
  rw [show (State.ofRemote remote expected).encode = _ from recorded.made.symm, noBlock] at one
  cases one

end KafkaCluster

/-- With a last look that tells the type, the created cluster has exactly that one. -/
theorem recorded_classified_basic :
    ∃ state after, (Recording.create KafkaCluster.basicConfig).run
        ⟨KafkaCluster.kind, fun _ => none⟩ Context.plain
        (KafkaCluster.clusterWorld KafkaCluster.basicAnswer) = (.ok (some state), after) ∧
      (KafkaCluster.chosenBlocks state).length = 1 ∧
      (∃ session, ∃ expected : KafkaCluster.State, ∃ remote : KafkaCluster.Remote,
        Recorded ItemKind.kafkaClusters.api session expected remote state
          (KafkaCluster.clusterWorld KafkaCluster.basicAnswer) after ∧ remote.type?.isSome = true) ∧
      ∃ session, ∃ expected : KafkaCluster.State, ∃ remote : KafkaCluster.Remote,
        Recorded ItemKind.kafkaClusters.api session expected remote state
          (KafkaCluster.clusterWorld KafkaCluster.basicAnswer) after ∧
        (KafkaCluster.kind.Classifies remote expected ↔
          (Recording.create KafkaCluster.basicConfig).Judges ∨
            Judge.kafkaClusters.recognizes remote) := by
  obtain ⟨after, run⟩ := KafkaCluster.create_basic KafkaCluster.basic_gives
  have oneBlock : (KafkaCluster.chosenBlocks
      (KafkaCluster.State.ofRemote (KafkaCluster.provisioned "Basic")
        (KafkaCluster.State.ofRemote (KafkaCluster.provisioned "Basic")
          KafkaCluster.basicState)).encode).length = 1 := by
    rw [KafkaCluster.chosenBlocks_encode]
    rfl
  refine ⟨_, after, run, oneBlock, ?_, ?_⟩
  · obtain ⟨session, expected, remote, recorded, exact_one⟩ :=
      (recorded_classified_iff _ _ _ _ _ _).2.2 run
    refine ⟨session, expected, remote, recorded, ?_⟩
    rcases exact_one.mp oneBlock with judging | known
    · exact judging.elim
    · exact known
  · exact (recorded_classified_iff _ _ _ _ _ _).2.1 Judge.kafkaClusters run
end Provisioner

import Provisioner.Proofs.Http.Failures
import Provisioner.Proofs.Kinds.Api

/-!
# What each kind recognizes

A kind recognizes a remote object if it knows the status that the object reports, and for a cluster
also its type. Whether it does is a matter of the object alone: what is expected of it decides only
between stable and still changing. A judgement that fails says that it does not know the status.
-/

namespace Provisioner

set_option autoImplicit false

open Http (Wire)

theorem PhaseTable.classifies_iff (table : PhaseTable) (status : String) :
    (∃ state, table.classify status = .ok state) ↔ status ∈ table.statuses := by
  simp only [PhaseTable.classify_eq_ok_iff, ← Option.isSome_iff_exists, List.lookup_isSome_iff]
  unfold PhaseTable.statuses
  constructor
  · intro parts
    rcases parts with ⟨entry, member, same⟩
    rw [eq_of_beq same]
    exact List.mem_map_of_mem member
  · intro member
    obtain ⟨entry, inside, rfl⟩ := List.mem_map.mp member
    exact ⟨entry, inside, beq_self_eq_true entry.1⟩

theorem PhaseTable.unrecognized_of_classify {table : PhaseTable} {status : String} {error : Error}
    (unknown : table.classify status = .error error) : error.Unrecognized := by
  unfold classify at unknown
  split at unknown
  · cases unknown
  · cases unknown
    exact ⟨_, rfl⟩

namespace KafkaCluster

theorem unrecognized_of_type {remote : Remote} {error : Error}
    (unknown : remote.type = .error error) : error.Unrecognized := by
  unfold Remote.type at unknown
  split at unknown
  · cases unknown
  · split at unknown
    · cases unknown
      exact ⟨_, rfl⟩
    · cases unknown
      exact ⟨_, rfl⟩

theorem unrecognized_of_classify {remote : Remote} {expected : State} {error : Error}
    (failed : classify remote expected = .error error) : error.Unrecognized := by
  unfold classify at failed
  cases typed : remote.type with
  | error fault =>
    rw [typed] at failed
    cases failed
    exact unrecognized_of_type typed
  | ok type =>
    rw [typed] at failed
    cases known : phases.classify remote.status.phase with
    | error fault =>
      rw [known] at failed
      cases failed
      exact PhaseTable.unrecognized_of_classify known
    | ok phase =>
      rw [known] at failed
      cases failed

theorem type_ok_iff (remote : Remote) :
    (∃ type, remote.type = .ok type) ↔ remote.type?.isSome = true := by
  unfold Remote.type
  cases remote.type? with
  | some type => simp
  | none =>
    simp only [Option.isSome_none, Bool.false_eq_true, iff_false]
    split <;> simp [refuse]

theorem classify_ok_iff (remote : Remote) (expected : State) (state : LifecycleState) :
    classify remote expected = .ok state ↔
      remote.type?.isSome = true ∧ ∃ phase, phases.classify remote.status.phase = .ok phase ∧
        state = if phase = .stable ∧ remote.isResizing expected then .updating else phase := by
  rw [← type_ok_iff]
  unfold classify
  cases remote.type with
  | error fault => simp [bind, Except.bind]
  | ok type =>
    cases phases.classify remote.status.phase with
    | error fault => simp [bind, Except.bind]
    | ok phase =>
      simp only [bind, Except.bind, Except.ok.injEq, exists_eq', exists_eq_left', true_and]
      exact eq_comm

end KafkaCluster

namespace Connector

theorem unrecognized_of_classify {remote : Remote} {expected : State} {error : Error}
    (failed : classify remote expected = .error error) : error.Unrecognized := by
  unfold classify at failed
  cases known : phases.classify remote.status.state with
  | error fault =>
    rw [known] at failed
    cases failed
    exact PhaseTable.unrecognized_of_classify known
  | ok phase =>
    rw [known] at failed
    cases failed

theorem classify_ok_iff (remote : Remote) (expected : State) (state : LifecycleState) :
    classify remote expected = .ok state ↔
      ∃ phase, phases.classify remote.status.state = .ok phase ∧
        state = if phase = .stable ∧ expected.status ≠ "" ∧ expected.status ≠ remote.status.state
          then .updating else phase := by
  unfold classify
  cases phases.classify remote.status.state with
  | error fault => simp [bind, Except.bind]
  | ok phase =>
    simp only [bind, Except.bind, Except.ok.injEq, exists_eq_left']
    exact eq_comm

end Connector

/-- The kind can judge a remote object. -/
def Kind.Classifies {σ : Type} (kind : Kind σ) (remote : kind.Remote) (expected : kind.State) :
    Prop :=
  ∃ state, kind.classify remote expected = .ok state

/-- Which remote objects a kind can judge. -/
structure Judge where
  api : Api
  recognizes : api.kind.Remote → Prop
  classifies_iff : ∀ remote expected, api.kind.Classifies remote expected ↔ recognizes remote

namespace Judge

/-- A kind whose objects exist once they are created. -/
def always (api : Api)
    (stable : ∀ remote expected, api.kind.classify remote expected = .ok .stable) : Judge where
  api := api
  recognizes _ := True
  classifies_iff remote expected := by
    unfold Kind.Classifies
    rw [stable]
    simp

def connectors : Judge where
  api := Connector.api
  recognizes := fun remote : Connector.Remote => remote.status.state ∈ Connector.phases.statuses
  classifies_iff remote expected := by
    rw [← PhaseTable.classifies_iff]
    constructor
    · intro parts
      rcases parts with ⟨state, classified⟩
      obtain ⟨phase, known, _⟩ := (Connector.classify_ok_iff remote expected state).mp classified
      exact ⟨phase, known⟩
    · intro parts
      rcases parts with ⟨phase, known⟩
      exact ⟨_, (Connector.classify_ok_iff remote expected _).mpr ⟨phase, known, rfl⟩⟩

def kafkaClusters : Judge where
  api := ItemKind.kafkaClusters.api
  recognizes := fun remote : KafkaCluster.Remote =>
    remote.type?.isSome = true ∧ remote.status.phase ∈ KafkaCluster.phases.statuses
  classifies_iff remote expected := by
    rw [← PhaseTable.classifies_iff]
    constructor
    · intro parts
      rcases parts with ⟨state, classified⟩
      obtain ⟨type, phase, known, _⟩ :=
        (KafkaCluster.classify_ok_iff remote expected state).mp classified
      exact ⟨type, phase, known⟩
    · intro parts
      rcases parts with ⟨type, phase, known⟩
      exact ⟨_, (KafkaCluster.classify_ok_iff remote expected _).mpr ⟨type, phase, known, rfl⟩⟩

def flinkComputePools : Judge where
  api := ItemKind.flinkComputePools.api
  recognizes := fun remote : FlinkComputePool.Remote =>
    remote.status.phase ∈ FlinkComputePool.phases.statuses
  classifies_iff _ _ := PhaseTable.classifies_iff _ _

def networks : Judge where
  api := ItemKind.networks.api
  recognizes := fun remote : Network.Remote => remote.status.phase ∈ Network.phases.statuses
  classifies_iff _ _ := PhaseTable.classifies_iff _ _

end Judge

/-- The judges of every kind, in the order of names. -/
def judges : List Judge :=
  [Judge.connectors, .always ItemKind.environments.api fun _ _ => rfl, Judge.flinkComputePools,
    Judge.kafkaClusters, .always KafkaTopic.api fun _ _ => rfl, Judge.networks,
    .always ItemKind.serviceAccounts.api fun _ _ => rfl]

theorem kind_judges : judges.map (fun judge => judge.api.kind) = kinds := rfl

namespace Connector

theorem phase_stable_iff (status : String) :
    phases.classify status = .ok .stable ↔ status = running ∨ status = paused := by
  rw [PhaseTable.classify_eq_ok_iff]
  simp only [phases, List.lookup_cons, List.lookup_nil]
  constructor
  · intro found
    repeat' split at found
    all_goals simp_all
  · intro parts
    rcases parts with rfl | rfl <;> decide

theorem stable_iff (remote : Remote) (expected : State) :
    classify remote expected = .ok .stable ↔
      (remote.status.state = running ∨ remote.status.state = paused) ∧
        (expected.status = "" ∨ expected.status = remote.status.state) := by
  rw [classify_ok_iff, ← phase_stable_iff]
  constructor
  · intro parts
    rcases parts with ⟨phase, known, stable⟩
    split at stable
    · cases stable
    · next settled =>
      subst stable
      refine ⟨known, ?_⟩
      by_cases asked : expected.status = ""
      · exact Or.inl asked
      · exact Or.inr (by simpa [asked] using settled)
  · intro parts
    rcases parts with ⟨known, agrees⟩
    refine ⟨.stable, known, ?_⟩
    rw [if_neg]
    intro parts
    rcases parts with ⟨-, asked, other⟩
    rcases agrees with none | same
    · exact asked none
    · exact other same

end Connector

namespace KafkaCluster

theorem phase_stable_iff (phase : String) :
    phases.classify phase = .ok .stable ↔ phase = "PROVISIONED" := by
  rw [PhaseTable.classify_eq_ok_iff]
  simp only [phases, List.lookup_cons, List.lookup_nil]
  constructor
  · intro found
    repeat' split at found
    all_goals simp_all
  · rintro rfl
    decide

/-- A cluster is stable once it is provisioned in a known type and has the expected size. -/
theorem stable_iff (remote : Remote) (expected : State) :
    classify remote expected = .ok .stable ↔
      remote.type?.isSome = true ∧ remote.status.phase = "PROVISIONED" ∧
        remote.isResizing expected = false := by
  rw [classify_ok_iff, ← phase_stable_iff]
  constructor
  · intro parts
    rcases parts with ⟨type, phase, known, stable⟩
    split at stable
    · cases stable
    · next settled =>
      subst stable
      exact ⟨type, known, by simpa using settled⟩
  · intro parts
    rcases parts with ⟨type, known, settled⟩
    refine ⟨type, .stable, known, ?_⟩
    rw [if_neg]
    simp [settled]

theorem isResizing_eq_false_iff (remote : Remote) (expected : State) :
    remote.isResizing expected = false ↔
      ∀ size cku, single? expected.dedicated = some size → remote.status.cku = some cku →
        size.cku = cku := by
  unfold Remote.isResizing
  cases single? expected.dedicated with
  | none => simp
  | some size =>
    cases remote.status.cku with
    | none => simp
    | some cku => simp

/-- The blocks of a state choose one type. -/
structure State.HasOnly (s : State) (type : ClusterType) : Prop where
  basic : s.basic ≠ [] ↔ type = .basic
  standard : s.standard ≠ [] ↔ type = .standard
  dedicated : s.dedicated ≠ [] ↔ type = .dedicated

theorem State.HasOnly.type_eq {s : State} {type : ClusterType} (only : s.HasOnly type) :
    s.type = type := by
  obtain ⟨basic, standard, dedicated⟩ := only
  unfold State.type
  cases type <;> simp_all

end KafkaCluster

end Provisioner

import Provisioner.Proofs.Http.Conversation
import Provisioner.Proofs.Kinds.Route

/-!
# Objects that were read are there

No kind takes an object that it could read for a deleted one, whatever status the object reports,
and a status that a kind does not know is not a missing object. So only the server's answer that an
object is missing makes it gone.
-/

namespace Provisioner

set_option autoImplicit false

/-- A judgement that does not take an object for gone. -/
def KeepsPresent (judged : Except Error LifecycleState) : Prop :=
  judged ≠ .ok .deleted ∧ ¬IsNotFound judged

namespace KeepsPresent

theorem of_unrecognized {error : Error} (unknown : error.Unrecognized) :
    KeepsPresent (.error error) := by
  obtain ⟨message, rfl⟩ := unknown
  refine ⟨nofun, ?_⟩
  rw [isNotFound_error]
  exact Bool.false_ne_true

theorem of_table {table : PhaseTable} (lists : LifecycleState.deleted ∉ table.entries.map Prod.snd)
    (status : String) : KeepsPresent (table.classify status) := by
  cases judged : table.classify status with
  | ok state =>
    refine ⟨?_, by simp⟩
    rintro ⟨⟩
    rw [PhaseTable.classify_eq_ok_iff, List.lookup_eq_some_iff] at judged
    obtain ⟨before, after, split, _⟩ := judged
    apply lists
    rw [split]
    simp
  | error error => exact of_unrecognized (PhaseTable.unrecognized_of_classify judged)

theorem stable : KeepsPresent (.ok .stable) :=
  ⟨nofun, by simp⟩

theorem adjusted {judged : Except Error LifecycleState} (present : KeepsPresent judged)
    (changing : LifecycleState → Prop) [DecidablePred changing] :
    KeepsPresent (judged >>= fun state => .ok (if changing state then .updating else state)) := by
  cases judged with
  | error error =>
    obtain ⟨_, found⟩ := present
    exact ⟨nofun, by simpa [bind, Except.bind] using found⟩
  | ok state =>
    refine ⟨?_, by simp [bind, Except.bind]⟩
    intro deleted
    apply present.1
    simp only [bind, Except.bind, Except.ok.injEq] at deleted ⊢
    split at deleted
    · cases deleted
    · exact deleted

end KeepsPresent

theorem Connector.keepsPresent (remote : Connector.Remote) (expected : Connector.State) :
    KeepsPresent (Connector.classify remote expected) :=
  (KeepsPresent.of_table (by decide) _).adjusted _

theorem KafkaCluster.keepsPresent (remote : KafkaCluster.Remote) (expected : KafkaCluster.State) :
    KeepsPresent (KafkaCluster.classify remote expected) := by
  unfold KafkaCluster.classify
  cases typed : KafkaCluster.Remote.type remote with
  | ok type => exact (KeepsPresent.of_table (by decide) _).adjusted _
  | error error => exact .of_unrecognized (KafkaCluster.unrecognized_of_type typed)

/-- A kind whose judgement of an object that was read never takes it for gone. -/
structure Presence where
  route : Route
  present : ∀ remote expected, KeepsPresent (route.api.kind.classify remote expected)

namespace Presence

theorem of_route {route : Route} (listed : route ∈ Route.all) :
    ∃ presence : Presence, presence.route = route := by
  refine ⟨⟨route, ?_⟩, rfl⟩
  simp only [Route.all, List.mem_cons, List.not_mem_nil, or_false] at listed
  rcases listed with rfl | rfl | rfl | rfl | rfl | rfl | rfl <;> intro remote expected
  · exact Connector.keepsPresent remote expected
  · exact .stable
  · exact .of_table (by decide) _
  · exact KafkaCluster.keepsPresent remote expected
  · exact .stable
  · exact .of_table (by decide) _
  · exact .stable

theorem of_api {api : Api} (listed : api ∈ apis) :
    ∃ presence : Presence, presence.route.api = api := by
  have apis_eq : apis = Route.all.map (·.api) := rfl
  rw [apis_eq] at listed
  obtain ⟨route, member, rfl⟩ := List.mem_map.mp listed
  obtain ⟨presence, rfl⟩ := of_route member
  exact ⟨presence, rfl⟩

theorem of_kind {kind : Kind Http.Wire} (listed : kind ∈ kinds) :
    ∃ presence : Presence, presence.route.api ∈ apis ∧ presence.route.api.kind = kind := by
  rw [← kind_apis] at listed
  obtain ⟨api, member, rfl⟩ := List.mem_map.mp listed
  obtain ⟨presence, rfl⟩ := of_api member
  exact ⟨presence, member, rfl⟩

end Presence

end Provisioner

import Provisioner.Proofs.Kinds.Classified
import Provisioner.Proofs.Operation.Refusals

/-!
# What the checks of a kind say

Whatever a kind finds wrong before it sends a request, it says as a validation error that names no
object yet; naming it is left to the transition. The same holds of the checks that all kinds share.
-/

namespace Provisioner

set_option autoImplicit false

/-- A check that fails only with validation errors that name no object. -/
def OnlyRefuses {α : Type} (result : Except Error α) : Prop :=
  ∀ error, result = .error error → ∃ message, error = { failure := .validation message }

namespace OnlyRefuses

variable {α β : Type}

theorem accepted (value : α) : OnlyRefuses (.ok value) := nofun

theorem refused (message : String) :
    OnlyRefuses (refuse (.validation message) : Except Error α) := by
  rintro error ⟨⟩
  exact ⟨message, rfl⟩

theorem bind {first : Except Error α} {next : α → Except Error β} (head : OnlyRefuses first)
    (tail : ∀ value, first = .ok value → OnlyRefuses (next value)) :
    OnlyRefuses (first >>= next) := by
  intro error failed
  cases first with
  | error fault =>
    have same : fault = error := Except.error.inj failed
    exact head error (same ▸ rfl)
  | ok value => exact tail value rfl error failed

theorem map {result : Except Error α} (only : OnlyRefuses result) (f : α → β) :
    OnlyRefuses (result.map f) := by
  intro error failed
  cases result with
  | error fault =>
    have same : fault = error := Except.error.inj failed
    exact only error (same ▸ rfl)
  | ok value => cases failed

theorem forM {items : List α} {check : α → Except Error Unit}
    (each : ∀ item, OnlyRefuses (check item)) : OnlyRefuses (items.forM check) := by
  induction items with
  | nil => exact accepted ()
  | cons item rest ih => exact bind (each item) fun _ _ => ih

theorem isRefusal {result : Except Error α} (only : OnlyRefuses result) {error : Error}
    (failed : result = .error error) : error.isRefusal = true := by
  obtain ⟨message, rfl⟩ := only error failed
  rfl

theorem subject {result : Except Error α} (only : OnlyRefuses result) {error : Error}
    (failed : result = .error error) : error.subject = none := by
  obtain ⟨message, rfl⟩ := only error failed
  rfl

end OnlyRefuses

open OnlyRefuses (accepted refused)

theorem Schema.onlyRefuses_ensureValid (schema : Schema) (config : Json) :
    OnlyRefuses (schema.ensureValid config) := by
  unfold ensureValid
  simp only
  split
  · exact accepted ()
  · exact refused _

theorem Decoder.onlyRefuses_fromState {α : Type} (decode : Decoder α) (source : Json) :
    OnlyRefuses (decode.fromState source) := by
  unfold fromState
  split
  · exact accepted _
  · exact refused _

theorem ImportKey.onlyRefuses_parse (raw : String) (names : List String) :
    OnlyRefuses (ImportKey.parse raw names) := by
  unfold parse
  simp only
  split
  · exact accepted _
  · exact refused _

theorem onlyRefuses_requireOneOf (path value : String) (allowed : List String) :
    OnlyRefuses (requireOneOf path value allowed) := by
  unfold requireOneOf
  split
  · exact accepted ()
  · exact refused _

namespace Lifecycle

variable {σ : Type} (l : Lifecycle σ)

theorem onlyRefuses_guardUpdate (changed : List String) :
    OnlyRefuses (l.guardUpdate changed) := by
  induction changed with
  | nil => exact .accepted ()
  | cons name rest ih =>
    unfold guardUpdate
    split
    · exact .refused _
    · split
      · exact .refused _
      · exact ih

theorem onlyRefuses_prepareUpdate
    (checkChange : ∀ prior desired, OnlyRefuses (l.kind.validateUpdate prior desired))
    (priorState config : Json) (prior : l.kind.State) :
    OnlyRefuses (l.prepareUpdate priorState config prior) := by
  unfold prepareUpdate
  apply (l.kind.schema.onlyRefuses_ensureValid config).bind
  intro _ _
  apply (l.kind.decode.onlyRefuses_fromState _).bind
  intro desired _
  apply (l.onlyRefuses_guardUpdate _).bind
  intro _ _
  apply (checkChange prior desired).bind
  intro _ _
  exact .accepted _

theorem onlyRefuses_decodeValid (config : Json) : OnlyRefuses (l.decodeValid config) := by
  apply (l.kind.schema.onlyRefuses_ensureValid config).bind
  intro _ _
  exact l.kind.decode.onlyRefuses_fromState config

end Lifecycle

namespace Connector.State

theorem onlyRefuses_check (s : State) : OnlyRefuses s.check := by
  unfold check
  split
  · exact refused _
  · split
    · exact refused _
    · split
      · exact accepted ()
      · exact refused _

theorem onlyRefuses_checkChange (prior desired : State) :
    OnlyRefuses (prior.checkChange desired) := by
  unfold checkChange
  split
  · exact refused _
  · split
    · exact accepted ()
    · exact refused _

end Connector.State

namespace Environment.State

theorem onlyRefuses_check (s : State) : OnlyRefuses s.check := by
  unfold check
  split
  · exact accepted ()
  · exact onlyRefuses_requireOneOf _ _ _

theorem onlyRefuses_checkChange (prior desired : State) :
    OnlyRefuses (prior.checkChange desired) := by
  unfold checkChange
  apply OnlyRefuses.bind desired.onlyRefuses_check
  intro _ _
  split
  · split
    · exact refused _
    · exact accepted ()
  · exact accepted ()

end Environment.State

theorem FlinkComputePool.State.onlyRefuses_check (s : FlinkComputePool.State) :
    OnlyRefuses s.check := by
  unfold FlinkComputePool.State.check FlinkComputePool.State.checkSize
  apply OnlyRefuses.bind (onlyRefuses_requireOneOf _ _ _)
  intro _ _
  split
  · split
    · exact accepted ()
    · exact refused _
  · exact accepted ()

namespace KafkaCluster.State

theorem onlyRefuses_check (s : State) : OnlyRefuses s.check := by
  unfold check checkSize
  apply OnlyRefuses.bind (onlyRefuses_requireOneOf _ _ _)
  intro _ _
  apply OnlyRefuses.bind (onlyRefuses_requireOneOf _ _ _)
  intro _ _
  split
  · split
    · exact refused _
    · exact accepted ()
  · split
    · exact accepted ()
    · exact refused _

theorem onlyRefuses_checkChange (prior desired : State) :
    OnlyRefuses (prior.checkChange desired) := by
  unfold checkChange
  split
  · exact desired.onlyRefuses_check
  · exact refused _

end KafkaCluster.State

namespace KafkaTopic.State

theorem onlyRefuses_check (s : State) : OnlyRefuses s.check := by
  unfold check
  split
  · split
    · exact refused _
    · exact accepted ()
  · exact accepted ()

theorem onlyRefuses_checkChange (prior desired : State) :
    OnlyRefuses (prior.checkChange desired) := by
  unfold checkChange
  split
  · split
    · exact refused _
    · exact accepted ()
  · exact accepted ()

theorem onlyRefuses_collectionUrl (s : State) (scope : KafkaScope) :
    OnlyRefuses (s.collectionUrl scope) := by
  unfold collectionUrl
  split
  · exact refused _
  · split
    · exact refused _
    · exact accepted _

theorem onlyRefuses_url (s : State) (scope : KafkaScope) : OnlyRefuses (s.url scope) :=
  (s.onlyRefuses_collectionUrl scope).map _

end KafkaTopic.State

theorem Network.State.onlyRefuses_check (s : Network.State) : OnlyRefuses s.check := by
  unfold Network.State.check
  apply OnlyRefuses.bind (onlyRefuses_requireOneOf _ _ _)
  intro _ _
  split
  · exact refused _
  · exact .forM fun name => onlyRefuses_requireOneOf _ _ _

theorem ServiceAccount.State.onlyRefuses_check (s : ServiceAccount.State) :
    OnlyRefuses s.check := by
  unfold ServiceAccount.State.check
  split
  · exact refused _
  · exact accepted ()

/-- A kind that leaves it to the transitions to name the object: its checks, and its search for a
path, only refuse, and a judgement fails only over a status that is not known. -/
structure Api.Checks (api : Api) : Prop where
  check : ∀ state, OnlyRefuses (api.kind.validateCreate state)
  checkChange : ∀ prior desired, OnlyRefuses (api.kind.validateUpdate prior desired)
  collection : ∀ context state, OnlyRefuses (api.collection context state)
  object : ∀ context state, OnlyRefuses (api.object context state)
  writes : ∀ context prior desired changed,
    OnlyRefuses (api.writes context prior desired changed)
  unrecognized : ∀ {remote expected error},
    api.kind.classify remote expected = .error error → error.Unrecognized

theorem ItemKind.checks {item : ItemKind}
    (check : ∀ state, OnlyRefuses (item.kind.validateCreate state))
    (checkChange : ∀ prior desired, OnlyRefuses (item.kind.validateUpdate prior desired))
    (unrecognized : ∀ {remote expected error},
      item.kind.classify remote expected = .error error → error.Unrecognized) :
    item.api.Checks where
  check := check
  checkChange := checkChange
  collection _ _ := accepted _
  object _ _ := accepted _
  writes _ _ _ _ := accepted _
  unrecognized := unrecognized

theorem Connector.checks : Connector.api.Checks where
  check := Connector.State.onlyRefuses_check
  checkChange := Connector.State.onlyRefuses_checkChange
  collection _ _ := accepted _
  object _ _ := accepted _
  writes _ _ _ _ := accepted _
  unrecognized := Connector.unrecognized_of_classify

theorem KafkaTopic.checks : KafkaTopic.api.Checks where
  check := KafkaTopic.State.onlyRefuses_check
  checkChange := KafkaTopic.State.onlyRefuses_checkChange
  collection context state := KafkaTopic.State.onlyRefuses_collectionUrl state context.kafka
  object context state := KafkaTopic.State.onlyRefuses_url state context.kafka
  writes context _ desired _ := (KafkaTopic.State.onlyRefuses_url desired context.kafka).map _
  unrecognized := nofun

theorem Api.checks {api : Api} (listed : api ∈ apis) : api.Checks := by
  simp only [apis, List.mem_cons, List.not_mem_nil, or_false] at listed
  rcases listed with rfl | rfl | rfl | rfl | rfl | rfl | rfl
  · exact Connector.checks
  · exact ItemKind.checks Environment.State.onlyRefuses_check
      Environment.State.onlyRefuses_checkChange nofun
  · exact ItemKind.checks FlinkComputePool.State.onlyRefuses_check
      (fun _ desired => FlinkComputePool.State.onlyRefuses_check desired)
      PhaseTable.unrecognized_of_classify
  · exact ItemKind.checks KafkaCluster.State.onlyRefuses_check
      KafkaCluster.State.onlyRefuses_checkChange KafkaCluster.unrecognized_of_classify
  · exact KafkaTopic.checks
  · exact ItemKind.checks Network.State.onlyRefuses_check (fun _ _ => accepted ())
      PhaseTable.unrecognized_of_classify
  · exact ItemKind.checks ServiceAccount.State.onlyRefuses_check (fun _ _ => accepted ()) nofun

end Provisioner

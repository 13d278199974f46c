import Provisioner.Proofs.Kinds.Fields
import Provisioner.Proofs.Lifecycle.Requests
import Provisioner.Proofs.Plan.Merge

/-!
# Whose credentials a transition uses

A kind that sees no difference between two contexts takes the same credentials from both and makes
the same calls in both. Then so does every transition of the kind, with all its reads and waits.
Topics do not see the credentials for the platform, and the other kinds see nothing of the cluster
that topics belong to.

A topic that brings credentials of its own has them sent with all its requests. In an update these
are the ones of the new configuration: no merge takes them from the prior state.
-/

namespace Provisioner

set_option autoImplicit false

open Http
open Operation (Sends SendsFrom)

/-- The kind sees no difference between two contexts. -/
structure Kind.Blind (kind : Kind Wire) (x y : Context) : Prop where
  credentials : ∀ state, kind.credentials x state = kind.credentials y state
  create : ∀ credentials desired,
    kind.create ⟨x, credentials⟩ desired = kind.create ⟨y, credentials⟩ desired
  read : ∀ credentials known,
    kind.read ⟨x, credentials⟩ known = kind.read ⟨y, credentials⟩ known
  update : ∀ credentials prior desired changed,
    kind.update ⟨x, credentials⟩ prior desired changed =
      kind.update ⟨y, credentials⟩ prior desired changed
  delete : ∀ credentials known,
    kind.delete ⟨x, credentials⟩ known = kind.delete ⟨y, credentials⟩ known

namespace Context

variable {x y : Context}

/-- The contexts differ at most in the credentials for the platform. -/
structure AgreeButCloud (x y : Context) : Prop where
  client : x.client = y.client
  kafka : x.kafka = y.kafka

/-- The contexts differ at most in the cluster that topics belong to. -/
structure AgreeButKafka (x y : Context) : Prop where
  client : x.client = y.client
  cloudCredentials : x.cloudCredentials = y.cloudCredentials

theorem AgreeButCloud.blind (agree : x.AgreeButCloud y) : KafkaTopic.kind.Blind x y := by
  obtain ⟨client, cloud, kafka⟩ := x
  obtain ⟨client', cloud', kafka'⟩ := y
  obtain ⟨rfl, rfl⟩ := agree
  exact ⟨fun _ => rfl, fun _ _ => rfl, fun _ _ => rfl, fun _ _ _ _ => rfl, fun _ _ => rfl⟩

theorem AgreeButKafka.blind (agree : x.AgreeButKafka y) {kind : Kind Wire} (member : kind ∈ kinds)
    (other : kind.name ≠ "confluent_kafka_topic") : kind.Blind x y := by
  obtain ⟨client, cloud, kafka⟩ := x
  obtain ⟨client', cloud', kafka'⟩ := y
  obtain ⟨rfl, rfl⟩ := agree
  simp only [kinds, List.mem_cons, List.not_mem_nil, or_false] at member
  rcases member with rfl | rfl | rfl | rfl | rfl | rfl | rfl
  case inr.inr.inr.inr.inl => exact absurd rfl other
  all_goals
    exact ⟨fun _ => rfl, fun _ _ => rfl, fun _ _ => rfl, fun _ _ _ _ => rfl, fun _ _ => rfl⟩

end Context

namespace Kind.Blind

variable {kind : Kind Wire} {x y : Context} (blind : kind.Blind x y)
  (waits : Transition → Option WaitOptions)

include blind

section Steps

variable (credentials : Option Credentials) (expected : kind.State)

theorem settle_eq (transition : Transition) :
    Lifecycle.settle ⟨kind, waits⟩ ⟨x, credentials⟩ expected transition =
      Lifecycle.settle ⟨kind, waits⟩ ⟨y, credentials⟩ expected transition := by
  unfold Lifecycle.settle Lifecycle.poll
  simp only
  rw [blind.read]

theorem finish_eq (step : String) :
    Lifecycle.finish ⟨kind, waits⟩ ⟨x, credentials⟩ expected step =
      Lifecycle.finish ⟨kind, waits⟩ ⟨y, credentials⟩ expected step := by
  unfold Lifecycle.finish
  simp only
  rw [blind.read]

theorem session_eq : Lifecycle.session ⟨kind, waits⟩ x expected =
    ⟨x, kind.credentials y expected⟩ := by
  unfold Lifecycle.session
  rw [blind.credentials]

theorem refresh_eq (isNew : Bool) :
    Lifecycle.refresh ⟨kind, waits⟩ x expected isNew =
      Lifecycle.refresh ⟨kind, waits⟩ y expected isNew := by
  unfold Lifecycle.refresh
  rw [blind.session_eq]
  simp only
  rw [blind.read]
  rfl

end Steps

theorem submit_eq (config : Json) :
    Lifecycle.submit ⟨kind, waits⟩ x config = Lifecycle.submit ⟨kind, waits⟩ y config := by
  unfold Lifecycle.submit
  congr 1
  funext desired
  congr 1
  funext _
  congr 1
  funext _
  rw [blind.session_eq]
  simp only
  rw [blind.create]
  rfl

theorem create_eq (config : Json) :
    Lifecycle.create ⟨kind, waits⟩ x config = Lifecycle.create ⟨kind, waits⟩ y config := by
  unfold Lifecycle.create
  rw [blind.submit_eq]
  congr 1
  funext pair
  obtain ⟨desired, accepted⟩ := pair
  simp only
  rw [blind.session_eq, blind.settle_eq, blind.finish_eq]
  rfl

theorem read_eq (state : Json) :
    Lifecycle.read ⟨kind, waits⟩ x state = Lifecycle.read ⟨kind, waits⟩ y state := by
  unfold Lifecycle.read
  congr 1
  funext known
  rw [blind.refresh_eq]

theorem update_eq (prior config : Json) :
    Lifecycle.update ⟨kind, waits⟩ x prior config =
      Lifecycle.update ⟨kind, waits⟩ y prior config := by
  unfold Lifecycle.update
  congr 1
  funext known
  congr 1
  congr 1
  funext pair
  obtain ⟨desired, changed⟩ := pair
  simp only
  rw [blind.session_eq, blind.update, blind.settle_eq, blind.finish_eq]
  rfl

theorem delete_eq (state : Json) :
    Lifecycle.delete ⟨kind, waits⟩ x state = Lifecycle.delete ⟨kind, waits⟩ y state := by
  unfold Lifecycle.delete Lifecycle.poll
  congr 1
  funext known
  rw [blind.session_eq]
  simp only
  rw [blind.delete, blind.read]
  rfl

theorem importKey_eq (key : String) :
    Lifecycle.importKey ⟨kind, waits⟩ x key = Lifecycle.importKey ⟨kind, waits⟩ y key := by
  unfold Lifecycle.importKey
  congr 1
  congr 1
  funext parsed
  rw [blind.refresh_eq]

end Kind.Blind

namespace Api

variable {api : Api} {session : Session}

theorem credentials_of_looks {known : api.kind.State} {request : Request}
    (looks : api.Looks session known request) : request.credentials = session.credentials := by
  obtain ⟨path, _, place, _, rfl⟩ := looks
  rfl

theorem credentials_of_tells {prior desired : api.kind.State} {changed : List String}
    {request : Request} (tells : api.Tells session prior desired changed request) :
    request.credentials = session.credentials := by
  obtain ⟨writes, _, write, _, rfl⟩ := tells
  rfl

end Api

namespace KafkaTopic

variable {context : Context} {pair : Credentials} (waits : Transition → Option WaitOptions)

/-- A configuration or a state of a topic with a credentials block. -/
def Brings (json : Json) (pair : Credentials) : Prop :=
  ∃ topic, State.decode.fromState json = .ok topic ∧ single? topic.credentials = some pair

theorem credentials_of_single {topic : State} (own : single? topic.credentials = some pair)
    (context : Context) : kind.credentials context topic = some pair := by
  show (single? topic.credentials).or context.kafka.credentials = some pair
  rw [own]
  rfl

theorem credentials_of_brings {json : Json} {topic : State} (brings : Brings json pair)
    (decoded : State.decode.fromState json = .ok topic) (context : Context) :
    kind.credentials context topic = some pair := by
  obtain ⟨other, decodedOther, own⟩ := brings
  rw [decoded] at decodedOther
  cases decodedOther
  exact credentials_of_single own context

/-- The credentials block is not filled from the prior state. -/
theorem credentials_of_merged {priorState config : Json} {configured desired : State}
    (wellFormed : config.WellFormed) (valid : schema.ensureValid config = .ok ())
    (decoded : State.decode.fromState config = .ok configured)
    (merged : State.decode.fromState (schema.mergeComputed priorState config) = .ok desired) :
    desired.credentials = configured.credentials := by
  rcases obj_of_ensureValid valid with rfl | ⟨target, rfl⟩
  · cases Decoder.fromState_ok_iff.mp decoded
  · cases priorState with
    | obj source =>
      rw [mergeComputed_obj, Decoder.fromState_ok_iff] at merged
      rw [Decoder.fromState_ok_iff] at decoded
      have own := (decode_obj_iff.mp decoded).2.2.2.2.2.2
      have kept := (decode_obj_iff.mp merged).2.2.2.2.2.2
      have computed : "credentials" ∉ schema.computedNames := by decide
      have same := Fields.single_congr_lookup (sorted_merge source _ wellFormed.1) wellFormed.1
        (lookup_merge_of_not_mem computed) (some []) (Decoder.blockList decodeCredentials)
      exact Except.ok.inj (kept.symm.trans (same.trans own))
    | _ =>
      have same : State.decode.fromState (.obj target) = .ok desired := merged
      rw [decoded] at same
      rw [Except.ok.inj same]

theorem brings_create {config : Json} (brings : Brings config pair) :
    (Lifecycle.create ⟨kind, waits⟩ context config).Sends (·.credentials = some pair) := by
  show SendsFrom _ fun _ request => request.credentials = some pair
  apply SendsFrom.mono (api.sends_create waits context config)
  intro w request creates
  rcases creates with ⟨desired, path, valid, _, rfl⟩ | ⟨desired, accepted, _, run, looks⟩
  · have decoded := (Lifecycle.decodeValid_ok_iff.mp valid).2
    exact credentials_of_brings brings decoded context
  · have valid := (Lifecycle.submit_ok_iff.mp run).1
    have decoded := (Lifecycle.decodeValid_ok_iff.mp valid).2
    exact (Api.credentials_of_looks looks).trans (credentials_of_brings brings decoded context)

theorem brings_read {state : Json} (brings : Brings state pair) :
    (Lifecycle.read ⟨kind, waits⟩ context state).Sends (·.credentials = some pair) := by
  apply Sends.mono (api.sends_read_transition waits context state)
  intro request reads
  obtain ⟨known, decoded, looks⟩ := reads
  exact (Api.credentials_of_looks looks).trans (credentials_of_brings brings decoded context)

theorem brings_update {prior config : Json} (wellFormed : config.WellFormed)
    (brings : Brings config pair) :
    (Lifecycle.update ⟨kind, waits⟩ context prior config).Sends (·.credentials = some pair) := by
  apply Sends.mono (api.sends_update waits context prior config)
  intro request updates
  obtain ⟨known, desired, changed, _, prepared, sent⟩ := updates
  obtain ⟨valid, merged, _⟩ := Lifecycle.prepareUpdate_ok_iff.mp prepared
  obtain ⟨configured, decoded, own⟩ := brings
  have carried : single? desired.credentials = some pair := by
    rw [credentials_of_merged wellFormed valid decoded merged]
    exact own
  have used := credentials_of_single carried context
  rcases sent with tells | looks
  · exact (Api.credentials_of_tells tells).trans used
  · exact (Api.credentials_of_looks looks).trans used

theorem brings_delete {state : Json} (brings : Brings state pair) :
    (Lifecycle.delete ⟨kind, waits⟩ context state).Sends (·.credentials = some pair) := by
  apply Sends.mono (api.sends_delete waits context state)
  intro request deletes
  obtain ⟨known, decoded, sent⟩ := deletes
  have own := credentials_of_brings brings decoded context
  rcases sent with ⟨path, _, rfl⟩ | looks
  · exact own
  · exact (Api.credentials_of_looks looks).trans own

end KafkaTopic

end Provisioner

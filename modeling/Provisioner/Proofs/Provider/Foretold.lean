import Provisioner.Proofs.Kinds.Checks
import Provisioner.Proofs.Kinds.Presence
import Provisioner.Proofs.Provider.Refused
import Provisioner.Proofs.Validation

/-!
# What a validation foretells

A host may ask what is wrong with a configuration before it creates anything. A creation checks the
same again, in the same order, before its first request. Only a topic can be refused there for a
reason that no validation sees: its cluster and its endpoint may be those of the provider.
-/

namespace Provisioner

set_option autoImplicit false

open Http
open Error (IsFault admitsRuns_isFault)
open Operation (FailsOnly)

/-- The operation ends in a validation error and has sent nothing by then. -/
def Op.RefusedUnsent {α : Type} (op : Op Wire α) (w : World Wire) : Prop :=
  ∃ error after, op w = (.error error, after) ∧ error.failure.kind = "Validation" ∧ op.sent w = []

theorem Op.refusedUnsent_of_refusal {α : Type} {op : Op Wire α} {w after : World Wire}
    {error : Error} (failed : op w = (.error error, after)) (refusal : error.isRefusal = true)
    (kept : after.peer = w.peer) : op.RefusedUnsent w := by
  refine ⟨error, after, failed, error.isRefusal_iff.mp refusal, ?_⟩
  apply Operation.sent_of_peer_eq
  rw [failed]
  exact kept

namespace Lifecycle

variable {σ : Type} (l : Lifecycle σ) (context : Context) {config : Json} (w : World σ)

theorem validate_clean_iff (config : Json) :
    l.validate config = [] ↔ ∃ desired, l.decodeValid config = .ok desired ∧
      l.kind.validateCreate desired = .ok () := by
  rw [validate_eq_nil_iff]
  simp only [decodeValid_ok_iff, Schema.ensureValid_iff_validate, and_assoc, exists_and_left]

theorem submit_of_invalid (check : ∀ state, OnlyRefuses (l.kind.validateCreate state))
    (invalid : l.validate config ≠ []) :
    ∃ error, l.submit context config w = (.error error, w) ∧ error.isRefusal = true := by
  unfold submit
  cases decoded : l.decodeValid config with
  | error error =>
    have only := l.onlyRefuses_decodeValid config
    exact ⟨error, rfl, only.isRefusal decoded⟩
  | ok desired =>
    cases checked : l.kind.validateCreate desired with
    | error error =>
      have refused : (Operation.ofExcept (l.kind.validateCreate desired) : Op σ Unit) w =
          (.error error, w) := by
        rw [checked]
        rfl
      refine ⟨error, ?_, (check desired).isRefusal checked⟩
      exact Operation.bind_of_error refused _
    | ok _ => exact absurd ((l.validate_clean_iff config).mpr ⟨desired, decoded, checked⟩) invalid

end Lifecycle

namespace Route

variable (route : Route) (waits : Transition → Option WaitOptions) (context : Context)
  {config : Json} (w : World Wire)

theorem create_of_invalid (checks : route.api.Checks)
    (invalid : Lifecycle.validate ⟨route.api.kind, waits⟩ config ≠ []) :
    (Lifecycle.create ⟨route.api.kind, waits⟩ context config).RefusedUnsent w := by
  obtain ⟨error, submitting, refusal⟩ :=
    Lifecycle.submit_of_invalid ⟨route.api.kind, waits⟩ context w checks.check invalid
  have creating := Lifecycle.create_of_unsubmitted submitting
  exact Op.refusedUnsent_of_refusal creating (by rw [Error.isRefusal_about, refusal]) rfl

section Valid

variable {desired : route.api.kind.State}
  (decoded : Lifecycle.decodeValid ⟨route.api.kind, waits⟩ config = .ok desired)
  (valid : route.api.kind.validateCreate desired = .ok ())

include decoded valid

/-- What a creation does without a place to post to. -/
theorem create_of_nowhere {error : Error}
    (nowhere : route.api.collection context desired = .error error) :
    Lifecycle.create ⟨route.api.kind, waits⟩ context config w =
      (.error (error.about route.api.kind.name none),
        Lifecycle.logged ⟨route.api.kind, waits⟩ "Creating" desired w) := by
  apply Lifecycle.create_of_unsubmitted
  rw [Lifecycle.submit_of_checked decoded valid]
  apply Operation.bind_of_error
  simp only [Lifecycle.session]
  rw [route.api.create_eq, nowhere]
  rfl

theorem refusedUnsent_of_nowhere {message : String}
    (nowhere : route.api.collection context desired =
      .error { failure := .validation message }) :
    (Lifecycle.create ⟨route.api.kind, waits⟩ context config).RefusedUnsent w ∧
      ∀ error after, Lifecycle.create ⟨route.api.kind, waits⟩ context config w =
        (.error error, after) → error.failure = .validation message := by
  have creating := create_of_nowhere route waits context w decoded valid nowhere
  refine ⟨Op.refusedUnsent_of_refusal creating rfl rfl, ?_⟩
  intro error after failed
  rw [creating] at failed
  cases failed
  rfl

theorem fault_of_submit {path : String}
    (somewhere : route.api.collection context desired = .ok path) {error : Error}
    {after : World Wire}
    (failed : Lifecycle.submit ⟨route.api.kind, waits⟩ context config w = (.error error, after)) :
    error.IsFault := by
  rw [Lifecycle.submit_of_checked decoded valid] at failed
  have faults : (do
      let created ← route.api.kind.create
        (Lifecycle.session ⟨route.api.kind, waits⟩ context desired) desired
      pure (desired, route.api.kind.toState created desired) : Op Wire _).FailsOnly IsFault := by
    simp only [Lifecycle.session]
    rw [route.api.create_eq, bind_assoc, somewhere]
    apply FailsOnly.after (fun _ impossible => by cases impossible)
    intro _ _
    apply FailsOnly.bind (admitsRuns_isFault.call _ .post _ _ route.api.created)
    intro created
    exact .pure _
  exact faults.allowed_of_run failed

/-- With a place to post to, a refusal comes after the POST. -/
theorem not_refusedUnsent_of_somewhere {path : String}
    (somewhere : route.api.collection context desired = .ok path) :
    ¬(Lifecycle.create ⟨route.api.kind, waits⟩ context config).RefusedUnsent w := by
  intro refused
  obtain ⟨error, after, failed, kind, unsent⟩ := refused
  have refusal : ¬error.IsFault := ne_false_of_eq_true (error.isRefusal_iff.mpr kind)
  rcases submission : Lifecycle.submit ⟨route.api.kind, waits⟩ context config w with
    ⟨fault | ⟨given, accepted⟩, submitted⟩
  · have creating := Lifecycle.create_of_unsubmitted submission
    rw [failed] at creating
    cases creating
    have faulty := fault_of_submit route waits context w decoded valid somewhere submission
    exact refusal ((Error.isRefusal_about fault _ _).trans faulty)
  · cases located : route.api.object context accepted with
    | ok found => exact refusal (create_faults_of_object submission located failed)
    | error missing =>
      -- The creation ends where its POST has left the wire.
      have creating := create_of_missing submission located
      rw [failed] at creating
      obtain ⟨_, rfl⟩ := Prod.mk.inj creating
      obtain ⟨exchanges, _, some, transcript, _⟩ := posted_of_submit submission
      rw [Operation.sent_of_transcript (by rw [failed]; exact transcript)] at unsent
      exact some (List.map_eq_nil_iff.mp unsent)

end Valid

end Route

namespace KafkaTopic

/-- Neither the configuration nor the provider names a cluster. -/
def unclustered : Failure :=
  .validation "the Kafka cluster is not set: set 'kafka_cluster' or the provider's 'kafka_id'"

/-- Neither the configuration nor the provider names an endpoint. -/
def unreachable : Failure :=
  .validation ("the Kafka REST endpoint is not set: "
    ++ "set 'rest_endpoint' or the provider's 'kafka_rest_endpoint'")

theorem collectionUrl_cases (state : State) (scope : KafkaScope) :
    (∃ url, state.collectionUrl scope = .ok url ∧
        state.clusterId scope ≠ "" ∧ state.endpoint scope ≠ "") ∨
      (state.collectionUrl scope = .error { failure := unclustered } ∧
        state.clusterId scope = "") ∨
      (state.collectionUrl scope = .error { failure := unreachable } ∧
        state.endpoint scope = "") := by
  unfold State.collectionUrl
  simp only [String.isEmpty_iff]
  by_cases cluster : state.clusterId scope = ""
  · exact Or.inr (Or.inl ⟨if_pos cluster, cluster⟩)
  · rw [if_neg cluster]
    by_cases endpoint : state.endpoint scope = ""
    · exact Or.inr (Or.inr ⟨if_pos endpoint, endpoint⟩)
    · exact Or.inl ⟨_, if_neg endpoint, cluster, endpoint⟩

/-- The creation is refused before its first request exactly if the cluster or the endpoint of the
topic is not known, and says which. -/
structure RefusedUnplaced (creation : Op Wire Json) (context : Context) (desired : State)
    (w : World Wire) : Prop where
  refused_iff : creation.RefusedUnsent w ↔
    desired.clusterId context.kafka = "" ∨ desired.endpoint context.kafka = ""
  told : ∀ error after, creation w = (.error error, after) → error.failure.kind = "Validation" →
    creation.sent w = [] →
      (desired.clusterId context.kafka = "" ∧ error.failure = unclustered) ∨
      (desired.endpoint context.kafka = "" ∧ error.failure = unreachable)

theorem create_refused_unplaced (waits : Transition → Option WaitOptions) (context : Context)
    {config : Json} (w : World Wire) {desired : State}
    (decoded : Lifecycle.decodeValid ⟨kind, waits⟩ config = .ok desired)
    (valid : kind.validateCreate desired = .ok ()) :
    RefusedUnplaced (Lifecycle.create ⟨kind, waits⟩ context config) context desired w := by
  rcases collectionUrl_cases desired context.kafka with
    ⟨url, posted, cluster, endpoint⟩ | ⟨nowhere, missing⟩ | ⟨nowhere, missing⟩
  · have never := Route.kafkaTopics.not_refusedUnsent_of_somewhere waits context w decoded valid
      posted
    refine ⟨iff_of_false never (not_or.mpr ⟨cluster, endpoint⟩), ?_⟩
    intro error after failed kind unsent
    exact absurd ⟨error, after, failed, kind, unsent⟩ never
  · obtain ⟨refused, told⟩ := Route.kafkaTopics.refusedUnsent_of_nowhere waits context w decoded
      valid nowhere
    exact ⟨iff_of_true refused (Or.inl missing),
      fun error after failed _ _ => Or.inl ⟨missing, told error after failed⟩⟩
  · obtain ⟨refused, told⟩ := Route.kafkaTopics.refusedUnsent_of_nowhere waits context w decoded
      valid nowhere
    exact ⟨iff_of_true refused (Or.inr missing),
      fun error after failed _ _ => Or.inr ⟨missing, told error after failed⟩⟩

end KafkaTopic

theorem Api.collection_of_other {api : Api} (listed : api ∈ apis)
    (other : api.kind.name ≠ "confluent_kafka_topic") (context : Context)
    (desired : api.kind.State) : ∃ path, api.collection context desired = .ok path := by
  simp only [apis, List.mem_cons, List.not_mem_nil, or_false] at listed
  rcases listed with rfl | rfl | rfl | rfl | rfl | rfl | rfl
  · exact ⟨_, rfl⟩
  · exact ⟨_, rfl⟩
  · exact ⟨_, rfl⟩
  · exact ⟨_, rfl⟩
  · exact absurd rfl other
  · exact ⟨_, rfl⟩
  · exact ⟨_, rfl⟩

namespace Provider

variable {p : Provider}

theorem create_of_kind {kind : Kind Wire} (listed : kind ∈ kinds) {context : Context}
    (configured : p.context = some context) (config : Json) :
    p.create kind.name config = (p.lifecycle kind).create context config :=
  transition_of_kind listed configured _

theorem validate_of_kind (p : Provider) {kind : Kind Wire} (listed : kind ∈ kinds)
    (config : Json) : p.validate kind.name config = .ok ((p.lifecycle kind).validate config) := by
  unfold validate
  rw [p.lifecycle_of_kind listed]

/-- What validating a configuration tells of its creation, for every kind, configuration and world,
whatever the answers and the time at which the host asks to stop. -/
theorem validation_foretells_creation {context : Context} (configured : p.context = some context)
    (config : Json) (w : World Wire) :
    (∀ kind ∈ kinds, kind.name ≠ "confluent_kafka_topic" →
      ∃ diagnostics, p.validate kind.name config = .ok diagnostics ∧
        (diagnostics ≠ [] ↔ (p.create kind.name config).RefusedUnsent w)) ∧
    ∃ diagnostics, p.validate "confluent_kafka_topic" config = .ok diagnostics ∧
      (diagnostics ≠ [] → (p.create "confluent_kafka_topic" config).RefusedUnsent w) ∧
      (diagnostics = [] → ∃ desired, KafkaTopic.kind.decode.fromState config = .ok desired ∧
        KafkaTopic.RefusedUnplaced (p.create "confluent_kafka_topic" config) context desired
          w) := by
  constructor
  · intro kind listed other
    rw [create_of_kind listed configured]
    refine ⟨_, p.validate_of_kind listed config, ?_⟩
    obtain ⟨presence, member, rfl⟩ := Presence.of_kind listed
    constructor
    · intro invalid
      exact presence.route.create_of_invalid (fun _ => p.waits) context w (Api.checks member)
        invalid
    · intro refused clean
      obtain ⟨desired, decoded, valid⟩ := (Lifecycle.validate_clean_iff _ config).mp clean
      obtain ⟨path, somewhere⟩ := Api.collection_of_other member other context desired
      exact presence.route.not_refusedUnsent_of_somewhere (fun _ => p.waits) context w decoded
        valid somewhere refused
  · have creates : p.create "confluent_kafka_topic" config = _ :=
      create_of_kind KafkaTopic.kind_listed configured config
    rw [creates]
    refine ⟨_, p.validate_of_kind KafkaTopic.kind_listed config, ?_, ?_⟩
    · intro invalid
      exact Route.kafkaTopics.create_of_invalid (fun _ => p.waits) context w KafkaTopic.checks
        invalid
    · intro clean
      obtain ⟨desired, decoded, valid⟩ := (Lifecycle.validate_clean_iff _ config).mp clean
      exact ⟨desired, (Lifecycle.decodeValid_ok_iff.mp decoded).2,
        KafkaTopic.create_refused_unplaced (fun _ => p.waits) context w decoded valid⟩

/-- A service account with a blank name is refused as foretold, and so is a topic without an
endpoint, which no validation reports on. -/
theorem validation_foretells_refused :
    KafkaTopic.plainProvider.context = some Context.plain ∧
    (∃ found, KafkaTopic.plainProvider.validate "confluent_service_account"
        (.obj [("display_name", .str " ")]) = .ok [found] ∧
      (KafkaTopic.plainProvider.create "confluent_service_account"
        (.obj [("display_name", .str " ")])).RefusedUnsent { peer := {} }) ∧
    KafkaTopic.plainProvider.validate "confluent_kafka_topic"
      (.obj [("kafka_cluster", .arr [.obj [("id", .str "lkc-1")]]),
        ("topic_name", .str "orders")]) = .ok [] ∧
    (KafkaTopic.plainProvider.create "confluent_kafka_topic"
      (.obj [("kafka_cluster", .arr [.obj [("id", .str "lkc-1")]]),
        ("topic_name", .str "orders")])).RefusedUnsent { peer := {} } := by
  have configured : KafkaTopic.plainProvider.context = some Context.plain := rfl
  refine ⟨configured, ?_, ?_⟩
  · have blank : ∃ found, KafkaTopic.plainProvider.validate "confluent_service_account"
        (.obj [("display_name", .str " ")]) = .ok [found] := ⟨_, rfl⟩
    obtain ⟨found, reported⟩ := blank
    obtain ⟨diagnostics, same, foretold⟩ := (validation_foretells_creation configured
      (.obj [("display_name", .str " ")]) { peer := {} }).1 ServiceAccount.kind (by simp [kinds])
        (by decide)
    cases reported.symm.trans same
    exact ⟨found, reported, foretold.mp (by simp)⟩
  · have clean : KafkaTopic.plainProvider.validate "confluent_kafka_topic"
        (.obj [("kafka_cluster", .arr [.obj [("id", .str "lkc-1")]]),
          ("topic_name", .str "orders")]) = .ok [] := by rfl
    obtain ⟨diagnostics, same, _, foretold⟩ := (validation_foretells_creation configured
      (.obj [("kafka_cluster", .arr [.obj [("id", .str "lkc-1")]]),
        ("topic_name", .str "orders")]) { peer := {} }).2
    cases clean.symm.trans same
    obtain ⟨desired, decoded, unplaced⟩ := foretold rfl
    refine ⟨clean, unplaced.refused_iff.mpr (Or.inr ?_)⟩
    cases decoded
    rfl

end Provider

end Provisioner

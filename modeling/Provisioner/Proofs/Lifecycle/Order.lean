import Provisioner.Proofs.Lifecycle.Conversation
import Provisioner.Proofs.Lifecycle.Settled
import Provisioner.Proofs.Lifecycle.Target

/-!
# The order of requests

A read, an import and a lookup only look. A creation posts one request, tries it until it is
accepted and only then looks at the new object; a deletion does the same with its one request. An
update sends its writes one after the other, each once it is certain that the ones before it were
accepted, and looks after the last of them. What is written is settled before anything is sent, so
no answer and no stop request adds a write.
-/

namespace Provisioner

set_option autoImplicit false

open Http
open Operation (Traces)

/-- The writes of an update: changes in place, and the one that a topic posts to alter its settings.
-/
def Write.ChangesInPlace (write : Write) : Prop :=
  write.method = .patch ∨ write.method = .put ∨
    (write.method = .post ∧ ∃ path, write.path = path ++ "/configs:alter")

theorem KafkaTopic.changes_in_place {url : String} {prior desired : State}
    {changed : List String} {write : Write} (member : write ∈ writes url prior desired changed) :
    write.ChangesInPlace := by
  unfold writes at member
  rcases List.mem_append.mp member with partitions | settings
  · split at partitions
    · obtain ⟨count, _, rfl⟩ := Option.map_eq_some_iff.mp (Option.mem_toList.mp partitions)
      exact Or.inl rfl
    · cases partitions
  · split at settings
    · rw [List.mem_singleton.mp settings]
      exact Or.inr (Or.inr ⟨rfl, url, rfl⟩)
    · cases settings

theorem Connector.changes_in_place {prior desired : State} {changed : List String} {write : Write}
    (member : write ∈ writes prior desired changed) : write.ChangesInPlace := by
  unfold writes at member
  rcases List.mem_append.mp member with settings | status
  · split at settings
    · rw [List.mem_singleton.mp settings]
      exact Or.inr (Or.inl rfl)
    · cases settings
  · split at status
    · obtain ⟨action, _, rfl⟩ := Option.map_eq_some_iff.mp (Option.mem_toList.mp status)
      exact Or.inr (Or.inl rfl)
    · cases status

theorem ItemKind.changes_in_place (item : ItemKind) {context : Context}
    {prior desired : item.kind.State} {changed : List String} {writes : List Write}
    (found : item.api.writes context prior desired changed = .ok writes) {write : Write}
    (member : write ∈ writes) : write.ChangesInPlace := by
  cases found
  rw [List.mem_singleton.mp member]
  exact Or.inl rfl

theorem Api.changes_in_place {api : Api} (listed : api ∈ apis) {context : Context}
    {prior desired : api.kind.State} {changed : List String} {writes : List Write}
    (found : api.writes context prior desired changed = .ok writes) {write : Write}
    (member : write ∈ writes) : write.ChangesInPlace := by
  simp only [apis, List.mem_cons, List.not_mem_nil, or_false] at listed
  rcases listed with rfl | rfl | rfl | rfl | rfl | rfl | rfl
  · cases found
    exact Connector.changes_in_place member
  · exact ItemKind.environments.changes_in_place found member
  · exact ItemKind.flinkComputePools.changes_in_place found member
  · exact ItemKind.kafkaClusters.changes_in_place found member
  · have located : (KafkaTopic.State.url desired context.kafka).map
      (fun url => KafkaTopic.writes url prior desired changed) = .ok writes := found
    cases url : KafkaTopic.State.url desired context.kafka with
    | error error =>
      rw [url] at located
      cases located
    | ok path =>
      rw [url] at located
      cases located
      exact KafkaTopic.changes_in_place member
  · exact ItemKind.networks.changes_in_place found member
  · exact ItemKind.serviceAccounts.changes_in_place found member

/-- What an update writes changes its object in place, and is nothing if no name has changed. -/
theorem Api.requests_in_place {api : Api} (listed : api ∈ apis)
    {waits : Transition → Option WaitOptions} {context : Context} {priorState config : Json}
    {requests : List Request}
    (settled : api.updateRequests waits context priorState config = .ok requests) :
    (∀ request ∈ requests, ∃ credentials write, Write.ChangesInPlace write ∧
      request = write.request ⟨context, credentials⟩) ∧
    (api.kind.schema.changedNames priorState
      (api.kind.schema.mergeComputed priorState config) = [] → requests = []) := by
  obtain ⟨prior, desired, changed, _, prepared, writes⟩ := updateRequests_ok_iff.mp settled
  have named := (Lifecycle.prepareUpdate_ok_iff.mp prepared).2.2.1
  rcases writes with ⟨_, rfl⟩ | ⟨changes, writes, found, rfl⟩
  · exact ⟨nofun, fun _ => rfl⟩
  · refine ⟨?_, fun unchanged => absurd (named.trans unchanged) changes⟩
    intro request member
    obtain ⟨write, inside, rfl⟩ := List.mem_map.mp member
    exact ⟨_, write, changes_in_place listed found inside, rfl⟩

/-- The order of the requests of every transition of every kind, for every input, whatever the
waits, the answers and the time at which the host asks to stop. -/
theorem writes_before_looks {api : Api} (listed : api ∈ apis)
    {configuration : Configuration} {context : Context}
    (configured : Context.ofConfiguration configuration = .ok context)
    (waits : Transition → Option WaitOptions) :
    let l : Lifecycle Wire := ⟨api.kind, waits⟩
    (∀ state stop, (l.read context state).Traces stop fun exchanges _ =>
      ∀ exchange ∈ exchanges, exchange.sent.request.method = .get) ∧
    (∀ raw stop, (l.importKey context raw).Traces stop fun exchanges _ =>
      ∀ exchange ∈ exchanges, exchange.sent.request.method = .get) ∧
    (∀ config stop, ((Recording.lookUp config).run l context).Traces stop fun exchanges _ =>
      ∀ exchange ∈ exchanges, exchange.sent.request.method = .get) ∧
    (∀ config, ∃ request : Request, request.method = .post ∧
      ∀ stop, (l.create context config).Traces stop (WritesFirst [request])) ∧
    (∀ priorState config,
      match api.updateRequests waits context priorState config with
      | .error _ => ∀ w, ∃ fault, l.update context priorState config w = (.error fault, w)
      | .ok requests =>
        (∀ request ∈ requests, ∃ credentials write, Write.ChangesInPlace write ∧
          request = write.request ⟨context, credentials⟩) ∧
        (api.kind.schema.changedNames priorState
          (api.kind.schema.mergeComputed priorState config) = [] → requests = []) ∧
        ∀ stop, (l.update context priorState config).Traces stop (WritesFirst requests)) ∧
    (∀ state, ∃ request : Request, request.method = .delete ∧
      ∀ stop, (l.delete context state).Traces stop (WritesFirst [request])) := by
  obtain ⟨presence, rfl⟩ := Presence.of_api listed
  have decided := Context.decisive_of_configuration configured
  have looked : ∀ {α : Type} {stop : Option Nat} {exchanges : List Exchange}
      {result : Except Error α}, Conversation [] stop exchanges result →
        ∀ exchange ∈ exchanges, exchange.sent.request.method = .get := by
    intro α stop exchanges result conversation
    cases conversation.ordered with
    | looked gets => exact gets
  refine ⟨?_, ?_, ?_, ?_, ?_, ?_⟩
  · intro state stop
    exact (presence.traces_read_state waits stop decided state).mono fun _ _ looks => looks.gets
  · intro raw stop
    exact (presence.traces_importKey waits stop decided raw).mono fun _ _ => looked
  · intro config stop
    exact (presence.traces_lookUp waits stop decided config).mono fun _ _ => looked
  · intro config
    obtain ⟨request, post, traces⟩ := presence.traces_create waits decided config
    exact ⟨request, post, fun stop =>
      (traces stop).mono fun _ _ conversation => conversation.ordered⟩
  · intro priorState config
    cases settled : presence.route.api.updateRequests waits context priorState config with
    | error error => exact fun w => presence.update_of_refused waits settled w
    | ok requests =>
      obtain ⟨inPlace, unchanged⟩ := Api.requests_in_place listed settled
      exact ⟨inPlace, unchanged, fun stop => (presence.traces_update waits decided settled
        stop).mono fun _ _ conversation => conversation.ordered⟩
  · intro state
    obtain ⟨request, delete, traces⟩ := presence.traces_delete waits decided state
    exact ⟨request, delete, fun stop =>
      (traces stop).mono fun _ _ deletion => deletion.ordered⟩

namespace Environment

def renamedAnswer : Answer := .ofText "\x7b\"display_name\":\"b\",\"id\":\"env-1\"\x7d"

theorem renamed_gives : renamedAnswer.Gives Remote.decode ⟨"env-1", "b", none, ""⟩ :=
  Answer.ofText_gives (.obj [("display_name", .str "b"), ("id", .str "env-1")])
    (by cbv) (by cbv) (by cbv)

def renamedWorld : World Wire where
  peer := { script := [acceptedAnswer, renamedAnswer, renamedAnswer] }

def renamingRequest : Request :=
  Write.request ⟨Context.plain, none⟩ ⟨.patch, path "env-1", some (renamed "env-1").body⟩

theorem prepared_renaming :
    Lifecycle.prepareUpdate ⟨kind, fun _ => none⟩ knownJson (renamingConfig []) known =
      .ok (renamed "env-1", ["display_name"]) := by rfl

theorem requests_renaming :
    ItemKind.environments.api.updateRequests (fun _ => none) Context.plain knownJson
      (renamingConfig []) = .ok [renamingRequest] :=
  Api.updateRequests_ok_iff.mpr
    ⟨known, renamed "env-1", ["display_name"], known_decoded, prepared_renaming,
      Or.inr ⟨by simp, [⟨.patch, path "env-1", some (renamed "env-1").body⟩], rfl, rfl⟩⟩

end Environment

/-- A network that gets ready is created by one POST and looks after it, and an environment gets
another name by one PATCH and looks after it. -/
theorem writes_before_looks_network :
    (ItemKind.networks.api ∈ apis ∧ ItemKind.environments.api ∈ apis ∧
      Context.ofConfiguration { maxRetries := some 0 } = .ok Context.plain) ∧
    (∃ request state after exchanges,
      Lifecycle.create ⟨Network.kind, fun _ => none⟩ Context.plain Network.sampleConfig
          (Network.sampleWorld [Network.readyAnswer, Network.readyAnswer, Network.readyAnswer]) =
        (.ok state, after) ∧
      Transcript { script := [Network.readyAnswer, Network.readyAnswer, Network.readyAnswer] }
        exchanges after.peer ∧
      request.method = .post ∧ WritesFirst [request] exchanges (.ok state)) ∧
    ∃ state after exchanges,
      Lifecycle.update ⟨Environment.kind, fun _ => none⟩ Context.plain Environment.knownJson
          (Environment.renamingConfig []) Environment.renamedWorld = (.ok state, after) ∧
      Transcript Environment.renamedWorld.peer exchanges after.peer ∧
      WritesFirst [Environment.renamingRequest] exchanges (.ok state) := by
  have networks : ItemKind.networks.api ∈ apis := by simp [apis]
  have environments : ItemKind.environments.api ∈ apis := by simp [apis]
  refine ⟨⟨networks, environments, Context.plain_configured⟩, ?_, ?_⟩
  · have order := writes_before_looks networks Context.plain_configured fun _ => none
    obtain ⟨request, post, traces⟩ := order.2.2.2.1 Network.sampleConfig
    have decoded : Lifecycle.decodeValid ⟨Network.kind, fun _ => none⟩ Network.sampleConfig =
        .ok Network.sampleState := by rfl
    have valid : Network.kind.validateCreate Network.sampleState = .ok () := by rfl
    obtain ⟨_, _, after, _, _, run⟩ := Api.create_of_answers ItemKind.networks.api
      (fun _ => none) Context.plain_accepting decoded valid rfl
      Network.ready_gives rfl (.one Network.ready_gives) (by cbv) (.one Network.ready_gives)
      (Network.sample_ready [Network.readyAnswer, Network.readyAnswer, Network.readyAnswer])
    obtain ⟨exchanges, transcript, ordered⟩ := (traces none).of_run rfl run
    exact ⟨request, _, after, exchanges, run, transcript, post, ordered⟩
  · have order := writes_before_looks environments Context.plain_configured fun _ => none
    have updates := order.2.2.2.2.1 Environment.knownJson (Environment.renamingConfig [])
    rw [Environment.requests_renaming] at updates
    have ready : Ready Environment.renamedWorld
        [Environment.acceptedAnswer, Environment.renamedAnswer, Environment.renamedAnswer] :=
      ⟨rfl, rfl⟩
    obtain ⟨after, run⟩ := Api.update_of_answers ItemKind.environments.api (fun _ => none)
      Context.plain_accepting Environment.known_decoded Environment.prepared_renaming (by simp) rfl
      Environment.accepted_succeeds rfl (.one Environment.renamed_gives) rfl
      (.one Environment.renamed_gives) ready
    obtain ⟨exchanges, transcript, ordered⟩ := (updates.2.2 none).of_run rfl run
    exact ⟨_, after, exchanges, run, transcript, ordered⟩

end Provisioner

import Provisioner.Proofs.Lifecycle.Conversation

/-!
# When an object counts as gone

Only the server says that an object is gone, and it says so with the answer that the object is
missing. A read of a known object and the wait of a deletion take this for their result; to every
other request it is an error, which ends the operation. No status, no failure to deliver and no
answer that can not be read makes an object gone.
-/

namespace Provisioner

set_option autoImplicit false

open Http
open Operation (Traces)

namespace Http.WritesFirst

variable {α : Type} {request : Request} {exchanges : List Exchange} {result : Except Error α}

theorem write_or_get (ordered : WritesFirst [request] exchanges result) {exchange : Exchange}
    (member : exchange ∈ exchanges) :
    exchange.sent.request = request ∨ exchange.sent.request.method = .get := by
  cases ordered with
  | failed tried => exact Or.inl (tried.only exchange member)
  | written tried _ following =>
    rcases List.mem_append.mp member with inTries | inLooks
    · exact Or.inl (tried.only exchange inTries)
    · cases following with
      | looked gets => exact Or.inr (gets exchange inLooks)

theorem accepted {value : α} (ordered : WritesFirst [request] exchanges (.ok value)) :
    ∃ exchange ∈ exchanges, exchange.sent.request = request ∧ exchange.Accepted := by
  cases ordered with
  | written tried succeeded following =>
    obtain ⟨earlier, last, body, rfl, succeeds⟩ := succeeded
    exact ⟨last, by simp, tried.only last (by simp), accepted_of_succeeds succeeds⟩

end Http.WritesFirst

/-- When an object is declared gone, for every kind and input, whatever the waits, the answers and
the time at which the host asks to stop. A missing object is one that a request was answered about
with status 404 and a body that could be read. -/
theorem gone_iff_missing {kind : Kind Wire} (listed : kind ∈ kinds)
    {configuration : Configuration} {context : Context}
    (configured : Context.ofConfiguration configuration = .ok context)
    (waits : Transition → Option WaitOptions) (stop : Option Nat) :
    let l : Lifecycle Wire := ⟨kind, waits⟩
    (∀ state, (l.read context state).Traces stop fun exchanges result =>
      result = .ok none ↔
        ∃ exchange ∈ exchanges, exchange.sent.request.method = .get ∧ exchange.Missing stop) ∧
    (∀ state, (l.delete context state).Traces stop fun exchanges result =>
      (result = .ok () →
        (∃ exchange ∈ exchanges, exchange.sent.request.method = .delete ∧ exchange.Accepted) ∧
        ∃ earlier last, exchanges = earlier ++ [last] ∧ last.sent.request.method = .get ∧
          last.Missing stop) ∧
      ∀ exchange ∈ exchanges, exchange.sent.request.method = .delete → exchange.Missing stop →
        IsNotFound result ∧ ∀ other ∈ exchanges, other.sent.request.method = .delete) ∧
    (∀ config, (l.create context config).Traces stop fun exchanges result =>
      EndsOnMissing stop (IsNotFound result) exchanges) ∧
    (∀ priorState config, (l.update context priorState config).Traces stop
      fun exchanges result => EndsOnMissing stop (IsNotFound result) exchanges) ∧
    (∀ raw, (l.importKey context raw).Traces stop fun exchanges result =>
      EndsOnMissing stop (IsNotFound result) exchanges) ∧
    ∀ config, ((Recording.lookUp config).run l context).Traces stop fun exchanges result =>
      EndsOnMissing stop (IsNotFound result) exchanges := by
  obtain ⟨presence, _, rfl⟩ := Presence.of_kind listed
  have decided := Context.decisive_of_configuration configured
  refine ⟨?_, ?_, ?_, ?_, ?_, ?_⟩
  · intro state
    apply (presence.traces_read_state waits stop decided state).mono
    intro exchanges result looks
    rw [looks.toDeclares.iff]
    constructor
    · intro found
      obtain ⟨exchange, inside, missing⟩ := found
      exact ⟨exchange, inside, looks.gets exchange inside, missing⟩
    · intro found
      obtain ⟨exchange, inside, _, missing⟩ := found
      exact ⟨exchange, inside, missing⟩
  · intro state
    obtain ⟨request, delete, traces⟩ := presence.traces_delete waits decided state
    apply (traces stop).mono
    intro exchanges result deletion
    constructor
    · rintro rfl
      obtain ⟨exchange, inside, same, accepted⟩ := deletion.ordered.accepted
      exact ⟨⟨exchange, inside, by rw [same, delete], accepted⟩, deletion.gone rfl⟩
    · intro exchange inside method missing
      rcases deletion.ordered.write_or_get inside with same | get
      · obtain ⟨declared, only⟩ := deletion.refused exchange inside same missing
        refine ⟨declared, ?_⟩
        intro other among
        rw [only other among, delete]
      · rw [method] at get
        cases get
  · intro config
    obtain ⟨_, _, traces⟩ := presence.traces_create waits decided config
    exact (traces stop).mono fun _ _ conversation => conversation.toEndsOnMissing
  · intro priorState config
    cases settled : presence.route.api.updateRequests waits context priorState config with
    | ok requests =>
      exact (presence.traces_update waits decided settled stop).mono
        fun _ _ conversation => conversation.toEndsOnMissing
    | error error =>
      apply Traces.of_silent
      · intro w
        obtain ⟨fault, refusing⟩ := presence.update_of_refused waits settled w
        rw [refusing]
        exact ⟨rfl, rfl⟩
      · intro w
        exact .none stop _
  · intro raw
    exact (presence.traces_importKey waits stop decided raw).mono
      fun _ _ conversation => conversation.toEndsOnMissing
  · intro config
    exact (presence.traces_lookUp waits stop decided config).mono
      fun _ _ conversation => conversation.toEndsOnMissing

namespace ServiceAccount

def botJson : Json := .obj [("display_name", .str "bot"), ("id", .str "sa-1")]

def missingAnswer : Answer where
  delivery := .response { status := 404, body := some "Not Found" }

/-- The answer that an account is missing, cut off before its body. -/
def cutAnswer : Answer where
  delivery := .response { status := 404, body := none }

def deletedAnswer : Answer where
  delivery := .response { status := 204, body := some "" }

def botWorld (script : List Answer) : World Wire where
  peer := { script }

/-- A read whose only GET is answered 404, with a body that can not be read, fails as a transport
does: the account does not count as gone. -/
theorem read_cut_missing :
    ∃ exchange after,
      Lifecycle.read ⟨kind, fun _ => none⟩ Context.plain botJson (botWorld [cutAnswer]) =
        (.error {
          failure := .transport .decode
          subject := some ⟨"confluent_service_account", "sa-1"⟩ }, after) ∧
      Transcript (botWorld [cutAnswer]).peer [exchange] after.peer ∧
      exchange.sent.request.method = .get ∧
      ∃ response, exchange.Brings none (.response response) ∧ response.status = 404 := by
  have transcript : Transcript (botWorld [cutAnswer]).peer
      [⟨⟨Session.request ⟨Context.plain, none⟩ .get (path "sa-1") none, 0⟩, cutAnswer⟩] _ :=
    .next rfl (.none _)
  exact ⟨_, _, rfl, transcript, rfl, _, ⟨nofun, rfl⟩, rfl⟩

end ServiceAccount

/-- A service account that the server does not find is gone, and one is deleted once the server does
not find it any more. -/
theorem gone_iff_missing_account :
    ServiceAccount.kind ∈ kinds ∧
    Context.ofConfiguration { maxRetries := some 0 } = .ok Context.plain ∧
    (∃ after exchanges,
      Lifecycle.read ⟨ServiceAccount.kind, fun _ => none⟩ Context.plain ServiceAccount.botJson
        (ServiceAccount.botWorld [ServiceAccount.missingAnswer]) = (.ok none, after) ∧
      Transcript { script := [ServiceAccount.missingAnswer] } exchanges after.peer ∧
      ∃ exchange ∈ exchanges, exchange.sent.request.method = .get ∧ exchange.Missing none) ∧
    ∃ after earlier last,
      Lifecycle.delete ⟨ServiceAccount.kind, fun _ => none⟩ Context.plain ServiceAccount.botJson
          (ServiceAccount.botWorld [ServiceAccount.deletedAnswer, ServiceAccount.missingAnswer]) =
        (.ok (), after) ∧
      Transcript { script := [ServiceAccount.deletedAnswer, ServiceAccount.missingAnswer] }
        (earlier ++ [last]) after.peer ∧
      last.sent.request.method = .get ∧ last.Missing none := by
  have listed : ServiceAccount.kind ∈ kinds := by simp [kinds]
  have gone := gone_iff_missing listed Context.plain_configured (fun _ => none) none
  refine ⟨listed, Context.plain_configured, ?_, ?_⟩
  · have run : ∃ after, Lifecycle.read ⟨ServiceAccount.kind, fun _ => none⟩ Context.plain
        ServiceAccount.botJson (ServiceAccount.botWorld [ServiceAccount.missingAnswer]) =
          (.ok none, after) := ⟨_, rfl⟩
    obtain ⟨after, run⟩ := run
    obtain ⟨exchanges, transcript, exactly⟩ := (gone.1 ServiceAccount.botJson).of_run rfl run
    exact ⟨after, exchanges, run, transcript, exactly.mp rfl⟩
  · have run : ∃ after, Lifecycle.delete ⟨ServiceAccount.kind, fun _ => none⟩ Context.plain
        ServiceAccount.botJson
        (ServiceAccount.botWorld [ServiceAccount.deletedAnswer, ServiceAccount.missingAnswer]) =
          (.ok (), after) := ⟨_, rfl⟩
    obtain ⟨after, run⟩ := run
    obtain ⟨exchanges, transcript, deleted, _⟩ := (gone.2.1 ServiceAccount.botJson).of_run rfl run
    obtain ⟨_, earlier, last, rfl, get, missing⟩ := deleted rfl
    exact ⟨after, earlier, last, run, transcript, get, missing⟩

end Provisioner

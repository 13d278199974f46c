import Provisioner.Proofs.Http.Accepted
import Provisioner.Proofs.Kinds.Checks
import Provisioner.Proofs.Lifecycle.Conversation
import Provisioner.Proofs.Lifecycle.Failures
import Provisioner.Proofs.Lifecycle.Settled

/-!
# Whom an error is about

No step of a transition names an object in its errors; the transition does, once, around each of its
parts. Before the create call is accepted the new object has no identifier, and from then on it has
the one that the server assigned. So the error of a creation tells which object the server holds, if
it holds one.
-/

namespace Provisioner

set_option autoImplicit false

open Http
open Operation (FailsOnly Traces)

namespace Error

/-- The error does not name an object yet. -/
def Unnamed (error : Error) : Prop := error.subject = none

/-- The error names one object, and says of it what an error without a name says. -/
def Names (type id : String) (error : Error) : Prop :=
  ∃ inner : Error, inner.Unnamed ∧ error = inner.about type (some id) ∧
    error.subject = some ⟨type, id⟩ ∧ error.failure.kind = inner.failure.kind ∧
    error.isNotFound = inner.isNotFound ∧
    error.message = type ++ " \"" ++ id ++ "\": " ++ inner.message

theorem Unnamed.names_about {error : Error} (unnamed : error.Unnamed) (type : String)
    (id : Option String) : (error.about type id).Names type (id.getD unassignedId) := by
  obtain ⟨failure, _⟩ := error
  cases unnamed
  exact ⟨⟨failure, none⟩, rfl, rfl, rfl, rfl, rfl, rfl⟩

theorem admitsRuns_unnamed : AdmitsRuns Unnamed where
  cancelled := rfl
  timeout _ _ := rfl
  transport _ := rfl
  notFound _ := rfl
  api _ _ := rfl
  serialization _ := rfl
  remoteFailed _ := rfl
  unrecognizedStatus _ := rfl

end Error

open Error (Unnamed Names admitsRuns_unnamed)

theorem OnlyRefuses.unnamed {α : Type} {result : Except Error α} (only : OnlyRefuses result)
    (error : Error) (failed : result = .error error) : error.Unnamed := only.subject failed

theorem OnlyRefuses.fails {σ α : Type} {result : Except Error α} (only : OnlyRefuses result) :
    (Operation.ofExcept result : Op σ α).FailsOnly Unnamed := .ofExcept only.unnamed

theorem Op.names_about {σ α : Type} {op : Op σ α} (unnamed : op.FailsOnly Unnamed)
    (type : String) (id : Option String) :
    (Op.about type id op).FailsOnly (Names type (id.getD unassignedId)) := by
  constructor
  intro w after error failed
  obtain ⟨inner, run, rfl⟩ := about_error_iff.mp failed
  exact (unnamed.allowed_of_run run).names_about type id

theorem Operation.Traces.failing {ε α : Type} {op : Operation Wire ε α} {stop : Option Nat}
    {shape : List Exchange → Except ε α → Prop} {allowed : ε → Prop} (traces : op.Traces stop shape)
    (fails : op.FailsOnly allowed) :
    op.Traces stop fun exchanges result =>
      shape exchanges result ∧ ∀ error, result = .error error → allowed error := by
  intro w asked
  obtain ⟨exchanges, transcript, kept, shaped⟩ := traces w asked
  refine ⟨exchanges, transcript, kept, shaped, ?_⟩
  intro error failed
  exact fails.allowed_of_run (Prod.ext failed rfl)

namespace Lifecycle

variable {σ : Type} (l : Lifecycle σ)

/-- The identifier in a state that the host keeps. -/
def keptId (state : Json) : String :=
  match l.kind.decode.fromState state with
  | .ok known => l.kind.id known
  | .error _ => unassignedId

/-- A transition of an object that the host knows names that object. -/
theorem names_kept {α : Type} (state : Json) {next : l.kind.State → Op σ α}
    (unnamed : ∀ known, (next known).FailsOnly Unnamed) :
    (Op.about l.kind.name none (Operation.ofExcept (l.kind.decode.fromState state)) >>=
      fun known => Op.about l.kind.name (some (l.kind.id known)) (next known)).FailsOnly
        (Names l.kind.name (l.keptId state)) := by
  have undecoded := l.kind.decode.onlyRefuses_fromState state
  unfold keptId
  cases decoded : l.kind.decode.fromState state with
  | error fault =>
    rw [decoded] at undecoded
    apply FailsOnly.fail
    exact (undecoded.unnamed fault rfl).names_about l.kind.name none
  | ok known =>
    exact Op.names_about (unnamed known) l.kind.name (some (l.kind.id known))

end Lifecycle

namespace Api.Checks

variable {api : Api} (checks : api.Checks) (waits : Transition → Option WaitOptions)
  (context : Context) (session : Session)

include checks

theorem settle_finish_unnamed (expected : api.kind.State) (transition : Transition)
    (step : String) :
    (do
      Lifecycle.settle ⟨api.kind, waits⟩ session expected transition
      Lifecycle.finish ⟨api.kind, waits⟩ session expected step : Op Wire Json).FailsOnly
        Unnamed := by
  have missing := (checks.object session.context expected).unnamed
  apply FailsOnly.bind (admitsRuns_unnamed.settle waits session missing
    (fun _ _ failed => admitsRuns_unnamed.unrecognized (checks.unrecognized failed)) transition)
  intro _
  exact admitsRuns_unnamed.finish waits session missing step

theorem refresh_unnamed (known : api.kind.State) (isNew : Bool) :
    (Lifecycle.refresh ⟨api.kind, waits⟩ context known isNew).FailsOnly Unnamed := by
  unfold Lifecycle.refresh
  apply FailsOnly.bind_outcome
    (admitsRuns_unnamed.read _ (checks.object context known).unnamed)
  intro result errors
  cases result with
  | error error =>
    simp only
    split
    · exact .pure none
    · exact .fail (errors error rfl)
  | ok remote =>
    apply FailsOnly.bind (.ofExcept fun _ failed =>
      admitsRuns_unnamed.unrecognized (checks.unrecognized failed))
    intro state
    split
    · exact .pure none
    · exact .of_total fun w => ⟨_, _, rfl⟩

theorem read_names (state : Json) :
    (Lifecycle.read ⟨api.kind, waits⟩ context state).FailsOnly
      (Names api.kind.name (Lifecycle.keptId ⟨api.kind, waits⟩ state)) :=
  Lifecycle.names_kept ⟨api.kind, waits⟩ state fun known =>
    checks.refresh_unnamed waits context known false

theorem update_names (priorState config : Json) :
    (Lifecycle.update ⟨api.kind, waits⟩ context priorState config).FailsOnly
      (Names api.kind.name (Lifecycle.keptId ⟨api.kind, waits⟩ priorState)) := by
  apply Lifecycle.names_kept ⟨api.kind, waits⟩
  intro prior
  apply FailsOnly.bind
    (Lifecycle.onlyRefuses_prepareUpdate _ checks.checkChange priorState config prior).fails
  intro prepared
  obtain ⟨desired, changed⟩ := prepared
  simp only [Lifecycle.session]
  split
  · exact admitsRuns_unnamed.finish waits _ (checks.object context desired).unnamed "Updated"
  · rw [api.update_eq, bind_assoc]
    apply FailsOnly.bind (checks.writes context prior desired changed).fails
    intro writes
    apply FailsOnly.bind (admitsRuns_unnamed.tellAll _ writes)
    intro _
    exact checks.settle_finish_unnamed waits _ desired .update "Updated"

theorem delete_names (state : Json) :
    (Lifecycle.delete ⟨api.kind, waits⟩ context state).FailsOnly
      (Names api.kind.name (Lifecycle.keptId ⟨api.kind, waits⟩ state)) := by
  apply Lifecycle.names_kept ⟨api.kind, waits⟩
  intro known
  simp only [Lifecycle.session]
  rw [api.delete_eq, bind_assoc]
  apply FailsOnly.bind (checks.object context known).fails
  intro path
  apply FailsOnly.bind (admitsRuns_unnamed.tell _ .delete path none)
  intro _
  have polls := admitsRuns_unnamed.poll waits ⟨context, api.kind.credentials context known⟩
    (checks.object context known).unnamed fun _ _ failed =>
      admitsRuns_unnamed.unrecognized (checks.unrecognized failed)
  apply FailsOnly.bind (admitsRuns_unnamed.awaitState polls _ _)
  intro _
  exact .pure ()

theorem importKey_names (raw : String) :
    (Lifecycle.importKey ⟨api.kind, waits⟩ context raw).FailsOnly (Names api.kind.name raw) := by
  refine Op.names_about ?_ api.kind.name (some raw)
  apply FailsOnly.bind (ImportKey.onlyRefuses_parse raw _).fails
  intro key
  apply FailsOnly.bind (checks.refresh_unnamed waits context (api.kind.ofKey key) true)
  intro found
  cases found with
  | none => exact .fail rfl
  | some state => exact .pure state

theorem submit_unnamed (config : Json) :
    (Lifecycle.submit ⟨api.kind, waits⟩ context config).FailsOnly Unnamed := by
  apply FailsOnly.bind (Lifecycle.onlyRefuses_decodeValid _ config).fails
  intro desired
  apply FailsOnly.bind (checks.check desired).fails
  intro _
  apply FailsOnly.bind (.of_total fun w => ⟨_, _, rfl⟩)
  intro _
  simp only [Lifecycle.session]
  rw [api.create_eq, bind_assoc]
  apply FailsOnly.bind (checks.collection context desired).fails
  intro path
  apply FailsOnly.bind (admitsRuns_unnamed.call _ .post path _ api.created)
  intro created
  exact .pure _

end Api.Checks

namespace Api

/-- The exchange is a create call that was accepted, with an answer that decodes to the object. -/
def Assigns (api : Api) (stop : Option Nat) (exchange : Exchange) (created : api.kind.Remote) :
    Prop :=
  exchange.sent.request.method = .post ∧ exchange.Gives stop api.created created

/-- The error of a creation names the object by the identifier that the server assigned to it if a
create call was accepted, and as not yet assigned otherwise. -/
structure NamesNew (api : Api) (stop : Option Nat) (config : Json) (exchanges : List Exchange)
    (error : Error) : Prop where
  assigned : ∀ exchange ∈ exchanges, ∀ created, api.Assigns stop exchange created →
    ∃ desired, api.kind.decode.fromState config = .ok desired ∧
      error.Names api.kind.name (api.kind.id (api.kind.toState created desired))
  unassigned : (¬∃ exchange ∈ exchanges, ∃ created, api.Assigns stop exchange created) →
    error.Names api.kind.name unassignedId

variable {api : Api} {stop : Option Nat}

theorem not_assigns_of_get {exchange : Exchange} (get : exchange.sent.request.method = .get)
    (created : api.kind.Remote) : ¬api.Assigns stop exchange created := by
  intro assigns
  have post := assigns.1
  rw [get] at post
  cases post

/-- What the exchanges of a creation have created so far: the accepted object, or nothing. -/
structure Submitted (api : Api) (stop : Option Nat) (config : Json) (exchanges : List Exchange)
    (result : Except Error (api.kind.State × api.kind.State)) : Prop where
  nothing : ∀ error, result = .error error →
    ¬∃ exchange ∈ exchanges, ∃ created, api.Assigns stop exchange created
  object : ∀ desired accepted, result = .ok (desired, accepted) →
    api.kind.decode.fromState config = .ok desired ∧
    (∃ exchange ∈ exchanges, ∃ created, api.Assigns stop exchange created) ∧
    ∀ exchange ∈ exchanges, ∀ created, api.Assigns stop exchange created →
      accepted = api.kind.toState created desired

theorem Submitted.failed {config : Json} {exchanges : List Exchange} {error : Error}
    (nothing : ¬∃ exchange ∈ exchanges, ∃ created, api.Assigns stop exchange created) :
    api.Submitted stop config exchanges (.error error) := by
  constructor
  · intro _ _
    exact nothing
  · intro _ _ impossible
    cases impossible

theorem Submitted.unsent (config : Json) (error : Error) :
    api.Submitted stop config [] (.error error) := .failed (by simp)

theorem Submitted.about {config : Json} {exchanges : List Exchange}
    {result : Except Error (api.kind.State × api.kind.State)}
    (submitted : api.Submitted stop config exchanges result) (type : String) (id : Option String) :
    api.Submitted stop config exchanges (result.mapError fun error => error.about type id) := by
  cases result with
  | error error => exact .failed (submitted.nothing error rfl)
  | ok value => exact submitted

theorem traces_submitted {context : Context} (decided : context.client.retry.Decisive)
    (waits : Transition → Option WaitOptions) (config : Json) (stop : Option Nat) :
    (Lifecycle.submit ⟨api.kind, waits⟩ context config).Traces stop
      (api.Submitted stop config) := by
  apply Traces.after fun error _ => .unsent config error
  intro desired decoded
  apply Traces.after fun error _ => .unsent config error
  intro _ _
  apply Op.traces_after_idle (Op.traces_log _ "Creating" desired) (.unsent config _)
  intro _
  simp only [Lifecycle.session]
  rw [api.create_eq, bind_assoc]
  apply Traces.after fun error _ => .unsent config error
  intro path _
  let session : Session := ⟨context, api.kind.credentials context desired⟩
  have decisive : session.context.client.retry.Decisive := decided
  apply (Session.traces_gave decisive .post path _ api.created stop).bind
  · intro exchanges error gave
    apply Submitted.failed
    intro created
    obtain ⟨exchange, member, object, _, gives⟩ := created
    cases (gave.ok_iff object).mpr ⟨exchange, member, gives⟩
  · intro exchanges created gave
    apply Traces.pure
    rw [List.append_nil]
    constructor
    · intro error impossible
      cases impossible
    · intro _ _ same
      cases same
      obtain ⟨exchange, member, gives⟩ := (gave.ok_iff created).mp rfl
      have post : exchange.sent.request.method = .post := by rw [gave.only exchange member]; rfl
      refine ⟨(Lifecycle.decodeValid_ok_iff.mp decoded).2,
        ⟨exchange, member, created, post, gives⟩, ?_⟩
      intro other inside object assigns
      have same := (gave.ok_iff object).mpr ⟨other, inside, assigns.2⟩
      rw [Except.ok.inj same]

theorem traces_names_new (listed : api ∈ apis) {context : Context}
    (decided : context.client.retry.Decisive) (waits : Transition → Option WaitOptions)
    (config : Json) (stop : Option Nat) :
    (Lifecycle.create ⟨api.kind, waits⟩ context config).Traces stop fun exchanges result =>
      ∀ error, result = .error error → api.NamesNew stop config exchanges error := by
  have checks := Api.checks listed
  have submits := ((traces_submitted decided waits config stop).mapError
    fun _ _ submitted => submitted.about api.kind.name none).failing
      (Op.names_about (checks.submit_unnamed waits context config) api.kind.name none)
  apply submits.bind
  · intro exchanges error shaped
    obtain ⟨submitted, named⟩ := shaped
    rintro _ ⟨⟩
    refine ⟨?_, fun _ => named error rfl⟩
    intro exchange member created assigns
    exact absurd ⟨exchange, member, created, assigns⟩ (submitted.nothing error rfl)
  · rintro exchanges ⟨desired, accepted⟩ shaped
    obtain ⟨decoded, ⟨exchange, member, assigned⟩, mapped⟩ := shaped.1.object desired accepted rfl
    obtain ⟨presence, rfl⟩ := Presence.of_api listed
    let session : Session := ⟨context, presence.route.api.kind.credentials context desired⟩
    have decisive : session.context.client.retry.Decisive := decided
    have looks := presence.traces_settle_finish waits decisive stop accepted .create "Created"
    have names := Op.names_about
      (checks.settle_finish_unnamed waits session accepted .create "Created")
      presence.route.api.kind.name (some (presence.route.api.kind.id accepted))
    apply ((Op.traces_about _ _ looks).failing names).mono
    intro later result shaped error failed
    obtain ⟨conversation, named⟩ := shaped
    have gets : ∀ exchange ∈ later, exchange.sent.request.method = .get := by
      cases conversation.ordered with
      | looked gets => exact gets
    constructor
    · intro other inside created assigns
      refine ⟨desired, decoded, ?_⟩
      rcases List.mem_append.mp inside with inFirst | inLater
      · rw [← mapped other inFirst created assigns]
        exact named error failed
      · exact absurd assigns (not_assigns_of_get (gets other inLater) created)
    · intro nothing
      exact absurd ⟨exchange, List.mem_append_left _ member, assigned⟩ nothing

end Api

/-- The errors of every transition of every kind, for every input, whatever the waits, the answers
and the time at which the host asks to stop. -/
theorem errors_name_object {api : Api} (listed : api ∈ apis) {configuration : Configuration}
    {context : Context} (configured : Context.ofConfiguration configuration = .ok context)
    (waits : Transition → Option WaitOptions) :
    let l : Lifecycle Wire := ⟨api.kind, waits⟩
    apis.map Api.kind = kinds ∧
    (∀ state, (l.read context state).FailsOnly (Error.Names api.kind.name (l.keptId state))) ∧
    (∀ priorState config, (l.update context priorState config).FailsOnly
      (Error.Names api.kind.name (l.keptId priorState))) ∧
    (∀ state, (l.delete context state).FailsOnly
      (Error.Names api.kind.name (l.keptId state))) ∧
    (∀ raw, (l.importKey context raw).FailsOnly (Error.Names api.kind.name raw)) ∧
    ∀ config stop, (l.create context config).Traces stop fun exchanges result =>
      ∀ error, result = .error error → api.NamesNew stop config exchanges error := by
  have checks := Api.checks listed
  have decided := Context.decisive_of_configuration configured
  exact ⟨kind_apis, checks.read_names waits context, checks.update_names waits context,
    checks.delete_names waits context, checks.importKey_names waits context,
    Api.traces_names_new listed decided waits⟩

/-- A network that is found failed after its POST was accepted is named by its identifier, and so is
a service account whose read is cut off. -/
theorem errors_name_object_failed :
    ItemKind.networks.api ∈ apis ∧ ItemKind.serviceAccounts.api ∈ apis ∧
    Context.ofConfiguration { maxRetries := some 0 } = .ok Context.plain ∧
    (∃ error after exchanges,
      Lifecycle.create ⟨Network.kind, fun _ => none⟩ Context.plain Network.sampleConfig
          (Network.sampleWorld [Network.readyAnswer, Network.failedAnswer]) =
        (.error error, after) ∧
      Transcript { script := [Network.readyAnswer, Network.failedAnswer] } exchanges after.peer ∧
      error.subject = some ⟨"confluent_network", "n-1"⟩ ∧
      ∃ exchange ∈ exchanges, ∃ created, ItemKind.networks.api.Assigns none exchange created ∧
        ∃ desired, error.Names "confluent_network"
          (Network.kind.id (Network.kind.toState created desired))) ∧
    ∃ error after,
      Lifecycle.read ⟨ServiceAccount.kind, fun _ => none⟩ Context.plain
          (.obj [("display_name", .str "bot"), ("id", .str "sa-1")])
          { peer := { script := [⟨0, .response { status := 404, body := none }⟩] } } =
        (.error error, after) ∧
      error.Names "confluent_service_account" "sa-1" := by
  have network : ItemKind.networks.api ∈ apis := by simp [apis]
  have account : ItemKind.serviceAccounts.api ∈ apis := by simp [apis]
  refine ⟨network, account, Context.plain_configured, ?_, ?_⟩
  · have decoded : Lifecycle.decodeValid ⟨Network.kind, fun _ => none⟩ Network.sampleConfig =
        .ok Network.sampleState := by rfl
    have valid : Network.kind.validateCreate Network.sampleState = .ok () := by rfl
    obtain ⟨submitted, submission, readySubmitted⟩ := Api.submit_of_ready
      ItemKind.networks.api (fun _ => none) Context.plain_accepting decoded valid rfl
      Network.ready_gives (Network.sample_ready [Network.readyAnswer, Network.failedAnswer])
    obtain ⟨poll, waiting, failed, _⟩ := Api.waits_of_ready ItemKind.networks.api
      (fun _ => none) ⟨Context.plain, none⟩ Context.plain_accepting rfl
      (.one Network.failed_gives) (by cbv) (by decide) .create readySubmitted
    have run := create_of_failed_poll submission waiting (List.mem_singleton_self poll)
      failed
    obtain ⟨exchanges, transcript, names⟩ := ((errors_name_object network
      Context.plain_configured fun _ => none).2.2.2.2.2 Network.sampleConfig none).of_run rfl run
    have named := names _ rfl
    refine ⟨_, _, exchanges, run, transcript, rfl, ?_⟩
    by_cases created : ∃ exchange ∈ exchanges, ∃ created,
        ItemKind.networks.api.Assigns none exchange created
    · obtain ⟨exchange, member, object, assigns⟩ := created
      obtain ⟨desired, _, same⟩ := named.assigned exchange member object assigns
      exact ⟨exchange, member, object, assigns, desired, same⟩
    · obtain ⟨_, _, _, subject, _⟩ := named.unassigned created
      exact absurd subject (by decide)
  · have run : ∃ error after, Lifecycle.read ⟨ServiceAccount.kind, fun _ => none⟩ Context.plain
        (.obj [("display_name", .str "bot"), ("id", .str "sa-1")])
        { peer := { script := [⟨0, .response { status := 404, body := none }⟩] } } =
          (.error error, after) := ⟨_, _, rfl⟩
    obtain ⟨error, after, run⟩ := run
    exact ⟨error, after, run, ((errors_name_object account Context.plain_configured
      fun _ => none).2.1 _).allowed_of_run run⟩

end Provisioner

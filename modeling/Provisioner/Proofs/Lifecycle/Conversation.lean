import Provisioner.Proofs.Kinds.Presence
import Provisioner.Proofs.Lifecycle.Recorded
import Provisioner.Proofs.Plan.Merge

/-!
# The conversations of the transitions

What each transition exchanges with the server, put together from its calls: a look at an object is
one or two GETs, a wait is a sequence of looks, and what a transition writes is settled before its
first request.
-/

namespace Provisioner

set_option autoImplicit false

open Http
open Operation (Traces)

theorem toOption_getD_of_ok {ε α : Type} {result : Except ε α} {value : α}
    (found : result = .ok value) {default : α} : result.toOption.getD default = value := by
  rw [found]
  rfl

namespace Op

variable {α β : Type} {stop : Option Nat}

theorem traces_log (l : Lifecycle Wire) (step : String) (state : l.kind.State) :
    (l.log step state).Traces stop Idle := by
  apply Traces.of_silent fun _ => ⟨rfl, rfl⟩
  intro w
  refine ⟨rfl, ?_⟩
  intro error impossible
  cases impossible

theorem traces_after_about {type : String} {id : Option String} {result : Except Error α}
    {next : α → Op Wire β} {whole : List Exchange → Except Error β → Prop}
    (refused : ∀ error, whole [] (.error error))
    (tail : ∀ value, result = .ok value → (next value).Traces stop whole) :
    (Op.about type id (Operation.ofExcept result) >>= next).Traces stop whole := by
  cases result with
  | error error => exact .fail (refused _)
  | ok value => exact tail value rfl

theorem traces_about {op : Op Wire α} {requests : List Request} (type : String)
    (id : Option String) (traces : op.Traces stop (Conversation requests stop)) :
    (Op.about type id op).Traces stop (Conversation requests stop) :=
  traces.mapError fun _ _ conversation => conversation.about type id

end Op

/-- The request that carries a write. -/
def Write.request (session : Session) (write : Write) : Request :=
  session.request write.method write.path write.body

/-- The requests that write an update, none if it changes nothing, or why it is refused before it
sends any. -/
def Api.updateRequests (api : Api) (waits : Transition → Option WaitOptions) (context : Context)
    (priorState config : Json) : Except Error (List Request) := do
  let prior ← api.kind.decode.fromState priorState
  let (desired, changed) ← Lifecycle.prepareUpdate ⟨api.kind, waits⟩ priorState config prior
  if changed = [] then .ok []
  else
    let writes ← api.writes context prior desired changed
    .ok (writes.map (Write.request ⟨context, api.kind.credentials context desired⟩))

theorem Api.updateRequests_ok_iff {api : Api} {waits : Transition → Option WaitOptions}
    {context : Context} {priorState config : Json} {requests : List Request} :
    api.updateRequests waits context priorState config = .ok requests ↔
      ∃ prior desired changed, api.kind.decode.fromState priorState = .ok prior ∧
        Lifecycle.prepareUpdate ⟨api.kind, waits⟩ priorState config prior =
          .ok (desired, changed) ∧
        (changed = [] ∧ requests = [] ∨
          changed ≠ [] ∧ ∃ writes, api.writes context prior desired changed = .ok writes ∧
            requests = writes.map
              (Write.request ⟨context, api.kind.credentials context desired⟩)) := by
  unfold updateRequests
  constructor
  · intro settled
    cases decoded : api.kind.decode.fromState priorState with
    | error error =>
      rw [decoded] at settled
      cases settled
    | ok prior =>
      rw [decoded] at settled
      cases prepared : Lifecycle.prepareUpdate ⟨api.kind, waits⟩ priorState config prior with
      | error error =>
        simp only [bind, Except.bind, prepared] at settled
        cases settled
      | ok preparation =>
        obtain ⟨desired, changed⟩ := preparation
        refine ⟨prior, desired, changed, rfl, prepared, ?_⟩
        simp only [bind, Except.bind, prepared] at settled
        split at settled
        · next nothing =>
          cases settled
          exact Or.inl ⟨nothing, rfl⟩
        · next changes =>
          split at settled
          · cases settled
          · next writes found =>
            cases settled
            exact Or.inr ⟨changes, writes, found, rfl⟩
  · rintro ⟨prior, desired, changed, decoded, prepared, writes⟩
    rcases writes with ⟨nothing, rfl⟩ | ⟨changes, writes, found, rfl⟩
    · simp only [bind, Except.bind, decoded, prepared, if_pos nothing]
    · simp only [bind, Except.bind, decoded, prepared, if_neg changes, found]

namespace Session

variable {session : Session} (decisive : session.context.client.retry.Decisive)

include decisive

theorem traces_tellAll {α : Type} {stop : Option Nat} {next : Unit → Op Wire α}
    (tail : (next ()).Traces stop (Conversation [] stop)) (writes : List Write) :
    (session.tellAll writes >>= next).Traces stop
      (Conversation (writes.map (Write.request session)) stop) := by
  -- By induction on the writes: each is a request in front of what is left.
  induction writes with
  | nil => exact tail
  | cons write rest ih =>
    unfold tellAll
    rw [bind_assoc]
    apply Conversation.traces_bind
    · apply (traces_tell decisive write.method write.path write.body stop).mono
      intro exchanges result one
      exact one.toWriting
    · intro _
      exact ih

end Session

theorem Reading.traces_run {ρ : Type} {session : Session}
    (decisive : session.context.client.retry.Decisive) (reading : Reading ρ) (stop : Option Nat) :
    (reading.run session).Traces stop fun exchanges result =>
      Looks stop (IsNotFound result) exchanges := by
  cases reading with
  | one path decode =>
    apply (Session.traces_call decisive .get path none decode stop).mono
    intro exchanges result one
    exact .of_oneRequest one rfl
  | two path decode second decodeSecond combine =>
    have first := (Session.traces_call decisive .get path none decode stop).mono
      fun exchanges result one => Looks.of_oneRequest one rfl
    apply Looks.traces_bind first (by simp)
    intro value
    have rest := (Session.traces_call decisive .get second none decodeSecond stop).mono
      fun exchanges result one => Looks.of_oneRequest one rfl
    apply Looks.traces_bind rest (by simp)
    intro other
    exact .pure (.none (by simp))

/-- The exchanges of a deletion: one request, and once it is accepted, looks until the object is
missing. -/
structure Deletion (request : Request) (stop : Option Nat) (exchanges : List Exchange)
    (result : Except Error Unit) : Prop where
  ordered : WritesFirst [request] exchanges result
  gone : result = .ok () → ∃ earlier last, exchanges = earlier ++ [last] ∧
    last.sent.request.method = .get ∧ last.Missing stop
  refused : ∀ exchange ∈ exchanges, exchange.sent.request = request → exchange.Missing stop →
    IsNotFound result ∧ ∀ other ∈ exchanges, other.sent.request = request

namespace Deletion

variable {request : Request} {stop : Option Nat} {exchanges later : List Exchange}

theorem failed {α : Type} {error : Error}
    (writing : Writing request stop exchanges (.error error : Except Error α)) :
    Deletion request stop exchanges (.error error) where
  ordered := .failed writing.toTried
  gone := nofun
  refused := by
    intro exchange member _ missing
    have declared := writing.reported ⟨exchange, member, missing⟩
    exact ⟨by simpa using declared, writing.only⟩

theorem unsent (error : Error) : Deletion request stop [] (.error error) :=
  .failed (Writing.unsent error : Writing request stop [] (.error error : Except Error Unit))

theorem followed {α : Type} {value : α} {result : Except Error Unit}
    (writing : Writing request stop exchanges (.ok value)) (notGet : request.method ≠ .get)
    (looks : Looks stop (result = .ok ()) later) :
    Deletion request stop (exchanges ++ later) result where
  ordered := .written writing.toTried (writing.succeeded value rfl) (.looked looks.gets)
  gone := by
    intro vanished
    obtain ⟨found, member, missing⟩ := looks.missing vanished
    obtain ⟨before, last, shape⟩ :=
      (List.eq_nil_or_concat later).resolve_left (List.ne_nil_of_mem member)
    rw [List.concat_eq_append] at shape
    subst shape
    -- Only the last look can have found the object missing.
    have isLast : found = last := by
      rcases List.mem_append.mp member with inBefore | inLast
      · exact absurd missing (looks.last found (by simpa using inBefore))
      · exact List.mem_singleton.mp inLast
    subst isLast
    exact ⟨exchanges ++ before, found, (List.append_assoc _ _ _).symm, looks.gets found member,
      missing⟩
  refused := by
    intro exchange member same missing
    rcases List.mem_append.mp member with inFirst | inLater
    · exact (writing.present.reported ⟨exchange, inFirst, missing⟩).elim
    · have get := looks.gets exchange inLater
      rw [same] at get
      exact absurd get notGet

theorem about {result : Except Error Unit} (deletion : Deletion request stop exchanges result)
    (type : String) (id : Option String) :
    Deletion request stop exchanges (result.mapError fun error => error.about type id) where
  ordered := deletion.ordered.about type id
  gone := by
    intro vanished
    apply deletion.gone
    cases result with
    | error error => cases vanished
    | ok value => rfl
  refused := by
    intro exchange member same missing
    obtain ⟨declared, only⟩ := deletion.refused exchange member same missing
    exact ⟨(isNotFound_mapError_about result type id).mpr declared, only⟩

theorem traces_about {op : Op Wire Unit} (type : String) (id : Option String)
    (traces : op.Traces stop (Deletion request stop)) :
    (Op.about type id op).Traces stop (Deletion request stop) :=
  traces.mapError fun _ _ deletion => deletion.about type id

end Deletion

namespace Presence

variable (presence : Presence) (waits : Transition → Option WaitOptions) {session : Session}
  (decisive : session.context.client.retry.Decisive) (stop : Option Nat)

section Looks

variable (expected : presence.route.api.kind.State)

include decisive

theorem traces_read : (presence.route.api.kind.read session expected).Traces stop
    fun exchanges result => Looks stop (IsNotFound result) exchanges := by
  rw [presence.route.api.read_eq]
  apply Traces.after
  · intro error missing
    -- An object without a path is refused, which is no answer of the server.
    have refusal := presence.route.refusal_of_object missing
    refine .none ?_
    rw [isNotFound_error]
    unfold Error.isNotFound
    unfold Error.isRefusal at refusal
    cases cause : error.failure <;> simp_all [Failure.isNotFound, Failure.isValidation]
  · intro path _
    exact Reading.traces_run decisive _ stop

theorem traces_poll :
    (Lifecycle.poll ⟨presence.route.api.kind, waits⟩ session expected).Traces stop
      fun exchanges result => Looks stop (IsNotFound result) exchanges ∧
        ∀ seen, result = .ok seen → seen.state ≠ .deleted := by
  apply (presence.traces_read decisive stop expected).bind
  · intro exchanges error looks
    exact ⟨looks.congr (by simp), nofun⟩
  · intro exchanges remote looks
    have present := presence.present remote expected
    apply Traces.after
    · intro error judged
      rw [judged] at present
      rw [List.append_nil]
      refine ⟨looks.congr ?_, nofun⟩
      simpa using present.2
    · intro state judged
      rw [judged] at present
      apply Traces.pure
      rw [List.append_nil]
      refine ⟨looks.congr (by simp), ?_⟩
      rintro seen ⟨⟩ rfl
      exact present.1 rfl

end Looks

theorem looks_of_polled {ρ : Type} {targets : List LifecycleState} {exchanges : List Exchange}
    {result : Except Error (Observation ρ)}
    (polled : Wait.Polled (fun exchanges result => Looks stop (IsNotFound result) exchanges)
      targets exchanges result) : Looks stop (IsNotFound result) exchanges := by
  induction polled with
  | givenUp given =>
    refine .none ?_
    rw [isNotFound_error]
    unfold Error.isNotFound
    rcases given with cause | ⟨_, _, cause⟩ <;> simp [cause, Failure.isNotFound]
  | failed reading => exact reading
  | reached reading _ => exact reading
  | again reading _ _ ih => exact (reading.congr (by simp)).append ih

/-- A wait for an object to be gone ends well exactly if the server says so. -/
theorem gone_of_polled {ρ : Type} {exchanges : List Exchange}
    {result : Except Error (Observation ρ)}
    (polled : Wait.Polled (fun exchanges result =>
      Looks stop (∃ seen, result = .ok seen ∧ seen.state = .deleted) exchanges) [.deleted]
      exchanges result) : Looks stop (∃ seen, result = .ok seen) exchanges := by
  induction polled with
  | givenUp => exact .none (by simp)
  | failed reading => exact reading.congr (by simp)
  | reached reading target =>
    refine reading.congr ?_
    simpa using target
  | again reading missed _ ih =>
    refine (reading.congr ?_).append ih
    simpa using missed

section Looks

variable (expected : presence.route.api.kind.State)

include decisive

theorem traces_settle (transition : Transition) :
    (Lifecycle.settle ⟨presence.route.api.kind, waits⟩ session expected transition).Traces stop
      fun exchanges result => Looks stop (IsNotFound result) exchanges := by
  have polls : (Wait.observe (Lifecycle.poll ⟨presence.route.api.kind, waits⟩ session expected)
      [.stable, .failed]).Traces stop
        fun exchanges result => Looks stop (IsNotFound result) exchanges := by
    rw [Wait.observe_eq_read (by decide)]
    exact (presence.traces_poll waits decisive stop expected).mono fun _ _ looked => looked.1
  have waited := (Wait.traces_awaitState polls
    (Lifecycle.waitOptions ⟨presence.route.api.kind, waits⟩ transition)).mono
      fun _ _ polled => looks_of_polled stop polled
  apply Looks.traces_bind waited (by simp)
  intro observation
  split
  · exact .fail (.none (by simp [Error.isNotFound, Lifecycle.failure, Failure.isNotFound]))
  · exact .pure (.none (by simp))

theorem traces_finish (step : String) :
    (Lifecycle.finish ⟨presence.route.api.kind, waits⟩ session expected step).Traces stop
      fun exchanges result => Looks stop (IsNotFound result) exchanges := by
  apply Looks.traces_bind (presence.traces_read decisive stop expected) (by simp)
  intro remote
  apply Traces.of_silent fun _ => ⟨rfl, rfl⟩
  intro w
  refine .none ?_
  rw [Operation.bind_of_ok (Lifecycle.run_log step _)]
  simp

theorem traces_settle_finish (transition : Transition) (step : String) :
    (do
      Lifecycle.settle ⟨presence.route.api.kind, waits⟩ session expected transition
      Lifecycle.finish ⟨presence.route.api.kind, waits⟩ session expected step : Op Wire Json).Traces
        stop (Conversation [] stop) := by
  have looks := Looks.traces_bind (presence.traces_settle waits decisive stop expected transition)
    (by simp) fun _ => presence.traces_finish waits decisive stop expected step
  exact looks.mono fun _ _ looks => .of_looks looks

theorem traces_writes {α : Type} {next : Unit → Op Wire α}
    (tail : (next ()).Traces stop (Conversation [] stop))
    {prior desired : presence.route.api.kind.State} {changed : List String} {writes : List Write}
    (settled : presence.route.api.writes session.context prior desired changed = .ok writes) :
    (presence.route.api.kind.update session prior desired changed >>= next).Traces stop
      (Conversation (writes.map (Write.request session)) stop) := by
  rw [presence.route.api.update_eq, bind_assoc, settled]
  exact Session.traces_tellAll decisive tail writes

theorem traces_vanish (options : WaitOptions) :
    (Wait.awaitState (Lifecycle.poll ⟨presence.route.api.kind, waits⟩ session expected) [.deleted]
      options).Traces stop fun exchanges result =>
        Looks stop (∃ seen, result = .ok seen) exchanges := by
  have polls : (Wait.observe (Lifecycle.poll ⟨presence.route.api.kind, waits⟩ session expected)
      [.deleted]).Traces stop fun exchanges result =>
        Looks stop (∃ seen, result = .ok seen ∧ seen.state = .deleted) exchanges := by
    apply Looks.traces_outcome (presence.traces_poll waits decisive stop expected)
    · intro result w
      cases result with
      | ok seen => exact ⟨rfl, rfl⟩
      | error error =>
        simp only
        split <;> exact ⟨rfl, rfl⟩
    · intro result w present
      cases result with
      | ok seen => simpa using present seen rfl
      | error error =>
        simp only [isNotFound_error]
        cases missing : error.isNotFound <;> simp [Observation.gone]
  exact (Wait.traces_awaitState polls options).mono fun _ _ polled => gone_of_polled stop polled

end Looks

variable {context : Context} (decided : context.client.retry.Decisive)

include decided

theorem traces_refresh (known : presence.route.api.kind.State) (isNew : Bool) :
    (Lifecycle.refresh ⟨presence.route.api.kind, waits⟩ context known isNew).Traces stop
      fun exchanges result =>
        Looks stop (result = .ok none ∨ (isNew = true ∧ IsNotFound result)) exchanges := by
  let session : Session := ⟨context, presence.route.api.kind.credentials context known⟩
  have here : session.context.client.retry.Decisive := decided
  have reads := (presence.traces_read here stop known).mono
    fun exchanges result looks => And.intro looks True.intro
  apply Looks.traces_outcome reads
  · intro result w
    cases result with
    | error error =>
      simp only
      split <;> exact ⟨rfl, rfl⟩
    | ok remote =>
      simp only [Operation.run_bind, Operation.run_ofExcept]
      cases presence.route.api.kind.classify remote known with
      | error error => exact ⟨rfl, rfl⟩
      | ok state =>
        simp only
        split <;> exact ⟨rfl, rfl⟩
  · intro result w _
    cases result with
    | error error =>
      simp only [isNotFound_error]
      cases missing : error.isNotFound <;> cases isNew <;> simp [missing]
    | ok remote =>
      have present := presence.present remote known
      simp only [Operation.run_bind, Operation.run_ofExcept, isNotFound_ok, false_iff]
      cases judged : presence.route.api.kind.classify remote known with
      | error error =>
        rw [judged] at present
        simpa using fun _ => present.2
      | ok state =>
        rw [judged] at present
        have notDeleted : ¬(state = .deleted ∧ (!isNew) = true) := by
          rintro ⟨rfl, _⟩
          exact present.1 rfl
        simp only [if_neg notDeleted]
        rw [Operation.bind_of_ok (Lifecycle.run_log "Read" _)]
        simp

theorem traces_read_state (state : Json) :
    (Lifecycle.read ⟨presence.route.api.kind, waits⟩ context state).Traces stop
      fun exchanges result => Looks stop (result = .ok none) exchanges := by
  apply Op.traces_after_about
  · intro error
    exact .none nofun
  · intro known _
    apply (presence.traces_refresh waits stop decided known false).mapError
    intro exchanges result looks
    refine looks.congr ?_
    cases result <;> simp [Except.mapError]

theorem traces_importKey (raw : String) :
    (Lifecycle.importKey ⟨presence.route.api.kind, waits⟩ context raw).Traces stop
      (Conversation [] stop) := by
  apply Op.traces_about
  apply Traces.after
  · intro error _
    exact .unsent error
  · intro key _
    apply (presence.traces_refresh waits stop decided (presence.route.api.kind.ofKey key) true).bind
    · intro exchanges error looks
      exact .of_looks (looks.congr (by simp))
    · intro exchanges found looks
      cases found with
      | some state =>
        apply Traces.pure
        rw [List.append_nil]
        exact .of_looks (looks.congr (by simp))
      | none =>
        apply Traces.fail
        rw [List.append_nil]
        exact .of_looks (looks.congr (by simp [Error.isNotFound, Failure.isNotFound]))

theorem traces_lookUp (config : Json) :
    ((Recording.lookUp config).run ⟨presence.route.api.kind, waits⟩ context).Traces stop
      (Conversation [] stop) := by
  apply Traces.after
  · intro error _
    exact .unsent error
  · intro key _
    exact Conversation.traces_map (presence.traces_importKey waits stop decided key) some

theorem traces_submit (config : Json) :
    ∃ request : Request, request.method = .post ∧ ∀ stop,
      (Lifecycle.submit ⟨presence.route.api.kind, waits⟩ context config).Traces stop
        (Writing request stop) := by
  unfold Lifecycle.submit
  cases Lifecycle.decodeValid ⟨presence.route.api.kind, waits⟩ config with
  | error error => exact ⟨⟨.post, "", none, none⟩, rfl, fun stop => .fail (.unsent error)⟩
  | ok desired =>
    let session : Session := ⟨context, presence.route.api.kind.credentials context desired⟩
    let path := (presence.route.api.collection context desired).toOption.getD ""
    refine ⟨session.request .post path (some (presence.route.api.posted desired)), rfl, ?_⟩
    intro stop
    apply Traces.after nofun
    rintro _ ⟨⟩
    apply Traces.after fun error _ => .unsent error
    intro _ _
    apply Op.traces_after_idle (Op.traces_log _ "Creating" desired) (.unsent _)
    intro _
    simp only [Lifecycle.session]
    rw [presence.route.api.create_eq, bind_assoc]
    apply Traces.after fun error _ => .unsent error
    intro found located
    have same : path = found := toOption_getD_of_ok located
    rw [same]
    have decisive : session.context.client.retry.Decisive := decided
    apply (Session.traces_call decisive .post found _ presence.route.api.created stop).bind
    · intro exchanges error one
      exact one.toWriting.congr (by simp) nofun
    · intro exchanges created one
      apply Traces.pure
      rw [List.append_nil]
      exact one.toWriting.congr (by simp) fun _ _ => ⟨created, rfl⟩

theorem traces_create (config : Json) :
    ∃ request : Request, request.method = .post ∧ ∀ stop,
      (Lifecycle.create ⟨presence.route.api.kind, waits⟩ context config).Traces stop
        (Conversation [request] stop) := by
  obtain ⟨request, post, submits⟩ := presence.traces_submit waits decided config
  refine ⟨request, post, ?_⟩
  intro stop
  apply Conversation.traces_bind
  · exact (submits stop).mapError fun _ _ writing => writing.about _ _
  · intro submitted
    apply Op.traces_about
    let session : Session :=
      ⟨context, presence.route.api.kind.credentials context submitted.1⟩
    have decisive : session.context.client.retry.Decisive := decided
    exact presence.traces_settle_finish waits decisive stop submitted.2 .create "Created"

omit decided in
/-- An update that is refused fails and leaves the world as it is. -/
theorem update_of_refused {priorState config : Json} {error : Error}
    (refused : presence.route.api.updateRequests waits context priorState config = .error error)
    (w : World Wire) :
    ∃ fault, Lifecycle.update ⟨presence.route.api.kind, waits⟩ context priorState config w =
      (.error fault, w) := by
  unfold Api.updateRequests at refused
  unfold Lifecycle.update
  cases decoded : presence.route.api.kind.decode.fromState priorState with
  | error fault => exact ⟨_, rfl⟩
  | ok prior =>
    rw [decoded] at refused
    refine ⟨_, Op.about_error_iff.mpr ⟨error, ?_, rfl⟩⟩
    cases prepared : Lifecycle.prepareUpdate ⟨presence.route.api.kind, waits⟩ priorState config
        prior with
    | error fault =>
      simp only [bind, Except.bind, prepared] at refused
      cases refused
      rfl
    | ok preparation =>
      obtain ⟨desired, changed⟩ := preparation
      simp only [bind, Except.bind, prepared] at refused
      split at refused
      · cases refused
      · next changes =>
        split at refused
        · next fault unwritten =>
          cases refused
          show (if changed.isEmpty then _ else _ : Op Wire Json) w = _
          rw [if_neg (by simpa using changes), presence.route.api.update_eq, bind_assoc]
          exact Operation.bind_of_error
            (congrArg (fun writes => Operation.ofExcept writes w) unwritten) _
        · cases refused

theorem traces_update {priorState config : Json} {requests : List Request}
    (settled : presence.route.api.updateRequests waits context priorState config = .ok requests)
    (stop : Option Nat) :
    (Lifecycle.update ⟨presence.route.api.kind, waits⟩ context priorState config).Traces stop
      (Conversation requests stop) := by
  obtain ⟨prior, desired, changed, decoded, prepared, writes⟩ :=
    Api.updateRequests_ok_iff.mp settled
  let session : Session := ⟨context, presence.route.api.kind.credentials context desired⟩
  have decisive : session.context.client.retry.Decisive := decided
  unfold Lifecycle.update
  rw [decoded]
  apply Op.traces_after_about fun _ => .unsent _
  rintro _ ⟨⟩
  apply Op.traces_about
  rw [prepared]
  apply Traces.after nofun
  rintro _ ⟨⟩
  rcases writes with ⟨rfl, rfl⟩ | ⟨changes, writes, found, rfl⟩
  · exact (presence.traces_finish waits decisive stop desired "Updated").mono
      fun _ _ looks => .of_looks looks
  · have rest := presence.traces_settle_finish waits decisive stop desired .update "Updated"
    simp only [List.isEmpty_iff, if_neg changes]
    exact presence.traces_writes decisive stop rest found

theorem traces_delete (state : Json) :
    ∃ request : Request, request.method = .delete ∧ ∀ stop,
      (Lifecycle.delete ⟨presence.route.api.kind, waits⟩ context state).Traces stop
        (Deletion request stop) := by
  unfold Lifecycle.delete
  cases presence.route.api.kind.decode.fromState state with
  | error error =>
    exact ⟨⟨.delete, "", none, none⟩, rfl, fun stop => .fail (.unsent _)⟩
  | ok known =>
    let session : Session := ⟨context, presence.route.api.kind.credentials context known⟩
    have decisive : session.context.client.retry.Decisive := decided
    let path := (presence.route.api.object context known).toOption.getD ""
    refine ⟨session.request .delete path none, rfl, ?_⟩
    intro stop
    apply Op.traces_after_about fun _ => .unsent _
    rintro _ ⟨⟩
    apply Deletion.traces_about
    simp only [Lifecycle.session]
    rw [presence.route.api.delete_eq, bind_assoc]
    apply Traces.after fun error _ => .unsent error
    intro found located
    have same : path = found := toOption_getD_of_ok located
    rw [same]
    apply (Session.traces_tell decisive .delete found none stop).bind
    · intro exchanges error one
      exact .failed one.toWriting
    · intro exchanges _ one
      have vanishing := presence.traces_vanish waits decisive stop known
        (Lifecycle.waitOptions ⟨presence.route.api.kind, waits⟩ .delete)
      apply vanishing.bind
      · intro later error looks
        exact .followed one.toWriting nofun (looks.congr (by simp))
      · intro later seen looks
        apply Traces.pure
        rw [List.append_nil]
        exact .followed one.toWriting nofun (looks.congr (by simp))

end Presence

end Provisioner

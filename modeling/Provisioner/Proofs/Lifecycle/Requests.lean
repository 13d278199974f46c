import Provisioner.Lifecycle
import Provisioner.Proofs.Kinds.Api
import Provisioner.Proofs.Lifecycle.Runs
import Provisioner.Proofs.Plan.Merge

/-!
# What a transition may send

A wait and a final read only look at the object that is expected. A creation posts the object and
looks at what the answer made of it, a deletion deletes it and looks at it. An update decides what
to send before it sends anything: what it sends is a look at the desired object or one of the writes
to it.
-/

namespace Provisioner

set_option autoImplicit false

open Operation (Sends SendsFrom)

theorem Op.Sends.after_about {α β : Type} {type : String} {id : Option String}
    {result : Except Error α} {next : α → Op Http.Wire β} {allowed : Http.Request → Prop}
    (tail : ∀ value, result = .ok value → (next value).Sends allowed) :
    (Op.about type id (Operation.ofExcept result) >>= next).Sends allowed := by
  cases result with
  | error error => exact .of_peer_eq fun _ => rfl
  | ok value => exact tail value rfl

namespace Api

open Http

variable (api : Api) (waits : Transition → Option WaitOptions) (session : Session)

/-- The requests that change an object. -/
def Tells (session : Session) (prior desired : api.kind.State) (changed : List String)
    (request : Request) : Prop :=
  ∃ writes, api.writes session.context prior desired changed = .ok writes ∧
    ∃ write ∈ writes, request = session.request write.method write.path write.body

theorem sends_writes (prior desired : api.kind.State) (changed : List String) :
    (api.kind.update session prior desired changed).Sends
      (api.Tells session prior desired changed) := by
  rw [api.update_eq]
  apply Sends.after
  intro writes found
  apply Sends.mono (session.sends_tellAll writes)
  intro request told
  exact ⟨writes, found, told⟩

theorem sends_poll (expected : api.kind.State) :
    (Lifecycle.poll ⟨api.kind, waits⟩ session expected).Sends (api.Looks session expected) := by
  apply Sends.bind (api.sends_read session expected)
  intro remote
  apply Sends.bind (.ofExcept _)
  intro state
  exact .pure _

theorem sends_settle (expected : api.kind.State) (transition : Transition) :
    (Lifecycle.settle ⟨api.kind, waits⟩ session expected transition).Sends
      (api.Looks session expected) := by
  apply Sends.bind (Op.Sends.awaitState (api.sends_poll waits session expected) _ _)
  intro observation
  split
  · exact Op.Sends.fail _
  · exact .pure _

theorem sends_finish (expected : api.kind.State) (step : String) :
    (Lifecycle.finish ⟨api.kind, waits⟩ session expected step).Sends
      (api.Looks session expected) := by
  apply Sends.bind (api.sends_read session expected)
  intro remote
  exact .of_peer_eq fun _ => rfl

theorem sends_refresh (context : Context) (known : api.kind.State) (isNew : Bool) :
    (Lifecycle.refresh ⟨api.kind, waits⟩ context known isNew).Sends
      (api.Looks ⟨context, api.kind.credentials context known⟩ known) := by
  apply Sends.bind (api.sends_read _ known).outcome
  intro result
  cases result with
  | error error =>
    simp only
    split
    · exact .pure none
    · exact .of_peer_eq fun _ => rfl
  | ok remote =>
    apply Sends.bind (.ofExcept _)
    intro state
    split
    · exact .pure none
    · exact .of_peer_eq fun _ => rfl

/-- The requests of a read: looks at the object of the state. -/
def Reads (context : Context) (state : Json) (request : Request) : Prop :=
  ∃ known, api.kind.decode.fromState state = .ok known ∧
    api.Looks ⟨context, api.kind.credentials context known⟩ known request

theorem sends_read_transition (context : Context) (state : Json) :
    (Lifecycle.read ⟨api.kind, waits⟩ context state).Sends (api.Reads context state) := by
  apply Op.Sends.after_about
  intro known decoded
  apply Op.Sends.about
  apply Sends.mono (api.sends_refresh waits context known false)
  intro request looks
  exact ⟨known, decoded, looks⟩

/-- The requests of an import: looks at the object that the key names. -/
def Imports (context : Context) (raw : String) (request : Request) : Prop :=
  ∃ key, ImportKey.parse raw api.kind.keyNames = .ok key ∧
    api.Looks ⟨context, api.kind.credentials context (api.kind.ofKey key)⟩ (api.kind.ofKey key)
      request

theorem sends_import (context : Context) (raw : String) :
    (Lifecycle.importKey ⟨api.kind, waits⟩ context raw).Sends (api.Imports context raw) := by
  apply Op.Sends.about
  apply Sends.after
  intro key parsed
  apply Sends.bind
  · apply Sends.mono (api.sends_refresh waits context (api.kind.ofKey key) true)
    intro request looks
    exact ⟨key, parsed, looks⟩
  · intro found
    cases found with
    | none => exact Op.Sends.fail _
    | some state => exact .pure state

/-- The requests of a deletion: the DELETE, and looks at the object of the state. -/
def Deletes (context : Context) (state : Json) (request : Request) : Prop :=
  ∃ known, api.kind.decode.fromState state = .ok known ∧
    ((∃ path, api.object context known = .ok path ∧
        request =
          Session.request ⟨context, api.kind.credentials context known⟩ .delete path none) ∨
      api.Looks ⟨context, api.kind.credentials context known⟩ known request)

theorem sends_delete (context : Context) (state : Json) :
    (Lifecycle.delete ⟨api.kind, waits⟩ context state).Sends (api.Deletes context state) := by
  apply Op.Sends.after_about
  intro known decoded
  apply Op.Sends.about
  apply Sends.bind
  · simp only [api.delete_eq]
    apply Sends.after
    intro path found
    apply Sends.mono (Session.sends_tell _ .delete path none)
    rintro request rfl
    exact ⟨known, decoded, Or.inl ⟨path, found, rfl⟩⟩
  · intro _
    apply Sends.bind
    · apply Op.Sends.awaitState
      apply Sends.mono (api.sends_poll waits _ known)
      intro request looks
      exact ⟨known, decoded, Or.inr looks⟩
    · intro _
      exact .pure ()

/-- The POST of a creation. -/
def Posts (context : Context) (config : Json) (request : Request) : Prop :=
  ∃ desired path, Lifecycle.decodeValid ⟨api.kind, waits⟩ config = .ok desired ∧
    api.collection context desired = .ok path ∧
    request = Session.request ⟨context, api.kind.credentials context desired⟩ .post path
      (some (api.posted desired))

/-- The same of a state that passed the check. -/
def PostsChecked (context : Context) (config : Json) (request : Request) : Prop :=
  ∃ desired path, Lifecycle.decodeValid ⟨api.kind, waits⟩ config = .ok desired ∧
    api.kind.validateCreate desired = .ok () ∧ api.collection context desired = .ok path ∧
    request = Session.request ⟨context, api.kind.credentials context desired⟩ .post path
      (some (api.posted desired))

theorem sends_submit_checked (context : Context) (config : Json) :
    (Lifecycle.submit ⟨api.kind, waits⟩ context config).Sends
      (api.PostsChecked waits context config) := by
  apply Sends.after
  intro desired decoded
  apply Sends.after
  intro _ checked
  apply Sends.bind (.of_peer_eq fun _ => rfl)
  intro _
  apply Sends.bind
  · rw [api.create_eq]
    apply Sends.after
    intro path found
    apply Sends.mono (Session.sends_call _ .post path _ api.created)
    rintro request rfl
    exact ⟨desired, path, decoded, checked, found, rfl⟩
  · intro created
    exact .pure _

theorem sends_submit (context : Context) (config : Json) :
    (Lifecycle.submit ⟨api.kind, waits⟩ context config).Sends
      (api.Posts waits context config) := by
  apply Sends.mono (api.sends_submit_checked waits context config)
  rintro request ⟨desired, path, decoded, _, found, same⟩
  exact ⟨desired, path, decoded, found, same⟩

theorem sends_after_post (accepted : api.kind.State) :
    (Op.about api.kind.name (some (api.kind.id accepted)) (do
      Lifecycle.settle ⟨api.kind, waits⟩ session accepted .create
      Lifecycle.finish ⟨api.kind, waits⟩ session accepted "Created")).Sends
        (api.Looks session accepted) := by
  apply Op.Sends.about
  apply Sends.bind (api.sends_settle waits session accepted .create)
  intro _
  exact api.sends_finish waits session accepted "Created"

/-- The requests of a creation in a world: the POST, and looks at what the answer to it made of the
object. -/
def Creates (context : Context) (config : Json) (w : World Wire) (request : Request) : Prop :=
  api.Posts waits context config request ∨ ∃ desired accepted submitted,
    Lifecycle.submit ⟨api.kind, waits⟩ context config w = (.ok (desired, accepted), submitted) ∧
    api.Looks ⟨context, api.kind.credentials context desired⟩ accepted request

theorem sends_create (context : Context) (config : Json) :
    (Lifecycle.create ⟨api.kind, waits⟩ context config).SendsFrom
      (api.Creates waits context config) := by
  have posting := Op.Sends.about (api.sends_submit waits context config) api.kind.name none
  apply SendsFrom.bind (posting.sendsFrom fun _ _ => Or.inl)
  rintro w middle ⟨desired, accepted⟩ run
  have looking : ∀ request, api.Looks ⟨context, api.kind.credentials context desired⟩ accepted
      request → api.Creates waits context config w request :=
    fun request looks => Or.inr ⟨desired, accepted, middle, Op.about_ok_iff.mp run, looks⟩
  exact Sends.mono (api.sends_after_post waits _ accepted) looking

/-- What a creation sends with a body is its POST; looks have none. -/
theorem posts_of_body {context : Context} {config : Json} {w : World Wire} {entry : Sent}
    (member : entry ∈ (Lifecycle.create ⟨api.kind, waits⟩ context config).sent w) {body : Json}
    (carried : entry.request.body = some body) :
    api.PostsChecked waits context config entry.request := by
  have looks : ∀ session expected request, api.Looks session expected request →
      request.body = none ∨ api.PostsChecked waits context config request := by
    intro session expected request looks
    obtain ⟨_, _, _, _, rfl⟩ := looks
    exact Or.inl rfl
  have creates : (Lifecycle.create ⟨api.kind, waits⟩ context config).Sends fun request =>
      request.body = none ∨ api.PostsChecked waits context config request := by
    apply Sends.bind
    · apply Op.Sends.about
      apply Sends.mono (api.sends_submit_checked waits context config)
      intro request posts
      exact Or.inr posts
    rintro ⟨desired, accepted⟩
    exact Sends.mono (api.sends_after_post waits _ accepted) (looks _ accepted)
  refine (creates.of_sent w member).resolve_left ?_
  intro empty
  rw [empty] at carried
  cases carried

theorem post_sent_of_run {context : Context} {config state : Json} {w after : World Wire}
    (run : Lifecycle.create ⟨api.kind, waits⟩ context config w = (.ok state, after)) :
    ∃ entry ∈ (Lifecycle.create ⟨api.kind, waits⟩ context config).sent w,
      api.PostsChecked waits context config entry.request := by
  obtain ⟨desired, accepted, submitted, settled, submission, _⟩ := Lifecycle.create_ok_iff.mp run
  obtain ⟨decoded, checked, created, creating, _⟩ := Lifecycle.submit_ok_iff.mp submission
  obtain ⟨posts, transcript, path, found, called⟩ := posted_of_create creating
  obtain ⟨earlier, last, _, split, _⟩ := called.answered
  have member : last ∈ posts := by
    rw [split]
    exact List.mem_append_right _ (List.mem_singleton_self last)
  have submitting : Op.about api.kind.name none
      (Lifecycle.submit ⟨api.kind, waits⟩ context config) w =
        (.ok (desired, accepted), submitted) := Op.about_ok_iff.mpr submission
  have inSubmit := Operation.mem_sent_of_run submitting transcript member
  refine ⟨last.sent, ?_, desired, path, decoded, checked, found, called.only last member⟩
  have looking : ∀ pair : api.kind.State × api.kind.State,
      (Op.about api.kind.name (some (api.kind.id pair.2)) (do
        Lifecycle.settle ⟨api.kind, waits⟩ ⟨context, api.kind.credentials context pair.1⟩ pair.2
          .create
        Lifecycle.finish ⟨api.kind, waits⟩ ⟨context, api.kind.credentials context pair.1⟩ pair.2
          "Created")).Sends fun request => request.body = none := by
    intro pair
    apply Sends.mono (api.sends_after_post waits _ pair.2)
    rintro request ⟨_, _, _, _, rfl⟩
    rfl
  exact Sends.mem_sent_bind (Op.Sends.about (api.sends_submit waits context config) _ _) submitting
    looking inSubmit

/-- The requests of an update that was prepared. -/
def Updates (context : Context) (priorState config : Json) (request : Request) : Prop :=
  ∃ prior desired changed, api.kind.decode.fromState priorState = .ok prior ∧
    Lifecycle.prepareUpdate ⟨api.kind, waits⟩ priorState config prior = .ok (desired, changed) ∧
    (api.Tells ⟨context, api.kind.credentials context desired⟩ prior desired changed request ∨
      api.Looks ⟨context, api.kind.credentials context desired⟩ desired request)

theorem sends_update (context : Context) (priorState config : Json) :
    (Lifecycle.update ⟨api.kind, waits⟩ context priorState config).Sends
      (api.Updates waits context priorState config) := by
  unfold Lifecycle.update
  apply Op.Sends.after_about
  intro prior decoded
  apply Op.Sends.about
  apply Sends.after
  rintro ⟨desired, changed⟩ prepared
  simp only
  have looking : ∀ request,
      api.Looks ⟨context, api.kind.credentials context desired⟩ desired request →
        api.Updates waits context priorState config request :=
    fun request looks => ⟨prior, desired, changed, decoded, prepared, Or.inr looks⟩
  have finishing := Sends.mono (api.sends_finish waits
    ⟨context, api.kind.credentials context desired⟩ desired "Updated") looking
  split
  · exact finishing
  · apply Sends.bind
    · apply Sends.mono (api.sends_writes _ prior desired changed)
      intro request tells
      exact ⟨prior, desired, changed, decoded, prepared, Or.inl tells⟩
    · intro _
      apply Sends.bind
      · exact Sends.mono (api.sends_settle waits _ desired .update) looking
      · intro _
        exact finishing

theorem tells_or_looks {context : Context} {priorState config : Json} {w : World Wire}
    {entry : Sent} (member : entry ∈
      (Lifecycle.update ⟨api.kind, waits⟩ context priorState config).sent w) :
    ∃ prior desired changed, api.kind.decode.fromState priorState = .ok prior ∧
      Lifecycle.prepareUpdate ⟨api.kind, waits⟩ priorState config prior = .ok (desired, changed) ∧
      (api.Tells ⟨context, api.kind.credentials context desired⟩ prior desired changed
        entry.request ∨ entry.request.method = .get ∧ entry.request.body = none) := by
  obtain ⟨prior, desired, changed, decoded, prepared, tells | looks⟩ :=
    (api.sends_update waits context priorState config).of_sent w member
  · exact ⟨prior, desired, changed, decoded, prepared, Or.inl tells⟩
  · obtain ⟨_, _, _, _, look⟩ := looks
    refine ⟨prior, desired, changed, decoded, prepared, Or.inr ?_⟩
    rw [look]
    exact ⟨rfl, rfl⟩

theorem tells_of_write {context : Context} {priorState config : Json} {w : World Wire}
    {entry : Sent} (member : entry ∈
      (Lifecycle.update ⟨api.kind, waits⟩ context priorState config).sent w)
    (writes : entry.request.method ≠ .get) :
    ∃ prior desired changed, api.kind.decode.fromState priorState = .ok prior ∧
      Lifecycle.prepareUpdate ⟨api.kind, waits⟩ priorState config prior = .ok (desired, changed) ∧
      api.Tells ⟨context, api.kind.credentials context desired⟩ prior desired changed
        entry.request := by
  obtain ⟨prior, desired, changed, decoded, prepared, tells | ⟨get, _⟩⟩ :=
    api.tells_or_looks waits member
  · exact ⟨prior, desired, changed, decoded, prepared, tells⟩
  · exact absurd get writes

theorem writes_of_body {context : Context} {priorState config : Json} {w : World Wire}
    {entry : Sent} (member : entry ∈
      (Lifecycle.update ⟨api.kind, waits⟩ context priorState config).sent w) {body : Json}
    (carried : entry.request.body = some body) :
    ∃ prior desired changed, api.kind.decode.fromState priorState = .ok prior ∧
      Lifecycle.prepareUpdate ⟨api.kind, waits⟩ priorState config prior = .ok (desired, changed) ∧
      api.Tells ⟨context, api.kind.credentials context desired⟩ prior desired changed
        entry.request := by
  obtain ⟨prior, desired, changed, decoded, prepared, tells | ⟨_, empty⟩⟩ :=
    api.tells_or_looks waits member
  · exact ⟨prior, desired, changed, decoded, prepared, tells⟩
  · rw [empty] at carried
    cases carried

theorem mem_sent_update {context : Context} {priorState config : Json}
    {prior desired : api.kind.State} {changed : List String} {w told : World Wire}
    (decoded : api.kind.decode.fromState priorState = .ok prior)
    (prepared : Lifecycle.prepareUpdate ⟨api.kind, waits⟩ priorState config prior =
      .ok (desired, changed)) (changes : changed ≠ [])
    (telling : api.kind.update ⟨context, api.kind.credentials context desired⟩ prior desired
      changed w = (.ok (), told)) {entry : Sent}
    (member : entry ∈ (api.kind.update ⟨context, api.kind.credentials context desired⟩ prior
      desired changed).sent w) :
    entry ∈ (Lifecycle.update ⟨api.kind, waits⟩ context priorState config).sent w := by
  have inside := Sends.mem_sent_bind (api.sends_writes _ prior desired changed) telling
    (fun _ => Sends.bind (api.sends_settle waits _ desired .update) fun _ =>
      api.sends_finish waits ⟨context, api.kind.credentials context desired⟩ desired "Updated")
    member
  unfold Operation.sent at inside ⊢
  unfold Lifecycle.update
  rw [Operation.bind_of_ok (Op.about_ok_iff.mpr (Operation.ofExcept_ok_iff.mpr ⟨decoded, rfl⟩)),
    Op.world_about, Operation.bind_of_ok (Operation.ofExcept_ok_iff.mpr ⟨prepared, rfl⟩)]
  simp only [List.isEmpty_iff, if_neg changes]
  exact inside

theorem sent_of_update {context : Context} {priorState config : Json}
    {prior desired : api.kind.State} {changed : List String} {w told : World Wire}
    (decoded : api.kind.decode.fromState priorState = .ok prior)
    (prepared : Lifecycle.prepareUpdate ⟨api.kind, waits⟩ priorState config prior =
      .ok (desired, changed)) (changes : changed ≠ [])
    (telling : api.kind.update ⟨context, api.kind.credentials context desired⟩ prior desired
      changed w = (.ok (), told)) {all : List Write}
    (listed : api.writes context prior desired changed = .ok all) {write : Write}
    (inside : write ∈ all) :
    ∃ entry ∈ (Lifecycle.update ⟨api.kind, waits⟩ context priorState config).sent w,
      entry.request = Session.request ⟨context, api.kind.credentials context desired⟩
        write.method write.path write.body := by
  have tellsAll := telling
  rw [api.update_eq] at tellsAll
  obtain ⟨found, same, tellsFound⟩ := Operation.bind_ofExcept_ok_iff.mp tellsAll
  cases Except.ok.inj (listed.symm.trans same)
  obtain ⟨exchanges, transcript, each⟩ := Session.sent_of_tellAll tellsFound
  obtain ⟨exchange, member, request⟩ := each write inside
  exact ⟨exchange.sent, api.mem_sent_update waits decoded prepared changes telling
    (Operation.mem_sent_of_run telling transcript member), request⟩

theorem writes_sent_of_run {context : Context} {priorState config state : Json}
    {w after : World Wire}
    (run : Lifecycle.update ⟨api.kind, waits⟩ context priorState config w = (.ok state, after))
    (changes : api.kind.schema.changedNames priorState
      (api.kind.schema.mergeComputed priorState config) ≠ []) :
    ∃ prior desired writes, api.kind.decode.fromState priorState = .ok prior ∧
      api.writes context prior desired (api.kind.schema.changedNames priorState
        (api.kind.schema.mergeComputed priorState config)) = .ok writes ∧
      ∀ write ∈ writes,
        ∃ entry ∈ (Lifecycle.update ⟨api.kind, waits⟩ context priorState config).sent w,
          entry.request = Session.request ⟨context, api.kind.credentials context desired⟩
            write.method write.path write.body := by
  obtain ⟨prior, desired, changed, settled, decoded, prepared, writing, _⟩ :=
    Lifecycle.update_ok_iff.mp run
  obtain ⟨_, _, rfl, _⟩ := Lifecycle.prepareUpdate_ok_iff.mp prepared
  rw [if_neg changes] at writing
  obtain ⟨told, telling, _⟩ := writing
  have updating := telling
  rw [api.update_eq] at telling
  obtain ⟨writes, found, _⟩ := Operation.bind_ofExcept_ok_iff.mp telling
  refine ⟨prior, desired, writes, decoded, found, ?_⟩
  intro write inside
  exact api.sent_of_update waits decoded prepared changes updating found inside

theorem write_sent {context : Context} (accepting : context.client.retry.Accepting)
    {priorState config : Json} {prior desired : api.kind.State} {changed : List String}
    (decoded : api.kind.decode.fromState priorState = .ok prior)
    (prepared : Lifecycle.prepareUpdate ⟨api.kind, waits⟩ priorState config prior =
      .ok (desired, changed)) (changes : changed ≠ []) {write : Write}
    (only : api.writes context prior desired changed = .ok [write]) {w : World Wire}
    {answer : Answer} {rest : List Answer} (ready : Ready w (answer :: rest))
    {result : Option Json} (succeeds : answer.Succeeds result) :
    ∃ entry ∈ (Lifecycle.update ⟨api.kind, waits⟩ context priorState config).sent w,
      entry.request.method = write.method ∧
        entry.request.url = context.client.url write.path ∧ entry.request.body = write.body := by
  let session : Session := ⟨context, api.kind.credentials context desired⟩
  have acceptingHere : session.context.client.retry.Accepting := accepting
  obtain ⟨told, updating, _⟩ := update_of_ready acceptingHere only succeeds ready
  obtain ⟨entry, member, request⟩ := api.sent_of_update waits decoded prepared changes updating
    only (List.mem_singleton_self write)
  refine ⟨entry, member, ?_⟩
  rw [request]
  exact ⟨rfl, rfl, rfl⟩

end Api

end Provisioner

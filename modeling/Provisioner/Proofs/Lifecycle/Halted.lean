import Provisioner.Proofs.Kinds.Route
import Provisioner.Proofs.Lifecycle.Stopping

/-!
# Transitions of a stopped host

Once the host has asked to stop, a request fails before it is sent, so no transition can succeed:
each of them needs at least one answer. Not even a read does, which would take a missing object for
gone: the error of a stop does not say that anything is missing.
-/

namespace Provisioner

set_option autoImplicit false

open Http
open Operation (bind_of_ok bind_of_error)

namespace World

variable {w after : World Wire}

theorem Leads.sent_of_stopped (leads : w.Leads after) (stopped : w.isStopped = true) :
    after.peer.sent = w.peer.sent := by
  obtain ⟨fresh, logged, times⟩ := leads.logged
  have none : fresh = [] := by
    apply List.eq_nil_iff_forall_not_mem.mpr
    intro entry member
    obtain ⟨notBefore, inTime⟩ := times entry member
    unfold World.isStopped at stopped
    cases asked : w.stopAt with
    | none => simp [asked] at stopped
    | some stop =>
      have early : stop ≤ w.now := by simpa [asked] using stopped
      have late := inTime stop asked
      omega
  rw [logged, none, List.append_nil]

end World

section Requests

variable {w : World Wire} (stopped : w.isStopped = true)

include stopped

theorem Http.send_of_stopped (policy : RetryPolicy) (request : Request) :
    send policy request w = (.error { failure := .cancelled }, w) := by
  obtain ⟨left, limit⟩ := policy.attemptLimit_eq_succ w.peer
  unfold send
  rw [limit]
  exact exchange_of_error (attempt_of_stopped stopped)

theorem Session.call_of_stopped {α : Type} (session : Session) (method : Method) (path : String)
    (body : Option Json) (decode : Decoder α) :
    session.call method path body decode w = (.error { failure := .cancelled }, w) :=
  bind_of_error (send_of_stopped stopped _ _) _

theorem Session.tell_of_stopped (session : Session) (method : Method) (path : String)
    (body : Option Json) :
    session.tell method path body w = (.error { failure := .cancelled }, w) :=
  bind_of_error (send_of_stopped stopped _ _) _

theorem Reading.run_of_stopped {ρ : Type} (session : Session) (reading : Reading ρ) :
    reading.run session w = (.error { failure := .cancelled }, w) := by
  cases reading with
  | one path decode => exact session.call_of_stopped stopped .get path none decode
  | two path decode second decodeSecond combine =>
    exact bind_of_error (session.call_of_stopped stopped .get path none decode) _

end Requests

theorem Error.isNotFound_of_refusal {error : Error} (refusal : error.isRefusal = true) :
    error.isNotFound = false := by
  unfold isRefusal at refusal
  unfold isNotFound
  cases cause : error.failure with
  | validation message => rfl
  | _ =>
    rw [cause] at refusal
    cases refusal

/-- Whatever the world, the operation fails if the host has asked to stop. -/
def Operation.Halts {ε α : Type} (op : Operation Wire ε α) : Prop :=
  ∀ w : World Wire, w.isStopped = true → ∃ error after, op w = (.error error, after)

namespace Operation.Halts

variable {ε α β : Type}

theorem bind {first : Operation Wire ε α} {next : α → Operation Wire ε β} (halts : first.Halts) :
    (first >>= next).Halts := by
  intro w stopped
  obtain ⟨error, after, failed⟩ := halts w stopped
  exact ⟨error, after, bind_of_error failed next⟩

theorem after {first : Operation Wire ε α} {next : α → Operation Wire ε β}
    (leads : ∀ w : World Wire, w.Leads (first w).2) (tail : ∀ value, (next value).Halts) :
    (first >>= next).Halts := by
  intro w stopped
  have kept := (leads w).isStopped stopped
  rcases run : first w with ⟨error | value, middle⟩
  · exact ⟨error, middle, bind_of_error run next⟩
  · rw [run] at kept
    obtain ⟨error, last, failed⟩ := tail value middle kept
    exact ⟨error, last, (bind_of_ok run next).trans failed⟩

theorem after_instant {first : Operation Wire ε α} {next : α → Operation Wire ε β}
    (still : ∀ w, (first w).2.now = w.now ∧ (first w).2.stopAt = w.stopAt ∧
      (first w).2.peer = w.peer) (tail : ∀ value, (next value).Halts) : (first >>= next).Halts := by
  apply after _ tail
  intro w
  obtain ⟨now, asked, peer⟩ := still w
  exact .of_peer_eq (Nat.le_of_eq now.symm) asked peer

theorem after_refusal {result : Except ε α} {next : α → Operation Wire ε β}
    (tail : ∀ value, (next value).Halts) : (Operation.ofExcept result >>= next).Halts :=
  after_instant (fun _ => ⟨rfl, rfl, rfl⟩) tail

theorem about {op : Op Wire α} (halts : op.Halts) (type : String) (id : Option String) :
    (Op.about type id op).Halts := by
  intro w stopped
  obtain ⟨error, last, failed⟩ := halts w stopped
  exact ⟨error.about type id, last, Op.about_error_iff.mpr ⟨error, failed, rfl⟩⟩

theorem map {op : Operation Wire ε α} (halts : op.Halts) (f : α → β) : (f <$> op).Halts := by
  rw [map_eq_pure_bind]
  exact halts.bind

end Operation.Halts

open Operation (Halts)

namespace Route

variable (route : Route) (waits : Transition → Option WaitOptions) (session : Session)
  (context : Context)

section Calls

variable (state : route.api.kind.State)

theorem read_of_stopped {w : World Wire} (stopped : w.isStopped = true) :
    ∃ error, route.api.kind.read session state w = (.error error, w) ∧
      error.isNotFound = false := by
  rw [route.api.read_eq]
  cases located : route.api.object session.context state with
  | error refusal =>
    have refused : refusal.isRefusal = true := route.refusal_of_object located
    exact ⟨refusal, rfl, Error.isNotFound_of_refusal refused⟩
  | ok path =>
    refine ⟨{ failure := .cancelled }, ?_, rfl⟩
    exact (route.api.reading path).run_of_stopped stopped session

theorem halts_read : (route.api.kind.read session state).Halts := by
  intro w stopped
  obtain ⟨error, failed, _⟩ := route.read_of_stopped session state stopped
  exact ⟨error, w, failed⟩

theorem halts_create : (route.api.kind.create session state).Halts := by
  rw [route.api.create_eq]
  apply Halts.after_refusal
  intro path w stopped
  exact ⟨_, w, session.call_of_stopped stopped .post path _ _⟩

theorem halts_delete : (route.api.kind.delete session state).Halts := by
  rw [route.api.delete_eq]
  apply Halts.after_refusal
  intro path w stopped
  exact ⟨_, w, session.tell_of_stopped stopped .delete path none⟩

theorem halts_refresh (isNew : Bool) :
    (Lifecycle.refresh ⟨route.api.kind, waits⟩ context state isNew).Halts := by
  intro w stopped
  obtain ⟨error, failed, present⟩ := route.read_of_stopped
    ⟨context, route.api.kind.credentials context state⟩ state stopped
  refine ⟨error, w, ?_⟩
  unfold Lifecycle.refresh Lifecycle.session
  rw [bind_of_ok (Operation.run_outcome _ w), failed]
  simp [present]

end Calls

theorem halts_create_transition (config : Json) :
    (Lifecycle.create ⟨route.api.kind, waits⟩ context config).Halts := by
  apply Halts.bind
  apply Halts.about
  apply Halts.after_refusal
  intro desired
  apply Halts.after_refusal
  intro _
  apply Halts.after_instant fun _ => ⟨rfl, rfl, rfl⟩
  intro _
  exact Halts.bind (route.halts_create _ desired)

theorem halts_read_transition (state : Json) :
    (Lifecycle.read ⟨route.api.kind, waits⟩ context state).Halts := by
  apply Halts.after_instant fun _ => ⟨rfl, rfl, rfl⟩
  intro known
  exact (route.halts_refresh waits context known false).about _ _

theorem halts_update_transition (prior config : Json) :
    (Lifecycle.update ⟨route.api.kind, waits⟩ context prior config).Halts := by
  apply Halts.after_instant fun _ => ⟨rfl, rfl, rfl⟩
  intro known
  apply Halts.about
  apply Halts.after_refusal
  rintro ⟨desired, changed⟩
  have finishes : (Lifecycle.finish ⟨route.api.kind, waits⟩
      ⟨context, route.api.kind.credentials context desired⟩ desired "Updated").Halts :=
    Halts.bind (route.halts_read _ desired)
  simp only
  split
  · exact finishes
  · apply Halts.after (route.api.interruptible_update _ desired known changed).leads
    intro _
    apply Halts.after (route.api.interruptible_settle waits _ desired .update).leads
    intro _
    exact finishes

theorem halts_delete_transition (state : Json) :
    (Lifecycle.delete ⟨route.api.kind, waits⟩ context state).Halts := by
  apply Halts.after_instant fun _ => ⟨rfl, rfl, rfl⟩
  intro known
  apply Halts.about
  exact Halts.bind (route.halts_delete _ known)

theorem halts_import (key : String) :
    (Lifecycle.importKey ⟨route.api.kind, waits⟩ context key).Halts := by
  apply Halts.about
  apply Halts.after_refusal
  intro parsed
  exact Halts.bind (route.halts_refresh waits context _ true)

end Route

end Provisioner

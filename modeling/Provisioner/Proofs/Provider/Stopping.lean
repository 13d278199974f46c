import Mathlib
import Provisioner.Proofs.Lifecycle.Gone
import Provisioner.Proofs.Lifecycle.Stopping
import Provisioner.Proofs.Provider.Calls

/-!
# Stop requests during an operation of the provider

A host may ask to stop at any time during any operation. The operation sends nothing from then on
and is over by then; if it was still waiting, it fails and says that it was cancelled. There is one
exception: the body of a final answer is read to its end. An operation that is asked to stop while
it reads one goes on until then, and it may still succeed.
-/

namespace Provisioner

set_option autoImplicit false

open Http
open Error (IsCancelled)
open Operation (Interruptible)

/-- The same world with a host that never asks to stop. -/
def World.unstopped {σ : Type} (w : World σ) : World σ := { w with stopAt := none }

/-- The policy by which a provider repeats requests. It sends none before it is configured. -/
def Provider.retry (p : Provider) : RetryPolicy :=
  match p.context with
  | some context => context.client.retry
  | none => { maxRetries := 0 }

namespace Provider

variable {α : Type} (p : Provider)

theorem interruptible_transition {type : String} {act : Lifecycle Wire → Context → Op Wire α}
    (each : ∀ (api : Api) (context : Context),
      (act (p.lifecycle api.kind) context).Interruptible context.client.retry
        (IsCancelled api.kind.name)) :
    (p.transition type act).Interruptible p.retry (IsCancelled type) := by
  rcases p.transition_cases type act with ⟨failure, _, refused⟩ | ⟨kind, member, context, runs⟩
  · rw [refused]
    exact Op.interruptible_fail failure
  · obtain ⟨rfl, configured, started⟩ := runs
    rw [← kind_apis] at member
    obtain ⟨api, _, rfl⟩ := List.mem_map.mp member
    have same : p.retry = context.client.retry := by
      unfold retry
      rw [configured]
    rw [started, same]
    exact each api context

end Provider

namespace Call

/-- The type of the objects that an operation is about. -/
def type : Call → String
  | .validate type _ | .plan type _ _ | .create type _ | .read type _ | .update type _ _
  | .delete type _ | .importKey type _ | .lookUp type _ => type

theorem interruptible_run (p : Provider) (call : Call) :
    (call.run p).Interruptible p.retry (IsCancelled call.type) := by
  cases call with
  | validate type config => exact Interruptible.map (.ofExcept _) _
  | plan type prior proposed => exact Interruptible.map (.ofExcept _) _
  | create type config =>
    apply Interruptible.map
    apply p.interruptible_transition
    intro api context
    exact api.interruptible_create_transition (fun _ => p.waits) context config
  | read type state =>
    apply Interruptible.map
    apply p.interruptible_transition
    intro api context
    exact api.interruptible_read_transition (fun _ => p.waits) context state
  | update type prior config =>
    apply Interruptible.map
    apply p.interruptible_transition
    intro api context
    exact api.interruptible_update_transition (fun _ => p.waits) context prior config
  | delete type state =>
    apply Interruptible.map
    apply p.interruptible_transition
    intro api context
    exact api.interruptible_delete_transition (fun _ => p.waits) context state
  | importKey type key =>
    apply Interruptible.map
    apply p.interruptible_transition
    intro api context
    apply Interruptible.bind (api.interruptible_import (fun _ => p.waits) context key)
    intro state
    exact .pure _
  | lookUp type config =>
    apply Interruptible.map
    apply Interruptible.bind (.ofExcept _)
    intro key
    apply p.interruptible_transition
    intro api context
    exact api.interruptible_import (fun _ => p.waits) context key

end Call

/-- How an operation ends that the host asks to stop at a time, compared with the same operation of
a host that never does. Only waiting takes time: one that would end later was waiting then for
something that had not come yet. -/
structure Interrupts (type : String) (stop : Nat) (free halted : Except Error Reply × World Wire) :
    Prop where
  punctual : halted.2.now ≤ stop
  cancelled : stop < free.2.now → halted.2.now = stop ∧ ∃ error,
    halted.1 = .error error ∧ IsCancelled type error
  unchanged : free.2.now < stop → halted = (free.1, free.2.stoppedAt stop)

/-- Whatever is answered and whenever the host asks to stop, nothing is sent from then on, and the
operation is over by then, as cancelled if it was still waiting, unless the body of a final answer
is being read. Then it ends with that body, with the result that it would have had or as
cancelled. -/
theorem stop_interrupts_iff {p : Provider} {call : Call} {wire : Wire} {asks : Option Nat}
    {stop : Nat} (asked : (p.world wire asks).stopAt = some stop) :
    let free := call.run p (p.world wire asks).unstopped
    let halted := call.run p (p.world wire asks)
    (∀ entry ∈ (call.run p).sent (p.world wire asks), entry.time < stop) ∧
      halted.2.peer.sent <+: free.2.peer.sent ∧
      ∃ exchanges, Transcript wire exchanges halted.2.peer ∧
        (Interrupts call.type stop free halted ↔
          ∀ finish, ¬p.retry.Reads stop 1 exchanges finish) ∧
        ∀ finish, p.retry.Reads stop 1 exchanges finish → halted.2.now = finish ∧
          (halted = (free.1, free.2.stoppedAt stop) ∨
            ∃ error, halted.1 = .error error ∧ IsCancelled call.type error) := by
  intro free halted
  have interruptible := call.interruptible_run p
  have leads : (p.world wire asks).Leads halted.2 := interruptible.leads (p.world wire asks)
  have same : (p.world wire asks).unstopped.stoppedAt stop = p.world wire asks := by
    unfold World.unstopped World.stoppedAt
    rw [← asked]
  have cut : Operation.Cut p.retry (IsCancelled call.type) stop 1 wire free halted := by
    have cut := interruptible.cut (p.world wire asks).unstopped stop rfl (Nat.zero_le stop)
    rw [same] at cut
    exact cut
  have punctual : ∀ entry ∈ (call.run p).sent (p.world wire asks), entry.time < stop := by
    intro entry member
    obtain ⟨fresh, logged, times⟩ := leads.logged
    have new : entry ∈ fresh := by
      unfold Operation.sent at member
      rw [logged, List.drop_left] at member
      exact member
    exact (times entry new).2 stop asked
  refine ⟨punctual, ?_⟩
  cases cut with
  | @before exchanges transcript unread _ early unchanged =>
    have interrupts : Interrupts call.type stop free halted := by
      rw [unchanged]
      exact ⟨early, fun late => absurd early (Nat.not_le.mpr late), fun _ => rfl⟩
    rw [unchanged] at interrupts ⊢
    exact ⟨List.prefix_refl _, exchanges, transcript, iff_of_true interrupts unread,
      fun finish reads => absurd reads (unread finish)⟩
  | @interrupted exchanges transcript unread _ failed because reached late sent =>
    have interrupts : Interrupts call.type stop free halted :=
      ⟨Nat.le_of_eq reached, fun _ => ⟨reached, _, failed, because⟩,
        fun early => absurd late (Nat.not_le.mpr early)⟩
    exact ⟨sent, exchanges, transcript, iff_of_true interrupts unread,
      fun finish reads => absurd reads (unread finish)⟩
  | @reading exchanges transcript reads ending sent =>
    have overdue : ¬Interrupts call.type stop free halted := fun interrupts =>
      absurd interrupts.punctual (Nat.not_le.mpr reads.late)
    have read : ¬∀ finish, ¬p.retry.Reads stop 1 exchanges finish := fun unread =>
      unread _ reads
    refine ⟨sent, exchanges, transcript, iff_of_false overdue read, ?_⟩
    intro finish readsToo
    exact ⟨reads.unique readsToo, ending⟩

namespace ServiceAccount

/-- An answer of 404 that takes five seconds. -/
def lateAnswer : Answer where
  delay := 5000
  delivery := .response { status := 404, body := some "" }

def botText : String := "\x7b\"display_name\":\"bot\",\"id\":\"sa-1\"\x7d"

/-- An answer that comes at once, but whose body takes five seconds. -/
def slowAnswer : Answer where
  delivery := .response { status := 200, body := some botText, bodyDelay := 5000 }

def provider : Provider := { context := some Context.plain }

def deletion : Call := .delete "confluent_service_account" botJson

def reading : Call := .read "confluent_service_account" botJson

/-- A world whose host asks to stop after two seconds. -/
def stoppedWorld (script : List Answer) : World Wire := provider.world { script } (some 2000)

end ServiceAccount

open ServiceAccount in
/-- A deletion that would succeed after five seconds, once the account is not found any more, but
whose host asks to stop after two. -/
theorem stop_interrupts_deletion :
    (provider.world { script := [deletedAnswer, lateAnswer] } (some 2000)).stopAt = some 2000 ∧
      (deletion.run provider (stoppedWorld [deletedAnswer, lateAnswer]).unstopped).1 =
        .ok .done ∧
      (deletion.run provider (stoppedWorld [deletedAnswer, lateAnswer]).unstopped).2.now = 5000 ∧
      (deletion.run provider (stoppedWorld [deletedAnswer, lateAnswer])).1 = .error {
        failure := .cancelled
        subject := some ⟨"confluent_service_account", "sa-1"⟩ } ∧
      (deletion.run provider (stoppedWorld [deletedAnswer, lateAnswer])).2.now = 2000 ∧
      Interrupts "confluent_service_account" 2000
        (deletion.run provider (stoppedWorld [deletedAnswer, lateAnswer]).unstopped)
        (deletion.run provider (stoppedWorld [deletedAnswer, lateAnswer])) := by
  have early : (deletion.run provider (stoppedWorld [deletedAnswer, lateAnswer])).2.now = 2000 := by
    decide
  obtain ⟨_, _, exchanges, _, interrupts, reading⟩ :=
    @stop_interrupts_iff provider deletion { script := [deletedAnswer, lateAnswer] } (some 2000)
      2000 rfl
  refine ⟨rfl, rfl, by decide, rfl, early, interrupts.mpr ?_⟩
  intro finish reads
  have ends : 2000 = finish := early.symm.trans (reading finish reads).1
  exact absurd reads.late (ends ▸ Nat.lt_irrefl _)

namespace ServiceAccount

theorem conclude_slowAnswer : conclude slowAnswer.delivered = .ok (some botJson) := by
  have read : Json.read botText = .ok botJson := by cbv
  show interpret 200 botText = _
  unfold interpret
  rw [read]
  rfl

/-- The answer is read to its end, three seconds after the stop request. -/
theorem read_slowAnswer :
    ∃ after, Lifecycle.read ⟨kind, fun _ => none⟩ Context.plain botJson
        (stoppedWorld [slowAnswer]) = (.ok (some (State.encode ⟨"sa-1", "bot", ""⟩)), after) ∧
      after.now = 5000 := by
  let session : Session := ⟨Context.plain, none⟩
  let request := session.request .get (path "sa-1") none
  let arrived := afterSending request (stoppedWorld [slowAnswer]) 0
  have attempted : attempt request (stoppedWorld [slowAnswer]) =
      (.ok slowAnswer.delivered, arrived) := rfl
  have sent : session.send .get (path "sa-1") none (stoppedWorld [slowAnswer]) =
      (.ok (some botJson), { arrived with now := 5000 }) := by
    have received : exchange Context.plain.client.retry request 1 (0 + 1)
        (stoppedWorld [slowAnswer]) = receive slowAnswer.delivered arrived :=
      exchange_of_final attempted rfl
    rw [run_receive, conclude_slowAnswer] at received
    exact received
  have read : kind.read session ⟨"sa-1", "bot", ""⟩ (stoppedWorld [slowAnswer]) =
      (.ok ⟨"sa-1", "bot", ""⟩, { arrived with now := 5000 }) := by
    show session.call .get (path "sa-1") none Remote.decode _ = _
    unfold Session.call
    rw [Operation.bind_of_ok sent]
    rfl
  let remote : Remote := ⟨"sa-1", "bot", ""⟩
  let known : State := ⟨"sa-1", "bot", ""⟩
  exact ⟨_, Lifecycle.read_ok_iff.mpr ⟨known, rfl, Lifecycle.refresh_some_iff.mpr
    ⟨remote, .stable, _, read, rfl, by simp, rfl, rfl⟩⟩, rfl⟩

end ServiceAccount

open ServiceAccount in
/-- A read that is asked to stop after two seconds, while it reads an answer. It gives a state after
five. -/
theorem read_outlasts_stop :
    ∃ reached, reading.run provider (stoppedWorld [slowAnswer]) =
        (.ok (.state (some (State.encode ⟨"sa-1", "bot", ""⟩))), reached) ∧
      reached.now = 5000 ∧
      ¬Interrupts "confluent_service_account" 2000
        (reading.run provider (stoppedWorld [slowAnswer]).unstopped)
        (reading.run provider (stoppedWorld [slowAnswer])) := by
  obtain ⟨reached, read, late⟩ := read_slowAnswer
  have run : reading.run provider (stoppedWorld [slowAnswer]) =
      (.ok (.state (some (State.encode ⟨"sa-1", "bot", ""⟩))), reached) := by
    show (Reply.state <$> Lifecycle.read ⟨kind, fun _ => none⟩ Context.plain botJson) _ = _
    rw [map_eq_pure_bind, Operation.bind_of_ok read]
    rfl
  refine ⟨reached, run, late, ?_⟩
  intro interrupts
  have punctual := interrupts.punctual
  rw [run, late] at punctual
  exact absurd punctual (by decide)

end Provisioner

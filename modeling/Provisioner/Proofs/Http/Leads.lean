import Provisioner.Proofs.Http.Requests

/-!
# What a run makes of a world

Time does not go back, the stop request stays as it is, and what is sent goes out in the course of
the run and before the host asks to stop. This passes from the steps of an operation to the whole.
-/

namespace Provisioner

set_option autoImplicit false

open Http

/-- What a run makes of a world: time goes on, the stop request stays, and what is sent goes out
meanwhile and before the host asks to stop. -/
structure World.Leads (w after : World Wire) : Prop where
  forward : w.now ≤ after.now
  asked : after.stopAt = w.stopAt
  logged : ∃ fresh, after.peer.sent = w.peer.sent ++ fresh ∧
    ∀ entry ∈ fresh, w.now ≤ entry.time ∧ ∀ stop, w.stopAt = some stop → entry.time < stop

namespace World.Leads

variable {w middle after : World Wire}

theorem of_peer_eq (forward : w.now ≤ after.now) (asked : after.stopAt = w.stopAt)
    (peer : after.peer = w.peer) : w.Leads after :=
  ⟨forward, asked, [], by rw [peer, List.append_nil], by simp⟩

theorem trans (first : w.Leads middle) (second : middle.Leads after) : w.Leads after := by
  obtain ⟨fresh, logged, times⟩ := first.logged
  obtain ⟨later, loggedLater, timesLater⟩ := second.logged
  refine ⟨Nat.le_trans first.forward second.forward, second.asked.trans first.asked,
    fresh ++ later, ?_, ?_⟩
  · rw [loggedLater, logged, List.append_assoc]
  · intro entry member
    rcases List.mem_append.mp member with inFirst | inSecond
    · exact times entry inFirst
    · obtain ⟨notBefore, inTime⟩ := timesLater entry inSecond
      refine ⟨Nat.le_trans first.forward notBefore, ?_⟩
      intro stop asked
      exact inTime stop (first.asked.trans asked)

theorem sent_grows (leads : w.Leads after) : w.peer.sent <+: after.peer.sent := by
  obtain ⟨fresh, logged, _⟩ := leads.logged
  exact ⟨fresh, logged.symm⟩

theorem isStopped (leads : w.Leads after) (stopped : w.isStopped = true) :
    after.isStopped = true := by
  unfold World.isStopped at stopped ⊢
  rw [leads.asked]
  cases asked : w.stopAt with
  | none =>
    rw [asked] at stopped
    cases stopped
  | some stop =>
    rw [asked] at stopped
    have early : stop ≤ w.now := by simpa using stopped
    simpa using Nat.le_trans early leads.forward

end World.Leads

theorem Operation.leads_bind {ε α β : Type} {first : Operation Wire ε α}
    {next : α → Operation Wire ε β} (head : ∀ w : World Wire, w.Leads (first w).2)
    (tail : ∀ value (w : World Wire), w.Leads (next value w).2) (w : World Wire) :
    w.Leads ((first >>= next) w).2 := by
  have leads := head w
  rcases run : first w with ⟨error | value, middle⟩
  all_goals rw [run] at leads
  · rw [bind_of_error run]
    exact leads
  · rw [bind_of_ok run]
    exact leads.trans (tail value middle)

theorem Op.leads_pause (duration : Nat) (w : World Wire) : w.Leads (Op.pause duration w).2 := by
  refine .of_peer_eq (Operation.now_le_now_pause _ duration w) ?_ (Op.peer_pause duration w)
  rcases Op.pause_cases duration w with ⟨_, run⟩ | ⟨_, _, _, run⟩ <;> rw [run]

namespace Http

variable {policy : RetryPolicy} {request : Request}

theorem leads_afterSending {w : World Wire} {time : Nat} (running : w.isStopped = false)
    (later : w.now ≤ time) : w.Leads (afterSending request w time) := by
  refine ⟨later, rfl, [⟨request, w.now⟩], rfl, ?_⟩
  intro entry member
  rw [List.mem_singleton.mp member]
  refine ⟨Nat.le_refl _, ?_⟩
  intro stop asked
  simpa [World.isStopped, asked] using running

theorem leads_attempt (request : Request) (w : World Wire) : w.Leads (attempt request w).2 := by
  rcases attempt_cases request w with
    ⟨_, run⟩ | ⟨running, _, run⟩ | ⟨stop, asked, early, _, run⟩
  · rw [run]
    exact .of_peer_eq (Nat.le_refl _) rfl rfl
  · rw [run]
    exact leads_afterSending running (Nat.le_add_right _ _)
  · rw [run]
    refine leads_afterSending ?_ (Nat.le_of_lt early)
    simpa [World.isStopped, asked] using early

theorem leads_receive (delivery : Delivery) (w : World Wire) : w.Leads (receive delivery w).2 :=
  .of_peer_eq (w.now_le_timerEnd _) rfl rfl

theorem leads_exchange (policy : RetryPolicy) (request : Request) (number left : Nat)
    (w : World Wire) : w.Leads (exchange policy request number left w).2 := by
  induction left generalizing number w with
  | zero => exact .of_peer_eq (Nat.le_refl _) rfl rfl
  | succ left ih =>
    unfold exchange
    refine Operation.leads_bind (leads_attempt request) ?_ w
    intro delivery w
    cases policy.pauseAfter? number delivery with
    | none => exact leads_receive delivery w
    | some delay => exact Operation.leads_bind (Op.leads_pause delay) (fun _ w => ih _ w) w

theorem leads_of_attempt {number left : Nat} {w arrived : World Wire} {delivery : Delivery}
    (attempted : attempt request w = (.ok delivery, arrived)) :
    arrived.Leads (exchange policy request number (left + 1) w).2 := by
  cases decision : policy.pauseAfter? number delivery with
  | none =>
    rw [exchange_of_final attempted decision]
    exact leads_receive delivery arrived
  | some delay =>
    rw [exchange_of_retry attempted decision]
    exact Operation.leads_bind (Op.leads_pause delay)
      (fun _ => leads_exchange policy request _ left) arrived

end Http

end Provisioner

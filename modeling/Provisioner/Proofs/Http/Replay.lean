import Provisioner.Proofs.Http.Stopping

/-!
# The same answers once more

What a run gives depends on the requests only through their answers. In a world in which the same
answers come next, and in which the host does not ask to stop any earlier after the beginning, calls
that are made in the same way give the same values, wherever they are sent.
-/

namespace Provisioner

set_option autoImplicit false

open Http

/-- The same answers come next, and the host leaves at least as much time. -/
structure Alike (w other : World Wire) : Prop where
  script : other.peer.script = w.peer.script
  repeatLast : other.peer.repeatLast = w.peer.repeatLast
  patient : ∀ late, other.stopAt = some late →
    ∃ stop, w.stopAt = some stop ∧ stop + other.now ≤ late + w.now

namespace Alike

variable {w other : World Wire}

theorem refl (w : World Wire) : Alike w w :=
  ⟨rfl, rfl, fun late asked => ⟨late, asked, Nat.le_refl _⟩⟩

theorem nextAnswer (alike : Alike w other) : other.peer.nextAnswer = w.peer.nextAnswer := by
  unfold Wire.nextAnswer
  rw [alike.script, alike.repeatLast]

theorem isStopped (alike : Alike w other) (running : w.isStopped = false) :
    other.isStopped = false := by
  unfold World.isStopped at running ⊢
  cases asked : other.stopAt with
  | none => rfl
  | some late =>
    obtain ⟨stop, first, time⟩ := alike.patient late asked
    rw [first] at running
    simp only [decide_eq_false_iff_not] at running ⊢
    omega

end Alike

namespace Operation

variable {α β : Type}

/-- Where the first operation gives a value, the second one gives it in every world alike. -/
structure Repeats (first second : Op Wire α) : Prop where
  gives : ∀ {w other after : World Wire} {value : α}, Alike w other →
    first w = (.ok value, after) →
      ∃ finish, second other = (.ok value, finish) ∧ Alike after finish

namespace Repeats

theorem ofExcept (result : Except Error α) :
    Repeats (Operation.ofExcept result) (Operation.ofExcept result) := by
  constructor
  intro w other after value alike run
  obtain ⟨given, rfl⟩ := ofExcept_ok_iff.mp run
  exact ⟨other, ofExcept_ok_iff.mpr ⟨given, rfl⟩, alike⟩

theorem pure (value : α) : Repeats (Pure.pure value) (Pure.pure value) :=
  ofExcept (.ok value)

theorem bind {first second : Op Wire α} {next later : α → Op Wire β}
    (head : Repeats first second) (tail : ∀ value, Repeats (next value) (later value)) :
    Repeats (first >>= next) (second >>= later) := by
  constructor
  intro w other after value alike run
  obtain ⟨given, middle, firstRun, rest⟩ := bind_ok_iff.mp run
  obtain ⟨between, secondRun, alikeBetween⟩ := head.gives alike firstRun
  obtain ⟨finish, restRun, alikeAfter⟩ := (tail given).gives alikeBetween rest
  exact ⟨finish, bind_ok_iff.mpr ⟨given, between, secondRun, restRun⟩, alikeAfter⟩

/-- A pause that ends in time ends in time where the host leaves as much time. -/
theorem pause (duration : Nat) : Repeats (Op.pause duration) (Op.pause duration) := by
  constructor
  intro w other after value alike run
  rcases Op.pause_cases duration w with ⟨waits, paused⟩ | ⟨_, _, _, paused⟩
  · rw [paused] at run
    cases run
    have waitsToo : ∀ late, other.stopAt = some late → other.timerEnd duration ≤ late := by
      intro late asked
      obtain ⟨stop, first, time⟩ := alike.patient late asked
      have inTime := waits stop first
      unfold World.timerEnd at inTime ⊢
      omega
    refine ⟨_, Op.pause_of_waits waitsToo, alike.script, alike.repeatLast, ?_⟩
    intro late asked
    obtain ⟨stop, first, time⟩ := alike.patient late asked
    refine ⟨stop, first, ?_⟩
    simp only [World.timerEnd]
    omega
  · rw [paused] at run
    cases run

theorem ask (request other : Request) : Repeats (Http.ask request) (Http.ask other) := by
  constructor
  intro w world after value alike run
  cases running : w.isStopped with
  | true =>
    rw [ask_of_stopped running] at run
    cases run
  | false =>
    rw [ask_of_running running] at run
    obtain ⟨given, rfl⟩ := Prod.mk.inj run
    rw [ask_of_running (alike.isStopped running)]
    refine ⟨_, Prod.ext ?_ rfl, ?_, alike.repeatLast, alike.patient⟩
    · rw [← given]
      exact congrArg (fun next => Except.ok next.1) alike.nextAnswer
    · exact congrArg Prod.snd alike.nextAnswer

theorem attempt (request other : Request) :
    Repeats (Http.attempt request) (Http.attempt other) := by
  apply bind (ask request other)
  intro answer
  exact bind (pause _) fun _ => pure _

theorem elapse (duration : Nat) :
    Repeats (Operation.elapse duration) (Operation.elapse duration) := by
  constructor
  intro w other after value alike run
  obtain ⟨_, rfl⟩ := Prod.mk.inj run
  refine ⟨_, rfl, alike.script, alike.repeatLast, ?_⟩
  intro late asked
  obtain ⟨stop, first, time⟩ := alike.patient late asked
  refine ⟨stop, first, ?_⟩
  simp only [World.timerEnd]
  omega

theorem receive (delivery : Delivery) : Repeats (Http.receive delivery) (Http.receive delivery) :=
  bind (elapse _) fun _ => ofExcept _

theorem exchange (policy : RetryPolicy) (request other : Request) (number left : Nat) :
    Repeats (Http.exchange policy request number left)
      (Http.exchange policy other number left) := by
  induction left generalizing number with
  | zero => exact ofExcept (.error _)
  | succ left ih =>
    unfold Http.exchange
    apply bind (attempt request other)
    intro delivery
    split
    · exact receive delivery
    · exact bind (pause _) fun _ => ih _

theorem send (policy : RetryPolicy) (request other : Request) :
    Repeats (Http.send policy request) (Http.send policy other) := by
  constructor
  intro w world after value alike run
  have limit : policy.attemptLimit world.peer = policy.attemptLimit w.peer := by
    unfold RetryPolicy.attemptLimit Peer.pending instPeerWire
    simp only [alike.script]
  unfold Http.send at run ⊢
  rw [limit]
  exact (exchange policy request other 1 (policy.attemptLimit w.peer)).gives alike run

theorem call {session later : Session}
    (same : later.context.client.retry = session.context.client.retry) (method : Method)
    (path place : String) (body other : Option Json) (decode : Decoder α) :
    Repeats (session.call method path body decode) (later.call method place other decode) := by
  unfold Session.call Session.send
  rw [same]
  exact bind (send _ _ _) fun _ => ofExcept _

end Repeats

end Operation

end Provisioner

import Provisioner.Proofs.Operation.Outcome
import Provisioner.Session

/-!
# Errors of a run

Which errors an operation can end with, in every world and for all answers. A bound on the errors
passes from the steps of an operation to the whole, also through the polls of a wait and the
attempts of a request. So it is enough to bound what the single steps can say: that the host asked
to stop, that time is over, that a request failed, or that an answer was not understood.
-/

namespace Provisioner

set_option autoImplicit false

open Http

namespace Operation

variable {σ ε α β : Type}

/-- Whatever the world, every error of the operation is an allowed one. -/
structure FailsOnly (op : Operation σ ε α) (allowed : ε → Prop) : Prop where
  allowed_of_run : ∀ {w after : World σ} {error : ε}, op w = (.error error, after) → allowed error

namespace FailsOnly

variable {allowed : ε → Prop}

theorem of_total {op : Operation σ ε α} (total : ∀ w, ∃ value after, op w = (.ok value, after)) :
    op.FailsOnly allowed := by
  constructor
  intro w after error failed
  obtain ⟨value, finish, succeeded⟩ := total w
  rw [succeeded] at failed
  cases failed

theorem pure (value : α) : (Pure.pure value : Operation σ ε α).FailsOnly allowed :=
  of_total fun w => ⟨value, w, rfl⟩

theorem now : (Operation.now : Operation σ ε Nat).FailsOnly allowed :=
  of_total fun w => ⟨w.now, w, rfl⟩

theorem elapse (duration : Nat) :
    (Operation.elapse duration : Operation σ ε Unit).FailsOnly allowed :=
  of_total fun w => ⟨(), { w with now := w.timerEnd duration }, rfl⟩

theorem onPeer (step : σ → α × σ) : (Operation.onPeer step : Operation σ ε α).FailsOnly allowed :=
  of_total fun w => ⟨(step w.peer).1, { w with peer := (step w.peer).2 }, rfl⟩

theorem ofExcept {result : Except ε α} (errors : ∀ error, result = .error error → allowed error) :
    (Operation.ofExcept result : Operation σ ε α).FailsOnly allowed := by
  constructor
  intro w after error failed
  rw [run_ofExcept] at failed
  exact errors error (Prod.mk.inj failed).1

theorem fail {error : ε} (admitted : allowed error) :
    (Operation.fail error : Operation σ ε α).FailsOnly allowed := by
  constructor
  intro w after other failed
  cases failed
  exact admitted

theorem bind {first : Operation σ ε α} {next : α → Operation σ ε β}
    (head : first.FailsOnly allowed) (tail : ∀ value, (next value).FailsOnly allowed) :
    (first >>= next).FailsOnly allowed := by
  constructor
  intro w after error failed
  rcases run : first w with ⟨fault | value, middle⟩
  · rw [bind_of_error run] at failed
    cases failed
    exact head.allowed_of_run run
  · rw [bind_of_ok run] at failed
    exact (tail value).allowed_of_run failed

theorem after {result : Except ε α} {next : α → Operation σ ε β}
    (refused : ∀ error, result = .error error → allowed error)
    (tail : ∀ value, result = .ok value → (next value).FailsOnly allowed) :
    (Operation.ofExcept result >>= next).FailsOnly allowed := by
  cases result with
  | error error => exact fail (refused error rfl)
  | ok value => exact tail value rfl

theorem bind_outcome {first : Operation σ ε α} {next : Except ε α → Operation σ ε β}
    (head : first.FailsOnly allowed)
    (tail : ∀ result, (∀ error, result = .error error → allowed error) →
      (next result).FailsOnly allowed) : (first.outcome >>= next).FailsOnly allowed := by
  constructor
  intro w after error failed
  rw [bind_of_ok (run_outcome first w)] at failed
  refine (tail (first w).1 ?_).allowed_of_run failed
  intro fault given
  exact head.allowed_of_run (Prod.ext given rfl)

end FailsOnly

end Operation

open Operation (FailsOnly)

/-- The allowed errors include all that a run can cause on its own: the stop request, the end of the
time to wait, and what comes of a request and of its answer. -/
structure AdmitsRuns (allowed : Error → Prop) : Prop where
  cancelled : allowed { failure := .cancelled }
  timeout : ∀ lastState elapsed, allowed { failure := .timeout lastState elapsed }
  transport : ∀ fault, allowed { failure := .transport fault }
  notFound : ∀ message, allowed { failure := .notFound message }
  api : ∀ status message, allowed { failure := .api status message }
  serialization : ∀ message, allowed { failure := .serialization message }
  remoteFailed : ∀ message, allowed { failure := .remoteFailed message }
  unrecognizedStatus : ∀ message, allowed { failure := .unrecognizedStatus message }

/-- The error of a status that is not known. -/
def Error.Unrecognized (error : Error) : Prop :=
  ∃ message, error = { failure := .unrecognizedStatus message }

namespace AdmitsRuns

variable {σ α ρ : Type} {allowed : Error → Prop} (admits : AdmitsRuns allowed)

include admits

theorem unrecognized {error : Error} (unknown : error.Unrecognized) : allowed error := by
  obtain ⟨message, rfl⟩ := unknown
  exact admits.unrecognizedStatus message

theorem checkpoint : (Op.checkpoint : Op σ Unit).FailsOnly allowed := by
  constructor
  intro w after error failed
  rcases Op.checkpoint_cases w with ⟨_, run⟩ | ⟨_, run⟩
  · rw [run] at failed
    cases failed
  · rw [run] at failed
    cases failed
    exact admits.cancelled

theorem pause (duration : Nat) : (Op.pause duration : Op σ Unit).FailsOnly allowed := by
  constructor
  intro w after error failed
  rcases Op.pause_cases duration w with ⟨_, run⟩ | ⟨_, _, _, run⟩
  · rw [run] at failed
    cases failed
  · rw [run] at failed
    cases failed
    exact admits.cancelled

section Wait

variable {read : Op σ (Observation ρ)} (reads : read.FailsOnly allowed)

include reads

omit admits in
theorem observe (targets : List LifecycleState) :
    (Wait.observe read targets).FailsOnly allowed := by
  unfold Wait.observe
  apply FailsOnly.bind_outcome reads
  intro result errors
  cases result with
  | ok observation => exact .pure observation
  | error error =>
    simp only
    split
    · exact .pure _
    · exact .fail (errors error rfl)

theorem loop (targets : List LifecycleState) (options : WaitOptions) (start left : Nat) :
    (Wait.loop read targets options start left).FailsOnly allowed := by
  induction left with
  | zero =>
    unfold Wait.loop
    apply FailsOnly.bind .now
    intro now
    exact .fail (admits.timeout _ _)
  | succ left ih =>
    unfold Wait.loop
    apply FailsOnly.bind admits.checkpoint
    intro _
    apply FailsOnly.bind (observe reads targets)
    intro observation
    split
    · exact .pure observation
    · apply FailsOnly.bind .now
      intro now
      simp only
      split
      · exact .fail (admits.timeout _ _)
      · exact .bind (admits.pause _) fun _ => ih

theorem awaitState [Peer σ] (targets : List LifecycleState) (options : WaitOptions) :
    (Wait.awaitState read targets options).FailsOnly allowed := by
  constructor
  intro w after error failed
  have bounded := admits.loop reads targets options w.now (Wait.readLimit options w.peer)
  exact bounded.allowed_of_run failed

end Wait

theorem conclude {delivery : Delivery} {error : Error}
    (concluded : Http.conclude delivery = .error error) : allowed error := by
  unfold Http.conclude at concluded
  split at concluded
  · cases concluded
    exact admits.transport _
  · split at concluded
    · cases concluded
      exact admits.transport _
    · unfold interpret at concluded
      repeat' split at concluded
      all_goals cases concluded
      · exact admits.serialization _
      · exact admits.notFound _
      · exact admits.api _ _

theorem receive (delivery : Delivery) : (Http.receive delivery).FailsOnly allowed := by
  unfold Http.receive
  apply FailsOnly.bind (.elapse _)
  intro _
  exact .ofExcept fun error concluded => admits.conclude concluded

theorem attempt (request : Request) : (Http.attempt request).FailsOnly allowed := by
  unfold Http.attempt Http.ask
  apply FailsOnly.bind
  · apply FailsOnly.bind admits.checkpoint
    intro _
    exact .bind .now fun time => .onPeer _
  · intro answer
    exact .bind (admits.pause _) fun _ => .pure _

theorem exchange (policy : RetryPolicy) (request : Request) (number left : Nat) :
    (Http.exchange policy request number left).FailsOnly allowed := by
  induction left generalizing number with
  | zero => exact .fail (admits.transport _)
  | succ left ih =>
    unfold Http.exchange
    apply FailsOnly.bind (admits.attempt request)
    intro delivery
    split
    · exact admits.receive delivery
    · exact .bind (admits.pause _) fun _ => ih _

theorem send (policy : RetryPolicy) (request : Request) :
    (Http.send policy request).FailsOnly allowed where
  allowed_of_run {w _ _} failed :=
    (admits.exchange policy request 1 (policy.attemptLimit w.peer)).allowed_of_run failed

theorem fromAnswer {decode : Decoder α} {answer : Json} {error : Error}
    (undecoded : decode.fromAnswer answer = .error error) : allowed error := by
  unfold Decoder.fromAnswer at undecoded
  split at undecoded
  · cases undecoded
  · cases undecoded
    exact admits.serialization _

theorem call (session : Session) (method : Method) (path : String) (body : Option Json)
    (decode : Decoder α) : (session.call method path body decode).FailsOnly allowed := by
  apply FailsOnly.bind (admits.send _ _)
  intro answer
  exact .ofExcept fun error undecoded => admits.fromAnswer undecoded

theorem tell (session : Session) (method : Method) (path : String) (body : Option Json) :
    (session.tell method path body).FailsOnly allowed :=
  .bind (admits.send _ _) fun _ => .pure ()

end AdmitsRuns

end Provisioner

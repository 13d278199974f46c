import Provisioner.Proofs.Http.Failures
import Provisioner.Proofs.Http.Requests

/-!
# Refusals

A refusal is a validation error; every other error is a fault. An operation refuses first if it has
not asked its peer for anything when it refuses. This passes from the steps of an operation to the
whole: after steps that ask nothing a refusal may follow, after the others only faults.
-/

namespace Provisioner

set_option autoImplicit false

open Http
open Operation (FailsOnly bind_of_ok bind_of_error)

namespace Error

def isRefusal (error : Error) : Bool := error.failure.isValidation

/-- The error is no refusal. -/
def IsFault (error : Error) : Prop := error.isRefusal = false

theorem isRefusal_iff (error : Error) :
    error.isRefusal = true ↔ error.failure.kind = "Validation" := by
  unfold isRefusal
  cases error.failure <;> simp [Failure.isValidation, Failure.kind]

theorem detail_of_refusal {error : Error} (refusal : error.isRefusal = true) :
    error.diagnostic.detail = some "No request was sent to the API" := by
  unfold isRefusal at refusal
  unfold diagnostic
  cases cause : error.failure with
  | validation message => rfl
  | _ =>
    rw [cause] at refusal
    cases refusal

@[simp] theorem isRefusal_about (error : Error) (type : String) (id : Option String) :
    (error.about type id).isRefusal = error.isRefusal := by
  unfold isRefusal
  rw [failure_about]

theorem admitsRuns_isFault : AdmitsRuns IsFault where
  cancelled := rfl
  timeout _ _ := rfl
  transport _ := rfl
  notFound _ := rfl
  api _ _ := rfl
  serialization _ := rfl
  remoteFailed _ := rfl
  unrecognizedStatus _ := rfl

end Error

open Error (IsFault admitsRuns_isFault)

theorem Operation.sent_of_peer_eq {ε α : Type} {op : Operation Wire ε α} {w : World Wire}
    (kept : (op w).2.peer = w.peer) : op.sent w = [] := by
  unfold sent
  rw [kept]
  exact List.drop_length

namespace Op

variable {σ α β : Type}

theorem faults_about {op : Op σ α} (faults : op.FailsOnly IsFault) (type : String)
    (id : Option String) : (Op.about type id op).FailsOnly IsFault := by
  constructor
  intro w after error failed
  obtain ⟨inner, run, rfl⟩ := about_error_iff.mp failed
  have fault : inner.isRefusal = false := faults.allowed_of_run run
  exact (Error.isRefusal_about inner type id).trans fault

/-- An operation that refuses has left the peer alone. -/
structure RefusesFirst (op : Op σ α) : Prop where
  peer_of_refusal : ∀ {w after : World σ} {error : Error}, op w = (.error error, after) →
    error.isRefusal = true → after.peer = w.peer

namespace RefusesFirst

theorem of_faults {op : Op σ α} (faults : op.FailsOnly IsFault) : op.RefusesFirst := by
  constructor
  intro w after error failed refusal
  have fault : error.isRefusal = false := faults.allowed_of_run failed
  rw [fault] at refusal
  cases refusal

theorem of_silent {op : Op σ α} (silent : ∀ w, (op w).2.peer = w.peer) : op.RefusesFirst := by
  constructor
  intro w after error failed _
  have kept := silent w
  rw [failed] at kept
  exact kept

theorem about {op : Op σ α} (first : op.RefusesFirst) (type : String) (id : Option String) :
    (Op.about type id op).RefusesFirst := by
  constructor
  intro w after error failed refusal
  obtain ⟨inner, run, rfl⟩ := about_error_iff.mp failed
  rw [Error.isRefusal_about] at refusal
  exact first.peer_of_refusal run refusal

theorem after_silent {first : Op σ α} {next : α → Op σ β} (silent : ∀ w, (first w).2.peer = w.peer)
    (tail : ∀ w middle value, first w = (.ok value, middle) → (next value).RefusesFirst) :
    (first >>= next).RefusesFirst := by
  constructor
  intro w after error failed refusal
  have kept := silent w
  rcases run : first w with ⟨fault | value, middle⟩
  · rw [bind_of_error run] at failed
    cases failed
    rw [run] at kept
    exact kept
  · rw [bind_of_ok run] at failed
    rw [run] at kept
    exact ((tail w middle value run).peer_of_refusal failed refusal).trans kept

theorem after {result : Except Error α} {next : α → Op σ β}
    (tail : ∀ value, result = .ok value → (next value).RefusesFirst) :
    RefusesFirst (Operation.ofExcept result >>= next) := by
  apply after_silent (fun _ => rfl)
  intro w middle value run
  exact tail value (Operation.ofExcept_ok_iff.mp run).1

theorem after_about {type : String} {id : Option String} {result : Except Error α}
    {next : α → Op σ β} (tail : ∀ value, result = .ok value → (next value).RefusesFirst) :
    (Op.about type id (Operation.ofExcept result) >>= next).RefusesFirst := by
  apply after_silent (fun _ => rfl)
  intro w middle value run
  exact tail value (Operation.ofExcept_ok_iff.mp (about_ok_iff.mp run)).1

theorem before_faults {first : Op σ α} {next : α → Op σ β} (head : first.RefusesFirst)
    (tail : ∀ w middle value, first w = (.ok value, middle) → (next value).FailsOnly IsFault) :
    (first >>= next).RefusesFirst := by
  constructor
  intro w after error failed refusal
  rcases run : first w with ⟨fault | value, middle⟩
  · rw [bind_of_error run] at failed
    cases failed
    exact head.peer_of_refusal run refusal
  · rw [bind_of_ok run] at failed
    have fault : error.isRefusal = false := (tail w middle value run).allowed_of_run failed
    rw [fault] at refusal
    cases refusal

/-- What follows an operation whatever its outcome: an error is at most handed on, and after a value
only faults may follow. -/
theorem bind_outcome {first : Op σ α} {next : Except Error α → Op σ β} (head : first.RefusesFirst)
    (handsOn : ∀ error, (∃ value, next (.error error) = pure value) ∨
      next (.error error) = Operation.fail error)
    (tail : ∀ value, (next (.ok value)).FailsOnly IsFault) :
    RefusesFirst (first.outcome >>= next) := by
  constructor
  intro w after error failed refusal
  rw [bind_of_ok (Operation.run_outcome first w)] at failed
  rcases run : first w with ⟨fault | value, middle⟩
  · rw [run] at failed
    rcases handsOn fault with ⟨value, ends⟩ | ends
    · rw [ends] at failed
      cases failed
    · rw [ends] at failed
      cases failed
      exact head.peer_of_refusal run refusal
  · rw [run] at failed
    have fault : error.isRefusal = false := (tail value).allowed_of_run failed
    rw [fault] at refusal
    cases refusal

theorem map {op : Op σ α} (first : op.RefusesFirst) (f : α → β) : (f <$> op).RefusesFirst := by
  rw [map_eq_pure_bind]
  exact first.before_faults fun _ _ value _ => .pure (f value)

/-- An operation that refuses first has sent nothing when it refuses. -/
theorem sent_of_refusal {op : Op Wire α} (first : op.RefusesFirst) {w after : World Wire}
    {error : Error} (failed : op w = (.error error, after)) (refusal : error.isRefusal = true) :
    op.sent w = [] := by
  apply Operation.sent_of_peer_eq
  rw [failed]
  exact first.peer_of_refusal failed refusal

end RefusesFirst

end Op

end Provisioner

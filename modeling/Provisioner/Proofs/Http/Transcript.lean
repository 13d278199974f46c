import Provisioner.Proofs.Operation.Outcome
import Provisioner.Session

/-!
# Transcripts

What goes over the wire during an operation: each request with the time at which it was sent and the
answer it took from the script. A transcript accounts for every change of the wire, so a request
that is not in it was not sent.
-/

namespace Provisioner

set_option autoImplicit false

namespace Http

structure Exchange where
  sent : Sent
  answer : Answer

/-- From one wire to another by exchanges in order, each with the next answer of the script. -/
inductive Transcript : Wire → List Exchange → Wire → Prop where
  | none (wire : Wire) : Transcript wire [] wire
  | next {before middle after : Wire} {request : Request} {time : Nat} {answer : Answer}
      {rest : List Exchange} (sent : before.send request time = (answer, middle))
      (later : Transcript middle rest after) :
      Transcript before (⟨⟨request, time⟩, answer⟩ :: rest) after

namespace Transcript

theorem append {before middle after : Wire} {first second : List Exchange}
    (left : Transcript before first middle) (right : Transcript middle second after) :
    Transcript before (first ++ second) after := by
  induction left with
  | none => exact right
  | next sent _ ih => exact .next sent (ih right)

/-- The log of the wire grows by the requests of the transcript and keeps what it held. -/
theorem sent_eq {before after : Wire} {exchanges : List Exchange}
    (transcript : Transcript before exchanges after) :
    after.sent = before.sent ++ exchanges.map Exchange.sent := by
  induction transcript with
  | none => simp
  | next sent _ ih =>
    simp only [Wire.send, Prod.mk.injEq] at sent
    rw [ih, ← sent.2]
    simp

end Transcript

/-- A response that counts as a success and holds the given body. -/
def Answer.Succeeds (answer : Answer) (body : Option Json) : Prop :=
  ∃ response text, answer.delivered = .response response ∧ isSuccess response.status = true ∧
    response.body = some text ∧ interpret response.status text = .ok body

theorem succeeds_of_conclude {answer : Answer} {body : Option Json}
    (concluded : conclude answer.delivered = .ok body) : answer.Succeeds body := by
  unfold conclude at concluded
  split at concluded
  · cases concluded
  · next response delivered =>
    split at concluded
    · cases concluded
    · next text present =>
      refine ⟨response, text, delivered, ?_, present, concluded⟩
      unfold interpret at concluded
      by_cases success : isSuccess response.status = true
      · exact success
      · rw [if_neg success] at concluded
        split at concluded <;> cases concluded

end Http

end Provisioner

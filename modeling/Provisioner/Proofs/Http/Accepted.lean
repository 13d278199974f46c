import Provisioner.Proofs.Http.Conversation

/-!
# Which answer a call gives

A success that arrives before the host asks to stop ends the attempts of its request, and nothing
else makes a request succeed. So the value of a call is the one that an exchange brought, and a call
that fails has brought none, whichever of its attempts was answered.
-/

namespace Provisioner

set_option autoImplicit false

namespace Http

variable {α : Type} {stop : Option Nat} {exchange : Exchange}

/-- Before the host asks to stop, the exchange brings a success with the given body. -/
def Exchange.Succeeds (stop : Option Nat) (exchange : Exchange) (body : Option Json) : Prop :=
  (∀ time, stop = some time → exchange.arrival ≤ time) ∧ exchange.answer.Succeeds body

/-- Before the host asks to stop, the exchange brings a success that decodes to the value. -/
def Exchange.Gives (stop : Option Nat) (exchange : Exchange) (decode : Decoder α) (value : α) :
    Prop :=
  ∃ body, exchange.Succeeds stop body ∧ decode.fromAnswer (Json.option body) = .ok value

theorem Exchange.Succeeds.accepted {body : Option Json}
    (succeeds : exchange.Succeeds stop body) : exchange.Accepted :=
  accepted_of_succeeds succeeds.2

theorem Exchange.Brings.conclude_iff {delivery : Delivery}
    (brings : exchange.Brings stop delivery) (body : Option Json) :
    conclude delivery = .ok body ↔ exchange.Succeeds stop body := by
  obtain ⟨inTime, rfl⟩ := brings
  constructor
  · intro concluded
    exact ⟨inTime, succeeds_of_conclude concluded⟩
  · intro succeeds
    exact conclude_of_succeeds succeeds.2

theorem ok_iff_of_sending {policy : RetryPolicy} (decisive : policy.Decisive) {request : Request}
    {exchanges : List Exchange} {result : Except Error (Option Json)}
    (sending : Sending policy request stop exchanges result) (body : Option Json) :
    result = .ok body ↔ ∃ exchange ∈ exchanges, exchange.Succeeds stop body := by
  -- By induction on the attempts: each but the last brought what is worth another one, so no
  -- success.
  induction sending with
  | stopped | exhausted => simp
  | @interrupted exchange same undecided =>
    have unaccepted : ¬exchange.Succeeds stop body := by
      intro succeeds
      have brings : exchange.Brings stop exchange.answer.delivered := ⟨succeeds.1, rfl⟩
      exact not_accepted_of_repeats decisive brings (undecided _ brings) succeeds.accepted
    simp [unaccepted]
  | concluded same brings => simpa using brings.conclude_iff body
  | @again exchange same delivery brings repeats rest result later ih =>
    have unaccepted : ¬exchange.Succeeds stop body := fun succeeds =>
      not_accepted_of_repeats decisive brings repeats succeeds.accepted
    simpa [unaccepted] using ih

end Http

open Http
open Operation (Traces)

/-- The exchanges of a call are attempts of its request, and one of them brought its value. -/
structure Session.Gave {α : Type} (request : Request) (decode : Decoder α) (stop : Option Nat)
    (exchanges : List Exchange) (result : Except Error α) : Prop where
  only : ∀ exchange ∈ exchanges, exchange.sent.request = request
  ok_iff : ∀ value, result = .ok value ↔ ∃ exchange ∈ exchanges, exchange.Gives stop decode value

theorem Session.gave_of_sending {α : Type} {policy : RetryPolicy} (decisive : policy.Decisive)
    {request : Request} {stop : Option Nat} {exchanges : List Exchange}
    {result : Except Error (Option Json)}
    (sending : Sending policy request stop exchanges result) (decode : Decoder α) :
    Gave request decode stop exchanges
      (result.bind fun body => decode.fromAnswer (Json.option body)) where
  only := sending.attempts.only
  ok_iff := by
    intro value
    have given := ok_iff_of_sending decisive sending
    constructor
    · intro decoded
      cases result with
      | error error => cases decoded
      | ok body =>
        obtain ⟨exchange, member, succeeds⟩ := (given body).mp rfl
        exact ⟨exchange, member, body, succeeds, decoded⟩
    · intro gives
      obtain ⟨exchange, member, body, succeeds, decoded⟩ := gives
      rw [(given body).mpr ⟨exchange, member, succeeds⟩]
      exact decoded

theorem Session.traces_gave {α : Type} {session : Session}
    (decisive : session.context.client.retry.Decisive) (method : Method) (path : String)
    (body : Option Json) (decode : Decoder α) (stop : Option Nat) :
    (session.call method path body decode).Traces stop
      (Gave (session.request method path body) decode stop) := by
  apply (Http.traces_send session.context.client.retry _ stop).bind
  · intro exchanges error sending
    exact gave_of_sending decisive sending decode
  · intro exchanges answer sending
    apply Traces.ofExcept
    rw [List.append_nil]
    exact gave_of_sending decisive sending decode

end Provisioner

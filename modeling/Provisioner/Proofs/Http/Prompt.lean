import Provisioner.Proofs.Http.Requests

/-!
# Answers in time

A host that does not ask to stop and a server whose next answers are successes that come in time:
then a call takes the next answer and gives what it decodes to. Runs on given answers are put
together from this.
-/

namespace Provisioner

set_option autoImplicit false

/-- Every request is sent once, without credentials. -/
def Context.plain : Context where
  client := {
    endpoint := Context.defaultEndpoint
    retry := { maxRetries := 0 }
    userAgent := Http.Client.baseUserAgent }
  cloudCredentials := none
  kafka := ⟨none, none, none⟩

namespace Http

/-- No success is worth another attempt. -/
def RetryPolicy.Accepting (policy : RetryPolicy) : Prop :=
  ∀ status, policy.shouldRetry status = true → isSuccess status = false

theorem RetryPolicy.accepting_of_failures {policy : RetryPolicy}
    (failures : policy.retryStatuses = [429, 500, 502, 503, 504]) : policy.Accepting := by
  intro status repeated
  unfold RetryPolicy.shouldRetry at repeated
  rw [failures] at repeated
  simp only [List.contains_iff_mem, List.mem_cons, List.not_mem_nil, or_false] at repeated
  rcases repeated with rfl | rfl | rfl | rfl | rfl
  all_goals decide

/-- The next answers of a wire. -/
def Wire.upcoming : Nat → Wire → List Answer
  | 0, _ => []
  | count + 1, wire =>
    wire.nextAnswer.1 :: upcoming count { wire with script := wire.nextAnswer.2 }

theorem Wire.upcoming_succ (count : Nat) (wire : Wire) : wire.upcoming (count + 1) =
    wire.nextAnswer.1 :: upcoming count { wire with script := wire.nextAnswer.2 } := rfl

theorem Wire.upcoming_congr (count : Nat) {wire other : Wire} (script : wire.script = other.script)
    (repeats : wire.repeatLast = other.repeatLast) :
    wire.upcoming count = other.upcoming count := by
  induction count generalizing wire other with
  | zero => rfl
  | succ count ih =>
    have next : wire.nextAnswer = other.nextAnswer := by
      unfold Wire.nextAnswer
      rw [script, repeats]
    rw [upcoming_succ, upcoming_succ, next]
    exact congrArg _ (ih rfl repeats)

theorem Wire.upcoming_of_script (script : List Answer) {wire : Wire} (left : wire.script = script) :
    wire.upcoming script.length = script := by
  induction script generalizing wire with
  | nil => rfl
  | cons first rest ih =>
    rw [List.length_cons, upcoming_succ]
    cases rest with
    | nil =>
      have next : wire.nextAnswer.1 = first := by
        unfold Wire.nextAnswer
        rw [left]
      rw [next]
      rfl
    | cons second later =>
      have next : wire.nextAnswer = (first, second :: later) := by
        unfold Wire.nextAnswer
        rw [left]
      rw [next]
      exact congrArg _ (ih rfl)

/-- A world in which nothing is to be stopped and the given answers come next. -/
structure Ready (w : World Wire) (answers : List Answer) : Prop where
  running : w.stopAt = none
  next : w.peer.upcoming answers.length = answers

theorem Ready.isStopped {w : World Wire} {answers : List Answer} (ready : Ready w answers) :
    w.isStopped = false := by
  unfold World.isStopped
  rw [ready.running]

/-- An answer that comes in time and decodes to a value. -/
def Answer.Gives {α : Type} (answer : Answer) (decode : Decoder α) (value : α) : Prop :=
  answer.delay ≤ requestTimeout ∧ ∃ body, answer.Succeeds body ∧
    decode.fromAnswer (Json.option body) = .ok value

/-- The answer that comes at once with a text. -/
def Answer.ofText (text : String) : Answer where
  delivery := .response { status := 200, body := some text }

theorem Answer.ofText_succeeds {text : String} (value : Json)
    (visible : Text.isBlank text = false) (read : Json.read text = .ok value) :
    (Answer.ofText text).Succeeds (some value) := by
  refine ⟨{ status := 200, body := some text }, text, rfl, rfl, rfl, ?_⟩
  unfold interpret
  rw [if_pos (show isSuccess 200 = true by decide), visible, read]
  rfl

theorem Answer.ofText_gives {α : Type} {text : String} {decode : Decoder α} {result : α}
    (value : Json) (visible : Text.isBlank text = false) (read : Json.read text = .ok value)
    (decoded : decode.fromAnswer value = .ok result) :
    (Answer.ofText text).Gives decode result :=
  ⟨Nat.zero_le _, some value, ofText_succeeds value visible read, decoded⟩

theorem conclude_of_succeeds {answer : Answer} {body : Option Json}
    (succeeds : answer.Succeeds body) : conclude answer.delivered = .ok body := by
  obtain ⟨response, text, delivered, _, present, read⟩ := succeeds
  rw [delivered]
  unfold conclude
  simp only [present]
  exact read

variable {w : World Wire} {answer : Answer} {rest : List Answer}

theorem attempt_of_ready (ready : Ready w (answer :: rest)) (request : Request) :
    ∃ after, attempt request w = (.ok answer.delivered, after) ∧ Ready after rest ∧
      after.peer.sent = w.peer.sent ++ [⟨request, w.now⟩] := by
  have arrives := attempt_of_arrival ready.isStopped request
  obtain ⟨running, next⟩ := ready
  obtain ⟨rfl, later⟩ : w.peer.nextAnswer.1 = answer ∧
      Wire.upcoming rest.length { w.peer with script := w.peer.nextAnswer.2 } = rest :=
    List.cons.inj next
  refine ⟨_, arrives (by simp [running]), ⟨running, ?_⟩, rfl⟩
  refine Eq.trans ?_ later
  exact Wire.upcoming_congr _ rfl rfl

theorem Ready.of_receive {delivery : Delivery} (ready : Ready w rest) :
    Ready (receive delivery w).2 rest :=
  ⟨ready.running, ready.next⟩

theorem exchange_of_ready {policy : RetryPolicy} (accepting : policy.Accepting)
    (ready : Ready w (answer :: rest)) {result : Option Json} (succeeds : answer.Succeeds result)
    (request : Request) (number left : Nat) :
    ∃ after, exchange policy request number (left + 1) w = (.ok result, after) ∧
      Ready after rest ∧ after.peer.sent = w.peer.sent ++ [⟨request, w.now⟩] := by
  obtain ⟨middle, attempted, ready, sent⟩ := attempt_of_ready ready request
  have final : policy.pauseAfter? number answer.delivered = none := by
    obtain ⟨response, _, delivered, success, _⟩ := succeeds
    have once : ¬policy.shouldRetry response.status = true := by
      intro repeated
      rw [accepting _ repeated] at success
      cases success
    rw [delivered]
    unfold RetryPolicy.pauseAfter? RetryPolicy.delay?
    simp only [if_neg once, ite_self]
  refine ⟨(receive answer.delivered middle).2, ?_, ready.of_receive, sent⟩
  unfold exchange
  rw [Operation.bind_of_ok attempted, final]
  simp only
  rw [run_receive, conclude_of_succeeds succeeds]

end Http

namespace Session

open Http

variable {α : Type} {w : World Wire} {answer : Answer} {rest : List Answer}

theorem send_of_ready {session : Session} (accepting : session.context.client.retry.Accepting)
    (ready : Ready w (answer :: rest)) {result : Option Json} (succeeds : answer.Succeeds result)
    (method : Method) (path : String) (body : Option Json) :
    ∃ after, session.send method path body w = (.ok result, after) ∧ Ready after rest ∧
      after.peer.sent = w.peer.sent ++ [⟨session.request method path body, w.now⟩] := by
  obtain ⟨left, limit⟩ := session.context.client.retry.attemptLimit_eq_succ w.peer
  unfold send Http.send
  rw [limit]
  exact exchange_of_ready accepting ready succeeds _ 1 left

theorem call_of_ready {session : Session} (accepting : session.context.client.retry.Accepting)
    (ready : Ready w (answer :: rest)) {decode : Decoder α} {value : α}
    (gives : answer.Gives decode value) (method : Method) (path : String) (body : Option Json) :
    ∃ after, session.call method path body decode w = (.ok value, after) ∧ Ready after rest ∧
      after.peer.sent = w.peer.sent ++ [⟨session.request method path body, w.now⟩] := by
  obtain ⟨_, result, succeeds, decoded⟩ := gives
  obtain ⟨after, sending, ending⟩ := send_of_ready accepting ready succeeds method path body
  refine ⟨after, ?_, ending⟩
  unfold call
  rw [Operation.bind_of_ok sending, decoded]
  rfl

theorem call_of_unread {session : Session} (accepting : session.context.client.retry.Accepting)
    (ready : Ready w (answer :: rest)) {decode : Decoder α} {result : Option Json}
    (succeeds : answer.Succeeds result) {error : Error}
    (unread : decode.fromAnswer (Json.option result) = .error error) (method : Method)
    (path : String) (body : Option Json) :
    ∃ after, session.call method path body decode w = (.error error, after) := by
  obtain ⟨after, sending, _⟩ := send_of_ready accepting ready succeeds method path body
  refine ⟨after, ?_⟩
  unfold call
  rw [Operation.bind_of_ok sending, unread]
  rfl

theorem tell_of_ready {session : Session} (accepting : session.context.client.retry.Accepting)
    (ready : Ready w (answer :: rest)) {result : Option Json} (succeeds : answer.Succeeds result)
    (method : Method) (path : String) (body : Option Json) :
    ∃ after, session.tell method path body w = (.ok (), after) ∧ Ready after rest ∧
      after.peer.sent = w.peer.sent ++ [⟨session.request method path body, w.now⟩] := by
  obtain ⟨after, sending, ending⟩ := send_of_ready accepting ready succeeds method path body
  refine ⟨after, ?_, ending⟩
  unfold tell
  rw [Operation.bind_of_ok sending]
  rfl

end Session

theorem Context.plain_accepting : Context.plain.client.retry.Accepting :=
  Http.RetryPolicy.accepting_of_failures rfl

end Provisioner

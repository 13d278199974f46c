import Provisioner.Proofs.Http.Transcript

/-!
# Traces

A trace relates the exchanges of an operation to its result. That an operation has traces of some
shape means that every run of it does, whatever is answered, for a host that asks to stop at a given
time. Shapes pass from the steps of an operation to the whole.

The main statements are exact: what the attempts of one request come to, and what the reads of a
wait come to. Every property of a run that depends on its answers is derived from them.
-/

namespace Provisioner

set_option autoImplicit false

open Http

namespace Operation

variable {ε α β : Type}

/-- Every run of the operation, whatever is answered, has exchanges and a result of the shape. -/
def Traces (op : Operation Wire ε α) (stop : Option Nat)
    (shape : List Exchange → Except ε α → Prop) : Prop :=
  ∀ w, w.stopAt = stop → ∃ exchanges, Transcript w.peer exchanges (op w).2.peer ∧
    (op w).2.stopAt = stop ∧ shape exchanges (op w).1

namespace Traces

variable {stop : Option Nat} {shape other : List Exchange → Except ε α → Prop}

theorem of_run {op : Operation Wire ε α} (traces : op.Traces stop shape) {w after : World Wire}
    {result : Except ε α} (asked : w.stopAt = stop) (run : op w = (result, after)) :
    ∃ exchanges, Transcript w.peer exchanges after.peer ∧ shape exchanges result := by
  obtain ⟨exchanges, transcript, _, shaped⟩ := traces w asked
  rw [run] at transcript shaped
  exact ⟨exchanges, transcript, shaped⟩

theorem mono {op : Operation Wire ε α} (traces : op.Traces stop shape)
    (weaker : ∀ exchanges result, shape exchanges result → other exchanges result) :
    op.Traces stop other := by
  intro w asked
  obtain ⟨exchanges, transcript, kept, shaped⟩ := traces w asked
  exact ⟨exchanges, transcript, kept, weaker exchanges _ shaped⟩

theorem of_silent {op : Operation Wire ε α}
    (silent : ∀ w, (op w).2.peer = w.peer ∧ (op w).2.stopAt = w.stopAt)
    (shaped : ∀ w, shape [] (op w).1) : op.Traces stop shape := by
  intro w asked
  obtain ⟨peer, kept⟩ := silent w
  exact ⟨[], by rw [peer]; exact .none _, kept.trans asked, shaped w⟩

theorem pure {value : α} (shaped : shape [] (.ok value)) :
    (Pure.pure value : Operation Wire ε α).Traces stop shape :=
  of_silent (fun _ => ⟨rfl, rfl⟩) fun _ => shaped

theorem fail {error : ε} (shaped : shape [] (.error error)) :
    (Operation.fail error : Operation Wire ε α).Traces stop shape :=
  of_silent (fun _ => ⟨rfl, rfl⟩) fun _ => shaped

theorem ofExcept {result : Except ε α} (shaped : shape [] result) :
    (Operation.ofExcept result : Operation Wire ε α).Traces stop shape :=
  of_silent (fun _ => ⟨rfl, rfl⟩) fun _ => shaped

theorem bind {first : Operation Wire ε α} {next : α → Operation Wire ε β}
    {whole : List Exchange → Except ε β → Prop} (head : first.Traces stop shape)
    (failed : ∀ exchanges error, shape exchanges (.error error) → whole exchanges (.error error))
    (tail : ∀ exchanges value, shape exchanges (.ok value) →
      (next value).Traces stop fun later result => whole (exchanges ++ later) result) :
    (first >>= next).Traces stop whole := by
  intro w asked
  obtain ⟨exchanges, transcript, kept, shaped⟩ := head w asked
  rcases run : first w with ⟨error | value, middle⟩
  all_goals rw [run] at transcript kept shaped
  · rw [bind_of_error run]
    exact ⟨exchanges, transcript, kept, failed exchanges error shaped⟩
  · obtain ⟨later, following, keptLater, shapedLater⟩ := tail exchanges value shaped middle kept
    rw [bind_of_ok run]
    exact ⟨exchanges ++ later, transcript.append following, keptLater, shapedLater⟩

theorem after {result : Except ε α} {next : α → Operation Wire ε β}
    {whole : List Exchange → Except ε β → Prop}
    (refused : ∀ error, result = .error error → whole [] (.error error))
    (tail : ∀ value, result = .ok value → (next value).Traces stop whole) :
    (Operation.ofExcept result >>= next).Traces stop whole := by
  cases result with
  | error error => exact fail (refused error rfl)
  | ok value => exact tail value rfl

theorem mapError {ε' : Type} {op : Operation Wire ε α} {change : ε → ε'}
    {whole : List Exchange → Except ε' α → Prop} (traces : op.Traces stop shape)
    (changed : ∀ exchanges result, shape exchanges result →
      whole exchanges (result.mapError change)) : (op.mapError change).Traces stop whole := by
  intro w asked
  obtain ⟨exchanges, transcript, kept, shaped⟩ := traces w asked
  exact ⟨exchanges, transcript, kept, changed exchanges _ shaped⟩

theorem outcome {ε' : Type} {op : Operation Wire ε α}
    {whole : List Exchange → Except ε' (Except ε α) → Prop} (traces : op.Traces stop shape)
    (handed : ∀ exchanges result, shape exchanges result → whole exchanges (.ok result)) :
    (op.outcome : Operation Wire ε' (Except ε α)).Traces stop whole := by
  intro w asked
  obtain ⟨exchanges, transcript, kept, shaped⟩ := traces w asked
  exact ⟨exchanges, transcript, kept, handed exchanges _ shaped⟩

end Traces

end Operation

open Operation (Traces)

namespace Op

variable {α β : Type} {stop : Option Nat}

/-- Nothing is exchanged, and only a stop request makes the step fail. -/
def Idle (exchanges : List Exchange) (result : Except Error α) : Prop :=
  exchanges = [] ∧ ∀ error, result = .error error → error = { failure := .cancelled }

theorem traces_now : (Operation.now : Op Wire Nat).Traces stop Idle :=
  .of_silent (fun _ => ⟨rfl, rfl⟩) fun _ => ⟨rfl, fun _ impossible => by cases impossible⟩

theorem traces_checkpoint : Op.checkpoint.Traces stop Idle := by
  have cases := Op.checkpoint_cases (σ := Wire)
  apply Traces.of_silent
  · intro w
    rcases cases w with ⟨_, run⟩ | ⟨_, run⟩ <;> rw [run] <;> exact ⟨rfl, rfl⟩
  · intro w
    refine ⟨rfl, ?_⟩
    intro error failed
    rcases cases w with ⟨_, run⟩ | ⟨_, run⟩
    · rw [run] at failed
      cases failed
    · rw [run] at failed
      exact (Except.error.inj failed).symm

theorem traces_pause (duration : Nat) : (Op.pause duration).Traces stop Idle := by
  have cases := Op.pause_cases (σ := Wire) duration
  apply Traces.of_silent
  · intro w
    rcases cases w with ⟨_, run⟩ | ⟨_, _, _, run⟩ <;> rw [run] <;> exact ⟨rfl, rfl⟩
  · intro w
    refine ⟨rfl, ?_⟩
    intro error failed
    rcases cases w with ⟨_, run⟩ | ⟨_, _, _, run⟩
    · rw [run] at failed
      cases failed
    · rw [run] at failed
      exact (Except.error.inj failed).symm

theorem traces_after_idle {first : Op Wire α} {next : α → Op Wire β}
    {whole : List Exchange → Except Error β → Prop} (idle : first.Traces stop Idle)
    (stopped : whole [] (.error { failure := .cancelled }))
    (tail : ∀ value, (next value).Traces stop whole) : (first >>= next).Traces stop whole := by
  apply idle.bind
  · intro exchanges error shaped
    obtain ⟨rfl, cancelled⟩ := shaped
    rw [cancelled error rfl]
    exact stopped
  · intro exchanges value shaped
    obtain ⟨rfl, _⟩ := shaped
    exact tail value

end Op

namespace Http

/-- When the head of the answer is there, or the request is given up. -/
def Exchange.arrival (exchange : Exchange) : Nat :=
  exchange.sent.time + min exchange.answer.delay requestTimeout

/-- What an exchange brings before the host asks to stop; the body that follows is read anyway. -/
def Exchange.Brings (stop : Option Nat) (exchange : Exchange) (delivery : Delivery) : Prop :=
  (∀ time, stop = some time → exchange.arrival ≤ time) ∧ exchange.answer.delivered = delivery

variable {request : Request} {stop : Option Nat}

/-- The exchanges of a single attempt, and what it gives. -/
inductive Attempted (request : Request) (stop : Option Nat) :
    List Exchange → Except Error Delivery → Prop where
  | stopped : Attempted request stop [] (.error { failure := .cancelled })
  | interrupted {exchange : Exchange} (same : exchange.sent.request = request) {time : Nat}
      (asked : stop = some time) (late : time < exchange.arrival) :
      Attempted request stop [exchange] (.error { failure := .cancelled })
  | brought {exchange : Exchange} (same : exchange.sent.request = request) {delivery : Delivery}
      (brings : exchange.Brings stop delivery) :
      Attempted request stop [exchange] (.ok delivery)

theorem timerEnd_of_le {w : World Wire} {duration : Nat} (short : duration ≤ requestTimeout) :
    w.timerEnd duration = w.now + duration := by
  have shorter : duration ≤ longestTimer := Nat.le_trans short (by decide)
  unfold World.timerEnd
  rw [Nat.min_eq_left shorter]

/-- The exchange that a request sent now begins. -/
def nextExchange (request : Request) (w : World Wire) : Exchange :=
  ⟨⟨request, w.now⟩, w.peer.nextAnswer.1⟩

/-- The world at some time after a request was sent now. -/
def afterSending (request : Request) (w : World Wire) (time : Nat) : World Wire :=
  { w with now := time, peer := (w.peer.send request w.now).2 }

theorem transcript_afterSending (request : Request) (w : World Wire) (time : Nat) :
    Transcript w.peer [nextExchange request w] (afterSending request w time).peer :=
  .next rfl (.none _)

theorem ask_of_running {w : World Wire} (running : w.isStopped = false) :
    ask request w = (.ok w.peer.nextAnswer.1, afterSending request w w.now) := by
  have goes : Op.checkpoint w = (.ok (), w) := by
    unfold Op.checkpoint Operation.checkpoint
    rw [running]
    rfl
  unfold ask
  rw [Operation.bind_of_ok goes]
  rfl

theorem ask_of_stopped {w : World Wire} (stopped : w.isStopped = true) :
    ask request w = (.error { failure := .cancelled }, w) := by
  have ends : Op.checkpoint w = (.error { failure := .cancelled }, w) := by
    unfold Op.checkpoint Operation.checkpoint
    rw [stopped]
    rfl
  unfold ask
  rw [Operation.bind_of_error ends]

theorem attempt_of_stopped {w : World Wire} (stopped : w.isStopped = true) :
    attempt request w = (.error { failure := .cancelled }, w) := by
  unfold attempt
  rw [Operation.bind_of_error (ask_of_stopped stopped)]

section Running

variable {w : World Wire} (running : w.isStopped = false)

include running

theorem attempt_of_arrival (request : Request)
    (inTime : ∀ stop, w.stopAt = some stop → (nextExchange request w).arrival ≤ stop) :
    attempt request w = (.ok (nextExchange request w).answer.delivered,
      afterSending request w (nextExchange request w).arrival) := by
  let duration := min w.peer.nextAnswer.1.delay requestTimeout
  have ends : (afterSending request w w.now).timerEnd duration =
      (nextExchange request w).arrival := timerEnd_of_le (Nat.min_le_right _ _)
  have waits : Op.pause duration (afterSending request w w.now) =
      (.ok (), afterSending request w (nextExchange request w).arrival) := by
    have early : ∀ stop, (afterSending request w w.now).stopAt = some stop →
        (afterSending request w w.now).timerEnd duration ≤ stop := by
      intro stop asked
      rw [ends]
      exact inTime stop asked
    rw [Op.pause_of_waits early, ends]
    rfl
  unfold attempt
  rw [Operation.bind_of_ok (ask_of_running running), Operation.bind_of_ok waits]
  rfl

theorem attempt_of_interruption {stop : Nat} (asked : w.stopAt = some stop)
    (late : stop < (nextExchange request w).arrival) :
    attempt request w = (.error { failure := .cancelled }, afterSending request w stop) := by
  let duration := min w.peer.nextAnswer.1.delay requestTimeout
  have ends : (afterSending request w w.now).timerEnd duration =
      (nextExchange request w).arrival := timerEnd_of_le (Nat.min_le_right _ _)
  have early : w.now < stop := by simpa [World.isStopped, asked] using running
  have waits : Op.pause duration (afterSending request w w.now) =
      (.error { failure := .cancelled }, afterSending request w stop) := by
    have askedHere : (afterSending request w w.now).stopAt = some stop := asked
    rw [Op.pause_of_stopped askedHere (ends.symm ▸ late)]
    unfold afterSending
    rw [Nat.max_eq_right (Nat.le_of_lt early)]
  unfold attempt
  rw [Operation.bind_of_ok (ask_of_running running), Operation.bind_of_error waits]

end Running

/-- An attempt is not begun, or it gives what has arrived, or it is interrupted before that. -/
theorem attempt_cases (request : Request) (w : World Wire) :
    (w.isStopped = true ∧ attempt request w = (.error { failure := .cancelled }, w)) ∨
      (w.isStopped = false ∧
        (∀ stop, w.stopAt = some stop → (nextExchange request w).arrival ≤ stop) ∧
        attempt request w = (.ok (nextExchange request w).answer.delivered,
          afterSending request w (nextExchange request w).arrival)) ∨
      ∃ stop, w.stopAt = some stop ∧ w.now < stop ∧ stop < (nextExchange request w).arrival ∧
        attempt request w = (.error { failure := .cancelled }, afterSending request w stop) := by
  cases running : w.isStopped with
  | true => exact Or.inl ⟨rfl, attempt_of_stopped running⟩
  | false =>
    right
    by_cases interrupted : ∃ stop, w.stopAt = some stop ∧ stop < (nextExchange request w).arrival
    · obtain ⟨stop, asked, late⟩ := interrupted
      have early : w.now < stop := by simpa [World.isStopped, asked] using running
      exact Or.inr ⟨stop, asked, early, late, attempt_of_interruption running asked late⟩
    · have inTime : ∀ stop, w.stopAt = some stop → (nextExchange request w).arrival ≤ stop :=
        fun stop asked => Nat.le_of_not_lt fun late => interrupted ⟨stop, asked, late⟩
      exact Or.inl ⟨rfl, inTime, attempt_of_arrival running request inTime⟩

section Exchange

variable {policy : RetryPolicy} {number left : Nat} {w after : World Wire}

theorem exchange_of_error {error : Error} (failed : attempt request w = (.error error, after)) :
    exchange policy request number (left + 1) w = (.error error, after) := by
  unfold exchange
  exact Operation.bind_of_error failed _

theorem exchange_of_final {delivery : Delivery}
    (attempted : attempt request w = (.ok delivery, after))
    (final : policy.pauseAfter? number delivery = none) :
    exchange policy request number (left + 1) w = receive delivery after := by
  unfold exchange
  rw [Operation.bind_of_ok attempted, final]

theorem exchange_of_retry {delivery : Delivery} {delay : Nat}
    (attempted : attempt request w = (.ok delivery, after))
    (retried : policy.pauseAfter? number delivery = some delay) :
    exchange policy request number (left + 1) w =
      (Op.pause delay >>= fun _ =>
        exchange policy request (RetryPolicy.nextAttempt number) left) after := by
  rw [exchange, Operation.bind_of_ok attempted, retried]

end Exchange

theorem traces_attempt (request : Request) (stop : Option Nat) :
    (attempt request).Traces stop (Attempted request stop) := by
  intro w asked
  rcases attempt_cases request w with
    ⟨_, run⟩ | ⟨_, inTime, run⟩ | ⟨time, stopped, _, late, run⟩
  · rw [run]
    exact ⟨[], .none _, asked, .stopped⟩
  · rw [run]
    have brings : (nextExchange request w).Brings stop (nextExchange request w).answer.delivered :=
      ⟨fun time given => inTime time (asked.trans given), rfl⟩
    exact ⟨_, transcript_afterSending request w _, asked, .brought rfl brings⟩
  · rw [run]
    exact ⟨_, transcript_afterSending request w _, asked,
      .interrupted rfl (asked.symm.trans stopped) late⟩

/-- The delivery is worth another attempt. -/
def RetryPolicy.Repeats (policy : RetryPolicy) : Delivery → Prop
  | .response response => policy.shouldRetry response.status = true
  | .fault fault => fault.isTransient = true

theorem RetryPolicy.repeats_of_delay {policy : RetryPolicy} {retry delay : Nat}
    {delivery : Delivery} (given : policy.delay? retry delivery = some delay) :
    policy.Repeats delivery := by
  unfold delay? at given
  cases delivery with
  | response response =>
    simp only at given
    split at given
    · next repeated => exact repeated
    · cases given
  | fault fault =>
    simp only at given
    split at given
    · next transient => exact transient
    · cases given

theorem RetryPolicy.pauseAfter?_eq_some_iff {policy : RetryPolicy} {attempt delay : Nat}
    {delivery : Delivery} : policy.pauseAfter? attempt delivery = some delay ↔
      attempt ≤ policy.maxRetries ∧ policy.delay? attempt delivery = some delay := by
  unfold pauseAfter?
  by_cases affordable : attempt ≤ policy.maxRetries
  · simp [affordable]
  · simp [affordable]

/-- The attempts of one request and what they come to. The host may ask to stop before an attempt,
before its answer is there, or in the pause after an answer that is worth another attempt. -/
inductive Sending (policy : RetryPolicy) (request : Request) (stop : Option Nat) :
    List Exchange → Except Error (Option Json) → Prop where
  | stopped : Sending policy request stop [] (.error { failure := .cancelled })
  | exhausted : Sending policy request stop [] (.error { failure := .transport .unscripted })
  | interrupted {exchange : Exchange} (same : exchange.sent.request = request)
      (undecided : ∀ delivery, exchange.Brings stop delivery → policy.Repeats delivery) :
      Sending policy request stop [exchange] (.error { failure := .cancelled })
  | concluded {exchange : Exchange} (same : exchange.sent.request = request) {delivery : Delivery}
      (brings : exchange.Brings stop delivery) :
      Sending policy request stop [exchange] (conclude delivery)
  | again {exchange : Exchange} (same : exchange.sent.request = request) {delivery : Delivery}
      (brings : exchange.Brings stop delivery) (repeats : policy.Repeats delivery)
      {rest : List Exchange} {result : Except Error (Option Json)}
      (later : Sending policy request stop rest result) :
      Sending policy request stop (exchange :: rest) result

variable {policy : RetryPolicy}

theorem Exchange.Brings.unique {exchange : Exchange} {delivery other : Delivery}
    (brings : exchange.Brings stop delivery) (brings' : exchange.Brings stop other) :
    delivery = other := brings.2.symm.trans brings'.2

theorem traces_attempt_bind {next : Delivery → Op Wire (Option Json)}
    (later : ∀ exchange delivery, exchange.sent.request = request →
      exchange.Brings stop delivery → (next delivery).Traces stop fun rest result =>
        Sending policy request stop (exchange :: rest) result) :
    (attempt request >>= next).Traces stop (Sending policy request stop) := by
  apply (traces_attempt request stop).bind
  · intro exchanges error attempted
    cases attempted with
    | stopped => exact .stopped
    | interrupted same asked late =>
      refine .interrupted same ?_
      intro delivery brings
      exact absurd (brings.1 _ asked) (Nat.not_le.mpr late)
  · intro exchanges delivery attempted
    cases attempted with
    | brought same brings => exact later _ delivery same brings

theorem traces_receive {whole : List Exchange → Except Error (Option Json) → Prop}
    (delivery : Delivery) (shaped : whole [] (conclude delivery)) :
    (receive delivery).Traces stop whole :=
  .of_silent (fun _ => ⟨rfl, rfl⟩) fun _ => shaped

theorem traces_exchange (policy : RetryPolicy) (request : Request) (stop : Option Nat)
    (number left : Nat) :
    (exchange policy request number left).Traces stop (Sending policy request stop) := by
  induction left generalizing number with
  | zero => exact .fail .exhausted
  | succ left ih =>
    unfold exchange
    apply traces_attempt_bind
    intro first delivery same brings
    cases repeated : policy.pauseAfter? number delivery with
    | none => exact traces_receive delivery (.concluded same brings)
    | some delay =>
      obtain ⟨_, delayed⟩ := RetryPolicy.pauseAfter?_eq_some_iff.mp repeated
      have repeats := RetryPolicy.repeats_of_delay delayed
      apply Op.traces_after_idle (Op.traces_pause delay)
      · refine .interrupted same ?_
        intro other brings'
        rw [brings'.unique brings]
        exact repeats
      · intro _
        apply (ih _).mono
        intro rest result sending
        exact .again same brings repeats sending

theorem traces_send (policy : RetryPolicy) (request : Request) (stop : Option Nat) :
    (send policy request).Traces stop (Sending policy request stop) :=
  fun w => traces_exchange policy request stop 1 (policy.attemptLimit w.peer) w

/-- The exchanges of one request: attempts of it and nothing else, and if it came to a result, the
last answer decided it. -/
structure Attempts (request : Request) (exchanges : List Exchange)
    (outcome : Except Error (Option Json)) : Prop where
  only : ∀ exchange ∈ exchanges, exchange.sent.request = request
  decided : ∀ body, outcome = .ok body → ∃ earlier last, exchanges = earlier ++ [last] ∧
    conclude last.answer.delivered = .ok body

theorem Sending.attempts {exchanges : List Exchange} {outcome : Except Error (Option Json)}
    (sending : Sending policy request stop exchanges outcome) :
    Attempts request exchanges outcome := by
  induction sending with
  | stopped | exhausted => exact ⟨by simp, fun _ impossible => by cases impossible⟩
  | interrupted same => exact ⟨by simpa using same, fun _ impossible => by cases impossible⟩
  | concluded same brings =>
    refine ⟨by simpa using same, ?_⟩
    intro body concluded
    exact ⟨[], _, rfl, by rw [brings.2, concluded]⟩
  | again same _ _ _ ih =>
    refine ⟨List.forall_mem_cons.mpr ⟨same, ih.only⟩, ?_⟩
    intro body succeeded
    obtain ⟨earlier, last, split, concluded⟩ := ih.decided body succeeded
    exact ⟨_ :: earlier, last, by rw [split]; rfl, concluded⟩

theorem send_attempts (policy : RetryPolicy) (request : Request) (w : World Wire) :
    ∃ exchanges, Transcript w.peer exchanges (send policy request w).2.peer ∧
      Attempts request exchanges (send policy request w).1 := by
  obtain ⟨exchanges, transcript, _, sending⟩ := traces_send policy request w.stopAt w rfl
  exact ⟨exchanges, transcript, sending.attempts⟩

end Http

namespace Wait

variable {ρ : Type}

/-- A wait that is given up: the host asked to stop, or the time is over. -/
def GivenUp (error : Error) : Prop :=
  error.failure = .cancelled ∨ ∃ lastState elapsed, error.failure = .timeout lastState elapsed

/-- The exchanges of a wait, made up of those of its reads, and what it comes to. -/
inductive Polled (read : List Exchange → Except Error (Observation ρ) → Prop)
    (targets : List LifecycleState) : List Exchange → Except Error (Observation ρ) → Prop where
  | givenUp {error : Error} (given : GivenUp error) : Polled read targets [] (.error error)
  | failed {exchanges : List Exchange} {error : Error} (reading : read exchanges (.error error)) :
      Polled read targets exchanges (.error error)
  | reached {exchanges : List Exchange} {seen : Observation ρ}
      (reading : read exchanges (.ok seen)) (target : seen.state ∈ targets) :
      Polled read targets exchanges (.ok seen)
  | again {exchanges later : List Exchange} {seen : Observation ρ}
      {result : Except Error (Observation ρ)} (reading : read exchanges (.ok seen))
      (missed : seen.state ∉ targets) (rest : Polled read targets later result) :
      Polled read targets (exchanges ++ later) result

variable {stop : Option Nat} {read : Op Wire (Observation ρ)} {targets : List LifecycleState}
  {shape : List Exchange → Except Error (Observation ρ) → Prop}

theorem traces_loop (reads : (observe read targets).Traces stop shape) (options : WaitOptions)
    (start left : Nat) :
    (loop read targets options start left).Traces stop (Polled shape targets) := by
  induction left with
  | zero =>
    unfold loop
    apply Op.traces_after_idle Op.traces_now (.givenUp (Or.inl rfl))
    intro now
    exact .fail (.givenUp (Or.inr ⟨_, _, rfl⟩))
  | succ left ih =>
    unfold loop
    apply Op.traces_after_idle Op.traces_checkpoint (.givenUp (Or.inl rfl))
    intro _
    apply reads.bind
    · intro exchanges error reading
      exact .failed reading
    · intro exchanges seen reading
      by_cases target : seen.state ∈ targets
      · rw [if_pos (by simpa using target)]
        apply Traces.pure
        rw [List.append_nil]
        exact .reached reading target
      · rw [if_neg (by simpa using target)]
        apply Op.traces_after_idle Op.traces_now (.again reading target (.givenUp (Or.inl rfl)))
        intro now
        simp only
        split
        · exact .fail (.again reading target (.givenUp (Or.inr ⟨_, _, rfl⟩)))
        · next duration _ =>
          apply Op.traces_after_idle (Op.traces_pause duration)
            (.again reading target (.givenUp (Or.inl rfl)))
          intro _
          apply ih.mono
          intro later result rest
          exact .again reading target rest

theorem traces_awaitState (reads : (observe read targets).Traces stop shape)
    (options : WaitOptions) :
    (awaitState read targets options).Traces stop (Polled shape targets) :=
  fun w => traces_loop reads options w.now (readLimit options w.peer) w

end Wait

end Provisioner

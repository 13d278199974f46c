import Provisioner.Proofs.Http.Traces

/-!
# What an operation may send

An operation sends only what is allowed if every request of its transcript is, in every world and
for all answers. The allowance passes from the steps of an operation to the whole, so a statement
about a transition is put together from statements about its calls.
-/

namespace Provisioner

set_option autoImplicit false

open Http

namespace Operation

variable {ε α β : Type}

/-- The requests of an operation in a world, in the order in which they were sent. -/
def sent (op : Operation Wire ε α) (w : World Wire) : List Sent :=
  (op w).2.peer.sent.drop w.peer.sent.length

theorem sent_of_transcript {op : Operation Wire ε α} {w : World Wire} {exchanges : List Exchange}
    (transcript : Transcript w.peer exchanges (op w).2.peer) :
    op.sent w = exchanges.map Exchange.sent := by
  unfold sent
  rw [transcript.sent_eq, List.drop_left]

theorem mem_sent_of_run {op : Operation Wire ε α} {w after : World Wire} {result : Except ε α}
    (run : op w = (result, after)) {exchanges : List Exchange}
    (transcript : Transcript w.peer exchanges after.peer) {exchange : Exchange}
    (member : exchange ∈ exchanges) : exchange.sent ∈ op.sent w := by
  have whole : Transcript w.peer exchanges (op w).2.peer := by
    rw [run]
    exact transcript
  rw [sent_of_transcript whole]
  exact List.mem_map_of_mem member

/-- Whatever is answered, every request satisfies the predicate. -/
def Sends (op : Operation Wire ε α) (allowed : Request → Prop) : Prop :=
  ∀ w, ∃ exchanges, Transcript w.peer exchanges (op w).2.peer ∧
    ∀ exchange ∈ exchanges, allowed exchange.sent.request

/-- The same with a predicate that depends on the world in which the operation begins, and so on
what will be answered. -/
def SendsFrom (op : Operation Wire ε α) (allowed : World Wire → Request → Prop) : Prop :=
  ∀ w, ∃ exchanges, Transcript w.peer exchanges (op w).2.peer ∧
    ∀ exchange ∈ exchanges, allowed w exchange.sent.request

namespace SendsFrom

variable {allowed : World Wire → Request → Prop}

theorem of_sent {op : Operation Wire ε α} (sends : op.SendsFrom allowed) (w : World Wire)
    {entry : Sent} (member : entry ∈ op.sent w) : allowed w entry.request := by
  obtain ⟨exchanges, transcript, all⟩ := sends w
  rw [sent_of_transcript transcript] at member
  obtain ⟨exchange, inside, rfl⟩ := List.mem_map.mp member
  exact all exchange inside

theorem mono {op : Operation Wire ε α} (sends : op.SendsFrom allowed)
    {other : World Wire → Request → Prop}
    (weaker : ∀ w request, allowed w request → other w request) : op.SendsFrom other := by
  intro w
  obtain ⟨exchanges, transcript, all⟩ := sends w
  exact ⟨exchanges, transcript, fun exchange member => weaker w _ (all exchange member)⟩

theorem of_peer_eq {op : Operation Wire ε α} (silent : ∀ w, (op w).2.peer = w.peer) :
    op.SendsFrom allowed := by
  intro w
  exact ⟨[], by rw [silent]; exact .none _, by simp⟩

theorem bind {first : Operation Wire ε α} {next : α → Operation Wire ε β}
    (head : first.SendsFrom allowed)
    (tail : ∀ w middle value, first w = (.ok value, middle) →
      (next value).Sends (allowed w)) : (first >>= next).SendsFrom allowed := by
  intro w
  obtain ⟨sentFirst, transcript, all⟩ := head w
  rcases run : first w with ⟨error | value, middle⟩
  all_goals rw [run] at transcript
  · rw [bind_of_error run]
    exact ⟨sentFirst, transcript, all⟩
  · obtain ⟨sentNext, later, allLater⟩ := tail w middle value run middle
    rw [bind_of_ok run]
    refine ⟨sentFirst ++ sentNext, transcript.append later, ?_⟩
    intro exchange member
    rcases List.mem_append.mp member with inFirst | inNext
    · exact all exchange inFirst
    · exact allLater exchange inNext

theorem map {op : Operation Wire ε α} (sends : op.SendsFrom allowed) (f : α → β) :
    (f <$> op).SendsFrom allowed := by
  rw [map_eq_pure_bind]
  apply sends.bind
  intro w middle value _
  exact of_peer_eq fun _ => rfl

end SendsFrom

namespace Sends

variable {allowed other : Request → Prop}

theorem of_sent {op : Operation Wire ε α} (sends : op.Sends allowed) (w : World Wire)
    {entry : Sent} (member : entry ∈ op.sent w) : allowed entry.request := by
  have everywhere : op.SendsFrom fun _ => allowed := sends
  exact everywhere.of_sent w member

theorem transcript {op : Operation Wire ε α} (sends : op.Sends allowed) {w after : World Wire}
    {result : Except ε α} (run : op w = (result, after)) :
    ∃ exchanges, Transcript w.peer exchanges after.peer := by
  obtain ⟨exchanges, transcript, _⟩ := sends w
  rw [run] at transcript
  exact ⟨exchanges, transcript⟩

theorem mono {op : Operation Wire ε α} (sends : op.Sends allowed)
    (weaker : ∀ request, allowed request → other request) : op.Sends other :=
  SendsFrom.mono sends fun _ => weaker

theorem sendsFrom {op : Operation Wire ε α} (sends : op.Sends allowed)
    {world : World Wire → Request → Prop}
    (weaker : ∀ w request, allowed request → world w request) : op.SendsFrom world :=
  SendsFrom.mono sends weaker

theorem of_peer_eq {op : Operation Wire ε α} (silent : ∀ w, (op w).2.peer = w.peer) :
    op.Sends allowed := SendsFrom.of_peer_eq silent

theorem pure (value : α) : (Pure.pure value : Operation Wire ε α).Sends allowed :=
  of_peer_eq fun _ => rfl

theorem ofExcept (result : Except ε α) :
    (Operation.ofExcept result : Operation Wire ε α).Sends allowed := of_peer_eq fun _ => rfl

theorem bind {first : Operation Wire ε α} {next : α → Operation Wire ε β}
    (head : first.Sends allowed) (tail : ∀ value, (next value).Sends allowed) :
    (first >>= next).Sends allowed :=
  SendsFrom.bind head fun _ _ value _ => tail value

theorem mem_sent_bind {first : Operation Wire ε α} {next : α → Operation Wire ε β}
    (head : first.Sends allowed) {w middle : World Wire} {value : α}
    (run : first w = (.ok value, middle)) (tail : ∀ value, (next value).Sends other) {entry : Sent}
    (member : entry ∈ first.sent w) : entry ∈ (first >>= next).sent w := by
  obtain ⟨sentFirst, transcript, _⟩ := head w
  rw [sent_of_transcript transcript] at member
  rw [run] at transcript
  obtain ⟨sentNext, later, _⟩ := tail value middle
  have both : Transcript w.peer (sentFirst ++ sentNext) ((first >>= next) w).2.peer := by
    rw [bind_of_ok run]
    exact transcript.append later
  rw [sent_of_transcript both, List.map_append]
  exact List.mem_append_left _ member

theorem after {result : Except ε α} {next : α → Operation Wire ε β}
    (tail : ∀ value, result = .ok value → (next value).Sends allowed) :
    (Operation.ofExcept result >>= next).Sends allowed := by
  cases result with
  | error error => exact of_peer_eq fun _ => rfl
  | ok value => exact tail value rfl

theorem outcome {ε' : Type} {op : Operation Wire ε α} (sends : op.Sends allowed) :
    (op.outcome : Operation Wire ε' (Except ε α)).Sends allowed := sends

end Sends

end Operation

namespace Op.Sends

open Operation

variable {α ρ : Type} {allowed : Request → Prop}

theorem about {op : Op Wire α} (sends : op.Sends allowed) (type : String) (id : Option String) :
    (Op.about type id op).Sends allowed := sends

theorem fail (failure : Failure) : (Op.fail failure : Op Wire α).Sends allowed :=
  .of_peer_eq fun _ => rfl

theorem checkpoint : (Op.checkpoint : Op Wire Unit).Sends allowed := by
  apply Sends.of_peer_eq
  intro w
  rcases Op.checkpoint_cases w with ⟨_, run⟩ | ⟨_, run⟩ <;> rw [run]

theorem pause (duration : Nat) : (Op.pause duration : Op Wire Unit).Sends allowed :=
  .of_peer_eq (Op.peer_pause duration)

theorem observe {read : Op Wire (Observation ρ)} (sends : read.Sends allowed)
    (targets : List LifecycleState) : (Wait.observe read targets).Sends allowed := by
  unfold Wait.observe
  apply Sends.bind sends.outcome
  intro result
  cases result with
  | ok => exact .pure _
  | error =>
    simp only
    split
    · exact .pure _
    · exact .ofExcept (.error _)

theorem loop {read : Op Wire (Observation ρ)} (sends : read.Sends allowed)
    (targets : List LifecycleState) (options : WaitOptions) (start reads : Nat) :
    (Wait.loop read targets options start reads).Sends allowed := by
  -- By induction on the reads left: the pauses between them send nothing.
  induction reads with
  | zero =>
    unfold Wait.loop
    exact .bind (.of_peer_eq fun _ => rfl) fun _ => fail _
  | succ reads ih =>
    unfold Wait.loop
    apply Sends.bind checkpoint
    intro _
    apply Sends.bind (observe sends targets)
    intro observation
    split
    · exact .pure _
    · apply Sends.bind (.of_peer_eq fun _ => rfl)
      intro now
      simp only
      split
      · exact fail _
      · exact .bind (pause _) fun _ => ih

theorem awaitState {read : Op Wire (Observation ρ)} (sends : read.Sends allowed)
    (targets : List LifecycleState) (options : WaitOptions) :
    (Wait.awaitState read targets options).Sends allowed :=
  fun w => loop sends targets options w.now _ w

end Op.Sends

namespace Session

open Operation

variable {α : Type} {allowed : Request → Prop}

/-- The exchanges of a call that gave a value: attempts of one request, of which the last was
answered with a success that decodes to the value. -/
structure Called (request : Request) (decode : Decoder α) (exchanges : List Exchange)
    (value : α) : Prop where
  only : ∀ exchange ∈ exchanges, exchange.sent.request = request
  answered : ∃ earlier last body, exchanges = earlier ++ [last] ∧ last.answer.Succeeds body ∧
    decode.fromAnswer (Json.option body) = .ok value

theorem sends_send (session : Session) (method : Method) (path : String) (body : Option Json) :
    (session.send method path body).Sends (· = session.request method path body) := by
  intro w
  obtain ⟨exchanges, transcript, attempts⟩ := send_attempts session.context.client.retry
    (session.request method path body) w
  exact ⟨exchanges, transcript, attempts.only⟩

theorem sends_call (session : Session) (method : Method) (path : String) (body : Option Json)
    (decode : Decoder α) :
    (session.call method path body decode).Sends (· = session.request method path body) :=
  .bind (session.sends_send method path body) fun _ => .ofExcept _

theorem sends_tell (session : Session) (method : Method) (path : String) (body : Option Json) :
    (session.tell method path body).Sends (· = session.request method path body) :=
  .bind (session.sends_send method path body) fun _ => .pure _

theorem called_of_call {session : Session} {method : Method} {path : String} {body : Option Json}
    {decode : Decoder α} {w after : World Wire} {value : α}
    (run : session.call method path body decode w = (.ok value, after)) :
    ∃ exchanges, Transcript w.peer exchanges after.peer ∧
      Called (session.request method path body) decode exchanges value := by
  obtain ⟨answer, middle, sending, decoding⟩ := bind_ok_iff.mp run
  obtain ⟨decoded, rfl⟩ := ofExcept_ok_iff.mp decoding
  obtain ⟨exchanges, transcript, attempts⟩ := send_attempts session.context.client.retry
    (session.request method path body) w
  have sent : Http.send session.context.client.retry (session.request method path body) w =
      (.ok answer, middle) := sending
  rw [sent] at transcript attempts
  obtain ⟨earlier, last, split, concluded⟩ := attempts.decided answer rfl
  exact ⟨exchanges, transcript, attempts.only, earlier, last, answer, split,
    succeeds_of_conclude concluded, decoded⟩

theorem sent_of_tell {session : Session} {method : Method} {path : String} {body : Option Json}
    {w after : World Wire} (run : session.tell method path body w = (.ok (), after)) :
    ∃ exchanges, Transcript w.peer exchanges after.peer ∧
      ∃ exchange ∈ exchanges, exchange.sent.request = session.request method path body := by
  obtain ⟨answer, middle, sending, ending⟩ := bind_ok_iff.mp run
  obtain ⟨_, rfl⟩ := pure_ok_iff.mp ending
  obtain ⟨exchanges, transcript, attempts⟩ := send_attempts session.context.client.retry
    (session.request method path body) w
  have sent : Http.send session.context.client.retry (session.request method path body) w =
      (.ok answer, middle) := sending
  rw [sent] at transcript attempts
  obtain ⟨earlier, last, split, _⟩ := attempts.decided answer rfl
  have member : last ∈ exchanges := by
    rw [split]
    exact List.mem_append_right _ (List.mem_singleton_self last)
  exact ⟨exchanges, transcript, last, member, attempts.only last member⟩

end Session

end Provisioner

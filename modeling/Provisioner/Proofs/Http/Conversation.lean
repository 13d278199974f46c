import Provisioner.Proofs.Http.Prompt
import Provisioner.Proofs.Http.Traces

/-!
# Conversations

What the exchanges of a run say about the object that the run is about. A success and a missing
object are final answers: no request is sent again after one of them. So a run ends with the first
exchange that finds its object missing, and a run that writes and then looks sends no write again
once it was accepted, and nothing more once a write has failed for good.
-/

namespace Provisioner

set_option autoImplicit false

open Http
open Operation (Traces)

/-- The result says that an object does not exist. -/
def IsNotFound {α : Type} (result : Except Error α) : Prop :=
  ∃ error, result = .error error ∧ error.isNotFound = true

section IsNotFound

variable {α : Type}

@[simp] theorem isNotFound_ok (value : α) : IsNotFound (.ok value : Except Error α) ↔ False := by
  unfold IsNotFound
  simp

@[simp] theorem isNotFound_error (error : Error) :
    IsNotFound (.error error : Except Error α) ↔ error.isNotFound = true := by
  unfold IsNotFound
  simp

@[simp] theorem Error.isNotFound_about (error : Error) (type : String) (id : Option String) :
    (error.about type id).isNotFound = error.isNotFound := by
  unfold Error.isNotFound
  rw [Error.failure_about]

theorem isNotFound_mapError_about (result : Except Error α) (type : String) (id : Option String) :
    IsNotFound (result.mapError fun error => error.about type id) ↔ IsNotFound result := by
  cases result with
  | ok => exact Iff.rfl
  | error error =>
    show IsNotFound (.error (error.about type id)) ↔ _
    simp

end IsNotFound

namespace Http

/-- Neither a success nor the answer that an object is missing is worth another attempt. -/
structure RetryPolicy.Decisive (policy : RetryPolicy) : Prop where
  accepted : ∀ status, policy.shouldRetry status = true → isSuccess status = false
  missing : policy.shouldRetry 404 = false

/-- The server answered in time with a success. -/
def Exchange.Accepted (exchange : Exchange) : Prop :=
  ∃ response, exchange.answer.delivered = .response response ∧ isSuccess response.status = true

/-- The server answered, before the host asked to stop, that the object is missing, and the answer
could be read. -/
def Exchange.Missing (stop : Option Nat) (exchange : Exchange) : Prop :=
  ∃ response text, exchange.Brings stop (.response response) ∧ response.status = 404 ∧
    response.body = some text

variable {stop : Option Nat}

theorem conclude_isNotFound_iff (delivery : Delivery) :
    IsNotFound (conclude delivery) ↔ ∃ response text, delivery = .response response ∧
      response.status = 404 ∧ response.body = some text := by
  cases delivery with
  | fault fault => simp [conclude, refuse, Error.isNotFound, Failure.isNotFound]
  | response response =>
    cases present : response.body with
    | none => simp [conclude, present, refuse, Error.isNotFound, Failure.isNotFound]
    | some text =>
      have other : IsNotFound (interpret response.status text) ↔ response.status = 404 := by
        unfold interpret
        by_cases success : isSuccess response.status = true
        · have present : response.status ≠ 404 := by
            intro missing
            rw [missing] at success
            cases success
          rw [if_pos success]
          simp only [present, iff_false]
          split
          · simp
          · split <;> simp [refuse, Error.isNotFound, Failure.isNotFound]
        · rw [if_neg success]
          split
          · next missing => simp [missing, refuse, Error.isNotFound, Failure.isNotFound]
          · next present => simp [present, refuse, Error.isNotFound, Failure.isNotFound]
      unfold conclude
      simp only [present]
      rw [other]
      simp [present]

section Repeated

variable {policy : RetryPolicy} (decisive : policy.Decisive) {exchange : Exchange}

include decisive

theorem not_missing_of_repeats
    (undecided : ∀ delivery, exchange.Brings stop delivery → policy.Repeats delivery) :
    ¬exchange.Missing stop := by
  intro missing
  obtain ⟨response, _, brings, status, _⟩ := missing
  have repeated : policy.shouldRetry response.status = true := undecided _ brings
  rw [status, decisive.missing] at repeated
  cases repeated

theorem not_accepted_of_repeats {delivery : Delivery} (brings : exchange.Brings stop delivery)
    (repeats : policy.Repeats delivery) : ¬exchange.Accepted := by
  intro accepted
  obtain ⟨response, delivered, success⟩ := accepted
  obtain rfl : delivery = .response response := brings.2.symm.trans delivered
  have failure := decisive.accepted _ repeats
  rw [success] at failure
  cases failure

end Repeated

theorem mem_dropLast_append {α : Type} (first later : List α) {item : α}
    (member : item ∈ (first ++ later).dropLast) : item ∈ first ∨ item ∈ later.dropLast := by
  cases later with
  | nil =>
    rw [List.append_nil] at member
    exact Or.inl ((List.dropLast_sublist first).subset member)
  | cons head rest =>
    rw [List.dropLast_append_cons] at member
    exact List.mem_append.mp member

/-- Only the last exchange can have found the object missing, and then something is declared. -/
structure EndsOnMissing (stop : Option Nat) (declared : Prop) (exchanges : List Exchange) :
    Prop where
  last : ∀ exchange ∈ exchanges.dropLast, ¬exchange.Missing stop
  reported : (∃ exchange ∈ exchanges, exchange.Missing stop) → declared

/-- What is declared exactly if an exchange, the last one, has found the object missing. -/
structure Declares (stop : Option Nat) (declared : Prop) (exchanges : List Exchange) : Prop
    extends EndsOnMissing stop declared exchanges where
  missing : declared → ∃ exchange ∈ exchanges, exchange.Missing stop

variable {declared : Prop} {exchanges later : List Exchange}

theorem EndsOnMissing.none (stop : Option Nat) (declared : Prop) :
    EndsOnMissing stop declared [] where
  last := by simp
  reported := by simp

theorem EndsOnMissing.mono {other : Prop} (ends : EndsOnMissing stop declared exchanges)
    (weaker : declared → other) : EndsOnMissing stop other exchanges :=
  ⟨ends.last, fun found => weaker (ends.reported found)⟩

theorem EndsOnMissing.append (first : EndsOnMissing stop False exchanges)
    (second : EndsOnMissing stop declared later) :
    EndsOnMissing stop declared (exchanges ++ later) where
  last := by
    intro exchange member missing
    rcases mem_dropLast_append exchanges later member with inFirst | inLater
    · exact first.reported ⟨exchange, inFirst, missing⟩
    · exact second.last exchange inLater missing
  reported := by
    intro found
    obtain ⟨exchange, member, missing⟩ := found
    rcases List.mem_append.mp member with inFirst | inLater
    · exact (first.reported ⟨exchange, inFirst, missing⟩).elim
    · exact second.reported ⟨exchange, inLater, missing⟩

namespace Declares

theorem none (present : ¬declared) : Declares stop declared [] where
  toEndsOnMissing := .none stop declared
  missing := fun given => absurd given present

theorem congr {other : Prop} (declares : Declares stop declared exchanges)
    (same : declared ↔ other) : Declares stop other exchanges :=
  ⟨declares.toEndsOnMissing.mono same.mp, fun given => declares.missing (same.mpr given)⟩

theorem append (first : EndsOnMissing stop False exchanges)
    (second : Declares stop declared later) : Declares stop declared (exchanges ++ later) where
  toEndsOnMissing := first.append second.toEndsOnMissing
  missing := by
    intro given
    obtain ⟨exchange, member, missing⟩ := second.missing given
    exact ⟨exchange, List.mem_append_right _ member, missing⟩

theorem one {exchange : Exchange} (same : declared ↔ exchange.Missing stop) :
    Declares stop declared [exchange] where
  last := by simp
  reported := by simpa using same.mpr
  missing := by simpa using same.mp

theorem iff (declares : Declares stop declared exchanges) :
    declared ↔ ∃ exchange ∈ exchanges, exchange.Missing stop :=
  ⟨declares.missing, declares.reported⟩

end Declares

/-- Attempts of one request, none of them after a success. -/
structure Tried (request : Request) (exchanges : List Exchange) : Prop where
  only : ∀ exchange ∈ exchanges, exchange.sent.request = request
  unaccepted : ∀ exchange ∈ exchanges.dropLast, ¬exchange.Accepted

/-- The last exchange is a success whose body could be read. -/
def Succeeded (exchanges : List Exchange) : Prop :=
  ∃ earlier last body, exchanges = earlier ++ [last] ∧ last.answer.Succeeds body

theorem Succeeded.cons {exchange : Exchange} (succeeded : Succeeded exchanges) :
    Succeeded (exchange :: exchanges) := by
  obtain ⟨earlier, last, body, rfl, succeeds⟩ := succeeded
  exact ⟨exchange :: earlier, last, body, rfl, succeeds⟩

theorem accepted_of_succeeds {exchange : Exchange} {body : Option Json}
    (succeeds : exchange.answer.Succeeds body) : exchange.Accepted := by
  obtain ⟨response, _, delivered, success, _⟩ := succeeds
  exact ⟨response, delivered, success⟩

variable {α β : Type} {request : Request}

/-- The exchanges of one request, whatever it came to; there are none if it was refused. -/
structure Writing (request : Request) (stop : Option Nat) (exchanges : List Exchange)
    (result : Except Error α) : Prop
    extends Tried request exchanges, EndsOnMissing stop (IsNotFound result) exchanges where
  succeeded : ∀ value, result = .ok value → Succeeded exchanges

/-- The exchanges of one request that was not refused: only an answer says that the object is
missing. -/
structure OneRequest (request : Request) (stop : Option Nat) (exchanges : List Exchange)
    (result : Except Error α) : Prop extends Writing request stop exchanges result where
  missing : IsNotFound result → ∃ exchange ∈ exchanges, exchange.Missing stop

namespace Writing

theorem unsent (error : Error) : Writing request stop [] (.error error : Except Error α) where
  only := by simp
  unaccepted := by simp
  toEndsOnMissing := .none stop _
  succeeded := by
    intro value impossible
    cases impossible

theorem congr {result : Except Error α} {other : Except Error β}
    (writing : Writing request stop exchanges result) (same : IsNotFound result → IsNotFound other)
    (ok : ∀ value, other = .ok value → ∃ given, result = .ok given) :
    Writing request stop exchanges other where
  toTried := writing.toTried
  toEndsOnMissing := writing.toEndsOnMissing.mono same
  succeeded := by
    intro value given
    obtain ⟨before, succeeded⟩ := ok value given
    exact writing.succeeded before succeeded

theorem about {result : Except Error α} (writing : Writing request stop exchanges result)
    (type : String) (id : Option String) :
    Writing request stop exchanges (result.mapError fun error => error.about type id) := by
  apply writing.congr (isNotFound_mapError_about result type id).mpr
  intro value given
  cases result with
  | error error => cases given
  | ok before => exact ⟨before, rfl⟩

theorem present {value : α} (writing : Writing request stop exchanges (.ok value)) :
    EndsOnMissing stop False exchanges :=
  writing.toEndsOnMissing.mono (isNotFound_ok value).mp

end Writing

namespace OneRequest

theorem of_declares {result : Except Error α} (tried : Tried request exchanges)
    (declares : Declares stop (IsNotFound result) exchanges)
    (succeeded : ∀ value, result = .ok value → Succeeded exchanges) :
    OneRequest request stop exchanges result :=
  ⟨⟨tried, declares.toEndsOnMissing, succeeded⟩, declares.missing⟩

theorem toDeclares {result : Except Error α} (one : OneRequest request stop exchanges result) :
    Declares stop (IsNotFound result) exchanges :=
  ⟨one.toEndsOnMissing, one.missing⟩

theorem congr {result : Except Error α} {other : Except Error β}
    (one : OneRequest request stop exchanges result) (same : IsNotFound result ↔ IsNotFound other)
    (ok : ∀ value, other = .ok value → ∃ given, result = .ok given) :
    OneRequest request stop exchanges other :=
  ⟨one.toWriting.congr same.mp ok, fun declared => one.missing (same.mpr declared)⟩

end OneRequest

theorem oneRequest_of_sending {policy : RetryPolicy} (decisive : policy.Decisive)
    {result : Except Error (Option Json)} (sending : Sending policy request stop exchanges result) :
    OneRequest request stop exchanges result := by
  -- By induction on the attempts: each but the last brought what is worth another one, so neither a
  -- success nor a missing object.
  induction sending with
  | stopped | exhausted =>
    refine .of_declares ⟨by simp, by simp⟩ (.none ?_) ?_
    · simp [Error.isNotFound, Failure.isNotFound]
    · intro value impossible
      cases impossible
  | interrupted same undecided =>
    have present := not_missing_of_repeats decisive undecided
    refine .of_declares ⟨by simpa using same, by simp⟩ (.one ?_) ?_
    · simp [Error.isNotFound, Failure.isNotFound, present]
    · intro value impossible
      cases impossible
  | @concluded exchange same delivery brings =>
    refine .of_declares ⟨by simpa using same, by simp⟩ (.one ?_) ?_
    · rw [conclude_isNotFound_iff]
      constructor
      · intro found
        obtain ⟨response, text, rfl, missing⟩ := found
        exact ⟨response, text, brings, missing⟩
      · intro found
        obtain ⟨response, text, brings', missing⟩ := found
        exact ⟨response, text, brings.unique brings', missing⟩
    · intro body concluded
      rw [← brings.2] at concluded
      exact ⟨[], exchange, body, rfl, succeeds_of_conclude concluded⟩
  | @again exchange same delivery brings repeats rest result later ih =>
    have present : ¬exchange.Missing stop := by
      apply not_missing_of_repeats decisive
      intro other brings'
      rw [brings'.unique brings]
      exact repeats
    have unaccepted := not_accepted_of_repeats decisive brings repeats
    have first : EndsOnMissing stop False [exchange] := (Declares.one (by simp [present])).1
    refine .of_declares ⟨?_, ?_⟩ (.append first ih.toDeclares)
      fun value given => (ih.succeeded value given).cons
    · intro other member
      rcases List.mem_cons.mp member with rfl | inRest
      · exact same
      · exact ih.only other inRest
    · intro other member
      rcases mem_dropLast_append [exchange] rest member with inFirst | inRest
      · rw [List.mem_singleton.mp inFirst]
        exact unaccepted
      · exact ih.unaccepted other inRest

/-- Exchanges that only look for an object, and what they declare. -/
structure Looks (stop : Option Nat) (declared : Prop) (exchanges : List Exchange) : Prop
    extends Declares stop declared exchanges where
  gets : ∀ exchange ∈ exchanges, exchange.sent.request.method = .get

namespace Looks

theorem none (present : ¬declared) : Looks stop declared [] where
  toDeclares := .none present
  gets := by simp

theorem congr {other : Prop} (looks : Looks stop declared exchanges) (same : declared ↔ other) :
    Looks stop other exchanges :=
  ⟨looks.toDeclares.congr same, looks.gets⟩

theorem append (first : Looks stop False exchanges) (second : Looks stop declared later) :
    Looks stop declared (exchanges ++ later) where
  toDeclares := .append first.toEndsOnMissing second.toDeclares
  gets := by
    intro exchange member
    rcases List.mem_append.mp member with inFirst | inLater
    · exact first.gets exchange inFirst
    · exact second.gets exchange inLater

theorem of_oneRequest {result : Except Error α} (one : OneRequest request stop exchanges result)
    (get : request.method = .get) : Looks stop (IsNotFound result) exchanges where
  toDeclares := one.toDeclares
  gets := by
    intro exchange member
    rw [one.only exchange member]
    exact get

theorem traces_bind {first : Op Wire α} {next : α → Op Wire β} {whole : Except Error β → Prop}
    (head : first.Traces stop fun exchanges result => Looks stop (IsNotFound result) exchanges)
    (failed : ∀ error, error.isNotFound = true ↔ whole (.error error))
    (tail : ∀ value, (next value).Traces stop fun exchanges result =>
      Looks stop (whole result) exchanges) :
    (first >>= next).Traces stop fun exchanges result => Looks stop (whole result) exchanges := by
  apply head.bind
  · intro exchanges error looks
    exact looks.congr ((isNotFound_error error).trans (failed error))
  · intro exchanges value looks
    apply (tail value).mono
    intro later result rest
    exact (looks.congr (isNotFound_ok value)).append rest

theorem traces_outcome {first : Op Wire α} {next : Except Error α → Op Wire β}
    {given : Except Error α → Prop} {whole : Except Error β → Prop}
    (head : first.Traces stop fun exchanges result =>
      Looks stop (IsNotFound result) exchanges ∧ given result)
    (silent : ∀ result w, (next result w).2.peer = w.peer ∧ (next result w).2.stopAt = w.stopAt)
    (same : ∀ result w, given result → (IsNotFound result ↔ whole (next result w).1)) :
    (first.outcome >>= next).Traces stop fun exchanges result =>
      Looks stop (whole result) exchanges := by
  have handed : (first.outcome : Op Wire (Except Error α)).Traces stop fun exchanges result =>
      ∃ found, result = .ok found ∧ Looks stop (IsNotFound found) exchanges ∧ given found :=
    head.outcome fun _ found looked => ⟨found, rfl, looked⟩
  apply handed.bind
  · intro exchanges error looked
    obtain ⟨_, impossible, _⟩ := looked
    cases impossible
  · intro exchanges found looked
    obtain ⟨_, ⟨⟩, looks, known⟩ := looked
    apply Traces.of_silent (silent found)
    intro w
    rw [List.append_nil]
    exact looks.congr (same found w known)

end Looks

/-- The writes of a run, in order, and then looks only. A write is tried until it is accepted; if it
is not, nothing else is sent and the run fails. -/
inductive WritesFirst : List Request → List Exchange → Except Error α → Prop where
  | looked {exchanges : List Exchange} {result : Except Error α}
      (gets : ∀ exchange ∈ exchanges, exchange.sent.request.method = .get) :
      WritesFirst [] exchanges result
  | failed {request : Request} {rest : List Request} {exchanges : List Exchange} {error : Error}
      (tried : Tried request exchanges) :
      WritesFirst (request :: rest) exchanges (.error error)
  | written {request : Request} {rest : List Request} {tries later : List Exchange}
      {result : Except Error α} (tried : Tried request tries) (succeeded : Succeeded tries)
      (following : WritesFirst rest later result) :
      WritesFirst (request :: rest) (tries ++ later) result

/-- Only that it failed counts, not what the error says. -/
theorem WritesFirst.congr {requests : List Request} {result : Except Error α}
    {other : Except Error β} (ordered : WritesFirst requests exchanges result)
    (fails : ∀ error, result = .error error → ∃ fault, other = .error fault) :
    WritesFirst requests exchanges other := by
  induction ordered with
  | looked gets => exact .looked gets
  | failed tried =>
    obtain ⟨fault, rfl⟩ := fails _ rfl
    exact .failed tried
  | written tried succeeded _ ih => exact .written tried succeeded (ih fails)

theorem WritesFirst.about {requests : List Request} {result : Except Error α}
    (ordered : WritesFirst requests exchanges result) (type : String) (id : Option String) :
    WritesFirst requests exchanges (result.mapError fun error => error.about type id) := by
  apply ordered.congr
  rintro error rfl
  exact ⟨_, rfl⟩

/-- A run that writes and then looks, and says so if it finds its object missing. -/
structure Conversation (requests : List Request) (stop : Option Nat) (exchanges : List Exchange)
    (result : Except Error α) : Prop
    extends EndsOnMissing stop (IsNotFound result) exchanges where
  ordered : WritesFirst requests exchanges result

namespace Conversation

variable {requests rest : List Request} {result : Except Error α}

theorem unsent (error : Error) :
    Conversation requests stop [] (.error error : Except Error α) where
  toEndsOnMissing := .none stop _
  ordered := by
    cases requests with
    | nil => exact .looked (by simp)
    | cons request rest => exact .failed ⟨by simp, by simp⟩

theorem of_looks (looks : Looks stop (IsNotFound result) exchanges) :
    Conversation [] stop exchanges result :=
  ⟨looks.toEndsOnMissing, .looked looks.gets⟩

theorem failed {error : Error}
    (writing : Writing request stop exchanges (.error error : Except Error α)) :
    Conversation (request :: rest) stop exchanges (.error error : Except Error β) where
  toEndsOnMissing := writing.toEndsOnMissing.mono (by simp)
  ordered := .failed writing.toTried

theorem written {value : β} (writing : Writing request stop exchanges (.ok value))
    (following : Conversation rest stop later result) :
    Conversation (request :: rest) stop (exchanges ++ later) result where
  toEndsOnMissing := writing.present.append following.toEndsOnMissing
  ordered := .written writing.toTried (writing.succeeded value rfl) following.ordered

theorem about (conversation : Conversation requests stop exchanges result) (type : String)
    (id : Option String) :
    Conversation requests stop exchanges
      (result.mapError fun error => error.about type id) where
  toEndsOnMissing :=
    conversation.toEndsOnMissing.mono (isNotFound_mapError_about result type id).mpr
  ordered := conversation.ordered.about type id

theorem map (conversation : Conversation requests stop exchanges result) (f : α → β) :
    Conversation requests stop exchanges (result.map f) where
  toEndsOnMissing := by
    apply conversation.toEndsOnMissing.mono
    cases result <;> simp [Except.map]
  ordered := by
    apply conversation.ordered.congr
    rintro error rfl
    exact ⟨_, rfl⟩

theorem traces_map {op : Op Wire α} (traces : op.Traces stop (Conversation requests stop))
    (f : α → β) :
    (op >>= fun value => pure (f value)).Traces stop (Conversation requests stop) := by
  apply traces.bind
  · intro exchanges error conversation
    exact conversation.map f
  · intro exchanges value conversation
    apply Traces.pure
    rw [List.append_nil]
    exact conversation.map f

theorem traces_bind {first : Op Wire α} {next : α → Op Wire β}
    (head : first.Traces stop (Writing request stop))
    (tail : ∀ value, (next value).Traces stop (Conversation rest stop)) :
    (first >>= next).Traces stop (Conversation (request :: rest) stop) := by
  apply head.bind
  · intro exchanges error writing
    exact .failed writing
  · intro exchanges value writing
    apply (tail value).mono
    intro later result following
    exact .written writing following

end Conversation

end Http

theorem Http.Client.retry_of_make {endpoint : String} {retry : RetryPolicy}
    {suffix : Option String} {client : Client}
    (made : Client.make endpoint retry suffix = .ok client) : client.retry = retry := by
  unfold Client.make at made
  extract_lets agent at made
  by_cases valid : isHeaderValue agent = true
  · rw [if_pos valid] at made
    cases made
    rfl
  · rw [if_neg valid] at made
    cases made

/-- A configuration chooses the number of retries, but not what is worth one. -/
theorem Context.decisive_of_configuration {configuration : Configuration} {context : Context}
    (configured : Context.ofConfiguration configuration = .ok context) :
    context.client.retry.Decisive := by
  have statuses : context.client.retry.retryStatuses = [429, 500, 502, 503, 504] := by
    unfold Context.ofConfiguration at configured
    simp only [bind, Except.bind] at configured
    split at configured
    · cases configured
    · split at configured
      · cases configured
      · next client made =>
        cases configured
        rw [Client.retry_of_make made]
  refine ⟨RetryPolicy.accepting_of_failures statuses, ?_⟩
  unfold RetryPolicy.shouldRetry
  rw [statuses]
  rfl

theorem Context.plain_configured :
    Context.ofConfiguration { maxRetries := some 0 } = .ok Context.plain := by
  have made : Client.make defaultEndpoint { maxRetries := 0 } none = .ok plain.client := by
    have endpoint : dropTrailingSlashes defaultEndpoint = defaultEndpoint := by cbv
    have agent : isHeaderValue Client.baseUserAgent = true := by decide
    unfold Client.make
    simp only [endpoint, agent]
    rfl
  show (Client.make defaultEndpoint { maxRetries := 0 } none >>= fun client => _) = _
  rw [made]
  rfl

namespace Session

variable {α : Type} {session : Session} (decisive : session.context.client.retry.Decisive)

include decisive

theorem traces_send (method : Method) (path : String) (body : Option Json) (stop : Option Nat) :
    (session.send method path body).Traces stop
      (OneRequest (session.request method path body) stop) := by
  apply (Http.traces_send session.context.client.retry _ stop).mono
  intro exchanges result sending
  exact oneRequest_of_sending decisive sending

theorem traces_call (method : Method) (path : String) (body : Option Json) (decode : Decoder α)
    (stop : Option Nat) :
    (session.call method path body decode).Traces stop
      (OneRequest (session.request method path body) stop) := by
  apply (traces_send decisive method path body stop).bind
  · intro exchanges error one
    exact one.congr (by simp) fun value impossible => by cases impossible
  · intro exchanges answer one
    apply Traces.ofExcept
    rw [List.append_nil]
    refine one.congr ?_ fun _ _ => ⟨answer, rfl⟩
    unfold Decoder.fromAnswer
    split <;> simp [refuse, Error.isNotFound, Failure.isNotFound]

theorem traces_tell (method : Method) (path : String) (body : Option Json) (stop : Option Nat) :
    (session.tell method path body).Traces stop
      (OneRequest (session.request method path body) stop) := by
  apply (traces_send decisive method path body stop).bind
  · intro exchanges error one
    exact one.congr (by simp) fun value impossible => by cases impossible
  · intro exchanges answer one
    apply Traces.pure
    rw [List.append_nil]
    exact one.congr (by simp) fun _ _ => ⟨answer, rfl⟩

end Session

end Provisioner

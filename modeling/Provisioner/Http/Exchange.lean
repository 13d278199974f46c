import Provisioner.Wait

/-!
# Requests and answers

One request as it goes out and the answer prepared for it. The wire replays a script of answers, one
for each request, and keeps every request with the time at which it was sent. An answer comes in two
parts, its head and then its body. Redirects are followed below this level: an answer is the one at
their end.
-/

namespace Provisioner

set_option autoImplicit false

structure Credentials where
  key : String
  secret : String
deriving DecidableEq, Repr

namespace Http

inductive Method where
  | get
  | post
  | put
  | patch
  | delete
deriving DecidableEq, Repr

def Method.name : Method → String
  | .get => "GET"
  | .post => "POST"
  | .put => "PUT"
  | .patch => "PATCH"
  | .delete => "DELETE"

structure Request where
  method : Method
  url : String
  credentials : Option Credentials
  body : Option Json

structure Sent where
  request : Request
  time : Nat

/-- A response; without a body if the body cannot be read. The body is there, or is given up, some
milliseconds after the head. -/
structure Response where
  status : Nat
  headers : List (String × String) := []
  body : Option String
  bodyDelay : Nat := 0

/-- Header values admit no control characters but the tab. -/
def isHeaderChar (c : Char) : Bool := c == '\t' || (0x20 ≤ c.toNat && c.toNat ≠ 0x7F)

def isHeaderValue (text : String) : Bool := text.toList.all isHeaderChar

/-- The first value of a header, whose name may be written in capitals or not. What is no header
value does not count. -/
def Response.header? (response : Response) (name : String) : Option String :=
  (response.headers.find? fun header =>
    header.1.toLower == name.toLower && isHeaderValue header.2).map Prod.snd

inductive Delivery where
  | response (response : Response)
  | fault (fault : TransportFault)

/-- What comes back for one request. The delay is that of the head, in milliseconds. -/
structure Answer where
  delay : Nat := 0
  delivery : Delivery

structure Wire where
  script : List Answer := []
  repeatLast : Bool := false
  sent : List Sent := []

instance : Peer Wire := ⟨fun wire => wire.script.length⟩

/-- Takes the next answer. The last one stays if it is to be repeated. -/
def Wire.nextAnswer (wire : Wire) : Answer × List Answer :=
  match wire.script with
  | [] => (⟨0, .fault .unscripted⟩, [])
  | [last] => (last, if wire.repeatLast then [last] else [])
  | next :: rest => (next, rest)

def Wire.send (request : Request) (time : Nat) (wire : Wire) : Answer × Wire :=
  let (answer, script) := wire.nextAnswer
  (answer, { wire with script, sent := wire.sent ++ [⟨request, time⟩] })

/-- A request fails if its answer takes longer, in milliseconds, the body included. -/
def requestTimeout : Nat := 60 * 1000

/-- A body that takes longer is given up. -/
def Response.within (response : Response) (time : Nat) : Response :=
  if time < response.bodyDelay then { response with body := none, bodyDelay := time } else response

/-- What arrives in the time of a request. -/
def Answer.delivered (answer : Answer) : Delivery :=
  if requestTimeout < answer.delay then .fault .timeout
  else
    match answer.delivery with
    | .response response => .response (response.within (requestTimeout - answer.delay))
    | .fault fault => .fault fault

/-- How long it takes to read what was delivered. -/
def Delivery.bodyDelay : Delivery → Nat
  | .response given => given.bodyDelay
  | .fault _ => 0

/-- Sends a request, unless the host has asked to stop. -/
def ask (request : Request) : Op Wire Answer := do
  Op.checkpoint
  let time ← Operation.now
  Operation.onPeer (Wire.send request time)

/-- Sends a request once and waits for the head of the answer. -/
def attempt (request : Request) : Op Wire Delivery := do
  let answer ← ask request
  Op.pause (min answer.delay requestTimeout)
  pure answer.delivered

end Http

end Provisioner

import Provisioner.Http.ErrorText
import Provisioner.Http.Retry

/-!
# The HTTP client

Resolves paths against a base endpoint, repeats what may be repeated, and reads the final answer: a
success gives its JSON body or nothing, a missing object and any other status give an error with the
server's text.
-/

namespace Provisioner.Http

set_option autoImplicit false

def dropTrailingSlashes (text : String) : String :=
  String.ofList ((text.toList.reverse.dropWhile (· == '/')).reverse)

def dropLeadingSlashes (text : String) : String :=
  String.ofList (text.toList.dropWhile (· == '/'))

/-- Whether a text begins like an absolute URL. -/
def isAbsoluteUrl (text : String) : Bool :=
  "http://".toList.isPrefixOf text.toList || "https://".toList.isPrefixOf text.toList

/-- The endpoint has no slash at its end. -/
structure Client where
  endpoint : String
  retry : RetryPolicy
  userAgent : String

namespace Client

def baseUserAgent : String := "confluent-provider/0.1.0"

def make (endpoint : String) (retry : RetryPolicy) (userAgentSuffix : Option String) :
    Except Error Client :=
  let userAgent :=
    match userAgentSuffix with
    | none | some "" => baseUserAgent
    | some suffix => baseUserAgent ++ " " ++ suffix
  if isHeaderValue userAgent then
    .ok { endpoint := dropTrailingSlashes endpoint, retry, userAgent }
  else refuse (.configuration "failed to build HTTP client: builder error")

/-- An absolute URL stands for itself. -/
def url (client : Client) (path : String) : String :=
  if isAbsoluteUrl path then path else client.endpoint ++ "/" ++ dropLeadingSlashes path

end Client

def isSuccess (status : Nat) : Bool := 200 ≤ status && status < 300

/-- What a complete response means. -/
def interpret (status : Nat) (body : String) : Except Error (Option Json) :=
  if isSuccess status then
    if Text.isBlank body then .ok none
    else
      match Json.read body with
      | .ok value => .ok (some value)
      | .error fault => refuse (.serialization (fault.message body))
  else if status = 404 then refuse (.notFound (errorText body))
  else refuse (.api status (errorText body))

/-- What a delivery means when there is no further attempt. -/
def conclude : Delivery → Except Error (Option Json)
  | .fault fault => refuse (.transport fault)
  | .response response =>
    match response.body with
    | none => refuse (.transport .decode)
    | some body => interpret response.status body

/-- Reads what was delivered. A stop request does not interrupt this. -/
def receive (delivery : Delivery) : Op Wire (Option Json) := do
  Operation.elapse delivery.bodyDelay
  Operation.ofExcept (conclude delivery)

theorem run_receive (delivery : Delivery) (w : World Wire) :
    receive delivery w =
      (conclude delivery, { w with now := w.timerEnd delivery.bodyDelay }) := rfl

/-- At most `attempts` attempts, the first of which has the given number. -/
def exchange (policy : RetryPolicy) (request : Request) (number : Nat) :
    Nat → Op Wire (Option Json)
  | 0 => Op.fail (.transport .unscripted)
  | attempts + 1 => do
    let delivery ← attempt request
    match policy.pauseAfter? number delivery with
    | none => receive delivery
    | some delay => do
      Op.pause delay
      exchange policy request (RetryPolicy.nextAttempt number) attempts

def send (policy : RetryPolicy) (request : Request) : Op Wire (Option Json) := fun w =>
  exchange policy request 1 (policy.attemptLimit w.peer) w

end Provisioner.Http

import Provisioner.Http.Exchange
import Provisioner.Text.Blank

/-!
# Retries

Which answers are worth another attempt, and how long to wait before it. The delays grow by a
constant factor up to a bound; a server may name the delay itself, within the same bound.
-/

namespace Provisioner.Http

set_option autoImplicit false

/-- Delays in milliseconds. -/
structure RetryPolicy where
  maxRetries : Nat
  initialBackoff : Nat := 200
  maxBackoff : Nat := 30 * 1000
  multiplier : Float := 2.0
  retryStatuses : List Nat := [429, 500, 502, 503, 504]

namespace RetryPolicy

/-- A power by repeated squaring, `fuel` being at least the number of binary digits. -/
def squaringPower : Nat → Float → Float → Nat → Float
  | 0, _, result, _ => result
  | fuel + 1, base, result, exponent =>
    let result := if exponent % 2 = 1 then result * base else result
    if exponent / 2 = 0 then result
    else squaringPower fuel (base * base) result (exponent / 2)

def integerPower (base : Float) (exponent : Int) : Float :=
  let magnitude := squaringPower 33 base 1.0 exponent.natAbs
  if exponent < 0 then 1.0 / magnitude else magnitude

/-- The smaller number; what is not a number does not count. -/
def smaller (a b : Float) : Float := if a.isNaN then b else if b < a then b else a

/-- The delay before a retry, the first being number 1. The exponent is a signed 32-bit number. -/
def backoff (policy : RetryPolicy) (retry : Nat) : Nat :=
  if retry = 0 then 0
  else
    let factor := integerPower policy.multiplier (Int.bmod (retry - 1 : Nat) UInt32.size)
    let delay := Float.ofNat policy.initialBackoff * factor
    (smaller delay (Float.ofNat policy.maxBackoff)).toUInt64.toNat

def shouldRetry (policy : RetryPolicy) (status : Nat) : Bool := policy.retryStatuses.contains status

def isVisible (c : Char) : Bool := c == '\t' || (0x20 ≤ c.toNat && c.toNat ≤ 0x7E)

/-- A delay in whole seconds: digits, perhaps after a plus sign, below `2 ^ 64`. -/
def wholeSeconds? (text : String) : Option Nat :=
  let chars := (Text.trim text).toList
  let digits :=
    match chars with
    | '+' :: rest => rest
    | other => other
  if digits.isEmpty || !digits.all Char.isDigit then none
  else
    let seconds := digits.foldl (fun n d => n * 10 + (d.toNat - 0x30)) 0
    if seconds < UInt64.size then some seconds else none

/-- The delay that a response asks for, in milliseconds. -/
def requestedDelay? (response : Response) : Option Nat := do
  let text ← response.header? "retry-after"
  if text.toList.all isVisible then
    let seconds ← wholeSeconds? text
    some (seconds * 1000)
  else none

/-- How long to wait before the given retry, or nothing if the delivery needs none. -/
def delay? (policy : RetryPolicy) (retry : Nat) : Delivery → Option Nat
  | .response response =>
    if policy.shouldRetry response.status then
      some (min ((requestedDelay? response).getD (policy.backoff retry)) policy.maxBackoff)
    else none
  | .fault fault => if fault.isTransient then some (policy.backoff retry) else none

/-- How long to wait after an attempt, or nothing if it was the last one. -/
def pauseAfter? (policy : RetryPolicy) (attempt : Nat) (delivery : Delivery) : Option Nat :=
  if attempt ≤ policy.maxRetries then policy.delay? attempt delivery else none

/-- Attempts are counted with 32 bits. -/
def nextAttempt (attempt : Nat) : Nat := (attempt + 1) % UInt32.size

/-- As many attempts as a request can take. With the largest budget the counter never exceeds it, so
that only an answer or a stop request ends the attempts: every prepared answer is good for one, and
the last one, if it stays, for as many as there are rounds of the counter before a clock of 64 bits
has run down. -/
def attemptLimit (policy : RetryPolicy) (wire : Wire) : Nat :=
  if policy.maxRetries + 1 < UInt32.size then policy.maxRetries + 1
  else Peer.pending wire + UInt32.size * UInt64.size

theorem attemptLimit_eq_succ (policy : RetryPolicy) (wire : Wire) :
    ∃ left, policy.attemptLimit wire = left + 1 := by
  unfold attemptLimit
  split
  · exact ⟨_, rfl⟩
  · exact ⟨Peer.pending wire + (UInt32.size * UInt64.size - 1), rfl⟩

end RetryPolicy

end Provisioner.Http

import Provisioner.Operation

/-!
# Waiting for a state

The platform accepts a change long before it has taken effect. A wait reads the object again and
again, a fixed interval apart and never past its deadline, until the object is in one of the target
states. The stop request is looked at before every read and ends every pause.
-/

namespace Provisioner

set_option autoImplicit false

/-- Both in milliseconds. -/
structure WaitOptions where
  timeout : Nat := 20 * 60 * 1000
  pollInterval : Nat := 10 * 1000
deriving DecidableEq, Repr

def WaitOptions.ofSeconds (timeout pollInterval : Nat) : WaitOptions :=
  ⟨timeout * 1000, pollInterval * 1000⟩

/-- One read of an object; an object that is gone has no remote form. -/
structure Observation (ρ : Type) where
  state : LifecycleState
  remote : Option ρ

def Observation.gone {ρ : Type} : Observation ρ := ⟨.deleted, none⟩

/-- A peer knows how many prepared answers it still holds. Only a wait without an interval between
its reads needs to know: its reads may take no time at all. -/
class Peer (σ : Type) where
  pending : σ → Nat

namespace Wait

variable {σ ρ : Type}

/-- A read whose object is missing observes that it is gone, if that is what is waited for. -/
def observe (read : Op σ (Observation ρ)) (targets : List LifecycleState) :
    Op σ (Observation ρ) := do
  match ← read.outcome with
  | .ok observation => pure observation
  | .error error =>
    if targets.contains .deleted && error.isNotFound then pure Observation.gone
    else Operation.fail error

/-- How long to pause after a read, or nothing if the time is over. -/
def nextPause? (options : WaitOptions) (elapsed : Nat) : Option Nat :=
  if options.timeout ≤ elapsed then none
  else some (min options.pollInterval (options.timeout - elapsed))

/-- At most `reads` reads, of a wait that began at `start`. -/
def loop (read : Op σ (Observation ρ)) (targets : List LifecycleState) (options : WaitOptions)
    (start : Nat) : Nat → Op σ (Observation ρ)
  | 0 => do
    Op.fail (.timeout none (.ofMilliseconds ((← Operation.now) - start)))
  | reads + 1 => do
    Op.checkpoint
    let observation ← observe read targets
    if targets.contains observation.state then pure observation
    else
      let elapsed := (← Operation.now) - start
      match nextPause? options elapsed with
      | none => Op.fail (.timeout (some observation.state) (.ofMilliseconds elapsed))
      | some duration => do
        Op.pause duration
        loop read targets options start reads

/-- More reads than a wait can make before its deadline. Every pause but the last one is as long as
the interval, or as the longest timer. -/
def readLimit [Peer σ] (options : WaitOptions) (peer : σ) : Nat :=
  options.timeout / max (min options.pollInterval longestTimer) 1 + 2 + Peer.pending peer

def awaitState [Peer σ] (read : Op σ (Observation ρ)) (targets : List LifecycleState)
    (options : WaitOptions) : Op σ (Observation ρ) := fun w =>
  loop read targets options w.now (readLimit options w.peer) w

end Wait

end Provisioner

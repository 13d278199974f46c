import Provisioner.Error
import Provisioner.Json.Basic

/-!
# Operations

An operation runs against a world: a clock in milliseconds, the time at which the host asks to
stop, the peer that answers calls, and the states logged so far. It is a function of that world, so
what it did can be read off the world it leaves behind. Time passes only while an operation waits,
and no single wait lasts longer than the longest timer.
-/

namespace Provisioner

set_option autoImplicit false

/-- A redacted state, logged with the step that produced it. -/
structure Snapshot where
  step : String
  state : Json

structure World (σ : Type) where
  now : Nat := 0
  stopAt : Option Nat := none
  peer : σ
  snapshots : List Snapshot := []

/-- Whether the host has asked to stop by now. -/
def World.isStopped {σ : Type} (w : World σ) : Bool :=
  match w.stopAt with
  | some stop => stop ≤ w.now
  | none => false

/-- Thirty years of 365 days in milliseconds. A timer set for longer ends then. -/
def longestTimer : Nat := 30 * 365 * 24 * 60 * 60 * 1000

/-- When a timer that is set now ends. -/
def World.timerEnd {σ : Type} (w : World σ) (duration : Nat) : Nat :=
  w.now + min duration longestTimer

theorem World.now_le_timerEnd {σ : Type} (w : World σ) (duration : Nat) :
    w.now ≤ w.timerEnd duration := Nat.le_add_right _ _

def Operation (σ ε α : Type) : Type := World σ → Except ε α × World σ

namespace Operation

variable {σ ε α β : Type}

def pure (value : α) : Operation σ ε α := fun w => (.ok value, w)

def fail (error : ε) : Operation σ ε α := fun w => (.error error, w)

def bind (first : Operation σ ε α) (next : α → Operation σ ε β) : Operation σ ε β := fun w =>
  match first w with
  | (.ok value, w) => next value w
  | (.error error, w) => (.error error, w)

instance : Monad (Operation σ ε) where
  pure := pure
  bind := bind

def ofExcept (result : Except ε α) : Operation σ ε α := fun w => (result, w)

def mapError {ε' : Type} (change : ε → ε') (op : Operation σ ε α) : Operation σ ε' α := fun w =>
  ((op w).1.mapError change, (op w).2)

/-- Runs to the end and hands on the outcome, whatever it is. -/
def outcome {ε' : Type} (op : Operation σ ε α) : Operation σ ε' (Except ε α) := fun w =>
  (.ok (op w).1, (op w).2)

/-- A step of the peer, which takes no time. -/
def onPeer (step : σ → α × σ) : Operation σ ε α := fun w =>
  let (value, peer) := step w.peer
  (.ok value, { w with peer })

def now : Operation σ ε Nat := fun w => (.ok w.now, w)

/-- Lets time pass, stop request or not. -/
def elapse (duration : Nat) : Operation σ ε Unit := fun w =>
  (.ok (), { w with now := w.timerEnd duration })

def record (step : String) (state : Json) : Operation σ ε Unit := fun w =>
  (.ok (), { w with snapshots := w.snapshots ++ [⟨step, state⟩] })

/-- Fails if the host has asked to stop. -/
def checkpoint (stopped : ε) : Operation σ ε Unit := fun w =>
  if w.isStopped then (.error stopped, w) else (.ok (), w)

/-- Waits, but fails at once when the host asks to stop before the end. -/
def pause (stopped : ε) (duration : Nat) : Operation σ ε Unit := fun w =>
  match w.stopAt with
  | some stop =>
    if stop < w.timerEnd duration then (.error stopped, { w with now := max w.now stop })
    else (.ok (), { w with now := w.timerEnd duration })
  | none => (.ok (), { w with now := w.timerEnd duration })

theorem run_bind (first : Operation σ ε α) (next : α → Operation σ ε β) (w : World σ) :
    (first >>= next) w =
      match first w with
      | (.ok value, w) => next value w
      | (.error error, w) => (.error error, w) := rfl

@[simp] theorem run_pure (value : α) (w : World σ) :
    (Pure.pure value : Operation σ ε α) w = (.ok value, w) := rfl

theorem now_le_now_pause (stopped : ε) (duration : Nat) (w : World σ) :
    w.now ≤ (pause stopped duration w).2.now := by
  unfold pause
  split
  · split
    · exact Nat.le_max_left _ _
    · exact w.now_le_timerEnd duration
  · exact w.now_le_timerEnd duration

end Operation

/-- Operations of the provider fail with an error that may name an object. -/
abbrev Op (σ α : Type) := Operation σ Error α

namespace Op

variable {σ α : Type}

def fail (failure : Failure) : Op σ α := Operation.fail failure

def checkpoint : Op σ Unit := Operation.checkpoint ({ failure := .cancelled } : Error)

def pause (duration : Nat) : Op σ Unit :=
  Operation.pause ({ failure := .cancelled } : Error) duration

/-- Names the object in every error that does not name one yet. -/
def about (resourceType : String) (id : Option String) (op : Op σ α) : Op σ α :=
  op.mapError fun error => error.about resourceType id

end Op

end Provisioner

import Provisioner.ImportKey
import Provisioner.PhaseTable
import Provisioner.Session

/-!
# Kinds of objects

A kind has a typed state, which is what the host keeps, and a typed remote form, which is what a
read of the object returns; mapping one to the other is pure. Its four calls run against a peer.
Whether an object is settled is judged against the state that is expected of it.
-/

namespace Provisioner

set_option autoImplicit false

/-- A change of an object that is followed by a wait. -/
inductive Transition where
  | create
  | update
  | delete
deriving DecidableEq, Repr

def unknownReason : String := "no reason reported by the server"

structure Kind (σ : Type) where
  name : String
  State : Type
  Remote : Type
  schema : Schema
  /-- The names of the segments of an import key. -/
  keyNames : List String
  /-- The names that may change without replacing the object. -/
  updatable : List String
  decode : Decoder State
  encode : State → Json
  /-- The identifier in a state, empty before the object exists. -/
  id : State → String
  /-- Just enough of a state to read the object that a key names. -/
  ofKey : ImportKey → State
  classify : Remote → State → Except Error LifecycleState
  failureReason : Remote → String := fun _ => unknownReason
  waitOptions : Transition → WaitOptions := fun _ => {}
  credentials : Context → State → Option Credentials := fun context _ => context.cloudCredentials
  /-- Checks of a new object beyond its schema. -/
  validateCreate : State → Except Error Unit := fun _ => .ok ()
  /-- Checks of a change, from a prior state to a desired one. -/
  validateUpdate : State → State → Except Error Unit := fun _ _ => .ok ()
  /-- The state of a remote object; what the server does not tell is taken from a prior state. -/
  toState : Remote → State → State
  create : Session → State → Op σ Remote
  read : Session → State → Op σ Remote
  /-- Applies the changed names, from a prior state to a desired one. -/
  update : Session → State → State → List String → Op σ Unit
  delete : Session → State → Op σ Unit

end Provisioner

import Provisioner.Diagnostic
import Provisioner.Duration
import Provisioner.LifecycleState

/-!
# Errors

A failure is a cause. An error is a failure together with the object it happened to, if that is
known by now. The first object named stays: naming another one later changes nothing, so a message
never names its object twice.
-/

namespace Provisioner

set_option autoImplicit false

/-- Why a request could not be delivered or its answer not be read. -/
inductive TransportFault where
  | connect
  | timeout
  | request
  | redirect
  | decode
  | unscripted
  | other (name : String)
deriving DecidableEq, Repr

namespace TransportFault

def name : TransportFault → String
  | .connect => "connect"
  | .timeout => "timeout"
  | .request => "request"
  | .redirect => "redirect"
  | .decode => "decode"
  | .unscripted => "unscripted"
  | .other name => name

/-- Whether sending the same request again may help. -/
def isTransient : TransportFault → Bool
  | .connect | .timeout | .request => true
  | _ => false

end TransportFault

inductive Failure where
  /-- The configuration is malformed or contradictory. -/
  | validation (message : String)
  /-- The remote object does not exist. -/
  | notFound (message : String)
  /-- The platform rejected the request, or kept failing until no retry was left. -/
  | api (status : Nat) (message : String)
  /-- The request could not be delivered. -/
  | transport (fault : TransportFault)
  /-- The remote object reached a failed state. -/
  | remoteFailed (message : String)
  /-- The remote object did not reach a target state in time. -/
  | timeout (lastState : Option LifecycleState) (elapsed : Duration)
  | cancelled
  /-- The platform reported a status without a known meaning. -/
  | unrecognizedStatus (message : String)
  | configuration (message : String)
  | unknownResource (message : String)
  /-- A body is not JSON, or not of the expected shape. -/
  | serialization (message : String)
deriving DecidableEq, Repr

namespace Failure

/-- The name of the cause, without what it carries. -/
def kind : Failure → String
  | .validation _ => "Validation"
  | .notFound _ => "NotFound"
  | .api _ _ => "Api"
  | .transport _ => "Transport"
  | .remoteFailed _ => "RemoteFailed"
  | .timeout _ _ => "Timeout"
  | .cancelled => "Cancelled"
  | .unrecognizedStatus _ => "UnrecognizedStatus"
  | .configuration _ => "Configuration"
  | .unknownResource _ => "UnknownResource"
  | .serialization _ => "Serialization"

def message : Failure → String
  | .validation text => "Validation error: " ++ text
  | .notFound text => "Resource not found: " ++ text
  | .api status text => "API error (HTTP " ++ toString status ++ "): " ++ text
  | .transport fault => "Transport error: " ++ fault.name ++ " error"
  | .remoteFailed text => "Remote operation failed: " ++ text
  | .timeout lastState elapsed =>
    "Timed out after " ++ elapsed.text ++ " waiting for a stable state (last observed: "
      ++ (lastState.map LifecycleState.name).getD "none" ++ ")"
  | .cancelled => "Operation cancelled"
  | .unrecognizedStatus text => "Unrecognized remote status: " ++ text
  | .configuration text => "Configuration error: " ++ text
  | .unknownResource text => "Unknown resource type: " ++ text
  | .serialization text => "Serialization error: " ++ text

def isNotFound : Failure → Bool
  | .notFound _ => true
  | _ => false

def isValidation : Failure → Bool
  | .validation _ => true
  | _ => false

/-- What the host should know beyond the message. -/
def advice : Failure → Option String
  | .timeout _ _ =>
    some "The remote object may still reach a stable state; re-running the operation is safe"
  | .validation _ => some "No request was sent to the API"
  | _ => none

end Failure

/-- The object an error is about. -/
structure Subject where
  resourceType : String
  id : String
deriving DecidableEq, Repr

structure Error where
  failure : Failure
  subject : Option Subject := none
deriving DecidableEq, Repr

/-- Stands for the identifier of an object that the server has not named yet. -/
def unassignedId : String := "not yet assigned"

namespace Error

instance : Coe Failure Error := ⟨fun failure => { failure }⟩

/-- Names the object, unless one is named already. -/
def about (error : Error) (resourceType : String) (id : Option String) : Error :=
  match error.subject with
  | some _ => error
  | none => { error with subject := some ⟨resourceType, id.getD unassignedId⟩ }

def message (error : Error) : String :=
  match error.subject with
  | none => error.failure.message
  | some subject =>
    subject.resourceType ++ " \"" ++ subject.id ++ "\": " ++ error.failure.message

def isNotFound (error : Error) : Bool := error.failure.isNotFound

def diagnostic (error : Error) : Diagnostic :=
  { Diagnostic.error error.message with detail := error.failure.advice }

@[simp] theorem failure_about (error : Error) (resourceType : String) (id : Option String) :
    (error.about resourceType id).failure = error.failure := by
  rcases error with ⟨failure, subject⟩
  cases subject <;> rfl

end Error

/-- Fails with a cause, no object named yet. -/
def refuse {α : Type} (failure : Failure) : Except Error α := .error failure

end Provisioner

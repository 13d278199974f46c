/-!
# Lifecycle states

Every kind of remote object reports progress in words of its own. They are all reduced to six
states, and only these decide whether a wait goes on.
-/

namespace Provisioner

set_option autoImplicit false

inductive LifecycleState where
  | provisioning
  | stable
  | updating
  | deprovisioning
  | deleted
  | failed
deriving DecidableEq, Repr

namespace LifecycleState

def name : LifecycleState → String
  | .provisioning => "provisioning"
  | .stable => "stable"
  | .updating => "updating"
  | .deprovisioning => "deprovisioning"
  | .deleted => "deleted"
  | .failed => "failed"

def all : List LifecycleState :=
  [.provisioning, .stable, .updating, .deprovisioning, .deleted, .failed]

def ofName? (text : String) : Option LifecycleState := all.find? fun state => state.name == text

/-- Whether the object is still moving between states. -/
def isTransitional : LifecycleState → Bool
  | .provisioning | .updating | .deprovisioning => true
  | .stable | .deleted | .failed => false

end LifecycleState

end Provisioner

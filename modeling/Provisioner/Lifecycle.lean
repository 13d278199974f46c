import Provisioner.Kind
import Provisioner.Plan
import Provisioner.Redaction
import Provisioner.Validation

/-!
# Complete transitions

Sequences the calls of a kind:

* create: check, create call, wait until stable or failed, read;
* read: read, and a missing object is gone;
* update: check, guard against replacement, update calls, wait until stable or failed, read;
* delete: delete call, wait until gone;
* import: parse the key, read as a new object.

A transition returns the full observed state or an error that names the object, never a part of a
state.
-/

namespace Provisioner

set_option autoImplicit false

structure Lifecycle (σ : Type) where
  kind : Kind σ
  /-- Timing that takes the place of the kind's own. -/
  waits : Transition → Option WaitOptions := fun _ => none

namespace Lifecycle

variable {σ : Type}

def withWait (l : Lifecycle σ) (transition : Transition) (options : WaitOptions) : Lifecycle σ :=
  { l with waits := fun t => if t = transition then some options else l.waits t }

def withWaits (l : Lifecycle σ) (options : WaitOptions) : Lifecycle σ :=
  { l with waits := fun _ => some options }

def waitOptions (l : Lifecycle σ) (transition : Transition) : WaitOptions :=
  (l.waits transition).getD (l.kind.waitOptions transition)

def session (l : Lifecycle σ) (context : Context) (state : l.kind.State) : Session :=
  ⟨context, l.kind.credentials context state⟩

/-- Checks and decodes a configuration. -/
def decodeValid (l : Lifecycle σ) (config : Json) : Except Error l.kind.State := do
  l.kind.schema.ensureValid config
  l.kind.decode.fromState config

/-- What is wrong with a configuration, before anything is sent. -/
def validate (l : Lifecycle σ) (config : Json) : List Diagnostic :=
  let diagnostics := l.kind.schema.validate config
  if diagnostics.isEmpty then
    match (l.kind.decode.fromState config).bind l.kind.validateCreate with
    | .ok _ => []
    | .error error => [error.diagnostic]
  else diagnostics

def log (l : Lifecycle σ) (step : String) (state : l.kind.State) : Op σ Unit :=
  Operation.record step (l.kind.schema.redact (l.kind.encode state))

/-- One read of a wait, judged against what is expected. -/
def poll (l : Lifecycle σ) (session : Session) (expected : l.kind.State) :
    Op σ (Observation l.kind.Remote) := do
  let remote ← l.kind.read session expected
  let state ← Operation.ofExcept (l.kind.classify remote expected)
  pure ⟨state, some remote⟩

/-- Why a failed object failed. -/
def failure (l : Lifecycle σ) (observation : Observation l.kind.Remote) : Failure :=
  .remoteFailed ((observation.remote.map l.kind.failureReason).getD unknownReason)

/-- Waits until an object has settled, and fails if it settled on failure. -/
def settle [Peer σ] (l : Lifecycle σ) (session : Session) (expected : l.kind.State)
    (transition : Transition) : Op σ Unit := do
  let observation ← Wait.awaitState (l.poll session expected) [.stable, .failed]
    (l.waitOptions transition)
  if observation.state = .failed then Op.fail (l.failure observation)
  else pure ()

/-- Reads an object once more and logs and returns its state. -/
def finish (l : Lifecycle σ) (session : Session) (expected : l.kind.State) (step : String) :
    Op σ Json := do
  let remote ← l.kind.read session expected
  let observed := l.kind.toState remote expected
  l.log step observed
  pure (l.kind.encode observed)

/-- Everything up to the accepted create call: the desired state, and the new object's. -/
def submit (l : Lifecycle σ) (context : Context) (config : Json) :
    Op σ (l.kind.State × l.kind.State) := do
  let desired ← Operation.ofExcept (l.decodeValid config)
  Operation.ofExcept (l.kind.validateCreate desired)
  l.log "Creating" desired
  let created ← l.kind.create (l.session context desired) desired
  pure (desired, l.kind.toState created desired)

/-- Creates an object and waits until it can be used. -/
def create [Peer σ] (l : Lifecycle σ) (context : Context) (config : Json) : Op σ Json := do
  let (desired, accepted) ← Op.about l.kind.name none (l.submit context config)
  let session := l.session context desired
  Op.about l.kind.name (some (l.kind.id accepted)) do
    l.settle session accepted .create
    l.finish session accepted "Created"

/-- Reads an object. A missing or deleted one is gone, unless it is new to the host. -/
def refresh (l : Lifecycle σ) (context : Context) (known : l.kind.State) (isNew : Bool) :
    Op σ (Option Json) := do
  match ← (l.kind.read (l.session context known) known).outcome with
  | .error error => if error.isNotFound && !isNew then pure none else Operation.fail error
  | .ok remote => do
    let state ← Operation.ofExcept (l.kind.classify remote known)
    if state = .deleted ∧ !isNew then pure none
    else do
      let observed := l.kind.toState remote known
      l.log "Read" observed
      pure (some (l.kind.encode observed))

/-- The current state of an object, or nothing if it no longer exists. -/
def read (l : Lifecycle σ) (context : Context) (state : Json) : Op σ (Option Json) := do
  let known ← Op.about l.kind.name none (Operation.ofExcept (l.kind.decode.fromState state))
  Op.about l.kind.name (some (l.kind.id known)) (l.refresh context known false)

/-- Refuses a change that is not possible in place. -/
def guardUpdate (l : Lifecycle σ) : List String → Except Error Unit
  | [] => .ok ()
  | name :: rest =>
    if l.kind.schema.isForceNew name then
      refuse (.validation ("'" ++ name
        ++ "' cannot be changed in place; changing it requires replacing the resource"))
    else if !l.kind.updatable.contains name then
      refuse (.validation ("'" ++ name ++ "' is not updatable (updatable attributes: "
        ++ ", ".intercalate l.kind.updatable ++ "); the resource must be replaced"))
    else l.guardUpdate rest

/-- The desired state of an update and the names it changes. -/
def prepareUpdate (l : Lifecycle σ) (priorState config : Json) (prior : l.kind.State) :
    Except Error (l.kind.State × List String) := do
  l.kind.schema.ensureValid config
  let merged := l.kind.schema.mergeComputed priorState config
  let desired ← l.kind.decode.fromState merged
  let changed := l.kind.schema.changedNames priorState merged
  l.guardUpdate changed
  l.kind.validateUpdate prior desired
  .ok (desired, changed)

/-- Changes an object in place and waits until it has settled. -/
def update [Peer σ] (l : Lifecycle σ) (context : Context) (priorState config : Json) :
    Op σ Json := do
  let prior ← Op.about l.kind.name none
    (Operation.ofExcept (l.kind.decode.fromState priorState))
  Op.about l.kind.name (some (l.kind.id prior)) do
    let (desired, changed) ← Operation.ofExcept (l.prepareUpdate priorState config prior)
    let session := l.session context desired
    if changed.isEmpty then pure ()
    else do
      l.kind.update session prior desired changed
      l.settle session desired .update
    l.finish session desired "Updated"

/-- Deletes an object and waits until it is gone. -/
def delete [Peer σ] (l : Lifecycle σ) (context : Context) (state : Json) : Op σ Unit := do
  let known ← Op.about l.kind.name none (Operation.ofExcept (l.kind.decode.fromState state))
  Op.about l.kind.name (some (l.kind.id known)) do
    let session := l.session context known
    l.kind.delete session known
    let _ ← Wait.awaitState (l.poll session known) [.deleted] (l.waitOptions .delete)

/-- The state of an existing object that a key names. -/
def importKey (l : Lifecycle σ) (context : Context) (raw : String) : Op σ Json :=
  Op.about l.kind.name (some raw) do
    let key ← Operation.ofExcept (ImportKey.parse raw l.kind.keyNames)
    match ← l.refresh context (l.kind.ofKey key) true with
    | some state => pure state
    | none => Op.fail (.notFound raw)

end Lifecycle

end Provisioner

import Provisioner.Provider

/-!
# Acceptance tests

Drives a provider through complete operations as a host would, and states what a test expects of
plans and diagnostics. An expectation that is not met says what it found instead.
-/

namespace Provisioner.Acceptance

set_option autoImplicit false

open Http (Wire)

inductive Failure where
  /-- The provider reported errors. -/
  | diagnostics (errors : List Diagnostic)
  | provider (error : Error)
  /-- A change in place was expected, but these names need a replacement. -/
  | requiresReplace (names : List String)
  /-- What was just written could not be read back. -/
  | vanished (type : String)
  | stillExists (type : String) (state : Json)

namespace Failure

/-- The name of the failure; an error of the provider goes by its own. -/
def name : Failure → String
  | .diagnostics _ => "Diagnostics"
  | .provider error => error.failure.kind
  | .requiresReplace _ => "RequiresReplace"
  | .vanished _ => "Vanished"
  | .stillExists _ _ => "StillExists"

def line (d : Diagnostic) : String :=
  "\n  [" ++ d.severity.label ++ "] " ++ d.summary
    ++ ((d.detail.map fun detail => ": " ++ detail).getD "")
    ++ ((d.path.map fun path => " (at " ++ path ++ ")").getD "")

def message : Failure → String
  | .diagnostics errors =>
    "Operation failed with " ++ toString errors.length ++ " diagnostic(s):"
      ++ String.join (errors.map line)
  | .provider error => "Provider error: " ++ error.message
  | .requiresReplace names =>
    "Plan requires replacement because of: " ++ ", ".intercalate names
  | .vanished type => type ++ " disappeared right after it was written"
  | .stillExists type state => type ++ " still exists after delete: " ++ state.compact

end Failure

/-- Warnings pass. -/
def passing (diagnostics : List Diagnostic) : Except Failure Unit :=
  let errors := diagnostics.filter Diagnostic.isError
  if errors.isEmpty then .ok () else .error (.diagnostics errors)

def validateConfiguration (p : Provider) (config : Json) : Except Failure Unit :=
  passing (p.validateConfiguration config)

def configure (p : Provider) (config : Json) : Except Failure Unit × Provider :=
  let (diagnostics, configured) := p.configure config
  (passing diagnostics, configured)

def validate (p : Provider) (type : String) (config : Json) : Except Failure Unit :=
  ((p.validate type config).mapError .provider).bind passing

/-- A step of the provider within a scenario. -/
def step {α : Type} (op : Op Wire α) : Operation Wire Failure α := op.mapError .provider

def refresh (p : Provider) (type : String) (state : Json) : Operation Wire Failure Json := do
  match ← step (p.read type state) with
  | some state => pure state
  | none => Operation.fail (.vanished type)

/-- Plans and creates an object and reads it back. -/
def apply (p : Provider) (type : String) (config : Json) : Operation Wire Failure Json := do
  let plan ← step (Operation.ofExcept (p.plan type none config))
  let created ← step (p.create type plan.plannedState)
  refresh p type created

/-- Plans and makes a change in place and reads the object back. A plan that needs a replacement
fails before anything is sent. -/
def applyUpdate (p : Provider) (type : String) (prior config : Json) :
    Operation Wire Failure Json := do
  let plan ← step (Operation.ofExcept (p.plan type (some prior) config))
  if plan.requiresReplace then
    Operation.fail
      (.requiresReplace ((plan.changes.filter Change.requiresReplace).map Change.path))
  else do
    let updated ← step (p.update type prior plan.plannedState)
    refresh p type updated

/-- Passes if the object is gone. Any error but a missing object is a failure, since it does not
tell whether the object is gone. -/
def verifyDestroyed (p : Provider) (type : String) (state : Json) :
    Operation Wire Failure Unit := do
  match ← (p.read type state).outcome with
  | .ok none => pure ()
  | .ok (some state) => Operation.fail (.stillExists type state)
  | .error error => if error.isNotFound then pure () else Operation.fail (.provider error)

def destroy (p : Provider) (type : String) (state : Json) : Operation Wire Failure Unit := do
  step (p.delete type state)
  verifyDestroyed p type state

/-- What is wrong where an expectation is not met. -/
abbrev Expectation := Except String Unit

def changedPaths (plan : Plan) : List String := plan.changes.map Change.path

def expectNoChanges (plan : Plan) : Expectation :=
  if plan.changes.isEmpty then .ok ()
  else
    .error ("Expected no changes, but got " ++ toString plan.changes.length ++ " change(s): "
      ++ Text.quotedList (changedPaths plan))

def expectReplacement (plan : Plan) : Expectation :=
  if plan.requiresReplace then .ok ()
  else .error "Expected plan to require replacement, but it does not"

def expectChange (plan : Plan) (path : String) : Expectation :=
  if (changedPaths plan).contains path then .ok ()
  else
    .error ("Expected plan to change attribute '" ++ path ++ "'. Changed attributes: "
      ++ Text.quotedList (changedPaths plan))

/-- Whether a text occurs in another. -/
def occursIn (part : List Char) : List Char → Bool
  | [] => part.isEmpty
  | c :: rest => part.isPrefixOf (c :: rest) || occursIn part rest

/-- Expects the text in the summary of an error. -/
def expectError (diagnostics : List Diagnostic) (text : String) : Expectation :=
  let summaries := (diagnostics.filter Diagnostic.isError).map Diagnostic.summary
  if summaries.any fun summary => occursIn text.toList summary.toList then .ok ()
  else
    .error ("Expected an error containing '" ++ text ++ "'. Errors: " ++ Text.quotedList summaries)

end Provisioner.Acceptance

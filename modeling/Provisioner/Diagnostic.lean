import Provisioner.Json.Basic

/-!
# Diagnostics

A message for the host, with an optional detail and the path of the attribute it is about. Errors
stop an operation, warnings do not.
-/

namespace Provisioner

set_option autoImplicit false

inductive Severity where
  | error
  | warning
deriving DecidableEq, Repr

def Severity.name : Severity → String
  | .error => "error"
  | .warning => "warning"

/-- The severity as a label in a list of diagnostics. -/
def Severity.label : Severity → String
  | .error => "Error"
  | .warning => "Warning"

structure Diagnostic where
  severity : Severity
  summary : String
  detail : Option String := none
  path : Option String := none
deriving DecidableEq, Repr

namespace Diagnostic

def error (summary : String) : Diagnostic := { severity := .error, summary }

def warning (summary : String) : Diagnostic := { severity := .warning, summary }

def withDetail (d : Diagnostic) (detail : String) : Diagnostic := { d with detail := some detail }

def onAttribute (d : Diagnostic) (path : String) : Diagnostic := { d with path := some path }

def isError (d : Diagnostic) : Bool := d.severity == .error

/-- The summary, with the detail in parentheses. -/
def oneLine (d : Diagnostic) : String :=
  match d.detail with
  | some detail => d.summary ++ " (" ++ detail ++ ")"
  | none => d.summary

/-- Leaves out what the diagnostic does not have. -/
def encode (d : Diagnostic) : Json :=
  .obj ((d.path.map fun path => ("attribute", Json.str path)).toList
    ++ (d.detail.map fun detail => ("detail", Json.str detail)).toList
    ++ [("severity", .str d.severity.name), ("summary", .str d.summary)])

end Diagnostic

end Provisioner

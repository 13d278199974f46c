import Provisioner.Error

/-!
# Phase tables

What a remote status means. A table lists every status a kind of object is known to report; any
other text is an error, so that a status the table does not know is never taken for a stable one.
-/

namespace Provisioner

set_option autoImplicit false

structure PhaseTable where
  entries : List (String × LifecycleState)

namespace PhaseTable

def statuses (table : PhaseTable) : List String := table.entries.map Prod.fst

/-- The meaning of a status, compared letter by letter. -/
def classify (table : PhaseTable) (status : String) : Except Error LifecycleState :=
  match table.entries.lookup status with
  | some state => .ok state
  | none =>
    refuse (.unrecognizedStatus ("'" ++ status ++ "' (expected one of: "
      ++ ", ".intercalate table.statuses ++ ")"))

theorem classify_eq_ok_iff (table : PhaseTable) (status : String) (state : LifecycleState) :
    table.classify status = .ok state ↔ table.entries.lookup status = some state := by
  unfold classify
  cases table.entries.lookup status <;> simp [refuse]

end PhaseTable

end Provisioner

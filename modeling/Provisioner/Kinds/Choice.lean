import Provisioner.Error

/-!
# Closed choices

Some attributes admit only a few values.
-/

namespace Provisioner

set_option autoImplicit false

/-- Checks that a value is among the allowed ones. -/
def requireOneOf (path value : String) (allowed : List String) : Except Error Unit :=
  if allowed.contains value then .ok ()
  else
    refuse (.validation ("'" ++ path ++ "' must be one of " ++ ", ".intercalate allowed ++ ", got '"
      ++ value ++ "'"))

theorem requireOneOf_eq_ok_iff (path value : String) (allowed : List String) :
    requireOneOf path value allowed = .ok () ↔ value ∈ allowed := by
  unfold requireOneOf
  split <;> simp_all [refuse]

def cloudNames : List String := ["AWS", "AZURE", "GCP"]

end Provisioner

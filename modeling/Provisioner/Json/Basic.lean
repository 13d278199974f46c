import Provisioner.Decimal.Double
import Provisioner.Keyed

/-!
# JSON values

Configurations, states and bodies are JSON values. A number keeps its kind: the integer 1 and the
double 1.0 are different values, while the two double zeros are equal. An object is a list of
entries in key order.
-/

namespace Provisioner

set_option autoImplicit false

inductive Number where
  | integer (value : Int)
  | double (value : Double)
deriving DecidableEq

def Number.same : Number → Number → Bool
  | .integer a, .integer b => a == b
  | .double a, .double b => a.same b
  | _, _ => false

inductive Json where
  | null
  | bool (value : Bool)
  | num (value : Number)
  | str (value : String)
  | arr (items : List Json)
  | obj (entries : List (String × Json))

namespace Json

instance : Inhabited Json := ⟨.null⟩

def int (value : Int) : Json := .num (.integer value)

def int64 (value : Int64) : Json := .int value.toInt

/-- An object from entries in any order. -/
def object (entries : List (String × Json)) : Json := .obj (Keyed.ofList entries)

def strings (texts : List String) : Json := .arr (texts.map .str)

def option (value : Option Json) : Json := value.getD .null

def isNull : Json → Bool
  | .null => true
  | _ => false

/-- The entry of an object under a key. Other values have none. -/
def get? (value : Json) (key : String) : Option Json :=
  match value with
  | .obj entries => entries.lookup key
  | _ => none

def str? : Json → Option String
  | .str text => some text
  | _ => none

def arr? : Json → Option (List Json)
  | .arr items => some items
  | _ => none

def obj? : Json → Option (List (String × Json))
  | .obj entries => some entries
  | _ => none

mutual

/-- Equality of values. -/
def same : Json → Json → Bool
  | .null, .null => true
  | .bool a, .bool b => a == b
  | .num a, .num b => a.same b
  | .str a, .str b => a == b
  | .arr a, .arr b => sameItems a b
  | .obj a, .obj b => sameEntries a b
  | _, _ => false

def sameItems : List Json → List Json → Bool
  | [], [] => true
  | a :: as, b :: bs => a.same b && sameItems as bs
  | _, _ => false

def sameEntries : List (String × Json) → List (String × Json) → Bool
  | [], [] => true
  | (k, a) :: as, (l, b) :: bs => k == l && a.same b && sameEntries as bs
  | _, _ => false

end

mutual

/-- Removes every object entry whose value is null, at any depth. Null list items stay. -/
def dropNulls : Json → Json
  | .arr items => .arr (dropNullsItems items)
  | .obj entries => .obj (dropNullsEntries entries)
  | value => value

def dropNullsItems : List Json → List Json
  | [] => []
  | item :: rest => item.dropNulls :: dropNullsItems rest

def dropNullsEntries : List (String × Json) → List (String × Json)
  | [] => []
  | (key, value) :: rest =>
    if value.isNull then dropNullsEntries rest
    else (key, value.dropNulls) :: dropNullsEntries rest

end

mutual

/-- Every object in the value has its keys in strictly increasing order. -/
def WellFormed : Json → Prop
  | .arr items => WellFormedItems items
  | .obj entries => Keyed.Sorted entries ∧ WellFormedEntries entries
  | _ => True

def WellFormedItems : List Json → Prop
  | [] => True
  | item :: rest => item.WellFormed ∧ WellFormedItems rest

def WellFormedEntries : List (String × Json) → Prop
  | [] => True
  | (_, value) :: rest => value.WellFormed ∧ WellFormedEntries rest

end

end Json

end Provisioner

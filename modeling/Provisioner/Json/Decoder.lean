import Provisioner.Error
import Provisioner.Json.Basic
import Provisioner.Settings
import Provisioner.Text.Quoted
import Provisioner.Decimal.Notation

/-!
# Decoding JSON values

Turns a JSON value into a typed one or says why it is not of that shape. A record is an object, or
a list of its fields in the order of their declaration. Of several faults in an object, a field of
the wrong shape comes before a missing one; among the former the smallest key, among the latter the
first declared one counts. Entries without a field are ignored.
-/

namespace Provisioner

set_option autoImplicit false

/-- What a decoder expected to find. -/
inductive Shape where
  | text
  | integer64
  | count32
  | list
  | map
  | record (name : String)
deriving DecidableEq, Repr

def Shape.name : Shape → String
  | .text => "a string"
  | .integer64 => "i64"
  | .count32 => "u32"
  | .list => "a sequence"
  | .map => "a map"
  | .record name => "struct " ++ name

/-- A value as a message shows it: scalars with their value, the others by their sort. -/
def Json.found : Json → String
  | .null => "null"
  | .bool true => "boolean `true`"
  | .bool false => "boolean `false`"
  | .num (.integer value) => "integer `" ++ toString value ++ "`"
  | .num (.double value) => "floating point `" ++ value.text ++ "`"
  | .str text => "string " ++ Text.quoted text
  | .arr _ => "sequence"
  | .obj _ => "map"

inductive Mismatch where
  | shape (found : Json) (wanted : Shape)
  | range (value : Int) (wanted : Shape)
  | missing (name : String)
  /-- A record given as a list ends before the field at a position. -/
  | short (position : Nat) (record : String) (fields : Nat)
  /-- A record given as a list has items left over. -/
  | surplus (given : Nat)

def Mismatch.message : Mismatch → String
  | .shape found wanted => "invalid type: " ++ found.found ++ ", expected " ++ wanted.name
  | .range value wanted =>
    "invalid value: integer `" ++ toString value ++ "`, expected " ++ wanted.name
  | .missing name => "missing field `" ++ name ++ "`"
  | .short position record fields =>
    "invalid length " ++ toString position ++ ", expected struct " ++ record ++ " with "
      ++ toString fields ++ (if fields = 1 then " element" else " elements")
  | .surplus given =>
    "invalid length " ++ toString given ++ ", expected fewer elements in array"

abbrev Decoder (α : Type) := Json → Except Mismatch α

/-- Why one field of a record did not decode. -/
inductive FieldFault where
  | bad (key : String) (fault : Mismatch)
  | missing (name : String)
  | short (position : Nat)

/-- The fault to report of two fields of an object, declared in this order. -/
def FieldFault.first : FieldFault → FieldFault → FieldFault
  | .bad key fault, .bad other later => if other < key then .bad other later else .bad key fault
  | .bad key fault, _ => .bad key fault
  | _, .bad key fault => .bad key fault
  | fault, _ => fault

/-- How some of a record's fields are read: from the entries of an object, or from list items, of
which the first has the given position. -/
structure Fields (α : Type) where
  count : Nat
  ofEntries : List (String × Json) → Except FieldFault α
  ofItems : Nat → List Json → Except FieldFault α

namespace Fields

def pure {α : Type} (value : α) : Fields α := ⟨0, fun _ => .ok value, fun _ _ => .ok value⟩

def both {α β γ : Type} (combine : α → β → γ) (a : Fields α) (b : Fields β) : Fields γ where
  count := a.count + b.count
  ofEntries entries :=
    match a.ofEntries entries, b.ofEntries entries with
    | .ok x, .ok y => .ok (combine x y)
    | .error fault, .ok _ => .error fault
    | .ok _, .error fault => .error fault
    | .error fault, .error later => .error (fault.first later)
  ofItems position items :=
    match a.ofItems position items with
    | .error fault => .error fault
    | .ok x =>
      match b.ofItems (position + a.count) (items.drop a.count) with
      | .error fault => .error fault
      | .ok y => .ok (combine x y)

instance : Pure Fields := ⟨pure⟩

instance : Functor Fields where
  map f a := both (fun g x => g x) (pure f) a

instance : Seq Fields where
  seq f a := both (fun g x => g x) f (a ())

/-- One field; `absent` stands in for it where the record does not have it. -/
def single {α : Type} (name : String) (absent : Option α) (decode : Decoder α) : Fields α where
  count := 1
  ofEntries entries :=
    match entries.lookup name, absent with
    | some value, _ => (decode value).mapError (.bad name)
    | none, some value => .ok value
    | none, none => .error (.missing name)
  ofItems position items :=
    match items, absent with
    | value :: _, _ => (decode value).mapError (.bad name)
    | [], some value => .ok value
    | [], none => .error (.short position)

def required {α : Type} (name : String) (decode : Decoder α) : Fields α := single name none decode

def defaulted {α : Type} (name : String) (absent : α) (decode : Decoder α) : Fields α :=
  single name (some absent) decode

/-- A field that is null or missing where it has no value. -/
def optional {α : Type} (name : String) (decode : Decoder α) : Fields (Option α) :=
  defaulted name none fun value => if value.isNull then .ok none else (decode value).map some

end Fields

namespace Decoder

def text : Decoder String
  | .str text => .ok text
  | other => .error (.shape other .text)

def integerIn (low high : Int) (wanted : Shape) : Decoder Int
  | .num (.integer value) =>
    if low ≤ value ∧ value ≤ high then .ok value else .error (.range value wanted)
  | other => .error (.shape other wanted)

/-- A signed integer of 64 bits. A double is refused even if it is whole. -/
def integer64 : Decoder Int64 := fun value =>
  (integerIn Int64.minValue.toInt Int64.maxValue.toInt .integer64 value).map Int64.ofInt

/-- An unsigned integer of 32 bits. -/
def count32 : Decoder Nat := fun value =>
  (integerIn 0 (UInt32.size - 1) .count32 value).map Int.toNat

def items {α : Type} (decode : Decoder α) : List Json → Except Mismatch (List α)
  | [] => .ok []
  | item :: rest =>
    match decode item with
    | .error fault => .error fault
    | .ok head =>
      match items decode rest with
      | .error fault => .error fault
      | .ok tail => .ok (head :: tail)

def list {α : Type} (decode : Decoder α) : Decoder (List α)
  | .arr values => items decode values
  | other => .error (.shape other .list)

def textEntries : List (String × Json) → Except Mismatch (List (String × String))
  | [] => .ok []
  | (key, value) :: rest =>
    match text value with
    | .error fault => .error fault
    | .ok head =>
      match textEntries rest with
      | .error fault => .error fault
      | .ok tail => .ok ((key, head) :: tail)

/-- A map from names to texts. -/
def settings : Decoder Settings
  | .obj entries => (textEntries entries).map Settings.ofList
  | other => .error (.shape other .map)

/-- Null stands for the empty collection. -/
def nullAs {α : Type} (empty : α) (decode : Decoder α) : Decoder α := fun value =>
  if value.isNull then .ok empty else decode value

def blockList {α : Type} (decode : Decoder α) : Decoder (List α) := nullAs [] (list decode)

def recordFault (name : String) (count : Nat) : FieldFault → Mismatch
  | .bad _ fault => fault
  | .missing field => .missing field
  | .short position => .short position name count

def record {α : Type} (name : String) (fields : Fields α) : Decoder α
  | .obj entries => (fields.ofEntries entries).mapError (recordFault name fields.count)
  | .arr values =>
    match fields.ofItems 0 values with
    | .error fault => .error (recordFault name fields.count fault)
    | .ok result =>
      if fields.count < values.length then .error (.surplus values.length) else .ok result
  | other => .error (.shape other (.record name))

/-- Decodes a configuration or a state. Null entries are dropped first, so that they count as
absent. -/
def fromState {α : Type} (decode : Decoder α) (value : Json) : Except Error α :=
  match decode value.dropNulls with
  | .ok result => .ok result
  | .error fault =>
    refuse (.validation ("configuration does not match the schema: " ++ fault.message))

/-- Decodes the body of an answer. -/
def fromAnswer {α : Type} (decode : Decoder α) (value : Json) : Except Error α :=
  match decode value with
  | .ok result => .ok result
  | .error fault => refuse (.serialization fault.message)

end Decoder

end Provisioner

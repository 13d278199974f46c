import Provisioner.Json.Basic
import Provisioner.Schema.Basic

/-!
# Schemas as JSON

The form in which a host receives a schema, and reads one. Empty maps, empty groups and absent
descriptions are left out when a schema is written and may be missing when it is read; so may flags
with a usual value.
-/

namespace Provisioner

set_option autoImplicit false

namespace AttributeType

def encode : AttributeType → Json
  | .string => .str "string"
  | .int64 => .str "int64"
  | .bool => .str "bool"
  | .list element => .obj [("list", element.encode)]
  | .set element => .obj [("set", element.encode)]
  | .map element => .obj [("map", element.encode)]

def decode? : Json → Option AttributeType
  | .str "string" => some .string
  | .str "int64" => some .int64
  | .str "bool" => some .bool
  | .obj [("list", element)] => (decode? element).map .list
  | .obj [("set", element)] => (decode? element).map .set
  | .obj [("map", element)] => (decode? element).map .map
  | _ => none

end AttributeType

def encodeDescription (description : Option String) : List (String × Json) :=
  (description.map fun text => ("description", Json.str text)).toList

def encodeUnlessEmpty (key : String) (entries : List (String × Json)) : List (String × Json) :=
  if entries.isEmpty then [] else [(key, .obj entries)]

def flagIn (value : Json) (key : String) : Bool :=
  match value.get? key with
  | some (.bool flag) => flag
  | _ => false

def naturalIn (value : Json) (key : String) : Nat :=
  match value.get? key with
  | some (.num (.integer n)) => n.toNat
  | _ => 0

def descriptionIn (value : Json) : Option String := (value.get? "description").bind Json.str?

namespace Attribute

def encode (a : Attribute) : Json :=
  .obj ([("computed", .bool a.flags.computed)] ++ encodeDescription a.description
    ++ [("force_new", .bool a.forceNew), ("optional", .bool a.flags.optional),
      ("required", .bool a.flags.required), ("sensitive", .bool a.flags.sensitive),
      ("type", a.type.encode)])

def decode? (value : Json) : Option Attribute := do
  let type ← AttributeType.decode? (← value.get? "type")
  some {
    type
    flags := {
      required := flagIn value "required"
      optional := flagIn value "optional"
      computed := flagIn value "computed"
      sensitive := flagIn value "sensitive" }
    description := descriptionIn value
    forceNew := flagIn value "force_new" }

end Attribute

namespace Block

def encodeAttributes (attributes : List (String × Attribute)) : List (String × Json) :=
  encodeUnlessEmpty "attributes" (attributes.map fun entry => (entry.1, entry.2.encode))

def encodeGroups (groups : List (List String)) : List (String × Json) :=
  if groups.isEmpty then [] else [("exactly_one_of", .arr (groups.map Json.strings))]

mutual

/-- The entries of a block; a nested block and a schema add their own to them. -/
def encodeEntries : Block → List (String × Json)
  | ⟨attributes, blocks, groups, description⟩ =>
    encodeAttributes attributes ++ encodeUnlessEmpty "blocks" (encodeNested blocks)
      ++ encodeDescription description ++ encodeGroups groups

def encodeNested : List (String × Nesting × Block) → List (String × Json)
  | [] => []
  | (name, nesting, block) :: rest =>
    (name, Json.object (block.encodeEntries
      ++ [("min_items", .int nesting.minItems), ("max_items", .int nesting.maxItems),
        ("force_new", .bool nesting.forceNew), ("computed", .bool nesting.computed)]))
      :: encodeNested rest

end

def decodeAttributes : List (String × Json) → Option (List (String × Attribute))
  | [] => some []
  | (name, value) :: rest => do
    let head ← Attribute.decode? value
    let others ← decodeAttributes rest
    some ((name, head) :: others)

def entriesIn (value : Json) (key : String) : List (String × Json) :=
  ((value.get? key).bind Json.obj?).getD []

def groupsIn (value : Json) : List (List String) :=
  (((value.get? "exactly_one_of").bind Json.arr?).getD []).map fun group =>
    ((group.arr?).getD []).filterMap Json.str?

def nestingIn (value : Json) : Nesting where
  minItems := naturalIn value "min_items"
  maxItems := naturalIn value "max_items"
  forceNew := flagIn value "force_new"
  computed := flagIn value "computed"

/-- A block whose nested blocks lie at most `depth` deep. -/
def decode? (depth : Nat) (value : Json) : Option Block :=
  match depth with
  | 0 => none
  | depth + 1 => do
    let attributes ← decodeAttributes (entriesIn value "attributes")
    let blocks ← (entriesIn value "blocks").mapM fun entry => do
      let block ← decode? depth entry.2
      some (entry.1, nestingIn entry.2, block)
    some { attributes, blocks, exactlyOneOf := groupsIn value, description := descriptionIn value }

end Block

namespace Schema

def encode (schema : Schema) : Json :=
  Json.object (("version", .int schema.version) :: schema.block.encodeEntries)

/-- No text holds values nested more than 127 deep, so this depth is enough for every schema read
from one. -/
def decode? (value : Json) : Option Schema := do
  let block ← Block.decode? 128 value
  some { version := naturalIn value "version", block }

end Schema

end Provisioner

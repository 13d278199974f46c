import Provisioner.Error
import Provisioner.Schema.Basic

/-!
# Validation

Checks a configuration against a schema before any request is sent. Diagnostics come in a fixed
order: in each block its attributes, then its nested blocks, each in key order, then its groups. No
diagnostic shows a value, only the path of an attribute and the sort of value found there.
-/

namespace Provisioner

set_option autoImplicit false

/-- The path of a name inside a block. The root block has no path of its own. -/
def joinPath (base name : String) : String := if base.isEmpty then name else base ++ "." ++ name

def itemPath (base : String) (position : Nat) : String := base ++ "." ++ toString position

def Json.sort : Json → String
  | .null => "null"
  | .bool _ => "bool"
  | .num _ => "number"
  | .str _ => "string"
  | .arr _ => "array"
  | .obj _ => "object"

/-- Whether a number may be given where an integer is wanted. -/
def Number.isWhole : Number → Bool
  | .integer _ => true
  | .double value => value.isWhole

/-- Whether an entry counts as set in a group: it is there, not null and not an empty list. -/
def isSet (value : Option Json) : Bool :=
  match value with
  | none | some .null => false
  | some (.arr items) => !items.isEmpty
  | some _ => true

namespace AttributeType

def mismatch (path wanted : String) (found : Json) : Diagnostic :=
  ((Diagnostic.error ("Invalid type for attribute '" ++ path ++ "'")).withDetail
    ("expected " ++ wanted ++ ", got " ++ found.sort)).onAttribute path

/-- Lists and sets are written alike, and their items are not null. -/
def check : AttributeType → Json → String → List Diagnostic
  | .string, .str _, _ => []
  | .string, value, path => [mismatch path "string" value]
  | .int64, .num number, path =>
    if number.isWhole then [] else [mismatch path "int64" (.num number)]
  | .int64, value, path => [mismatch path "int64" value]
  | .bool, .bool _, _ => []
  | .bool, value, path => [mismatch path "bool" value]
  | .list element, .arr items, path =>
    items.zipIdx.flatMap fun item => element.check item.1 (itemPath path item.2)
  | .list _, value, path => [mismatch path "list" value]
  | .set element, .arr items, path =>
    items.zipIdx.flatMap fun item => element.check item.1 (itemPath path item.2)
  | .set _, value, path => [mismatch path "list" value]
  | .map element, .obj entries, path =>
    entries.flatMap fun entry => element.check entry.2 (path ++ "." ++ entry.1)
  | .map _, value, path => [mismatch path "map" value]

end AttributeType

/-- What only the server sets is not checked. -/
def Attribute.check (a : Attribute) (value : Option Json) (path : String) : List Diagnostic :=
  if a.flags.isComputedOnly then []
  else
    match value with
    | none | some .null =>
      if a.flags.required then
        [(Diagnostic.error ("Missing required attribute '" ++ path ++ "'")).onAttribute path]
      else []
    | some value => a.type.check value path

/-- Checks the number of items, a 32-bit count. A block that the server fills may be left out. -/
def Nesting.check (n : Nesting) (items : List Json) (path : String) : List Diagnostic :=
  let count := items.length % UInt32.size
  let tooFew :=
    if count < n.minItems ∧ ¬(count = 0 ∧ n.computed) then
      [(Diagnostic.error ("Block '" ++ path ++ "' requires at least " ++ toString n.minItems
        ++ " item(s), got " ++ toString count)).onAttribute path]
    else []
  let tooMany :=
    if 0 < n.maxItems ∧ n.maxItems < count then
      [(Diagnostic.error ("Block '" ++ path ++ "' allows at most " ++ toString n.maxItems
        ++ " item(s), got " ++ toString count)).onAttribute path]
    else []
  tooFew ++ tooMany

/-- The names of a group that are set. -/
def setMembers (group : List String) (entries : List (String × Json)) : List String :=
  group.filter fun name => isSet (entries.lookup name)

def checkGroup (entries : List (String × Json)) (path : String) (group : List String) :
    List Diagnostic :=
  let members := setMembers group entries
  if members.length = 1 then []
  else
    let names := ", ".intercalate (group.map fun name => "'" ++ joinPath path name ++ "'")
    let detail :=
      if members.isEmpty then "none is set" else " and ".intercalate members ++ " are set"
    [(Diagnostic.error ("Exactly one of " ++ names ++ " must be set")).withDetail detail]

/-- A block must be an object. At the root the diagnostic has no path. -/
def notAnObject (value : Json) (path : String) : Diagnostic :=
  let diagnostic := (Diagnostic.error "Expected object").withDetail ("got " ++ value.sort)
  if path.isEmpty then diagnostic else diagnostic.onAttribute path

def notAList (value : Json) (path : String) : Diagnostic :=
  ((Diagnostic.error ("Expected list for block '" ++ path ++ "'")).withDetail
    ("got " ++ value.sort)).onAttribute path

mutual

def Block.check : Block → Json → String → List Diagnostic
  | ⟨attributes, blocks, groups, _⟩, value, path =>
    match value with
    | .obj entries =>
      (attributes.flatMap fun a => a.2.check (entries.lookup a.1) (joinPath path a.1))
        ++ checkNested blocks entries path ++ groups.flatMap (checkGroup entries path)
    | .null => []
    | other => [notAnObject other path]

def checkNested :
    List (String × Nesting × Block) → List (String × Json) → String → List Diagnostic
  | [], _, _ => []
  | (name, nesting, block) :: rest, entries, path =>
    let here := joinPath path name
    (match entries.lookup name with
      | none | some .null => nesting.check [] here
      | some (.arr items) =>
        nesting.check items here
          ++ items.zipIdx.flatMap fun item => block.check item.1 (itemPath here item.2)
      | some other => [notAList other here])
      ++ checkNested rest entries path

end

namespace Schema

/-- An empty list means that the configuration is valid. -/
def validate (schema : Schema) (value : Json) : List Diagnostic := schema.block.check value ""

/-- The same check as an error that names every diagnostic. -/
def ensureValid (schema : Schema) (value : Json) : Except Error Unit :=
  let errors := (schema.validate value).filter Diagnostic.isError
  if errors.isEmpty then .ok ()
  else refuse (.validation ("; ".intercalate (errors.map Diagnostic.oneLine)))

end Schema

end Provisioner

import Provisioner.Keyed

/-!
# Schemas

What a configuration may hold. An attribute has a type and flags that say who sets it; a nested
block is a list of objects of one shape, bounded in length. A group of names in a block requires
that exactly one of them is set.

Attributes and blocks are listed in key order, which is the order diagnostics and plans follow.
-/

namespace Provisioner

set_option autoImplicit false

inductive AttributeType where
  | string
  | int64
  | bool
  | list (element : AttributeType)
  | set (element : AttributeType)
  | map (element : AttributeType)
deriving DecidableEq, Repr

def AttributeType.isSet : AttributeType → Bool
  | .set _ => true
  | _ => false

/-- Who sets an attribute, and whether it may be shown. -/
structure Flags where
  required : Bool := false
  optional : Bool := false
  computed : Bool := false
  sensitive : Bool := false
deriving DecidableEq, Repr

namespace Flags

def mandatory : Flags := { required := true }

def free : Flags := { optional := true }

def reported : Flags := { computed := true }

/-- May be configured; the server chooses a value otherwise. -/
def defaulted : Flags := { optional := true, computed := true }

/-- Only the server sets the attribute. -/
def isComputedOnly (flags : Flags) : Bool :=
  flags.computed && !flags.optional && !flags.required

end Flags

structure Attribute where
  type : AttributeType
  flags : Flags
  description : Option String := none
  forceNew : Bool := false
deriving DecidableEq, Repr

namespace Attribute

def text (flags : Flags) : Attribute := { type := .string, flags }

def integer (flags : Flags) : Attribute := { type := .int64, flags }

def textSet (flags : Flags) : Attribute := { type := .set .string, flags }

def textMap (flags : Flags) : Attribute := { type := .map .string, flags }

/-- A change of the value replaces the object. -/
def replacing (a : Attribute) : Attribute := { a with forceNew := true }

def secret (a : Attribute) : Attribute := { a with flags := { a.flags with sensitive := true } }

def described (a : Attribute) (description : String) : Attribute :=
  { a with description := some description }

end Attribute

/-- How often a nested block may occur (0 as the largest number: without limit), and what a change
of it means. -/
structure Nesting where
  minItems : Nat := 0
  maxItems : Nat := 0
  forceNew : Bool := false
  computed : Bool := false
deriving DecidableEq, Repr

namespace Nesting

def atMostOne : Nesting := { maxItems := 1 }

def exactlyOne : Nesting := { minItems := 1, maxItems := 1 }

def replacing (n : Nesting) : Nesting := { n with forceNew := true }

def filledByServer (n : Nesting) : Nesting := { n with computed := true }

end Nesting

structure Block where
  attributes : List (String × Attribute) := []
  blocks : List (String × Nesting × Block) := []
  exactlyOneOf : List (List String) := []
  description : Option String := none

/-- A block that holds one identifier. -/
def Block.reference (flags : Flags) : Block := { attributes := [("id", .text flags)] }

structure Schema where
  version : Nat := 0
  block : Block := {}

namespace Schema

def attribute? (schema : Schema) (name : String) : Option Attribute :=
  schema.block.attributes.lookup name

def nesting? (schema : Schema) (name : String) : Option Nesting :=
  (schema.block.blocks.lookup name).map Prod.fst

/-- Whether a change of a top-level name replaces the object. An attribute hides a block of the same
name. -/
def isForceNew (schema : Schema) (name : String) : Bool :=
  match schema.attribute? name with
  | some a => a.forceNew
  | none => (schema.nesting? name).any Nesting.forceNew

def isComputedOnly (schema : Schema) (name : String) : Bool :=
  (schema.attribute? name).any fun a => a.flags.isComputedOnly

/-- The top-level names that a configuration may set: attributes first, then blocks. -/
def configurableNames (schema : Schema) : List String :=
  (schema.block.attributes.filter fun entry => !entry.2.flags.isComputedOnly).map Prod.fst
    ++ schema.block.blocks.map Prod.fst

/-- The top-level names that the server fills when the configuration leaves them out. -/
def computedNames (schema : Schema) : List String :=
  (schema.block.attributes.filter fun entry => entry.2.flags.computed).map Prod.fst
    ++ (schema.block.blocks.filter fun entry => entry.2.1.computed).map Prod.fst

end Schema

end Provisioner

import Provisioner.Json.Decoder
import Provisioner.Text.Percent

/-!
# References and paths

A kind refers to the objects around it by their identifiers: in a state as a block of at most one
item, in a body as an object, in a path as a segment or a query parameter. In paths an identifier is
percent-encoded, so that it never reaches beyond its place.
-/

namespace Provisioner

set_option autoImplicit false

/-- The item of a block that occurs at most once. -/
def single? {α : Type} (block : List α) : Option α := block.head?

structure Reference where
  id : String
deriving DecidableEq, Repr

namespace Reference

def decodeAs (name : String) : Decoder Reference :=
  Decoder.record name (Reference.mk <$> Fields.required "id" Decoder.text)

/-- A block in a state. -/
def decodeBlock : Decoder (List Reference) := Decoder.blockList (decodeAs "IdRef")

/-- An object in a body. -/
def decodeObject : Decoder Reference := decodeAs "ObjectRef"

def encode (reference : Reference) : Json := .obj [("id", .str reference.id)]

def encodeBlock (block : List Reference) : Json := .arr (block.map encode)

/-- The identifier in a block, empty if the block is. -/
def idOf (block : List Reference) : String := ((single? block).map Reference.id).getD ""

/-- The reported reference as a block; a server that names no object leaves the known block as it
is. -/
def blockOr (reported : Reference) (known : List Reference) : List Reference :=
  if reported.id.isEmpty then known else [reported]

end Reference

/-- The path of an object in a collection. -/
def childPath (collection id : String) : String := collection ++ "/" ++ Text.Percent.encode id

/-- Restricts a path to an environment. -/
def inEnvironment (path environmentId : String) : String :=
  path ++ "?environment=" ++ Text.Percent.encode environmentId

end Provisioner

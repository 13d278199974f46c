import Provisioner.Json.Basic
import Provisioner.Schema.Basic

/-!
# Redaction

A copy of a state that may be logged: every sensitive attribute is masked, at any depth of nested
blocks, and everything else is left as it is. Null and the empty text stay, so that the copy still
shows whether a secret was set; of a map only the values are masked.
-/

namespace Provisioner

set_option autoImplicit false

def maskText : String := "(sensitive value)"

def mask : Json → Json
  | .null => .null
  | .str text => if text.isEmpty then .str text else .str maskText
  | .obj entries => .obj (entries.map fun entry => (entry.1, .str maskText))
  | _ => .str maskText

/-- Applies a change to the entry under a key, if there is one. -/
def adjustEntry (key : String) (change : Json → Json) :
    List (String × Json) → List (String × Json)
  | [] => []
  | (k, value) :: rest =>
    if key = k then (k, change value) :: rest else (k, value) :: adjustEntry key change rest

def adjustItems (change : Json → Json) : Json → Json
  | .arr items => .arr (items.map change)
  | other => other

def maskAttributes (attributes : List (String × Attribute)) (entries : List (String × Json)) :
    List (String × Json) :=
  attributes.foldl
    (fun kept a => if a.2.flags.sensitive then adjustEntry a.1 mask kept else kept) entries

mutual

def Block.redact : Block → Json → Json
  | ⟨attributes, blocks, _, _⟩, value =>
    match value with
    | .obj entries => .obj (redactNested blocks (maskAttributes attributes entries))
    | other => other

def redactNested :
    List (String × Nesting × Block) → List (String × Json) → List (String × Json)
  | [], entries => entries
  | (name, _, block) :: rest, entries =>
    redactNested rest (adjustEntry name (adjustItems block.redact) entries)

end

def Schema.redact (schema : Schema) (value : Json) : Json := schema.block.redact value

end Provisioner

import Provisioner.Json.Printer
import Provisioner.Schema.Basic

/-!
# Plans

Compares a prior state with a proposed one. Null, an empty text, an empty list and an empty object
all count as blank, and so does an absent entry; a set ignores the order of its items. What the
server computes and the proposal leaves blank keeps its prior value, so it is no change.
-/

namespace Provisioner

set_option autoImplicit false

def isBlank (value : Option Json) : Bool :=
  match value with
  | none | some .null => true
  | some (.str text) => text.isEmpty
  | some (.arr items) => items.isEmpty
  | some (.obj entries) => entries.isEmpty
  | some _ => false

def sameEntry : Option Json → Option Json → Bool
  | none, none => true
  | some a, some b => a.same b
  | _, _ => false

/-- Equal for the purposes of a plan. -/
def unchanged (a b : Option Json) : Bool := (isBlank a && isBlank b) || sameEntry a b

/-- The items of a list in the order of their compact texts. -/
def unordered : Json → Json
  | .arr items => .arr (items.mergeSort fun a b => a.compact ≤ b.compact)
  | other => other

namespace Schema

def isSetName (schema : Schema) (name : String) : Bool :=
  (schema.attribute? name).any fun a => a.type.isSet

/-- Takes the prior values of computed names that the proposal leaves blank. -/
def mergeComputed (schema : Schema) (prior proposed : Json) : Json :=
  match prior, proposed with
  | .obj source, .obj target =>
    .obj (schema.computedNames.foldl
      (fun merged name =>
        if isBlank (merged.lookup name) then
          match source.lookup name with
          | some value => Keyed.insert name value merged
          | none => merged
        else merged)
      target)
  | _, proposed => proposed

/-- Whether a name has the same value in both states. -/
def agreesOn (schema : Schema) (prior desired : Json) (name : String) : Bool :=
  if schema.isSetName name then
    unchanged ((prior.get? name).map unordered) ((desired.get? name).map unordered)
  else unchanged (prior.get? name) (desired.get? name)

/-- The configurable names whose values differ. -/
def changedNames (schema : Schema) (prior desired : Json) : List String :=
  schema.configurableNames.filter fun name => !schema.agreesOn prior desired name

end Schema

/-- A change of one top-level name; a side is absent where the value is blank. -/
structure Change where
  path : String
  before : Option Json
  after : Option Json
  requiresReplace : Bool := false

structure Plan where
  plannedState : Json
  changes : List Change
  requiresReplace : Bool

namespace Plan

/-- Replacement is required as soon as one change requires it. -/
def ofChanges (plannedState : Json) (changes : List Change) : Plan :=
  { plannedState, changes, requiresReplace := changes.any Change.requiresReplace }

def encode (plan : Plan) : Json :=
  .obj [
    ("changes", .arr (plan.changes.map fun change => .obj [
      ("after", Json.option change.after),
      ("before", Json.option change.before),
      ("path", .str change.path),
      ("requires_replace", .bool change.requiresReplace)])),
    ("planned_state", plan.plannedState),
    ("requires_replace", .bool plan.requiresReplace)]

end Plan

namespace Schema

def unlessBlank (value : Option Json) : Option Json := if isBlank value then none else value

/-- Everything the proposal sets is new. -/
def planCreation (schema : Schema) (proposed : Json) : Plan :=
  .ofChanges proposed (schema.configurableNames.filterMap fun name =>
    (unlessBlank (proposed.get? name)).map fun value =>
      { path := name, before := none, after := some value })

def planChange (schema : Schema) (prior proposed : Json) : Plan :=
  let planned := schema.mergeComputed prior proposed
  .ofChanges planned ((schema.changedNames prior planned).map fun name =>
    { path := name
      before := unlessBlank (prior.get? name)
      after := unlessBlank (planned.get? name)
      requiresReplace := schema.isForceNew name })

def plan (schema : Schema) (prior : Option Json) (proposed : Json) : Plan :=
  match prior with
  | none => schema.planCreation proposed
  | some prior => schema.planChange prior proposed

end Schema

end Provisioner

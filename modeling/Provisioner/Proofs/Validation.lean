import Provisioner.Lifecycle
import Provisioner.Proofs.Plan.Replan

/-!
# What a validation finds

A schema never warns: whatever is wrong with a configuration is an error. So a configuration is
refused exactly if the host is told that something is wrong with it.
-/

namespace Provisioner

set_option autoImplicit false

/-- All of the diagnostics are errors. -/
def OnlyErrors (diagnostics : List Diagnostic) : Prop :=
  ∀ found ∈ diagnostics, found.isError = true

namespace OnlyErrors

variable {α : Type}

theorem nil : OnlyErrors [] := nofun

theorem one {found : Diagnostic} (error : found.isError = true) : OnlyErrors [found] := by
  intro other member
  rw [List.mem_singleton.mp member]
  exact error

theorem append {first second : List Diagnostic} (left : OnlyErrors first)
    (right : OnlyErrors second) : OnlyErrors (first ++ second) := by
  intro found member
  rcases List.mem_append.mp member with inFirst | inSecond
  · exact left found inFirst
  · exact right found inSecond

theorem flatMap {items : List α} {check : α → List Diagnostic}
    (each : ∀ item ∈ items, OnlyErrors (check item)) : OnlyErrors (items.flatMap check) := by
  intro found member
  obtain ⟨item, inside, wrong⟩ := List.mem_flatMap.mp member
  exact each item inside found wrong

theorem ite {condition : Prop} [Decidable condition] {first second : List Diagnostic}
    (left : OnlyErrors first) (right : OnlyErrors second) :
    OnlyErrors (if condition then first else second) := by
  split
  · exact left
  · exact right

end OnlyErrors

theorem AttributeType.onlyErrors_check (type : AttributeType) (value : Json) (path : String) :
    OnlyErrors (type.check value path) := by
  -- By induction on the type: a list, a set or a map passes on what its items report.
  induction type generalizing value path with
  | string => cases value <;> first | exact .nil | exact .one rfl
  | bool => cases value <;> first | exact .nil | exact .one rfl
  | int64 =>
    cases value with
    | num number => exact .ite .nil (.one rfl)
    | _ => exact .one rfl
  | list element ih | set element ih =>
    cases value with
    | arr items => exact .flatMap fun item _ => ih item.1 _
    | _ => exact .one rfl
  | map element ih =>
    cases value with
    | obj entries => exact .flatMap fun entry _ => ih entry.2 _
    | _ => exact .one rfl

theorem Attribute.onlyErrors_check (a : Attribute) (value : Option Json) (path : String) :
    OnlyErrors (a.check value path) := by
  unfold check
  apply OnlyErrors.ite .nil
  split
  · exact .ite (.one rfl) .nil
  · exact .ite (.one rfl) .nil
  · exact a.type.onlyErrors_check _ path

theorem Nesting.onlyErrors_check (n : Nesting) (items : List Json) (path : String) :
    OnlyErrors (n.check items path) :=
  .append (.ite (.one rfl) .nil) (.ite (.one rfl) .nil)

theorem onlyErrors_checkGroup (entries : List (String × Json)) (path : String)
    (group : List String) : OnlyErrors (checkGroup entries path group) :=
  .ite .nil (.one rfl)

theorem isError_notAnObject (value : Json) (path : String) :
    (notAnObject value path).isError = true := by
  unfold notAnObject
  simp only
  split <;> rfl

mutual

theorem Block.onlyErrors_check : ∀ (block : Block) (value : Json) (path : String),
    OnlyErrors (block.check value path)
  | ⟨attributes, blocks, groups, description⟩, value, path => by
    cases value with
    | obj entries =>
      rw [Block.check]
      apply OnlyErrors.append
      · apply OnlyErrors.append
        · exact .flatMap fun a _ => a.2.onlyErrors_check _ _
        · exact onlyErrors_checkNested blocks entries path
      · exact .flatMap fun group _ => onlyErrors_checkGroup entries path group
    | null =>
      rw [Block.check]
      exact .nil
    | _ =>
      rw [Block.check]
      · exact .one (isError_notAnObject _ path)
      all_goals nofun

theorem onlyErrors_checkNested : ∀ (blocks : List (String × Nesting × Block))
    (entries : List (String × Json)) (path : String), OnlyErrors (checkNested blocks entries path)
  | [], _, _ => by
    rw [checkNested]
    exact .nil
  | (name, nesting, block) :: rest, entries, path => by
    rw [checkNested]
    apply OnlyErrors.append _ (onlyErrors_checkNested rest entries path)
    split
    · exact nesting.onlyErrors_check [] _
    · exact nesting.onlyErrors_check [] _
    · apply OnlyErrors.append (nesting.onlyErrors_check _ _)
      exact .flatMap fun item _ => block.onlyErrors_check item.1 _
    · exact .one rfl

end

namespace Schema

theorem onlyErrors_validate (schema : Schema) (value : Json) :
    OnlyErrors (schema.validate value) := schema.block.onlyErrors_check value ""

/-- A configuration passes exactly if nothing is reported about it. -/
theorem ensureValid_iff_validate (schema : Schema) (value : Json) :
    schema.ensureValid value = .ok () ↔ schema.validate value = [] := by
  rw [ensureValid_ok_iff]
  constructor
  · intro harmless
    rw [List.eq_nil_iff_forall_not_mem]
    intro found member
    have error := schema.onlyErrors_validate value found member
    rw [harmless found member] at error
    cases error
  · intro valid
    rw [valid]
    nofun

end Schema

theorem Lifecycle.validate_eq_nil_iff {σ : Type} {l : Lifecycle σ} {config : Json} :
    l.validate config = [] ↔ l.kind.schema.validate config = [] ∧
      ∃ desired, l.kind.decode.fromState config = .ok desired ∧
        l.kind.validateCreate desired = .ok () := by
  unfold Lifecycle.validate
  cases schemaDiagnostics : l.kind.schema.validate config with
  | cons => simp
  | nil =>
    cases decoded : l.kind.decode.fromState config with
    | error => simp [Except.bind]
    | ok desired => cases checked : l.kind.validateCreate desired <;> simp [Except.bind, checked]

end Provisioner

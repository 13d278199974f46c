import Provisioner.Proofs.Http.Requests
import Provisioner.Proofs.Operation.Outcome
import Provisioner.Provider

/-!
# What a host can ask for

The operations of a provider as data, with one type of reply, so that a statement can be about all
of them. A transition either is refused before it begins, or runs on the kind that has the given
name.
-/

namespace Provisioner

set_option autoImplicit false

open Http (Request Wire)

/-- An operation that a host asks a provider for. -/
inductive Call where
  | validate (type : String) (config : Json)
  | plan (type : String) (prior : Option Json) (proposed : Json)
  | create (type : String) (config : Json)
  | read (type : String) (state : Json)
  | update (type : String) (prior config : Json)
  | delete (type : String) (state : Json)
  | importKey (type key : String)
  | lookUp (type : String) (config : Json)

/-- What an operation replies. -/
inductive Reply where
  | diagnostics (found : List Diagnostic)
  | plan (plan : Plan)
  /-- A state, or nothing if the object is gone. -/
  | state (state : Option Json)
  | imported (objects : List Imported)
  | done

namespace Call

def run (p : Provider) : Call → Op Wire Reply
  | .validate type config => Reply.diagnostics <$> Operation.ofExcept (p.validate type config)
  | .plan type prior proposed => Reply.plan <$> Operation.ofExcept (p.plan type prior proposed)
  | .create type config => (fun state => Reply.state (some state)) <$> p.create type config
  | .read type state => Reply.state <$> p.read type state
  | .update type prior config =>
    (fun state => Reply.state (some state)) <$> p.update type prior config
  | .delete type state => (fun _ => Reply.done) <$> p.delete type state
  | .importKey type key => Reply.imported <$> p.importKey type key
  | .lookUp type config => (fun state => Reply.state (some state)) <$> p.lookUp type config

end Call

namespace Provider

variable {α : Type} {p : Provider} {type : String}

theorem lifecycle_of_found {l : Lifecycle Wire} (found : p.lifecycle? type = some l) :
    ∃ kind ∈ kinds, kind.name = type ∧ l = p.lifecycle kind := by
  unfold lifecycle? at found
  obtain ⟨kind, listed, rfl⟩ := Option.map_eq_some_iff.mp found
  have member := List.mem_of_find?_eq_some listed
  have named : kind.name = type := by simpa using List.find?_some listed
  exact ⟨kind, member, named, rfl⟩

/-- A transition that is refused for its type or because the provider is not configured, or else
runs. -/
theorem transition_cases (p : Provider) (type : String)
    (act : Lifecycle Wire → Context → Op Wire α) :
    (∃ failure, failure.isValidation = false ∧ p.transition type act = Op.fail failure) ∨
      ∃ kind ∈ kinds, ∃ context, kind.name = type ∧ p.context = some context ∧
        p.transition type act = act (p.lifecycle kind) context := by
  unfold transition
  cases found : p.lifecycle? type with
  | none => exact Or.inl ⟨_, rfl, rfl⟩
  | some l =>
    cases configured : p.context with
    | none => exact Or.inl ⟨_, rfl, rfl⟩
    | some context =>
      obtain ⟨kind, member, named, rfl⟩ := lifecycle_of_found found
      exact Or.inr ⟨kind, member, context, named, rfl, rfl⟩

theorem lifecycle_of_kind (p : Provider) {kind : Kind Wire} (member : kind ∈ kinds) :
    p.lifecycle? kind.name = some (p.lifecycle kind) := by
  simp only [kinds, List.mem_cons, List.not_mem_nil, or_false] at member
  rcases member with rfl | rfl | rfl | rfl | rfl | rfl | rfl
  all_goals rfl

theorem transition_of_kind {kind : Kind Wire} (member : kind ∈ kinds) {context : Context}
    (configured : p.context = some context) (act : Lifecycle Wire → Context → Op Wire α) :
    p.transition kind.name act = act (p.lifecycle kind) context := by
  unfold transition
  rw [p.lifecycle_of_kind member, configured]

theorem sends_transition (p : Provider) {kind : Kind Wire} (member : kind ∈ kinds)
    {act : Lifecycle Wire → Context → Op Wire α} {allowed : World Wire → Request → Prop}
    (sends : ∀ context, p.context = some context →
      (act (p.lifecycle kind) context).SendsFrom allowed) :
    (p.transition kind.name act).SendsFrom allowed := by
  unfold transition
  rw [p.lifecycle_of_kind member]
  cases configured : p.context with
  | none => exact .of_peer_eq fun _ => rfl
  | some context => exact sends context configured

end Provider

theorem KafkaTopic.kind_listed : KafkaTopic.kind ∈ kinds := by simp [kinds]

end Provisioner

import Provisioner.Proofs.Lifecycle.Halted
import Provisioner.Proofs.Provider.Stopping

/-!
# The course of a provider

A host drives a provider by a sequence of steps: it configures it, asks for operations and asks it
to stop, at any time also in the course of an operation. Only two things about a provider change,
and each of them once. The first configuration that is accepted sets the context, and a stop request
stays. Before the one and after the other no operation sends anything or succeeds.

A stop request in an operation comes at its time even if the operation is over by then; the next
step comes after it. So the requests of a host do not depend on what the provider does.
-/

namespace Provisioner

set_option autoImplicit false

open Http
open Operation (Halts)

/-- What a host does with a provider. An operation meets the answers of its wire, and the host may
ask to stop at a time after its beginning. -/
inductive Step where
  | configure (config : Json)
  | call (call : Call) (wire : Wire) (stopAt : Option Nat)
  | stop

/-- Whether the host asks to stop in a step. -/
def Step.stops : Step → Bool
  | .configure _ => false
  | .call _ _ stopAt => stopAt.isSome
  | .stop => true

namespace Call

/-- Whether an operation deals with remote objects, as all do but validations and plans. -/
def Acts : Call → Prop
  | .validate _ _ | .plan _ _ _ => False
  | _ => True

end Call

namespace Provider

variable {α : Type} {p : Provider}

def next (p : Provider) : Step → Provider
  | .configure config => (p.configure config).2
  | .call _ _ stopAt => if stopAt.isSome then p.stop else p
  | .stop => p.stop

/-- The provider after some steps. -/
def through (p : Provider) (steps : List Step) : Provider := steps.foldl next p

/-- Some step of these configures the provider without any diagnostic. -/
def Accepts (p : Provider) (steps : List Step) (config : Json) : Prop :=
  ∃ earlier later, steps = earlier ++ .configure config :: later ∧
    ((p.through earlier).configure config).1 = []

@[simp] theorem through_nil (p : Provider) : p.through [] = p := rfl

@[simp] theorem through_cons (p : Provider) (step : Step) (rest : List Step) :
    p.through (step :: rest) = (p.next step).through rest := rfl

theorem through_append (p : Provider) (earlier later : List Step) :
    p.through (earlier ++ later) = (p.through earlier).through later :=
  List.foldl_append

/-- The context that a configuration gives a provider. -/
def contextOf (p : Provider) (config : Json) : Except Error Context :=
  (p.readConfiguration config).bind Context.ofConfiguration

/-- A provider with a context ignores a configuration; another one takes it, or refuses it and stays
as it is. -/
theorem configure_cases (p : Provider) (config : Json) :
    (p.context.isSome = true ∧ p.configure config = ([alreadyConfigured], p)) ∨
      (p.context = none ∧ ∃ context, p.contextOf config = .ok context ∧
        p.configure config = ([], { p with context := some context })) ∨
      (p.context = none ∧ ∃ error, p.contextOf config = .error error ∧
        p.configure config = ([error.diagnostic], p)) := by
  unfold configure contextOf
  cases configured : p.context with
  | some context => exact Or.inl ⟨rfl, rfl⟩
  | none =>
    cases read : (p.readConfiguration config).bind Context.ofConfiguration with
    | ok context => exact Or.inr (Or.inl ⟨rfl, context, rfl, by simp⟩)
    | error error => exact Or.inr (Or.inr ⟨rfl, error, rfl, by simp⟩)

theorem configure_of_diagnostics {config : Json} (some : (p.configure config).1 ≠ []) :
    (p.configure config).2 = p := by
  rcases p.configure_cases config with ⟨_, run⟩ | ⟨_, _, _, run⟩ | ⟨_, _, _, run⟩
  · rw [run]
  · rw [run] at some
    exact absurd rfl some
  · rw [run]

theorem next_call (p : Provider) (call : Call) (wire : Wire) (stopAt : Option Nat) :
    p.next (.call call wire stopAt) = { p with stopped := p.stopped || stopAt.isSome } := by
  show (if stopAt.isSome then p.stop else p) = _
  cases stopAt with
  | none => simp
  | some time => simp [stop]

theorem env_next (p : Provider) (step : Step) : (p.next step).env = p.env := by
  cases step with
  | configure config =>
    show (p.configure config).2.env = p.env
    rcases p.configure_cases config with ⟨_, run⟩ | ⟨_, _, _, run⟩ | ⟨_, _, _, run⟩ <;> rw [run]
  | call call wire stopAt => rw [next_call]
  | stop => rfl

theorem env_through (p : Provider) (steps : List Step) : (p.through steps).env = p.env := by
  induction steps generalizing p with
  | nil => rfl
  | cons step rest ih =>
    rw [through_cons, ih]
    exact p.env_next step

theorem context_next {context : Context} (configured : p.context = some context) (step : Step) :
    (p.next step).context = some context := by
  cases step with
  | configure config =>
    show (p.configure config).2.context = some context
    rcases p.configure_cases config with ⟨_, run⟩ | ⟨missing, _⟩ | ⟨missing, _⟩
    · rw [run]
      exact configured
    · rw [missing] at configured
      cases configured
    · rw [missing] at configured
      cases configured
  | call call wire stopAt =>
    rw [next_call]
    exact configured
  | stop => exact configured

theorem context_through {context : Context} (configured : p.context = some context)
    (steps : List Step) : (p.through steps).context = some context := by
  induction steps generalizing p with
  | nil => exact configured
  | cons step rest ih => exact ih (context_next configured step)

/-- A provider without a context gets one only by a configuration that it accepts. -/
theorem context_next_of_none (missing : p.context = none) (step : Step)
    (unaccepted : ∀ config, step = .configure config → (p.configure config).1 ≠ []) :
    (p.next step).context = none := by
  cases step with
  | configure config =>
    have same := configure_of_diagnostics (unaccepted config rfl)
    show (p.configure config).2.context = none
    rw [same]
    exact missing
  | call call wire stopAt =>
    rw [next_call]
    exact missing
  | stop => exact missing

theorem context_through_of_none (missing : p.context = none) {steps : List Step}
    (unaccepted : ∀ config, ¬p.Accepts steps config) : (p.through steps).context = none := by
  induction steps generalizing p with
  | nil => exact missing
  | cons step rest ih =>
    apply ih
    · apply context_next_of_none missing
      rintro config rfl accepted
      exact unaccepted config ⟨[], rest, rfl, accepted⟩
    · intro config accepts
      obtain ⟨earlier, later, rfl, accepted⟩ := accepts
      exact unaccepted config ⟨step :: earlier, later, rfl, accepted⟩

theorem context_of_accepts {steps : List Step} {config : Json} (accepts : p.Accepts steps config) :
    ∃ context, p.contextOf config = .ok context ∧ (p.through steps).context = some context := by
  obtain ⟨earlier, later, rfl, accepted⟩ := accepts
  have sameEnv := p.env_through earlier
  rcases (p.through earlier).configure_cases config with
    ⟨_, run⟩ | ⟨_, context, found, run⟩ | ⟨_, _, _, run⟩
  · rw [run] at accepted
    cases accepted
  · refine ⟨context, ?_, ?_⟩
    · unfold contextOf readConfiguration at found ⊢
      rw [sameEnv] at found
      exact found
    · rw [through_append, through_cons]
      apply context_through
      show ((p.through earlier).configure config).2.context = some context
      rw [run]
  · rw [run] at accepted
    cases accepted

theorem stopped_next (p : Provider) (step : Step) :
    (p.next step).stopped = (p.stopped || step.stops) := by
  cases step with
  | configure config =>
    show (p.configure config).2.stopped = (p.stopped || false)
    rw [Bool.or_false]
    rcases p.configure_cases config with ⟨_, run⟩ | ⟨_, _, _, run⟩ | ⟨_, _, _, run⟩ <;> rw [run]
  | call call wire stopAt =>
    rw [next_call]
    rfl
  | stop => exact (Bool.or_true p.stopped).symm

/-- A provider is stopped once it was asked to, and only then. -/
theorem stopped_through (p : Provider) (steps : List Step) :
    (p.through steps).stopped = (p.stopped || steps.any Step.stops) := by
  induction steps generalizing p with
  | nil => exact (Bool.or_false p.stopped).symm
  | cons step rest ih => rw [through_cons, ih, stopped_next, List.any_cons, Bool.or_assoc]

theorem isStopped_world (stopped : p.stopped = true) (wire : Wire) (stopAt : Option Nat) :
    (p.world wire stopAt).isStopped = true := by
  unfold world World.isStopped
  simp [stopped]

theorem transition_of_unconfigured (missing : p.context = none) (type : String)
    (act : Lifecycle Wire → Context → Op Wire α) :
    ∃ failure, p.transition type act = Op.fail failure := by
  unfold transition
  rw [missing]
  cases p.lifecycle? type with
  | none => exact ⟨_, rfl⟩
  | some l => exact ⟨_, rfl⟩

theorem halts_transition {type : String} {act : Lifecycle Wire → Context → Op Wire α}
    (each : ∀ (route : Route) (context : Context),
      (act (p.lifecycle route.api.kind) context).Halts) : (p.transition type act).Halts := by
  rcases p.transition_cases type act with ⟨failure, _, refused⟩ | ⟨kind, member, context, runs⟩
  · rw [refused]
    intro w _
    exact ⟨_, w, rfl⟩
  · rw [← Route.kind_all] at member
    obtain ⟨route, _, rfl⟩ := List.mem_map.mp member
    rw [runs.2.2]
    exact each route context

end Provider

namespace Call

variable {p : Provider}

theorem world_of_idle (p : Provider) {call : Call} (idle : ¬call.Acts) (w : World Wire) :
    (call.run p w).2 = w := by
  have kept : ∀ {α : Type} (reply : α → Reply) (result : Except Error α),
      ((reply <$> Operation.ofExcept result : Op Wire Reply) w).2 = w := by
    intro α reply result
    cases result <;> rfl
  cases call with
  | validate type config => exact kept Reply.diagnostics _
  | plan type prior proposed => exact kept Reply.plan _
  | _ => exact absurd trivial idle

theorem refuses_of_unconfigured (missing : p.context = none) {call : Call} (acts : call.Acts) :
    ∃ error, call.run p = Operation.fail error := by
  have refuses : ∀ (type : String) {α : Type} (act : Lifecycle Wire → Context → Op Wire α)
      (reply : α → Reply), ∃ error, reply <$> p.transition type act = Operation.fail error := by
    intro type α act reply
    obtain ⟨failure, refused⟩ := Provider.transition_of_unconfigured missing type act
    rw [refused]
    exact ⟨{ failure }, rfl⟩
  cases call with
  | validate type config => exact acts.elim
  | plan type prior proposed => exact acts.elim
  | create type config => exact refuses type _ _
  | read type state => exact refuses type _ _
  | update type prior config => exact refuses type _ _
  | delete type state => exact refuses type _ _
  | importKey type key => exact refuses type _ _
  | lookUp type config =>
    show ∃ error, (fun state => Reply.state (some state)) <$> p.lookUp type config = _
    unfold Provider.lookUp
    cases lookupKey type config with
    | error error => exact ⟨error, rfl⟩
    | ok key => exact refuses type (fun l context => l.importKey context key) _

theorem run_of_unconfigured (missing : p.context = none) (call : Call) (w : World Wire) :
    (call.run p w).2 = w ∧ (call.Acts → ∃ error, call.run p w = (.error error, w)) := by
  by_cases acts : call.Acts
  · obtain ⟨error, refused⟩ := refuses_of_unconfigured missing acts
    rw [refused]
    exact ⟨rfl, fun _ => ⟨error, rfl⟩⟩
  · exact ⟨world_of_idle p acts w, fun acting => absurd acting acts⟩

theorem halts_run (p : Provider) {call : Call} (acts : call.Acts) : (call.run p).Halts := by
  cases call with
  | validate type config => exact acts.elim
  | plan type prior proposed => exact acts.elim
  | create type config =>
    apply Halts.map
    apply Provider.halts_transition
    intro route context
    exact route.halts_create_transition (fun _ => p.waits) context config
  | read type state =>
    apply Halts.map
    apply Provider.halts_transition
    intro route context
    exact route.halts_read_transition (fun _ => p.waits) context state
  | update type prior config =>
    apply Halts.map
    apply Provider.halts_transition
    intro route context
    exact route.halts_update_transition (fun _ => p.waits) context prior config
  | delete type state =>
    apply Halts.map
    apply Provider.halts_transition
    intro route context
    exact route.halts_delete_transition (fun _ => p.waits) context state
  | importKey type key =>
    apply Halts.map
    apply Provider.halts_transition
    intro route context
    exact (route.halts_import (fun _ => p.waits) context key).bind
  | lookUp type config =>
    apply Halts.map
    apply Halts.after_refusal
    intro key
    apply Provider.halts_transition
    intro route context
    exact route.halts_import (fun _ => p.waits) context key

/-- Once the provider is stopped, no operation sends anything and none succeeds. -/
theorem run_of_stopped (stopped : p.stopped = true) (call : Call) (wire : Wire)
    (stopAt : Option Nat) :
    (call.run p).sent (p.world wire stopAt) = [] ∧
      (call.Acts → ∃ error after, call.run p (p.world wire stopAt) = (.error error, after)) := by
  have asked := Provider.isStopped_world stopped wire stopAt
  constructor
  · have kept := ((call.interruptible_run p).leads (p.world wire stopAt)).sent_of_stopped asked
    unfold Operation.sent
    rw [kept]
    exact List.drop_length
  · intro acts
    exact halts_run p acts _ asked

end Call

/-- The course of a provider that is not configured yet, for every sequence of steps. Until a
configuration is accepted, it has no context, and no operation sends anything or even takes time,
and none succeeds. From then on it has the context of that configuration, and every further
configuration gives one warning and changes nothing; nor does one that is refused. Once the host has
asked to stop, no operation sends anything and none succeeds. -/
theorem provider_course {p : Provider} (new : p.context = none) (steps : List Step) :
    ((∀ config, ¬p.Accepts steps config) →
      (p.through steps).context = none ∧
        ∀ (call : Call) (w : World Wire), (call.run (p.through steps) w).2 = w ∧
          (call.Acts → ∃ error, call.run (p.through steps) w = (.error error, w))) ∧
    (∀ config, p.Accepts steps config →
      (∃ context, p.contextOf config = .ok context ∧
        (p.through steps).context = some context) ∧
      ∀ other, ∃ warning, warning.severity = .warning ∧
        (p.through steps).configure other = ([warning], p.through steps)) ∧
    (∀ config, ((p.through steps).configure config).1 ≠ [] →
      ((p.through steps).configure config).2 = p.through steps) ∧
    (steps.any Step.stops = true → ∀ (call : Call) (wire : Wire) (stopAt : Option Nat),
      (call.run (p.through steps)).sent ((p.through steps).world wire stopAt) = [] ∧
        (call.Acts → ∃ error after,
          call.run (p.through steps) ((p.through steps).world wire stopAt) =
            (.error error, after))) := by
  refine ⟨?_, ?_, ?_, ?_⟩
  · intro unaccepted
    have missing := Provider.context_through_of_none new unaccepted
    exact ⟨missing, Call.run_of_unconfigured missing⟩
  · intro config accepts
    obtain ⟨context, found, configured⟩ := Provider.context_of_accepts accepts
    refine ⟨⟨context, found, configured⟩, ?_⟩
    intro other
    refine ⟨Provider.alreadyConfigured, rfl, ?_⟩
    unfold Provider.configure
    simp [configured]
  · intro config some
    exact Provider.configure_of_diagnostics some
  · intro stops
    have stopped : (p.through steps).stopped = true := by
      rw [Provider.stopped_through, stops, Bool.or_true]
    exact Call.run_of_stopped stopped

namespace Provider

def onceConfig : Json := .obj [("max_retries", .int 0)]

/-- A configuration that is refused, one that is accepted, and a read during which the host asks to
stop. -/
def shortCourse : List Step :=
  [.configure (.obj [("endpoint", .str "confluent")]), .configure onceConfig,
    .call (.read "confluent_service_account" ServiceAccount.botJson)
      { script := [ServiceAccount.lateAnswer] } (some 2000)]

end Provider

/-- The context of the second configuration stays, a third one gives a warning, and after the
stopped read a deletion sends nothing. -/
theorem provider_course_short :
    (Provider.through {} Provider.shortCourse).context = some Context.plain ∧
    (∃ warning, warning.severity = .warning ∧
      (Provider.through {} Provider.shortCourse).configure .null =
        ([warning], Provider.through {} Provider.shortCourse)) ∧
    (Call.run (Provider.through {} Provider.shortCourse)
        (.delete "confluent_service_account" ServiceAccount.botJson)).sent
      ((Provider.through {} Provider.shortCourse).world
        { script := [ServiceAccount.deletedAnswer, ServiceAccount.missingAnswer] } none) = [] := by
  have found : Provider.contextOf {} Provider.onceConfig = .ok Context.plain := rfl
  have accepts : Provider.Accepts {} Provider.shortCourse Provider.onceConfig :=
    ⟨[_], [_], rfl, rfl⟩
  obtain ⟨_, configured, _, stopped⟩ := provider_course (p := {}) rfl Provider.shortCourse
  obtain ⟨⟨context, same, kept⟩, ignores⟩ := configured Provider.onceConfig accepts
  rw [found] at same
  cases same
  exact ⟨kept, ignores .null, (stopped rfl _ _ none).1⟩

end Provisioner

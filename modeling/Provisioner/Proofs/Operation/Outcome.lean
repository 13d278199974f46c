import Provisioner.Operation

/-!
# Outcomes of operations

How the outcome of a sequence of steps comes about: it succeeds exactly if each step does, and the
first step that fails decides the error and the world that is left. Naming the object of an error
changes neither a value nor the world.
-/

namespace Provisioner.Operation

set_option autoImplicit false

variable {σ ε α β γ : Type}

theorem id_map' (op : Operation σ ε α) : id <$> op = op := by
  funext w
  show bind op (fun a => pure (id a)) w = op w
  unfold bind
  rcases op w with ⟨_ | _, _⟩ <;> rfl

theorem bind_assoc' (op : Operation σ ε α) (next : α → Operation σ ε β)
    (after : β → Operation σ ε γ) :
    op >>= next >>= after = op >>= fun value => next value >>= after := by
  funext w
  show bind (bind op next) after w = bind op (fun value => bind (next value) after) w
  unfold bind
  rcases op w with ⟨_ | _, _⟩ <;> rfl

instance : LawfulMonad (Operation σ ε) :=
  LawfulMonad.mk' (Operation σ ε) id_map' (fun _ _ => rfl) bind_assoc'

theorem bind_ok_iff {first : Operation σ ε α} {next : α → Operation σ ε β} {w after : World σ}
    {value : β} :
    (first >>= next) w = (.ok value, after) ↔
      ∃ head middle, first w = (.ok head, middle) ∧ next head middle = (.ok value, after) := by
  rw [run_bind]
  rcases first w with ⟨_ | head, middle⟩
  · simp
  · constructor
    · intro succeeded
      exact ⟨head, middle, rfl, succeeded⟩
    · intro parts
      rcases parts with ⟨_, _, ⟨⟩, succeeded⟩
      exact succeeded

theorem bind_of_ok {first : Operation σ ε α} {w middle : World σ} {head : α}
    (succeeded : first w = (.ok head, middle)) (next : α → Operation σ ε β) :
    (first >>= next) w = next head middle := by
  rw [run_bind, succeeded]

theorem bind_of_error {first : Operation σ ε α} {w middle : World σ} {error : ε}
    (failed : first w = (.error error, middle)) (next : α → Operation σ ε β) :
    (first >>= next) w = (.error error, middle) := by
  rw [run_bind, failed]

theorem pure_ok_iff {value result : α} {w after : World σ} :
    (Pure.pure value : Operation σ ε α) w = (.ok result, after) ↔ value = result ∧ w = after := by
  simp

@[simp] theorem run_ofExcept (result : Except ε α) (w : World σ) :
    ofExcept result w = (result, w) := rfl

theorem ofExcept_ok_iff {result : Except ε α} {value : α} {w after : World σ} :
    ofExcept result w = (.ok value, after) ↔ result = .ok value ∧ w = after := by
  simp

theorem bind_ofExcept_ok_iff {result : Except ε α} {next : α → Operation σ ε β}
    {w after : World σ} {value : β} :
    (ofExcept result >>= next) w = (.ok value, after) ↔
      ∃ head, result = .ok head ∧ next head w = (.ok value, after) := by
  rw [run_bind, run_ofExcept]
  rcases result with _ | head <;> simp

@[simp] theorem run_fail (error : ε) (w : World σ) :
    (fail error : Operation σ ε α) w = (.error error, w) := rfl

@[simp] theorem run_now (w : World σ) : (now : Operation σ ε Nat) w = (.ok w.now, w) := rfl

@[simp] theorem run_outcome {ε' : Type} (op : Operation σ ε α) (w : World σ) :
    (op.outcome : Operation σ ε' (Except ε α)) w = (.ok (op w).1, (op w).2) := rfl

theorem some_ok_iff {op : Operation σ ε α} {w after : World σ} {value : α} :
    (op >>= fun given => Pure.pure (some given)) w = (.ok (some value), after) ↔
      op w = (.ok value, after) := by
  rw [bind_ok_iff]
  constructor
  · intro parts
    obtain ⟨given, middle, run, result⟩ := parts
    obtain ⟨same, rfl⟩ := pure_ok_iff.mp result
    rw [run, Option.some.inj same]
  · intro run
    exact ⟨value, after, run, rfl⟩

theorem mapError_ok_iff {ε' : Type} {change : ε → ε'} {op : Operation σ ε α} {w after : World σ}
    {value : α} : op.mapError change w = (.ok value, after) ↔ op w = (.ok value, after) := by
  unfold mapError
  rcases op w with ⟨inner | found, finish⟩
  · constructor
    · intro impossible
      cases impossible
    · intro impossible
      cases impossible
  · constructor
    · intro same
      cases same
      rfl
    · intro same
      cases same
      rfl

theorem mapError_error_iff {ε' : Type} {change : ε → ε'} {op : Operation σ ε α}
    {w after : World σ} {error : ε'} :
    op.mapError change w = (.error error, after) ↔
      ∃ inner, op w = (.error inner, after) ∧ change inner = error := by
  unfold mapError
  rcases op w with ⟨inner | found, finish⟩
  · constructor
    · intro failed
      cases failed
      exact ⟨inner, rfl, rfl⟩
    · intro parts
      rcases parts with ⟨other, same, changed⟩
      cases same
      cases changed
      rfl
  · constructor
    · intro impossible
      cases impossible
    · intro parts
      rcases parts with ⟨other, impossible, _⟩
      cases impossible

end Provisioner.Operation

namespace Provisioner.Op

set_option autoImplicit false

variable {σ α : Type}

theorem about_ok_iff {type : String} {id : Option String} {op : Op σ α} {w after : World σ}
    {value : α} : Op.about type id op w = (.ok value, after) ↔ op w = (.ok value, after) :=
  Operation.mapError_ok_iff

/-- Naming the object of a first step matters only if that step fails. -/
theorem bind_about_ok_iff {β : Type} {type : String} {id : Option String} {first : Op σ α}
    {next : α → Op σ β} {w after : World σ} {value : β} :
    (Op.about type id first >>= next) w = (.ok value, after) ↔
      (first >>= next) w = (.ok value, after) := by
  rw [Operation.bind_ok_iff, Operation.bind_ok_iff]
  simp only [about_ok_iff]

theorem about_error_iff {type : String} {id : Option String} {op : Op σ α} {w after : World σ}
    {error : Error} :
    Op.about type id op w = (.error error, after) ↔
      ∃ inner, op w = (.error inner, after) ∧ inner.about type id = error :=
  Operation.mapError_error_iff

@[simp] theorem world_about (type : String) (id : Option String) (op : Op σ α) (w : World σ) :
    (Op.about type id op w).2 = (op w).2 := rfl

@[simp] theorem run_fail (failure : Failure) (w : World σ) :
    (Op.fail failure : Op σ α) w = (.error { failure }, w) := rfl

theorem checkpoint_cases (w : World σ) :
    (w.isStopped = false ∧ Op.checkpoint w = (.ok (), w)) ∨
      (w.isStopped = true ∧ Op.checkpoint w = (.error { failure := .cancelled }, w)) := by
  unfold Op.checkpoint Operation.checkpoint
  cases stopped : w.isStopped <;> simp

section Pause

variable {duration : Nat} {w : World σ}

theorem pause_of_waits (waits : ∀ time, w.stopAt = some time → w.timerEnd duration ≤ time) :
    Op.pause duration w = (.ok (), { w with now := w.timerEnd duration }) := by
  unfold Op.pause Operation.pause
  cases asked : w.stopAt with
  | none => rfl
  | some time => simp only [if_neg (Nat.not_lt.mpr (waits time asked))]

theorem pause_of_stopped {time : Nat} (asked : w.stopAt = some time)
    (early : time < w.timerEnd duration) :
    Op.pause duration w =
      (.error { failure := .cancelled }, { w with now := max w.now time }) := by
  unfold Op.pause Operation.pause
  simp only [asked, if_pos early]

variable (duration w) in
theorem pause_cases :
    ((∀ time, w.stopAt = some time → w.timerEnd duration ≤ time) ∧
        Op.pause duration w = (.ok (), { w with now := w.timerEnd duration })) ∨
      ∃ time, w.stopAt = some time ∧ time < w.timerEnd duration ∧
        Op.pause duration w =
          (.error { failure := .cancelled }, { w with now := max w.now time }) := by
  by_cases interrupted : ∃ time, w.stopAt = some time ∧ time < w.timerEnd duration
  · obtain ⟨time, asked, early⟩ := interrupted
    exact Or.inr ⟨time, asked, early, pause_of_stopped asked early⟩
  · have waits : ∀ time, w.stopAt = some time → w.timerEnd duration ≤ time := fun time asked =>
      Nat.le_of_not_lt fun early => interrupted ⟨time, asked, early⟩
    exact Or.inl ⟨waits, pause_of_waits waits⟩

variable (duration w) in
@[simp] theorem peer_pause : (Op.pause duration w).2.peer = w.peer := by
  rcases pause_cases duration w with ⟨_, run⟩ | ⟨_, _, _, run⟩ <;> rw [run]

theorem peer_of_pause {after : World σ} {outcome : Except Error Unit}
    (paused : Op.pause duration w = (outcome, after)) : after.peer = w.peer := by
  rw [← peer_pause duration w, paused]

end Pause

end Provisioner.Op

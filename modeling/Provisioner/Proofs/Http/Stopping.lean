import Provisioner.Proofs.Http.Leads

/-!
# Stop requests

How a run of an operation changes if the host asks to stop at some time, compared with the same run
of a host that never does. Up to that time both do the same. An operation that is over by then ends
in the same way; one that waits then for the head of an answer, for a retry or for the next read
ends at that time with the error of a stop. Only the body of an answer that decides its request is
read to its end: an operation that is in the middle of one ends with it, in the same way if nothing
is left to be waited for, else with the error of a stop.

That an operation can be interrupted like this at every time passes from its steps to the whole. It
is shown once for the steps that notice a stop request: the look at it before a request or a read,
and the pauses that wait for the head of an answer, for a retry and for the next read of a wait.
-/

namespace Provisioner

set_option autoImplicit false

open Http

/-- The same world with a host that asks to stop at a time. -/
def World.stoppedAt {σ : Type} (w : World σ) (stop : Nat) : World σ :=
  { w with stopAt := some stop }

theorem World.isStopped_stoppedAt {σ : Type} {w : World σ} {stop : Nat} :
    (w.stoppedAt stop).isStopped = true ↔ stop ≤ w.now :=
  decide_eq_true_iff

namespace Http

/-- When the body of the answer is there as well, or given up. -/
def Exchange.completion (exchange : Exchange) : Nat :=
  exchange.arrival + exchange.answer.delivered.bodyDelay

namespace RetryPolicy

/-- The number of the attempt that comes after an exchange. A final answer ends its request. -/
def numberAfter (policy : RetryPolicy) (number : Nat) (exchange : Exchange) : Nat :=
  if (policy.pauseAfter? number exchange.answer.delivered).isSome then nextAttempt number else 1

/-- At the time, after the given exchanges, the body of a final answer is being read, which is over
later. The first of the exchanges is the attempt with the given number. -/
def Reads (policy : RetryPolicy) (time number : Nat) (exchanges : List Exchange) (finish : Nat) :
    Prop :=
  ∃ earlier last, exchanges = earlier ++ [last] ∧
    policy.pauseAfter? (earlier.foldl policy.numberAfter number) last.answer.delivered = none ∧
    last.arrival ≤ time ∧ time < finish ∧ last.completion = finish

variable {policy : RetryPolicy} {time number finish : Nat}

theorem Reads.late {exchanges : List Exchange}
    (reads : policy.Reads time number exchanges finish) : time < finish := by
  obtain ⟨_, _, _, _, _, late, _⟩ := reads
  exact late

theorem Reads.unique {exchanges : List Exchange} {other : Nat}
    (reads : policy.Reads time number exchanges finish)
    (readsToo : policy.Reads time number exchanges other) : finish = other := by
  obtain ⟨_, last, rfl, _, _, _, rfl⟩ := reads
  obtain ⟨_, _, split, _, _, _, rfl⟩ := readsToo
  obtain ⟨_, same⟩ := List.append_inj' split rfl
  rw [List.head_eq_of_cons_eq same]

theorem not_reads_nil : ¬policy.Reads time number [] finish := by
  rintro ⟨earlier, last, empty, _⟩
  simp at empty

theorem reads_singleton_iff {exchange : Exchange} :
    policy.Reads time number [exchange] finish ↔
      policy.pauseAfter? number exchange.answer.delivered = none ∧ exchange.arrival ≤ time ∧
        time < finish ∧ exchange.completion = finish := by
  constructor
  · rintro ⟨earlier, last, split, reads⟩
    obtain ⟨rfl, same⟩ : [] = earlier ∧ [exchange] = [last] := List.append_inj' split rfl
    obtain rfl := List.head_eq_of_cons_eq same
    exact reads
  · intro reads
    exact ⟨[], exchange, rfl, reads⟩

/-- What is read after further exchanges depends on the earlier ones through the number alone. -/
theorem reads_append_iff {first later : List Exchange} (more : later ≠ []) :
    policy.Reads time number (first ++ later) finish ↔
      policy.Reads time (first.foldl policy.numberAfter number) later finish := by
  constructor
  · rintro ⟨earlier, last, split, final, reads⟩
    obtain ⟨init, exchange, rfl⟩ : ∃ init exchange, later = init ++ [exchange] :=
      ⟨_, _, (List.dropLast_concat_getLast more).symm⟩
    rw [← List.append_assoc] at split
    obtain ⟨rfl, same⟩ := List.append_inj' split rfl
    obtain rfl := List.head_eq_of_cons_eq same
    rw [List.foldl_append] at final
    exact ⟨init, exchange, rfl, final, reads⟩
  · rintro ⟨init, last, rfl, final, reads⟩
    rw [← List.foldl_append] at final
    exact ⟨first ++ init, last, (List.append_assoc _ _ _).symm, final, reads⟩

theorem not_reads_append {first later : List Exchange}
    (unread : ∀ finish, ¬policy.Reads time number first finish)
    (unreadLater : ∀ finish, ¬policy.Reads time (first.foldl policy.numberAfter number) later
      finish) (finish : Nat) : ¬policy.Reads time number (first ++ later) finish := by
  by_cases none : later = []
  · rw [none, List.append_nil]
    exact unread finish
  · rw [reads_append_iff none]
    exact unreadLater finish

end RetryPolicy

end Http

/-- A result after which an operation may go on: a value, or the error of a missing object. -/
def Error.GoesOn {α : Type} (result : Except Error α) : Prop :=
  ∀ error, result = .error error → error.isNotFound = true

namespace Operation

variable {α β : Type}

/-- The ends of two runs from the same wire, of which the second is stopped at a time. The first
exchange is the attempt with the given number, and the one after them the first of its request. -/
inductive Cut (policy : RetryPolicy) (stopped : Error → Prop) (stop number : Nat) (before : Wire)
    (free halted : Except Error α × World Wire) : Prop where
  | before {exchanges : List Exchange} (transcript : Transcript before exchanges free.2.peer)
      (unread : ∀ finish, ¬policy.Reads stop number exchanges finish)
      (settled : Error.GoesOn free.1 → exchanges.foldl policy.numberAfter number = 1)
      (early : free.2.now ≤ stop) (same : halted = (free.1, free.2.stoppedAt stop))
  | interrupted {exchanges : List Exchange}
      (transcript : Transcript before exchanges halted.2.peer)
      (unread : ∀ finish, ¬policy.Reads stop number exchanges finish) {error : Error}
      (failed : halted.1 = .error error) (because : stopped error) (reached : halted.2.now = stop)
      (late : stop ≤ free.2.now) (sent : halted.2.peer.sent <+: free.2.peer.sent)
  | reading {exchanges : List Exchange} (transcript : Transcript before exchanges halted.2.peer)
      (reads : policy.Reads stop number exchanges halted.2.now)
      (ending : halted = (free.1, free.2.stoppedAt stop) ∨
        ∃ error, halted.1 = .error error ∧ stopped error)
      (sent : halted.2.peer.sent <+: free.2.peer.sent)

theorem Cut.after {policy : RetryPolicy} {stopped : Error → Prop} {stop number : Nat}
    {before middle : Wire} {first : List Exchange} (transcript : Transcript before first middle)
    (unread : ∀ finish, ¬policy.Reads stop number first finish)
    {free halted : Except Error α × World Wire}
    (cut : Cut policy stopped stop (first.foldl policy.numberAfter number) middle free halted) :
    Cut policy stopped stop number before free halted := by
  cases cut with
  | before later unreadLater settled early same =>
    refine .before (transcript.append later) (RetryPolicy.not_reads_append unread unreadLater) ?_
      early same
    intro goesOn
    rw [List.foldl_append]
    exact settled goesOn
  | interrupted later unreadLater failed because reached late sent =>
    exact .interrupted (transcript.append later) (RetryPolicy.not_reads_append unread unreadLater)
      failed because reached late sent
  | @reading exchanges later reads ending sent =>
    have some : exchanges ≠ [] := by
      rintro rfl
      exact RetryPolicy.not_reads_nil reads
    exact .reading (transcript.append later) ((RetryPolicy.reads_append_iff some).mpr reads)
      ending sent

/-- The ends of two runs from the same world, of which the second was stopped before: it takes no
time and sends nothing, and ends as the first one unless that one had to wait or to send. -/
inductive Late (stopped : Error → Prop) (stop : Nat) (w : World Wire)
    (free halted : Except Error α × World Wire) : Prop where
  | instant (still : free.2.now = w.now) (silent : free.2.peer = w.peer)
      (same : halted = (free.1, free.2.stoppedAt stop))
  | refused {error : Error} (failed : halted.1 = .error error) (because : stopped error)
      (still : halted.2.now = w.now) (silent : halted.2.peer = w.peer)

namespace Late

variable {stopped : Error → Prop} {stop : Nat} {w middle : World Wire}
  {free halted : Except Error α × World Wire} (late : Late stopped stop middle free halted)

include late

theorem of_still (still : middle.now = w.now) (silent : middle.peer = w.peer) :
    Late stopped stop w free halted := by
  cases late with
  | instant later silentLater same =>
    exact .instant (later.trans still) (silentLater.trans silent) same
  | refused failed because later silentLater =>
    exact .refused failed because (later.trans still) (silentLater.trans silent)

theorem cut {policy : RetryPolicy} {number : Nat} {before : Wire} {exchanges : List Exchange}
    (transcript : Transcript before exchanges middle.peer)
    (reads : policy.Reads stop number exchanges middle.now)
    (sent : middle.peer.sent <+: free.2.peer.sent) :
    Cut policy stopped stop number before free halted := by
  cases late with
  | instant still silent same =>
    subst same
    rw [← silent] at transcript
    rw [← still] at reads
    exact .reading transcript reads (Or.inl rfl) (List.prefix_refl _)
  | refused failed because still silent =>
    rw [← silent] at transcript sent
    rw [← still] at reads
    exact .reading transcript reads (Or.inr ⟨_, failed, because⟩) sent

end Late

/-- Whenever the host asks to stop, the operation is over by then, or ends then, or ends with the
body that is being read. -/
structure Interruptible (op : Op Wire α) (policy : RetryPolicy) (stopped : Error → Prop) :
    Prop where
  leads : ∀ w : World Wire, w.Leads (op w).2
  cut : ∀ (w : World Wire) (stop : Nat), w.stopAt = none → w.now ≤ stop →
    Cut policy stopped stop 1 w.peer (op w) (op (w.stoppedAt stop))
  late : ∀ (w : World Wire) (stop : Nat), w.stopAt = none → stop < w.now →
    Late stopped stop w (op w) (op (w.stoppedAt stop))

namespace Interruptible

variable {policy : RetryPolicy} {stopped : Error → Prop}

theorem of_instant {op : Op Wire α}
    (still : ∀ w, (op w).2.now = w.now ∧ (op w).2.stopAt = w.stopAt ∧ (op w).2.peer = w.peer)
    (unaware : ∀ w stop, op (w.stoppedAt stop) = ((op w).1, (op w).2.stoppedAt stop)) :
    Interruptible op policy stopped := by
  constructor
  · intro w
    obtain ⟨now, asked, peer⟩ := still w
    exact .of_peer_eq (Nat.le_of_eq now.symm) asked peer
  · intro w stop _ early
    obtain ⟨now, _, peer⟩ := still w
    have transcript : Transcript w.peer [] (op w).2.peer := by
      rw [peer]
      exact .none _
    exact .before transcript (fun _ => RetryPolicy.not_reads_nil) (fun _ => rfl)
      (Nat.le_trans (Nat.le_of_eq now) early) (unaware w stop)
  · intro w stop _ _
    obtain ⟨now, _, peer⟩ := still w
    exact .instant now peer (unaware w stop)

theorem pure (value : α) : Interruptible (Pure.pure value : Op Wire α) policy stopped :=
  of_instant (fun _ => ⟨rfl, rfl, rfl⟩) fun _ _ => rfl

theorem fail (error : Error) : Interruptible (Operation.fail error : Op Wire α) policy stopped :=
  of_instant (fun _ => ⟨rfl, rfl, rfl⟩) fun _ _ => rfl

theorem ofExcept (result : Except Error α) :
    Interruptible (Operation.ofExcept result : Op Wire α) policy stopped :=
  of_instant (fun _ => ⟨rfl, rfl, rfl⟩) fun _ _ => rfl

theorem now : Interruptible (Operation.now : Op Wire Nat) policy stopped :=
  of_instant (fun _ => ⟨rfl, rfl, rfl⟩) fun _ _ => rfl

theorem record (step : String) (state : Json) :
    Interruptible (Operation.record step state : Op Wire Unit) policy stopped :=
  of_instant (fun _ => ⟨rfl, rfl, rfl⟩) fun _ _ => rfl

/-- What follows an operation whatever its outcome, and hands on the error of a stop and every error
after which nothing goes on. A stop during the first step ends both, but for a body that is read to
its end; what the first step sends is a part of what both send. -/
theorem bind_outcome {first : Op Wire α} {next : Except Error α → Op Wire β}
    (head : Interruptible first policy stopped)
    (handsOn : ∀ error, stopped error ∨ error.isNotFound = false →
      next (.error error) = Operation.fail error)
    (tail : ∀ result, Interruptible (next result) policy stopped) :
    Interruptible (first.outcome >>= next : Op Wire β) policy stopped := by
  have runs : ∀ w, (first.outcome >>= next : Op Wire β) w = next (first w).1 (first w).2 :=
    fun w => bind_of_ok (run_outcome first w) next
  constructor
  · exact leads_bind head.leads fun result => (tail result).leads
  · intro w stop running early
    rw [runs, runs]
    have kept := (head.leads w).asked.trans running
    have later := (tail (first w).1).leads (first w).2
    cases head.cut w stop running early with
    | before transcript unread settled ended same =>
      rw [same]
      by_cases goesOn : Error.GoesOn (first w).1
      · have cut := (tail (first w).1).cut _ stop kept ended
        rw [← settled goesOn] at cut
        exact cut.after transcript unread
      · obtain ⟨error, failed, present⟩ : ∃ error, (first w).1 = .error error ∧
            ¬error.isNotFound = true := by
          simpa [Error.GoesOn] using goesOn
        rw [failed, handsOn error (Or.inr (by simpa using present))]
        refine .before transcript unread ?_ ended rfl
        intro found
        exact absurd (found error rfl) present
    | interrupted transcript unread failed because reached late sent =>
      rw [failed, handsOn _ (Or.inl because)]
      exact .interrupted transcript unread rfl because reached (Nat.le_trans late later.forward)
        (sent.trans later.sent_grows)
    | reading transcript reads ending sent =>
      rcases ending with same | ⟨error, failed, because⟩
      · rw [same] at transcript reads ⊢
        have rest := (tail (first w).1).late _ stop kept reads.late
        exact rest.cut transcript reads later.sent_grows
      · rw [failed, handsOn error (Or.inl because)]
        exact .reading transcript reads (Or.inr ⟨error, rfl, because⟩)
          (sent.trans later.sent_grows)
  · intro w stop running past
    rw [runs, runs]
    have kept := (head.leads w).asked.trans running
    cases head.late w stop running past with
    | instant still silent same =>
      rw [same]
      have rest := (tail (first w).1).late _ stop kept (by rw [still]; exact past)
      exact rest.of_still still silent
    | refused failed because still silent =>
      rw [failed, handsOn _ (Or.inl because)]
      exact .refused rfl because still silent

theorem bind {first : Op Wire α} {next : α → Op Wire β}
    (head : Interruptible first policy stopped)
    (tail : ∀ value, Interruptible (next value) policy stopped) :
    Interruptible (first >>= next) policy stopped := by
  let rest : Except Error α → Op Wire β
    | .ok value => next value
    | .error error => Operation.fail error
  have same : first >>= next = first.outcome >>= rest := by
    funext w
    rcases run : first w with ⟨error | value, middle⟩
    all_goals rw [bind_of_ok (run_outcome first w), run]
    · exact bind_of_error run next
    · exact bind_of_ok run next
  rw [same]
  apply head.bind_outcome
  · intro error _
    rfl
  · intro result
    cases result with
    | ok value => exact tail value
    | error error => exact .fail error

theorem mapError {op : Op Wire α} {change : Error → Error} {stopped' : Error → Prop}
    (interruptible : Interruptible op policy stopped)
    (kept : ∀ error, (change error).isNotFound = error.isNotFound)
    (changed : ∀ error, stopped error → stopped' (change error)) :
    Interruptible (op.mapError change) policy stopped' := by
  have goesOn : ∀ result : Except Error α,
      Error.GoesOn (result.mapError change) → Error.GoesOn result := by
    rintro result found error rfl
    rw [← kept]
    exact found _ rfl
  constructor
  · exact interruptible.leads
  · intro w stop running early
    cases interruptible.cut w stop running early with
    | before transcript unread settled ended same =>
      refine .before transcript unread (fun found => settled (goesOn _ found)) ended ?_
      unfold Operation.mapError
      rw [same]
    | interrupted transcript unread failed because reached late sent =>
      refine .interrupted transcript unread ?_ (changed _ because) reached late sent
      unfold Operation.mapError
      rw [failed]
      rfl
    | reading transcript reads ending sent =>
      refine .reading transcript reads ?_ sent
      unfold Operation.mapError
      rcases ending with same | ⟨error, failed, because⟩
      · rw [same]
        exact Or.inl rfl
      · rw [failed]
        exact Or.inr ⟨change error, rfl, changed error because⟩
  · intro w stop running past
    cases interruptible.late w stop running past with
    | instant still silent same =>
      refine .instant still silent ?_
      unfold Operation.mapError
      rw [same]
    | refused failed because still silent =>
      refine .refused ?_ (changed _ because) still silent
      unfold Operation.mapError
      rw [failed]
      rfl

theorem map {op : Op Wire α} (interruptible : Interruptible op policy stopped) (f : α → β) :
    Interruptible (f <$> op) policy stopped := by
  rw [map_eq_pure_bind]
  exact interruptible.bind fun value => .pure (f value)

end Interruptible

end Operation

open Operation (Cut Interruptible Late leads_bind)

/-- The error of a stop, before its object is named. -/
def Error.IsCancellation (error : Error) : Prop := error = { failure := .cancelled }

/-- The error of a stop that names an object of the type. -/
def Error.IsCancelled (type : String) (error : Error) : Prop :=
  ∃ id, error = { failure := .cancelled, subject := some ⟨type, id⟩ }

open Error (IsCancellation IsCancelled)

theorem Error.isNotFound_of_final {error : Error}
    (final : error.IsCancellation ∨ error.isNotFound = false) : error.isNotFound = false := by
  rcases final with rfl | present
  · rfl
  · exact present

theorem World.isStopped_of_none {σ : Type} {w : World σ} (running : w.stopAt = none) :
    w.isStopped = false := by
  unfold World.isStopped
  rw [running]

namespace Op

variable {α : Type} {policy : RetryPolicy}

theorem interruptible_fail {stopped : Error → Prop} (failure : Failure) :
    Interruptible (Op.fail failure : Op Wire α) policy stopped :=
  .fail _

theorem interruptible_about {op : Op Wire α}
    (interruptible : Interruptible op policy IsCancellation) (type : String) (id : Option String) :
    Interruptible (Op.about type id op) policy (IsCancelled type) := by
  apply interruptible.mapError
  · intro error
    unfold Error.isNotFound
    rw [Error.failure_about]
  · rintro error rfl
    exact ⟨id.getD unassignedId, rfl⟩

/-- A refusal takes no time, so the error of a stop can not come from it. -/
theorem interruptible_about_ofExcept {stopped : Error → Prop} (type : String) (id : Option String)
    (result : Except Error α) :
    Interruptible (Op.about type id (Operation.ofExcept result) : Op Wire α) policy stopped :=
  .of_instant (fun _ => ⟨rfl, rfl, rfl⟩) fun _ _ => rfl

theorem checkpoint_of_running {w : World Wire} (running : w.isStopped = false) :
    Op.checkpoint w = (.ok (), w) := by
  unfold Op.checkpoint Operation.checkpoint
  rw [running]
  rfl

theorem checkpoint_of_stopped {w : World Wire} (stopped : w.isStopped = true) :
    Op.checkpoint w = (.error { failure := .cancelled }, w) := by
  unfold Op.checkpoint Operation.checkpoint
  rw [stopped]
  rfl

theorem interruptible_checkpoint : Interruptible Op.checkpoint policy IsCancellation := by
  constructor
  · intro w
    rcases Op.checkpoint_cases w with ⟨_, run⟩ | ⟨_, run⟩
    all_goals rw [run]; exact .of_peer_eq (Nat.le_refl _) rfl rfl
  · intro w stop running early
    rw [checkpoint_of_running (World.isStopped_of_none running)]
    cases stopped : (w.stoppedAt stop).isStopped with
    | false =>
      rw [checkpoint_of_running stopped]
      exact .before (.none _) (fun _ => RetryPolicy.not_reads_nil) (fun _ => rfl) early rfl
    | true =>
      rw [checkpoint_of_stopped stopped]
      have late : stop ≤ w.now := World.isStopped_stoppedAt.mp stopped
      exact .interrupted (.none _) (fun _ => RetryPolicy.not_reads_nil) rfl rfl
        (Nat.le_antisymm early late) late (List.prefix_refl _)
  · intro w stop running past
    rw [checkpoint_of_stopped (World.isStopped_stoppedAt.mpr (Nat.le_of_lt past))]
    exact .refused rfl rfl rfl rfl

theorem pause_of_unstopped {duration : Nat} {w : World Wire} (running : w.stopAt = none) :
    Op.pause duration w = (.ok (), { w with now := w.timerEnd duration }) :=
  Op.pause_of_waits (by simp [running])

theorem pause_stoppedAt (duration stop : Nat) (w : World Wire) :
    (stop < w.timerEnd duration ∧ Op.pause duration (w.stoppedAt stop) =
        (.error { failure := .cancelled }, { w.stoppedAt stop with now := max w.now stop })) ∨
      (w.timerEnd duration ≤ stop ∧ Op.pause duration (w.stoppedAt stop) =
        (.ok (), World.stoppedAt { w with now := w.timerEnd duration } stop)) := by
  have asked : (w.stoppedAt stop).stopAt = some stop := rfl
  by_cases soon : stop < w.timerEnd duration
  · exact Or.inl ⟨soon, Op.pause_of_stopped asked soon⟩
  · refine Or.inr ⟨Nat.le_of_not_lt soon, Op.pause_of_waits ?_⟩
    rintro time ⟨⟩
    exact Nat.le_of_not_lt soon

theorem cut_after_pause {number stop : Nat} (duration : Nat) {next : Op Wire α}
    (leads : ∀ w : World Wire, w.Leads (next w).2)
    (cut : ∀ w : World Wire, w.stopAt = none → w.now ≤ stop →
      Cut policy IsCancellation stop number w.peer (next w) (next (w.stoppedAt stop)))
    {w : World Wire} (running : w.stopAt = none) (early : w.now ≤ stop) :
    Cut policy IsCancellation stop number w.peer ((Op.pause duration >>= fun _ => next) w)
      ((Op.pause duration >>= fun _ => next) (w.stoppedAt stop)) := by
  let later : World Wire := { w with now := w.timerEnd duration }
  rw [Operation.bind_of_ok (pause_of_unstopped running)]
  rcases pause_stoppedAt duration stop w with ⟨soon, run⟩ | ⟨inTime, run⟩
  · rw [Operation.bind_of_error run]
    have rest := leads later
    exact .interrupted (.none _) (fun _ => RetryPolicy.not_reads_nil) rfl rfl
      (Nat.max_eq_right early) (Nat.le_trans (Nat.le_of_lt soon) rest.forward) rest.sent_grows
  · rw [Operation.bind_of_ok run]
    exact cut later running inTime

theorem interruptible_pause (duration : Nat) :
    Interruptible (Op.pause duration) policy IsCancellation := by
  have trivially : Interruptible (Pure.pure () : Op Wire Unit) policy IsCancellation := .pure ()
  constructor
  · exact leads_pause duration
  · intro w stop running early
    have cut := cut_after_pause duration trivially.leads (fun w => trivially.cut w stop) running early
    rwa [bind_pure_unit] at cut
  · intro w stop running past
    have soon : stop < w.timerEnd duration := Nat.lt_of_lt_of_le past (w.now_le_timerEnd duration)
    have asked : (w.stoppedAt stop).stopAt = some stop := rfl
    rw [Op.pause_of_stopped asked soon]
    exact .refused rfl rfl (Nat.max_eq_left (Nat.le_of_lt past)) rfl

end Op

namespace Wait

variable {ρ : Type} {policy : RetryPolicy} {read : Op Wire (Observation ρ)}

/-- An object does not count as gone because the host asked to stop. -/
theorem interruptible_observe (reads : Interruptible read policy IsCancellation)
    (targets : List LifecycleState) :
    Interruptible (observe read targets) policy IsCancellation := by
  apply reads.bind_outcome
  · intro error final
    simp [Error.isNotFound_of_final final]
  · intro result
    cases result with
    | ok observation => exact .pure observation
    | error error =>
      simp only
      split
      · exact .pure _
      · exact .fail error

theorem interruptible_loop (reads : Interruptible read policy IsCancellation)
    (targets : List LifecycleState) (options : WaitOptions) (start left : Nat) :
    Interruptible (loop read targets options start left) policy IsCancellation := by
  induction left with
  | zero =>
    unfold loop
    apply Interruptible.bind .now
    intro now
    exact Op.interruptible_fail _
  | succ left ih =>
    unfold loop
    apply Interruptible.bind Op.interruptible_checkpoint
    intro _
    apply Interruptible.bind (interruptible_observe reads targets)
    intro observation
    split
    · exact .pure observation
    · apply Interruptible.bind .now
      intro now
      simp only
      split
      · exact Op.interruptible_fail _
      · exact .bind (Op.interruptible_pause _) fun _ => ih

/-- The start of a wait and the number of its reads do not depend on the stop request. -/
theorem interruptible_awaitState (reads : Interruptible read policy IsCancellation)
    (targets : List LifecycleState) (options : WaitOptions) :
    Interruptible (awaitState read targets options) policy IsCancellation := by
  have loops := interruptible_loop reads targets options
  constructor
  · intro w
    exact (loops w.now (readLimit options w.peer)).leads w
  · intro w
    exact (loops w.now (readLimit options w.peer)).cut w
  · intro w
    exact (loops w.now (readLimit options w.peer)).late w

end Wait

namespace Http

variable {policy : RetryPolicy} {request : Request}

theorem bodyDelay_delivered_le (answer : Answer) : answer.delivered.bodyDelay ≤ requestTimeout := by
  unfold Answer.delivered
  split
  · exact Nat.zero_le _
  · split
    · next response _ =>
      show (response.within (requestTimeout - answer.delay)).bodyDelay ≤ requestTimeout
      unfold Response.within
      split
      · exact Nat.sub_le _ _
      · next short => exact Nat.le_trans (Nat.le_of_not_lt short) (Nat.sub_le _ _)
    · exact Nat.zero_le _

theorem receive_afterSending (request : Request) (w : World Wire) :
    receive (nextExchange request w).answer.delivered
        (afterSending request w (nextExchange request w).arrival) =
      (conclude (nextExchange request w).answer.delivered,
        afterSending request w (nextExchange request w).completion) := by
  rw [run_receive, timerEnd_of_le (bodyDelay_delivered_le _)]
  rfl

theorem afterSending_stoppedAt (request : Request) (w : World Wire) (stop time : Nat) :
    afterSending request (w.stoppedAt stop) time = (afterSending request w time).stoppedAt stop :=
  rfl

theorem nextExchange_stoppedAt (request : Request) (w : World Wire) (stop : Nat) :
    nextExchange request (w.stoppedAt stop) = nextExchange request w := rfl

section Exchange

variable {number stop : Nat} {w : World Wire}

theorem cut_receive {stopped : Error → Prop}
    (final : policy.pauseAfter? number (nextExchange request w).answer.delivered = none)
    (inTime : (nextExchange request w).arrival ≤ stop) :
    let arrived := afterSending request w (nextExchange request w).arrival
    Cut policy stopped stop number w.peer
      (receive (nextExchange request w).answer.delivered arrived)
      (receive (nextExchange request w).answer.delivered (arrived.stoppedAt stop)) := by
  have free := receive_afterSending request w
  have halted := receive_afterSending request (w.stoppedAt stop)
  rw [nextExchange_stoppedAt, afterSending_stoppedAt, afterSending_stoppedAt] at halted
  simp only
  rw [free, halted]
  have sent := transcript_afterSending request w
  by_cases ended : (nextExchange request w).completion ≤ stop
  · refine .before (sent _) ?_ ?_ ended rfl
    · intro finish reads
      obtain ⟨_, _, unread, rfl⟩ := RetryPolicy.reads_singleton_iff.mp reads
      exact absurd ended (Nat.not_le.mpr unread)
    · intro _
      simp [RetryPolicy.numberAfter, final]
  · refine .reading (sent (nextExchange request w).completion) ?_ (Or.inl rfl) (List.prefix_refl _)
    exact RetryPolicy.reads_singleton_iff.mpr ⟨final, inTime, Nat.lt_of_not_le ended, rfl⟩

theorem cut_exchange (policy : RetryPolicy) (request : Request) (number left : Nat)
    (running : w.stopAt = none) (early : w.now ≤ stop) :
    Cut policy IsCancellation stop number w.peer (exchange policy request number left w)
      (exchange policy request number left (w.stoppedAt stop)) := by
  induction left generalizing number w with
  | zero =>
    refine .before (.none _) (fun _ => RetryPolicy.not_reads_nil) ?_ early rfl
    intro goesOn
    exact absurd (goesOn _ rfl) (by decide)
  | succ left ih =>
    have free := attempt_of_arrival (World.isStopped_of_none running) request
      (by simp [running])
    have leads : (afterSending request w (nextExchange request w).arrival).Leads
        (exchange policy request number (left + 1) w).2 := leads_of_attempt free
    have sent := transcript_afterSending request w
    rcases attempt_cases request (w.stoppedAt stop) with
      ⟨stopped, run⟩ | ⟨_, inTime, run⟩ | ⟨time, asked, _, late, run⟩
    · have past : stop ≤ w.now := World.isStopped_stoppedAt.mp stopped
      rw [exchange_of_error run]
      have whole := (leads_exchange policy request number (left + 1) w)
      exact .interrupted (.none _) (fun _ => RetryPolicy.not_reads_nil) rfl rfl
        (Nat.le_antisymm early past) (Nat.le_trans past whole.forward) whole.sent_grows
    · have inTime : (nextExchange request w).arrival ≤ stop := inTime stop rfl
      rw [nextExchange_stoppedAt, afterSending_stoppedAt] at run
      cases decision : policy.pauseAfter? number (nextExchange request w).answer.delivered with
      | none =>
        rw [exchange_of_final free decision, exchange_of_final run decision]
        exact cut_receive decision inTime
      | some delay =>
        rw [exchange_of_retry free decision, exchange_of_retry run decision]
        let arrived := afterSending request w (nextExchange request w).arrival
        have unstopped : arrived.stopAt = none := running
        have rest := Op.cut_after_pause delay (leads_exchange policy request _ left)
          (fun _ => ih (RetryPolicy.nextAttempt number)) unstopped inTime
        refine Cut.after (sent arrived.now) ?_ ?_
        · intro finish reads
          obtain ⟨final, _⟩ := RetryPolicy.reads_singleton_iff.mp reads
          rw [decision] at final
          cases final
        · have retried : policy.numberAfter number (nextExchange request w) =
              RetryPolicy.nextAttempt number := by simp [RetryPolicy.numberAfter, decision]
          rw [List.foldl_cons, retried]
          exact rest
    · obtain rfl : stop = time := Option.some.inj asked
      rw [nextExchange_stoppedAt] at late
      rw [exchange_of_error run]
      refine .interrupted (sent stop) ?_ rfl rfl rfl
        (Nat.le_trans (Nat.le_of_lt late) leads.forward) leads.sent_grows
      intro finish reads
      obtain ⟨_, inTime, _⟩ := RetryPolicy.reads_singleton_iff.mp reads
      exact absurd late (Nat.not_lt.mpr inTime)

theorem late_exchange (policy : RetryPolicy) (request : Request) (number left : Nat)
    (past : stop < w.now) :
    Late IsCancellation stop w (exchange policy request number left w)
      (exchange policy request number left (w.stoppedAt stop)) := by
  cases left with
  | zero => exact .instant rfl rfl rfl
  | succ left =>
    have stopped : (w.stoppedAt stop).isStopped = true :=
      World.isStopped_stoppedAt.mpr (Nat.le_of_lt past)
    rw [exchange_of_error (attempt_of_stopped stopped)]
    exact .refused rfl rfl rfl rfl

end Exchange

/-- The number of the attempts does not depend on the stop request. -/
theorem interruptible_send (policy : RetryPolicy) (request : Request) :
    Interruptible (send policy request) policy IsCancellation where
  leads w := leads_exchange policy request 1 (policy.attemptLimit w.peer) w
  cut w _ running early := cut_exchange policy request 1 (policy.attemptLimit w.peer) running early
  late w _ _ past := late_exchange policy request 1 (policy.attemptLimit w.peer) past

end Http

namespace Session

variable {α : Type} (session : Session) (method : Method) (path : String) (body : Option Json)

theorem interruptible_call (decode : Decoder α) :
    Interruptible (session.call method path body decode) session.context.client.retry
      IsCancellation :=
  (interruptible_send _ _).bind fun _ => .ofExcept _

theorem interruptible_tell :
    Interruptible (session.tell method path body) session.context.client.retry IsCancellation :=
  (interruptible_send _ _).bind fun _ => .pure ()

end Session

end Provisioner

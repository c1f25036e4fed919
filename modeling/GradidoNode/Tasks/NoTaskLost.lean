import GradidoNode.Library.Run
import GradidoNode.Tasks.CPUSheduler

/-!
# Tasks that the scheduler loses

Every step moves a task from one place to another. What can go wrong is that a worker stores its
null result over a task, that it begins to wait with a task whose signal is gone, and that a
task comes to the pending tasks after the last worker has looked there.
-/

namespace GradidoNode

open Library

namespace Tasks

namespace CPUSheduler

variable {threadCount : Nat} {Task : Type} {scheduler next : CPUSheduler threadCount Task}

/-! ## Workers -/

/-- A worker that is announced as free, or that a call has taken from the free ones. -/
def Listed (scheduler : CPUSheduler threadCount Task) (worker : Fin threadCount) : Prop :=
  worker ∈ scheduler.freeWorkerThreads ∨ ∃ task, scheduler.calls task = .popped worker

/-- What the position of a worker says of its task. -/
structure Consistent (scheduler : CPUSheduler threadCount Task) (worker : Fin threadCount) :
    Prop where
  inFunction : (scheduler.threads worker).position ≠ .loopTest →
    (scheduler.threads worker).thread.phase = .threadFunction
  busy : (scheduler.threads worker).position ≠ .loopTest →
    (scheduler.threads worker).position ≠ .assigning none →
      (scheduler.threads worker).unrun = false ∧ ¬ scheduler.Listed worker
  stored : (scheduler.threads worker).unrun = true →
    (scheduler.threads worker).waitingTask ≠ none ∧ ¬ scheduler.Listed worker
  empty : (scheduler.threads worker).position = .loopTest →
    (scheduler.threads worker).unrun = false → (scheduler.threads worker).waitingTask = none

@[simp] theorem threads_setThread_self (scheduler : CPUSheduler threadCount Task)
    (worker : Fin threadCount) (thread : CPUShedulerThread Task) :
    (scheduler.setThread worker thread).threads worker = thread := Function.update_self ..

theorem threads_setThread_of_ne {worker other : Fin threadCount} (differ : other ≠ worker)
    (thread : CPUShedulerThread Task) :
    (scheduler.setThread worker thread).threads other = scheduler.threads other :=
  Function.update_of_ne differ ..

/-- Only the own state of a worker counts, and whether it is listed. -/
theorem Consistent.congr {worker : Fin threadCount} (consistent : scheduler.Consistent worker)
    (threads : next.threads worker = scheduler.threads worker)
    (listed : next.Listed worker → scheduler.Listed worker) : next.Consistent worker where
  inFunction := by
    rw [threads]
    exact consistent.inFunction
  busy := by
    rw [threads]
    exact fun moved notNone => (consistent.busy moved notNone).imp_right (fun free => free ∘ listed)
  stored := by
    rw [threads]
    exact fun unrun => (consistent.stored unrun).imp_right (fun free => free ∘ listed)
  empty := by
    rw [threads]
    exact consistent.empty

/-- The members that a worker has after a step decide whether it is consistent. -/
theorem consistent_of_threads {worker : Fin threadCount} {thread : CPUShedulerThread Task}
    (threads : scheduler.threads worker = thread)
    (inFunction : thread.position ≠ .loopTest → thread.thread.phase = .threadFunction)
    (busy : thread.position ≠ .loopTest → thread.position ≠ .assigning none →
      thread.unrun = false ∧ ¬ scheduler.Listed worker)
    (stored : thread.unrun = true → thread.waitingTask ≠ none ∧ ¬ scheduler.Listed worker)
    (empty : thread.position = .loopTest → thread.unrun = false → thread.waitingTask = none) :
    scheduler.Consistent worker := by
  subst threads
  exact ⟨inFunction, busy, stored, empty⟩

/-- A worker in the middle of `ThreadFunction` has no task that was not run. -/
theorem consistent_of_busy {worker : Fin threadCount} {thread : CPUShedulerThread Task}
    (moved : thread.position ≠ .loopTest) (inFunction : thread.thread.phase = .threadFunction)
    (isRun : thread.unrun = false) (notListed : ¬ scheduler.Listed worker) :
    (scheduler.setThread worker thread).Consistent worker := by
  apply consistent_of_threads (threads_setThread_self scheduler worker thread)
  · exact fun _ => inFunction
  · exact fun _ _ => ⟨isRun, notListed⟩
  · simp [isRun]
  · exact fun loopTest => absurd loopTest moved

/-- A worker in `ThreadFunction` is not parked. -/
theorem Consistent.not_parked {worker : Fin threadCount} (consistent : scheduler.Consistent worker)
    (moved : (scheduler.threads worker).position ≠ .loopTest) :
    (scheduler.threads worker).thread.phase ≠ .parked := by
  rw [consistent.inFunction moved]
  decide

/-! ## Places -/

variable [DecidableEq Task]

@[simp] theorem threads_setCall (scheduler : CPUSheduler threadCount Task) (task : Task)
    (phase : CallPhase threadCount) : (scheduler.setCall task phase).threads = scheduler.threads :=
  rfl

@[simp] theorem calls_setCall_self (scheduler : CPUSheduler threadCount Task) (task : Task)
    (phase : CallPhase threadCount) : (scheduler.setCall task phase).calls task = phase :=
  Function.update_self ..

theorem calls_setCall_of_ne {task other : Task} (differ : other ≠ task)
    (phase : CallPhase threadCount) :
    (scheduler.setCall task phase).calls other = scheduler.calls other :=
  Function.update_of_ne differ ..

/-- A call that goes on moves its task from one hand to another. -/
theorem places_setCall_self (scheduler : CPUSheduler threadCount Task) (task : Task)
    (phase : CallPhase threadCount) :
    (scheduler.setCall task phase).places task + inHand (scheduler.calls task) =
      scheduler.places task + inHand phase := by
  unfold places setCall
  dsimp only
  rw [Function.update_self]
  omega

/-- The tasks of other calls stay where they are. -/
theorem places_setCall_of_ne {task other : Task} (differ : other ≠ task)
    (phase : CallPhase threadCount) :
    (scheduler.setCall task phase).places other = scheduler.places other := by
  unfold places setCall
  dsimp only
  rw [Function.update_of_ne differ]

/-- Only the worker that moves changes what is carried. -/
theorem places_setThread (scheduler : CPUSheduler threadCount Task) (worker : Fin threadCount)
    (thread : CPUShedulerThread Task) (task : Task) :
    (scheduler.setThread worker thread).places task + carried task (scheduler.threads worker) =
      scheduler.places task + carried task thread := by
  have split (threads : Fin threadCount → CPUShedulerThread Task) :
      (Finset.univ.sum fun other => carried task (threads other)) =
        carried task (threads worker) +
          (Finset.univ.erase worker).sum fun other => carried task (threads other) :=
    (Finset.add_sum_erase _ _ (Finset.mem_univ worker)).symm
  have others : ((Finset.univ.erase worker).sum fun other =>
      carried task (Function.update scheduler.threads worker thread other)) =
        (Finset.univ.erase worker).sum fun other => carried task (scheduler.threads other) := by
    apply Finset.sum_congr rfl
    intro other member
    rw [Function.update_of_ne (Finset.ne_of_mem_erase member)]
  unfold places setThread
  dsimp only
  rw [split scheduler.threads, split (Function.update scheduler.threads worker thread), others,
    Function.update_self]
  omega

/-- A run that begins is one more place. -/
theorem places_runs_self (scheduler : CPUSheduler threadCount Task) (task : Task) :
    { scheduler with
      runs := Function.update scheduler.runs task (scheduler.runs task + 1) }.places task =
        scheduler.places task + 1 := by
  unfold places
  dsimp only
  rw [Function.update_self]
  omega

/-- Runs of other tasks are no place of a task. -/
theorem places_runs_of_ne {task other : Task} (differ : other ≠ task) (runs : Nat) :
    { scheduler with runs := Function.update scheduler.runs task runs }.places other =
      scheduler.places other := by
  unfold places
  dsimp only
  rw [Function.update_of_ne differ]

/-- A task that is taken out of the list is at one place less. -/
theorem places_pendingTasks_erase {task : Task} (member : task ∈ scheduler.pendingTasks) :
    { scheduler with pendingTasks := scheduler.pendingTasks.erase task }.places task + 1 =
      scheduler.places task := by
  have positive := List.count_pos_iff.mpr member
  unfold places
  dsimp only
  rw [List.count_erase_self]
  omega

/-- The other tasks are still listed. -/
theorem places_pendingTasks_erase_of_ne {task other : Task} (differ : other ≠ task) :
    { scheduler with pendingTasks := scheduler.pendingTasks.erase task }.places other =
      scheduler.places other := by
  unfold places
  dsimp only
  rw [List.count_erase_of_ne differ]

/-- The scheduler after steps that lose no task. -/
structure Valid (scheduler : CPUSheduler threadCount Task) : Prop where
  conserved : ∀ task, scheduler.places task = if scheduler.calls task = .unscheduled then 0 else 1
  consistent : ∀ worker, scheduler.Consistent worker
  nodup : scheduler.freeWorkerThreads.Nodup
  poppedOnce : ∀ task worker, scheduler.calls task = .popped worker →
    worker ∉ scheduler.freeWorkerThreads ∧
      ∀ other, scheduler.calls other = .popped worker → other = task
  served : scheduler.AllParked → ∀ task ∈ scheduler.pendingTasks, scheduler.ready task = false
  notified : ∀ worker, (scheduler.threads worker).thread.phase = .parked →
    (scheduler.threads worker).waitingTask = none ∨ scheduler.ToBeSignalled worker

/-- A valid scheduler loses no task. -/
theorem Valid.losesNoTask (valid : scheduler.Valid) : scheduler.LosesNoTask where
  onePlace task scheduled := (valid.conserved task).trans (if_neg scheduled)
  served := valid.served
  notified := valid.notified

/-- The scheduler starts valid, with nothing scheduled. -/
theorem valid_start (ready : Task → Bool) :
    (start ready : CPUSheduler threadCount Task).Valid where
  conserved task := by simp [places, start, inHand, carried]
  consistent worker :=
    ⟨fun moved => absurd rfl moved, fun moved => absurd rfl moved, fun unrun => (by cases unrun),
      fun _ _ => rfl⟩
  nodup := List.nodup_finRange threadCount
  poppedOnce task worker popped := by cases popped
  served _ task member := by cases member
  notified worker parked := by cases parked

/-! ## Steps of a worker -/

/-- A step of a worker. `base` has what the step changes besides. -/
theorem Valid.workerStep (valid : scheduler.Valid) (base : CPUSheduler threadCount Task)
    {worker : Fin threadCount} {thread : CPUShedulerThread Task}
    (threads : base.threads = scheduler.threads) (calls : base.calls = scheduler.calls)
    (free : ∀ other, other ≠ worker →
      (other ∈ base.freeWorkerThreads ↔ other ∈ scheduler.freeWorkerThreads))
    (nodup : base.freeWorkerThreads.Nodup)
    (notPopped : ∀ task, scheduler.calls task = .popped worker → worker ∉ base.freeWorkerThreads)
    (conserved : ∀ task, base.places task + carried task thread =
      scheduler.places task + carried task (scheduler.threads worker))
    (consistent : (base.setThread worker thread).Consistent worker)
    (served : (base.setThread worker thread).AllParked →
      ∀ task ∈ base.pendingTasks, base.ready task = false)
    (notified : thread.thread.phase = .parked →
      thread.waitingTask = none ∨ scheduler.ToBeSignalled worker) :
    (base.setThread worker thread).Valid where
  conserved task := by
    have same : (base.setThread worker thread).calls = scheduler.calls := calls
    have before := valid.conserved task
    have moved := places_setThread base worker thread task
    have whole := conserved task
    rw [threads] at moved
    rw [same, ← before]
    omega
  consistent other := by
    by_cases isWorker : other = worker
    · rw [isWorker]
      exact consistent
    · apply (valid.consistent other).congr
      · rw [threads_setThread_of_ne isWorker, threads]
      · rintro (isFree | ⟨task, popped⟩)
        · exact Or.inl ((free other isWorker).mp isFree)
        · exact Or.inr ⟨task, calls ▸ popped⟩
  nodup := nodup
  poppedOnce task other popped := by
    have before : scheduler.calls task = .popped other := calls ▸ popped
    obtain ⟨notFree, once⟩ := valid.poppedOnce task other before
    refine ⟨?_, fun also alsoPopped => once also (calls ▸ alsoPopped)⟩
    by_cases isWorker : other = worker
    · rw [isWorker] at before ⊢
      exact notPopped task before
    · exact fun isFree => notFree ((free other isWorker).mp isFree)
  served := served
  notified other parked := by
    have signalled (task : Task) (stored : scheduler.calls task = .stored other) :
        (base.setThread worker thread).ToBeSignalled other :=
      ⟨task, (congrFun calls task).trans stored⟩
    by_cases isWorker : other = worker
    · subst isWorker
      rw [threads_setThread_self] at parked ⊢
      exact (notified parked).imp_right (fun ⟨task, stored⟩ => signalled task stored)
    · rw [threads_setThread_of_ne isWorker, threads] at parked ⊢
      exact (valid.notified other parked).imp_right (fun ⟨task, stored⟩ => signalled task stored)

omit [DecidableEq Task] in
/-- As long as a worker is not parked, nothing is left to parked workers. -/
theorem not_allParked {worker : Fin threadCount} {thread : CPUShedulerThread Task}
    (notParked : thread.thread.phase ≠ .parked) :
    ¬ (scheduler.setThread worker thread).AllParked := by
  intro allParked
  have parked := (allParked worker).2
  rw [threads_setThread_self] at parked
  exact notParked parked

/-- A step that changes nothing but the worker, and does not park it. -/
theorem Valid.moveWorker (valid : scheduler.Valid) {worker : Fin threadCount}
    {thread : CPUShedulerThread Task} (notParked : thread.thread.phase ≠ .parked)
    (conserved : ∀ task, carried task thread = carried task (scheduler.threads worker))
    (consistent : (scheduler.setThread worker thread).Consistent worker) :
    (scheduler.setThread worker thread).Valid := by
  apply valid.workerStep scheduler rfl rfl (fun _ _ => Iff.rfl) valid.nodup
  · exact fun task popped => (valid.poppedOnce task worker popped).1
  · exact fun task => congrArg _ (conserved task)
  · exact consistent
  · exact fun allParked => absurd allParked (not_allParked notParked)
  · exact fun parked => absurd parked notParked

/-- The end of a run leaves it valid. -/
theorem Valid.endRun (valid : scheduler.Valid) {worker : Fin threadCount}
    (taken : scheduler.endRun worker = some next) : next.Valid := by
  unfold CPUSheduler.endRun at taken
  split at taken
  · rename_i task position
    cases taken
    have consistent := valid.consistent worker
    have moved : (scheduler.threads worker).position ≠ .loopTest := by simp [position]
    obtain ⟨isRun, notListed⟩ := consistent.busy moved (by simp [position])
    apply valid.moveWorker
    · exact consistent.not_parked moved
    · intro other
      simp [carried, position]
    · exact consistent_of_busy (by simp) (consistent.inFunction moved) isRun notListed
  · cases taken

/-- So does its beginning. -/
theorem Valid.beginRun (valid : scheduler.Valid) {worker : Fin threadCount}
    (taken : scheduler.beginRun worker = some next) : next.Valid := by
  unfold CPUSheduler.beginRun at taken
  split at taken
  · rename_i task position waits
    split at taken
    · rename_i inFunction
      cases taken
      have consistent := valid.consistent worker
      have unrun : (scheduler.threads worker).unrun = true := by
        by_contra isRun
        cases waits.symm.trans (consistent.empty position (Bool.not_eq_true _ ▸ isRun))
      have notListed := (consistent.stored unrun).2
      have notParked : (scheduler.threads worker).thread.phase ≠ .parked := by
        rw [inFunction]
        decide
      apply valid.workerStep { scheduler with
        runs := Function.update scheduler.runs task (scheduler.runs task + 1) }
        rfl rfl (fun _ _ => Iff.rfl) valid.nodup
      · exact fun other popped => (valid.poppedOnce other worker popped).1
      · intro other
        by_cases same : other = task
        · subst same
          rw [places_runs_self]
          simp [carried, position, waits, unrun]
        · rw [places_runs_of_ne same]
          simp [carried, position, waits, Ne.symm same]
      · exact consistent_of_busy (by simp) inFunction rfl notListed
      · exact fun allParked => absurd allParked (not_allParked notParked)
      · exact fun parked => absurd parked notParked
    · cases taken
  · cases taken

/-- A worker that looks for work finds a pending task or none. -/
theorem Valid.look (valid : scheduler.Valid) {worker : Fin threadCount}
    (taken : scheduler.look worker = some next) : next.Valid := by
  unfold CPUSheduler.look at taken
  have consistent := valid.consistent worker
  split at taken
  · rename_i task position found
    cases taken
    have moved : (scheduler.threads worker).position ≠ .loopTest := by simp [position]
    obtain ⟨isRun, notListed⟩ := consistent.busy moved (by simp [position])
    have member := List.mem_of_find?_eq_some found
    apply valid.workerStep { scheduler with pendingTasks := scheduler.pendingTasks.erase task }
      rfl rfl (fun _ _ => Iff.rfl) valid.nodup
    · exact fun other popped => (valid.poppedOnce other worker popped).1
    · intro other
      by_cases same : other = task
      · subst same
        rw [← places_pendingTasks_erase member]
        simp [carried, position, isRun]
      · rw [places_pendingTasks_erase_of_ne same]
        simp [carried, position, isRun, Ne.symm same]
    · exact consistent_of_busy (by simp) (consistent.inFunction moved) isRun notListed
    · exact fun allParked => absurd allParked (not_allParked (consistent.not_parked moved))
    · exact fun parked => absurd parked (consistent.not_parked moved)
  · rename_i position none
    cases taken
    have moved : (scheduler.threads worker).position ≠ .loopTest := by simp [position]
    obtain ⟨isRun, notListed⟩ := consistent.busy moved (by simp [position])
    apply valid.moveWorker
    · exact consistent.not_parked moved
    · intro other
      simp [carried, position]
    · exact consistent_of_busy (by simp) (consistent.inFunction moved) isRun notListed
  · cases taken

/-- A worker without work is listed as free. -/
theorem Valid.enlist (valid : scheduler.Valid) {worker : Fin threadCount}
    (taken : scheduler.enlist worker = some next) : next.Valid := by
  unfold CPUSheduler.enlist at taken
  split at taken
  · rename_i position
    cases taken
    have consistent := valid.consistent worker
    have moved : (scheduler.threads worker).position ≠ .loopTest := by simp [position]
    obtain ⟨isRun, notListed⟩ := consistent.busy moved (by simp [position])
    apply valid.workerStep { scheduler with
      freeWorkerThreads := scheduler.freeWorkerThreads ++ [worker] } rfl rfl
    · intro other differ
      simp [differ]
    · apply List.nodup_append.mpr
      refine ⟨valid.nodup, List.nodup_singleton worker, ?_⟩
      intro other isFree also member
      cases List.mem_singleton.mp member
      exact fun same => notListed (Or.inl (same ▸ isFree))
    · exact fun task popped => absurd (Or.inr ⟨task, popped⟩) notListed
    · intro task
      simp [carried, position, places]
    · constructor
      · simp [consistent.inFunction moved]
      · simp
      · simp [isRun]
      · simp
    · exact fun allParked => absurd allParked (not_allParked (consistent.not_parked moved))
    · exact fun parked => absurd parked (consistent.not_parked moved)
  · cases taken

/-- A task is assigned to a worker that is free, and not to one that has a task already. -/
theorem Valid.assign (valid : scheduler.Valid) {worker : Fin threadCount}
    (noneLost : scheduler.LosesNone (.assign worker))
    (taken : scheduler.assign worker = some next) : next.Valid := by
  unfold CPUSheduler.assign at taken
  split at taken
  · rename_i task position
    cases taken
    have consistent := valid.consistent worker
    have moved : (scheduler.threads worker).position ≠ .loopTest := by simp [position]
    apply valid.moveWorker
    · exact consistent.not_parked moved
    · cases task with
      | none =>
        intro other
        simp [carried, position, noneLost position]
      | some task =>
        intro other
        simp [carried, position, (consistent.busy moved (by simp [position])).1]
    · constructor
      · simp
      · simp
      · cases task with
        | none => simp
        | some task =>
          simp only [threads_setThread_self]
          exact fun _ => ⟨by simp, (consistent.busy moved (by simp [position])).2⟩
      · simp
  · cases taken

/-- `ThreadFunction` is left where no task waits. -/
theorem Consistent.position_of_run {worker : Fin threadCount}
    (consistent : scheduler.Consistent worker) {event : RunEvent}
    (taken : scheduler.run worker event = some next) :
    (scheduler.threads worker).position = .loopTest := by
  by_contra moved
  unfold CPUSheduler.run at taken
  obtain ⟨thread, stepped, rest⟩ := Option.bind_eq_some_iff.mp taken
  rcases Thread.leaves_of_step stepped (consistent.inFunction moved) with ⟨ret, rfl⟩ | rfl
  · simp [moved] at rest
  · simp at rest

/-- All that a step of `Thread::run` does to the scheduler. -/
theorem run_cases {worker : Fin threadCount} {event : RunEvent}
    (taken : scheduler.run worker event = some next) :
    ∃ thread, (scheduler.threads worker).thread.step true event = some thread ∧
      next = scheduler.setThread worker { scheduler.threads worker with thread := thread } := by
  unfold CPUSheduler.run at taken
  obtain ⟨thread, stepped, rest⟩ := Option.bind_eq_some_iff.mp taken
  refine ⟨thread, stepped, ?_⟩
  cases event with
  | returns ret =>
    dsimp only at rest
    split at rest
    · exact (Option.some.inj rest).symm
    · cases rest
  | throws => cases rest
  | _ => exact (Option.some.inj rest).symm

/-- What a worker does by itself leaves the scheduler valid, unless a signal is lost. -/
theorem Valid.run (valid : scheduler.Valid) {worker : Fin threadCount} {event : RunEvent}
    (noneLost : scheduler.LosesNone (.run worker event))
    (taken : scheduler.run worker event = some next) : next.Valid := by
  have consistent := valid.consistent worker
  have position := consistent.position_of_run taken
  obtain ⟨thread, stepped, rfl⟩ := run_cases taken
  apply valid.workerStep scheduler rfl rfl (fun _ _ => Iff.rfl) valid.nodup
  · exact fun task popped => (valid.poppedOnce task worker popped).1
  · exact fun task => rfl
  · constructor
    · simp [position]
    · simp [position]
    · rw [threads_setThread_self]
      exact consistent.stored
    · rw [threads_setThread_self]
      exact consistent.empty
  · intro allParked
    have parked := (allParked worker).2
    rw [threads_setThread_self] at parked
    obtain ⟨rfl, before⟩ := Thread.parked_of_step stepped parked
    apply (noneLost before).2
    intro other
    refine ⟨(allParked other).1, fun differ => ?_⟩
    have otherParked := (allParked other).2
    rw [threads_setThread_of_ne differ] at otherParked
    exact otherParked
  · intro parked
    obtain ⟨rfl, before⟩ := Thread.parked_of_step stepped parked
    exact (noneLost before).1

/-! ## Steps of a call -/

/-- A step of the call for a task. `base` has what the step changes besides. -/
theorem Valid.callStep (valid : scheduler.Valid) (base : CPUSheduler threadCount Task)
    {task : Task} {phase : CallPhase threadCount} (calls : base.calls = scheduler.calls)
    (free : ∀ worker ∈ base.freeWorkerThreads, worker ∈ scheduler.freeWorkerThreads)
    (nodup : base.freeWorkerThreads.Nodup) (scheduled : phase ≠ .unscheduled)
    (conserved : base.places task + inHand phase = 1 + inHand (scheduler.calls task))
    (others : ∀ other, other ≠ task → base.places other = scheduler.places other)
    (popped : ∀ worker, phase = .popped worker →
      worker ∈ scheduler.freeWorkerThreads ∧ worker ∉ base.freeWorkerThreads)
    (consistent : ∀ worker, (base.setCall task phase).Consistent worker)
    (served : (base.setCall task phase).AllParked →
      ∀ pending ∈ base.pendingTasks, base.ready pending = false)
    (notified : ∀ worker, (base.threads worker).thread.phase = .parked →
      (base.threads worker).waitingTask = none ∨ (base.setCall task phase).ToBeSignalled worker) :
    (base.setCall task phase).Valid where
  conserved other := by
    by_cases same : other = task
    · subst same
      have moved := places_setCall_self base other phase
      rw [calls] at moved
      rw [calls_setCall_self, if_neg scheduled]
      omega
    · rw [places_setCall_of_ne same, others other same, calls_setCall_of_ne same, calls]
      exact valid.conserved other
  consistent := consistent
  nodup := nodup
  poppedOnce first worker isPopped := by
    have cases (other : Task) (isPopped : (base.setCall task phase).calls other = .popped worker) :
        (other = task ∧ phase = .popped worker) ∨ scheduler.calls other = .popped worker := by
      by_cases same : other = task
      · subst same
        rw [calls_setCall_self] at isPopped
        exact Or.inl ⟨rfl, isPopped⟩
      · rw [calls_setCall_of_ne same, calls] at isPopped
        exact Or.inr isPopped
    rcases cases first isPopped with ⟨rfl, now⟩ | before
    · refine ⟨(popped worker now).2, fun other alsoPopped => ?_⟩
      rcases cases other alsoPopped with ⟨rfl, _⟩ | before
      · rfl
      · exact absurd (popped worker now).1 (valid.poppedOnce other worker before).1
    · obtain ⟨notFree, once⟩ := valid.poppedOnce first worker before
      refine ⟨fun isFree => notFree (free worker isFree), fun other alsoPopped => ?_⟩
      rcases cases other alsoPopped with ⟨rfl, now⟩ | alsoBefore
      · exact absurd (popped worker now).1 notFree
      · exact once other alsoBefore
  served := served
  notified := notified

omit [DecidableEq Task] in
/-- A signal that is still to come for another task. -/
theorem toBeSignalled_setCall [DecidableEq Task] {task : Task} {phase : CallPhase threadCount}
    {worker : Fin threadCount} (differ : scheduler.calls task ≠ .stored worker)
    (toBeSignalled : scheduler.ToBeSignalled worker) :
    (scheduler.setCall task phase).ToBeSignalled worker := by
  obtain ⟨other, stored⟩ := toBeSignalled
  have notSame : other ≠ task := by
    rintro rfl
    exact differ stored
  exact ⟨other, (calls_setCall_of_ne notSame phase).trans stored⟩

omit [DecidableEq Task] in
/-- A worker is listed by the scheduler, or was popped by another call. -/
theorem listed_of_setCall [DecidableEq Task] {task : Task} {phase : CallPhase threadCount}
    {worker : Fin threadCount} (notPopped : phase ≠ .popped worker)
    (listed : (scheduler.setCall task phase).Listed worker) :
    worker ∈ scheduler.freeWorkerThreads ∨
      ∃ other, other ≠ task ∧ scheduler.calls other = .popped worker := by
  rcases listed with isFree | ⟨other, isPopped⟩
  · exact Or.inl isFree
  · have differ : other ≠ task := by
      rintro rfl
      rw [calls_setCall_self] at isPopped
      exact notPopped isPopped
    rw [calls_setCall_of_ne differ] at isPopped
    exact Or.inr ⟨other, differ, isPopped⟩

/-- A step of a call that changes no worker. -/
theorem Valid.moveCall (valid : scheduler.Valid) (base : CPUSheduler threadCount Task)
    {task : Task} {phase : CallPhase threadCount} (calls : base.calls = scheduler.calls)
    (threads : base.threads = scheduler.threads)
    (free : ∀ worker ∈ base.freeWorkerThreads, worker ∈ scheduler.freeWorkerThreads)
    (nodup : base.freeWorkerThreads.Nodup) (scheduled : phase ≠ .unscheduled)
    (notStored : ∀ worker, scheduler.calls task ≠ .stored worker)
    (conserved : base.places task + inHand phase = 1 + inHand (scheduler.calls task))
    (others : ∀ other, other ≠ task → base.places other = scheduler.places other)
    (popped : ∀ worker, phase = .popped worker →
      worker ∈ scheduler.freeWorkerThreads ∧ worker ∉ base.freeWorkerThreads)
    (served : scheduler.AllParked → ∀ pending ∈ base.pendingTasks, base.ready pending = false) :
    (base.setCall task phase).Valid := by
  apply valid.callStep base calls free nodup scheduled conserved others popped
  · intro worker
    have same : (base.setCall task phase).threads worker = scheduler.threads worker :=
      congrFun threads worker
    apply (valid.consistent worker).congr same
    rintro (isFree | ⟨other, isPopped⟩)
    · exact Or.inl (free worker isFree)
    · by_cases isTask : other = task
      · subst isTask
        rw [calls_setCall_self] at isPopped
        exact Or.inl (popped worker isPopped).1
      · rw [calls_setCall_of_ne isTask, calls] at isPopped
        exact Or.inr ⟨other, isPopped⟩
  · intro allParked
    apply served
    intro worker
    rw [← threads]
    exact (allParked worker).imp_left (free worker)
  · intro worker parked
    rw [threads] at parked ⊢
    refine (valid.notified worker parked).imp_right (fun toBeSignalled => ?_)
    apply toBeSignalled_setCall
    · rw [calls]
      exact notStored worker
    · obtain ⟨other, stored⟩ := toBeSignalled
      exact ⟨other, (congrFun calls other).trans stored⟩

/-- A call begins. -/
theorem Valid.sheduleTask (valid : scheduler.Valid) {task : Task}
    (taken : scheduler.sheduleTask task = some next) : next.Valid := by
  unfold CPUSheduler.sheduleTask at taken
  split at taken
  · rename_i call
    cases taken
    apply valid.moveCall scheduler rfl rfl (fun _ => id) valid.nodup
    · simp
    · simp [call]
    · rw [valid.conserved task, call]
      rfl
    · exact fun _ _ => rfl
    · simp
    · exact valid.served
  · cases taken

/-- It asks whether its task is ready. -/
theorem Valid.testReady (valid : scheduler.Valid) {task : Task}
    (taken : scheduler.testReady task = some next) : next.Valid := by
  unfold CPUSheduler.testReady at taken
  split at taken
  · rename_i call
    cases taken
    apply valid.moveCall scheduler rfl rfl (fun _ => id) valid.nodup
    · split
      · simp
      · simp
    · simp [call]
    · have inCall : inHand (if scheduler.ready task then .ready else .appending :
          CallPhase threadCount) = 1 := by
        split
        · rfl
        · rfl
      rw [valid.conserved task, call, inCall]
      rfl
    · exact fun _ _ => rfl
    · split
      · simp
      · simp
    · exact valid.served
  · cases taken

/-- It takes a free worker. -/
theorem Valid.popFree (valid : scheduler.Valid) {task : Task}
    (taken : scheduler.popFree task = some next) : next.Valid := by
  unfold CPUSheduler.popFree at taken
  split at taken
  · rename_i call none
    cases taken
    apply valid.moveCall scheduler rfl rfl (fun _ => id) valid.nodup
    · simp
    · simp [call]
    · rw [valid.conserved task, call]
      rfl
    · exact fun _ _ => rfl
    · simp
    · exact valid.served
  · rename_i worker rest call isFree
    cases taken
    have nodup := valid.nodup
    rw [isFree] at nodup
    obtain ⟨notInRest, nodupRest⟩ := List.nodup_cons.mp nodup
    apply valid.moveCall { scheduler with freeWorkerThreads := rest } rfl rfl _ nodupRest
    · simp
    · simp [call]
    · have before := valid.conserved task
      rw [call] at before ⊢
      exact congrArg (· + 1) before
    · exact fun _ _ => rfl
    · rintro other isPopped
      cases isPopped
      exact ⟨isFree ▸ List.mem_cons_self, notInRest⟩
    · exact valid.served
    · intro other member
      rw [isFree]
      exact List.mem_cons_of_mem worker member
  · cases taken

/-- Or it appends its task, which must not wait there for ever. -/
theorem Valid.append (valid : scheduler.Valid) {task : Task}
    (noneLost : scheduler.LosesNone (.append task))
    (taken : scheduler.append task = some next) : next.Valid := by
  unfold CPUSheduler.append at taken
  split at taken
  · rename_i call
    cases taken
    apply valid.moveCall { scheduler with pendingTasks := scheduler.pendingTasks ++ [task] }
      rfl rfl (fun _ => id) valid.nodup
    · simp
    · simp [call]
    · have before := valid.conserved task
      rw [call] at before ⊢
      simp [places, inHand] at before ⊢
      omega
    · intro other differ
      simp [places, Ne.symm differ]
    · simp
    · intro allParked pending member
      rcases List.mem_append.mp member with member | isTask
      · exact valid.served allParked pending member
      · rw [List.mem_singleton.mp isTask]
        by_contra isReady
        exact noneLost call (Bool.not_eq_false _ ▸ isReady) allParked
  · cases taken

/-- A task becomes ready, and must not be pending then without anybody who looks. -/
theorem Valid.becomesReady (valid : scheduler.Valid) {task : Task}
    (noneLost : scheduler.LosesNone (.becomesReady task)) :
    (scheduler.becomesReady task).Valid where
  conserved := valid.conserved
  consistent worker := (valid.consistent worker).congr rfl id
  nodup := valid.nodup
  poppedOnce := valid.poppedOnce
  served allParked pending member := by
    have differ : pending ≠ task := by
      rintro rfl
      exact noneLost allParked member
    exact (Function.update_of_ne differ ..).trans (valid.served allParked pending member)
  notified := valid.notified

/-- The call hands its task to the worker. -/
theorem Valid.setWaitingTask (valid : scheduler.Valid) {task : Task}
    (taken : scheduler.setWaitingTask task = some next) : next.Valid := by
  unfold CPUSheduler.setWaitingTask at taken
  split at taken
  · rename_i worker call
    cases taken
    have consistent := valid.consistent worker
    have listed : scheduler.Listed worker := Or.inr ⟨task, call⟩
    obtain ⟨notFree, once⟩ := valid.poppedOnce task worker call
    have isRun : (scheduler.threads worker).unrun = false := by
      by_contra unrun
      exact (consistent.stored (Bool.not_eq_false _ ▸ unrun)).2 listed
    have notTaken (other : Task) : (scheduler.threads worker).position ≠ .assigning (some other) := by
      intro position
      exact (consistent.busy (by simp [position]) (by simp [position])).2 listed
    apply valid.callStep (scheduler.setThread worker { scheduler.threads worker with
      waitingTask := some task
      unrun := true }) rfl (fun _ => id) valid.nodup
    · simp
    · have moved := places_setThread scheduler worker { scheduler.threads worker with
        waitingTask := some task
        unrun := true } task
      have before := valid.conserved task
      rw [call] at before ⊢
      simp [carried, isRun, notTaken] at moved
      simp [moved, before, inHand]
    · intro other differ
      have moved := places_setThread scheduler worker { scheduler.threads worker with
        waitingTask := some task
        unrun := true } other
      simp [carried, isRun, notTaken, Ne.symm differ] at moved
      exact moved
    · simp
    · intro other
      by_cases isWorker : other = worker
      · subst isWorker
        have notListed : ¬ ((scheduler.setThread other { scheduler.threads other with
            waitingTask := some task
            unrun := true }).setCall task (.stored other)).Listed other := by
          intro listed
          rcases listed_of_setCall (by simp) listed with isFree | ⟨also, differ, alsoPopped⟩
          · exact notFree isFree
          · exact differ (once also alsoPopped)
        refine consistent_of_threads (threads_setThread_self scheduler other _) ?_ ?_ ?_ ?_
        · exact consistent.inFunction
        · exact fun moved notNone => absurd listed (consistent.busy moved notNone).2
        · exact fun _ => ⟨by simp, notListed⟩
        · simp
      · refine (valid.consistent other).congr (threads_setThread_of_ne isWorker _) ?_
        intro listed
        rcases listed_of_setCall (by simp) listed with isFree | ⟨also, _, popped⟩
        · exact Or.inl isFree
        · exact Or.inr ⟨also, popped⟩
    · exact fun allParked => absurd (allParked worker).1 notFree
    · intro other parked
      by_cases isWorker : other = worker
      · subst isWorker
        exact Or.inr ⟨task, calls_setCall_self ..⟩
      · rw [threads_setThread_of_ne isWorker] at parked ⊢
        refine (valid.notified other parked).imp_right (fun ⟨also, stored⟩ => ?_)
        have differ : also ≠ task := by
          rintro rfl
          cases call.symm.trans stored
        exact ⟨also, (calls_setCall_of_ne differ _).trans stored⟩
  · cases taken

/-- The worker is notified. -/
theorem Valid.condSignal (valid : scheduler.Valid) {task : Task}
    (taken : scheduler.condSignal task = some next) : next.Valid := by
  unfold CPUSheduler.condSignal at taken
  split at taken
  · rename_i worker call
    cases taken
    have consistent := valid.consistent worker
    apply valid.callStep (scheduler.setThread worker { scheduler.threads worker with
      thread := (scheduler.threads worker).thread.condSignal }) rfl (fun _ => id) valid.nodup
    · simp
    · have moved := places_setThread scheduler worker { scheduler.threads worker with
        thread := (scheduler.threads worker).thread.condSignal } task
      have before := valid.conserved task
      rw [call] at before ⊢
      simp [carried] at moved
      simp [moved, before, inHand]
    · intro other _
      have moved := places_setThread scheduler worker { scheduler.threads worker with
        thread := (scheduler.threads worker).thread.condSignal } other
      simp [carried] at moved
      exact moved
    · simp
    · intro other
      have listed : ((scheduler.setThread worker { scheduler.threads worker with
          thread := (scheduler.threads worker).thread.condSignal }).setCall task
            .returned).Listed other → scheduler.Listed other := by
        intro listed
        rcases listed_of_setCall (by simp) listed with isFree | ⟨also, _, popped⟩
        · exact Or.inl isFree
        · exact Or.inr ⟨also, popped⟩
      by_cases isWorker : other = worker
      · subst isWorker
        refine consistent_of_threads (threads_setThread_self scheduler other _) ?_ ?_ ?_ ?_
        · exact fun moved => (Thread.phase_condSignal_iff (by simp) (by simp)).mpr
            (consistent.inFunction moved)
        · exact fun moved notNone =>
            (consistent.busy moved notNone).imp_right (fun free => free ∘ listed)
        · exact fun unrun => (consistent.stored unrun).imp_right (fun free => free ∘ listed)
        · exact consistent.empty
      · exact (valid.consistent other).congr (threads_setThread_of_ne isWorker _) listed
    · intro allParked
      have parked := (allParked worker).2
      rw [threads_setCall, threads_setThread_self] at parked
      exact absurd parked (Thread.not_parked_condSignal _)
    · intro other parked
      by_cases isWorker : other = worker
      · subst isWorker
        rw [threads_setThread_self] at parked
        exact absurd parked (Thread.not_parked_condSignal _)
      · rw [threads_setThread_of_ne isWorker] at parked ⊢
        refine (valid.notified other parked).imp_right (fun signalled => ?_)
        apply toBeSignalled_setCall _ signalled
        intro stored
        cases call.symm.trans stored
        exact isWorker rfl
  · cases taken

/-- Whatever happens leaves the scheduler valid, if no task is lost by it. -/
theorem Valid.step (valid : scheduler.Valid) {event : SchedulerEvent threadCount Task}
    (noneLost : scheduler.LosesNone event) (taken : scheduler.step event = some next) :
    next.Valid := by
  cases event with
  | sheduleTask task => exact valid.sheduleTask taken
  | testReady task => exact valid.testReady taken
  | popFree task => exact valid.popFree taken
  | setWaitingTask task => exact valid.setWaitingTask taken
  | condSignal task => exact valid.condSignal taken
  | append task => exact valid.append noneLost taken
  | becomesReady task =>
    cases taken
    exact valid.becomesReady noneLost
  | beginRun worker => exact valid.beginRun taken
  | endRun worker => exact valid.endRun taken
  | look worker => exact valid.look taken
  | enlist worker => exact valid.enlist taken
  | assign worker => exact valid.assign noneLost taken
  | run worker event => exact valid.run noneLost taken

/-! ## Steps that lose a task -/

/-- A null result over a task that was not run loses the task. -/
theorem Valid.isRun_of_assign (valid : scheduler.Valid) {worker : Fin threadCount}
    (position : (scheduler.threads worker).position = .assigning none)
    (good : ∀ next, scheduler.assign worker = some next → next.LosesNoTask) :
    (scheduler.threads worker).unrun = false := by
  by_contra isUnrun
  have unrun : (scheduler.threads worker).unrun = true := Bool.not_eq_false _ ▸ isUnrun
  obtain ⟨task, waits⟩ := Option.ne_none_iff_exists'.mp
    ((valid.consistent worker).stored unrun).1
  have taken : scheduler.assign worker = some (scheduler.setThread worker
      { scheduler.threads worker with
        position := .loopTest
        waitingTask := none
        unrun := false }) := by
    unfold CPUSheduler.assign
    rw [position]
    rfl
  have moved := places_setThread scheduler worker { scheduler.threads worker with
    position := .loopTest
    waitingTask := none
    unrun := false } task
  simp only [carried, position, waits, unrun] at moved
  simp at moved
  have before := valid.conserved task
  have scheduled : scheduler.calls task ≠ .unscheduled := by
    intro unscheduled
    rw [if_pos unscheduled] at before
    omega
  have after := (good _ taken).onePlace task scheduled
  rw [if_neg scheduled] at before
  dsimp only at after
  omega

omit [DecidableEq Task] in
/-- A worker that is about to wait does so. -/
theorem run_wait [DecidableEq Task] {worker : Fin threadCount}
    (before : (scheduler.threads worker).thread.phase = .beforeWait) :
    scheduler.run worker .wait = some (scheduler.setThread worker { scheduler.threads worker with
      thread := { (scheduler.threads worker).thread with phase := .parked } }) := by
  unfold CPUSheduler.run Thread.step
  rw [before]
  rfl

/-- A worker that loses nothing by waiting has no task it was not told of. -/
theorem losesNone_of_wait {worker : Fin threadCount}
    (good : ∀ next, scheduler.run worker .wait = some next → next.LosesNoTask) :
    scheduler.LosesNone (.run worker .wait) := by
  intro before
  have after := good _ (run_wait before)
  constructor
  · have notified := after.notified worker
    rw [threads_setThread_self] at notified
    exact notified rfl
  · intro others
    apply after.served
    intro other
    refine ⟨(others other).1, ?_⟩
    by_cases isWorker : other = worker
    · rw [isWorker, threads_setThread_self]
    · rw [threads_setThread_of_ne isWorker]
      exact (others other).2 isWorker

/-- A step after which no task is lost. -/
theorem Valid.losesNone (valid : scheduler.Valid) {event : SchedulerEvent threadCount Task}
    (good : ∀ next, scheduler.step event = some next → next.LosesNoTask) :
    scheduler.LosesNone event := by
  cases event with
  | assign worker => exact fun position => valid.isRun_of_assign position good
  | run worker event =>
    cases event with
    | wait => exact losesNone_of_wait good
    | _ => trivial
  | append task =>
    intro call isReady allParked
    have taken : scheduler.append task = some ({ scheduler with
        pendingTasks := scheduler.pendingTasks ++ [task] }.setCall task .returned) := by
      unfold CPUSheduler.append
      rw [call]
    have notReady := (good _ taken).served allParked task
      (List.mem_append_right _ (List.mem_singleton_self task))
    cases isReady.symm.trans notReady
  | becomesReady task =>
    intro allParked member
    have isReady : (scheduler.becomesReady task).ready task = true := Function.update_self ..
    have notReady := (good _ rfl).served allParked task member
    cases isReady.symm.trans notReady
  | _ => trivial

/-- No task is lost in any state of a run if and only if no worker stores its null result over a
task that was not run, none begins to wait with a task whose signal is gone or leaves a task
that is ready to parked workers, and no task is ready among the pending ones only after all
workers were parked. -/
theorem losesNoTask_iff_losesNone (ready : Task → Bool)
    (events : List (SchedulerEvent threadCount Task)) :
    (∀ first rest reached, events = first ++ rest →
      runEvents step first (start ready : CPUSheduler threadCount Task) = some reached →
        reached.LosesNoTask) ↔
      StepsMeet step LosesNone events (start ready) :=
  good_iff_stepsMeet (fun _ _ _ valid noneLost taken => valid.step noneLost taken)
    (fun _ valid => valid.losesNoTask) (fun _ _ valid good => valid.losesNone good) events
    (valid_start ready)

/-- The signal comes before the only worker has begun to wait for the first time. The worker is
parked with its task, and nothing is left to wake it up. -/
theorem losesTask_signalBeforeWait :
    ∃ reached, runEvents step [.sheduleTask (), .testReady (), .popFree (), .setWaitingTask (),
        .condSignal (), .run 0 .testExit, .run 0 .lock, .run 0 .wait]
        (start (fun _ => true) : CPUSheduler 1 Unit) = some reached ∧
      ¬ reached.LosesNoTask := by
  refine ⟨_, rfl, fun losesNoTask => ?_⟩
  rcases losesNoTask.notified 0 rfl with noTask | ⟨task, stored⟩
  · cases noTask
  · cases stored

end CPUSheduler

end Tasks

end GradidoNode

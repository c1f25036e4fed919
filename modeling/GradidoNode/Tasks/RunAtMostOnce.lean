import GradidoNode.Library.Run
import GradidoNode.Tasks.NoTaskLost
import Mathlib.Algebra.Order.BigOperators.Group.Finset

/-!
# No task is run twice

The timer takes a task that has become ready out of the pending tasks and schedules it again,
and `stop` may come between any two steps. Tasks can be lost, but however the callers, the
workers, the timer and `stop` interleave, no task is ever at two places, and none is run twice.
-/

namespace GradidoNode

open Library

namespace Tasks

/-- Where the timer is in `checkPendingTasks`. -/
inductive TimerPosition (Task : Type)
  | outside
  /-- The scheduler was not stopped at the first test. -/
  | tested
  /-- With a task, before `sheduleTask`. -/
  | holding (task : Task)
  deriving DecidableEq

/-- A scheduler registered at the timer, which may be stopped. -/
structure TimedSheduler (threadCount : Nat) (Task : Type) where
  sheduler : CPUSheduler threadCount Task
  timer : TimerPosition Task
  stopped : Bool

inductive TimedEvent (threadCount : Nat) (Task : Type)
  | inner (event : SchedulerEvent threadCount Task)
  /-- `checkPendingTasks` tests `mStopped`. -/
  | testStopped
  /-- `getNextUndoneTask` without a thread. -/
  | takePending
  /-- `sheduleTask`, called by the timer. -/
  | sheduleAgain
  /-- The first half of `stop`. -/
  | stop
  /-- The second half of `stop`. -/
  | clearPending

namespace TimedSheduler

variable {threadCount : Nat} {Task : Type} [DecidableEq Task]

def start (ready : Task → Bool) : TimedSheduler threadCount Task where
  sheduler := .start ready
  timer := .outside
  stopped := false

def testStopped (timed : TimedSheduler threadCount Task) :
    Option (TimedSheduler threadCount Task) :=
  match timed.timer with
  | .outside => some { timed with timer := if timed.stopped then .outside else .tested }
  | _ => none

/-- Without a thread, nobody is announced as free when no task is found. -/
def takePending (timed : TimedSheduler threadCount Task) :
    Option (TimedSheduler threadCount Task) :=
  match timed.timer, timed.sheduler.pendingTasks.find? timed.sheduler.ready with
  | .tested, some task => some { timed with
      sheduler := { timed.sheduler with pendingTasks := timed.sheduler.pendingTasks.erase task }
      timer := .holding task }
  | .tested, none => some { timed with timer := .outside }
  | _, _ => none

/-- A stopped scheduler drops the task. -/
def sheduleAgain (timed : TimedSheduler threadCount Task) :
    Option (TimedSheduler threadCount Task) :=
  match timed.timer with
  | .holding task => some { timed with
      sheduler := if timed.stopped then timed.sheduler else timed.sheduler.setCall task .called
      timer := .outside }
  | _ => none

/-- A call of `sheduleTask` returns at once when the scheduler is stopped. -/
def step (timed : TimedSheduler threadCount Task) :
    TimedEvent threadCount Task → Option (TimedSheduler threadCount Task)
  | .inner (.sheduleTask task) =>
      if timed.stopped then some timed
      else (timed.sheduler.sheduleTask task).map fun next => { timed with sheduler := next }
  | .inner event => (timed.sheduler.step event).map fun next => { timed with sheduler := next }
  | .testStopped => timed.testStopped
  | .takePending => timed.takePending
  | .sheduleAgain => timed.sheduleAgain
  | .stop => some { timed with stopped := true }
  | .clearPending => some { timed with sheduler := { timed.sheduler with pendingTasks := [] } }

/-- The places of a task, with the hand of the timer. -/
def places (timed : TimedSheduler threadCount Task) (task : Task) : Nat :=
  timed.sheduler.places task + if timed.timer = .holding task then 1 else 0

end TimedSheduler

namespace CPUSheduler

variable {threadCount : Nat} {Task : Type} [DecidableEq Task]
  {scheduler next : CPUSheduler threadCount Task}

/-- A worker at the head of its loop has run its task or has it still to run. -/
def Fresh (thread : CPUShedulerThread Task) : Prop :=
  thread.position = .loopTest → thread.waitingTask ≠ none → thread.unrun = true

/-- A step of a worker: it puts the task nowhere it was not taken from. `base` has what the step
changes besides. -/
theorem places_setThread_le (base : CPUSheduler threadCount Task) {worker : Fin threadCount}
    {thread : CPUShedulerThread Task} (threads : base.threads = scheduler.threads) {task : Task}
    (conserved : base.places task + carried task thread ≤
      scheduler.places task + carried task (scheduler.threads worker)) :
    (base.setThread worker thread).places task ≤ scheduler.places task := by
  have moved := places_setThread base worker thread task
  rw [threads] at moved
  omega

omit [DecidableEq Task] in
theorem fresh_setThread (base : CPUSheduler threadCount Task) {worker : Fin threadCount}
    {thread : CPUShedulerThread Task} (threads : base.threads = scheduler.threads)
    (fresh : ∀ other, Fresh (scheduler.threads other)) (freshThread : Fresh thread)
    (other : Fin threadCount) : Fresh ((base.setThread worker thread).threads other) := by
  by_cases isWorker : other = worker
  · rw [isWorker, threads_setThread_self]
    exact freshThread
  · rw [threads_setThread_of_ne isWorker, threads]
    exact fresh other

/-- What a step of the scheduler keeps: no task gets to more places, but the one that is
scheduled, and the workers stay fresh. -/
structure Spares (scheduler next : CPUSheduler threadCount Task)
    (event : SchedulerEvent threadCount Task) : Prop where
  places : ∀ task, next.places task ≤ scheduler.places task ∨
    (event = .sheduleTask task ∧ scheduler.calls task = .unscheduled ∧
      next.places task = scheduler.places task + 1)
  calls : ∀ task, scheduler.calls task ≠ .unscheduled → next.calls task ≠ .unscheduled
  scheduled : ∀ task, event = .sheduleTask task → next.calls task ≠ .unscheduled
  fresh : ∀ worker, Fresh (next.threads worker)

/-- A step of a worker that leaves the calls alone. -/
theorem Spares.ofWorker (fresh : ∀ other, Fresh (scheduler.threads other))
    (base : CPUSheduler threadCount Task) {worker : Fin threadCount}
    {thread : CPUShedulerThread Task} {event : SchedulerEvent threadCount Task}
    (threads : base.threads = scheduler.threads) (calls : base.calls = scheduler.calls)
    (notCall : ∀ task, event ≠ .sheduleTask task) (freshThread : Fresh thread)
    (conserved : ∀ task, base.places task + carried task thread ≤
      scheduler.places task + carried task (scheduler.threads worker)) :
    Spares scheduler (base.setThread worker thread) event where
  places task := Or.inl (places_setThread_le base threads (conserved task))
  calls task scheduled := by
    change base.calls task ≠ _
    rwa [calls]
  scheduled task isCall := absurd isCall (notCall task)
  fresh := fresh_setThread base threads fresh freshThread

/-- A step of the call for one task. `base` has what the step changes besides. -/
theorem Spares.ofCall (scheduler base : CPUSheduler threadCount Task) {task : Task}
    {phase : CallPhase threadCount} {event : SchedulerEvent threadCount Task}
    (calls : base.calls = scheduler.calls) (scheduled : phase ≠ .unscheduled)
    (notCall : ∀ other, event = .sheduleTask other → other = task)
    (fresh : ∀ worker, Fresh (base.threads worker))
    (others : ∀ other, other ≠ task → base.places other ≤ scheduler.places other)
    (conserved : base.places task + inHand phase ≤
        scheduler.places task + inHand (scheduler.calls task) ∨
      (event = .sheduleTask task ∧ scheduler.calls task = .unscheduled ∧
        base.places task + inHand phase = scheduler.places task + 1)) :
    Spares scheduler (base.setCall task phase) event where
  places other := by
    by_cases same : other = task
    · subst same
      have moved := places_setCall_self base other phase
      rw [calls] at moved
      rcases conserved with kept | ⟨isCall, unscheduled, one⟩
      · exact Or.inl (by omega)
      · refine Or.inr ⟨isCall, unscheduled, ?_⟩
        rw [unscheduled] at moved
        change _ + 0 = _ at moved
        omega
    · rw [places_setCall_of_ne same]
      exact Or.inl (others other same)
  calls other before := by
    by_cases same : other = task
    · rw [same, calls_setCall_self]
      exact scheduled
    · rw [calls_setCall_of_ne same, calls]
      exact before
  scheduled other isCall := by
    rw [notCall other isCall, calls_setCall_self]
    exact scheduled
  fresh := fresh

/-- What a step of a call does to the worker for which the task is stored. -/
theorem spares_setWaitingTask (fresh : ∀ other, Fresh (scheduler.threads other)) {task : Task}
    (taken : scheduler.setWaitingTask task = some next) :
    Spares scheduler next (.setWaitingTask task) := by
  unfold CPUSheduler.setWaitingTask at taken
  split at taken
  · rename_i worker call
    cases taken
    have moved (other : Task) := places_setThread scheduler worker { scheduler.threads worker with
      waitingTask := some task
      unrun := true } other
    apply Spares.ofCall scheduler (scheduler.setThread worker { scheduler.threads worker with
      waitingTask := some task
      unrun := true }) rfl
    · simp
    · simp
    · exact fresh_setThread scheduler rfl fresh fun _ _ => rfl
    · intro other differ
      have kept := moved other
      simp only [carried, Option.some.injEq, Ne.symm differ, false_and, ↓reduceIte] at kept
      dsimp only
      omega
    · have kept := moved task
      simp only [carried, true_and, ↓reduceIte] at kept
      rw [call]
      left
      change _ + 0 ≤ _ + 1
      dsimp only
      omega
  · cases taken

theorem spares_condSignal (fresh : ∀ other, Fresh (scheduler.threads other)) {task : Task}
    (taken : scheduler.condSignal task = some next) :
    Spares scheduler next (.condSignal task) := by
  unfold CPUSheduler.condSignal at taken
  split at taken
  · rename_i worker call
    cases taken
    have same (other : Task) : (scheduler.setThread worker { scheduler.threads worker with
        thread := (scheduler.threads worker).thread.condSignal }).places other =
        scheduler.places other := Nat.add_right_cancel (places_setThread scheduler worker _ other)
    apply Spares.ofCall scheduler (scheduler.setThread worker { scheduler.threads worker with
      thread := (scheduler.threads worker).thread.condSignal }) rfl
    · simp
    · simp
    · exact fresh_setThread scheduler rfl fresh (fresh worker)
    · exact fun other _ => le_of_eq (same other)
    · rw [same, call]
      exact Or.inl le_rfl
  · cases taken

/-- A step of a call that touches no worker. -/
theorem spares_call (fresh : ∀ other, Fresh (scheduler.threads other))
    {event : SchedulerEvent threadCount Task} (taken : scheduler.step event = some next)
    (isCall : (∃ task, event = .sheduleTask task) ∨ (∃ task, event = .testReady task) ∨
      (∃ task, event = .popFree task) ∨ ∃ task, event = .append task) :
    Spares scheduler next event := by
  rcases isCall with ⟨task, rfl⟩ | ⟨task, rfl⟩ | ⟨task, rfl⟩ | ⟨task, rfl⟩
  · simp only [CPUSheduler.step, CPUSheduler.sheduleTask] at taken
    split at taken
    · rename_i call
      cases taken
      apply Spares.ofCall scheduler scheduler rfl
      · simp
      · intro other same
        cases same
        rfl
      · exact fresh
      · exact fun _ _ => le_rfl
      · exact Or.inr ⟨rfl, call, rfl⟩
    · cases taken
  · simp only [CPUSheduler.step, CPUSheduler.testReady] at taken
    split at taken
    · rename_i call
      cases taken
      apply Spares.ofCall scheduler scheduler rfl
      · split
        · simp
        · simp
      · simp
      · exact fresh
      · exact fun _ _ => le_rfl
      · rw [call]
        split
        · exact Or.inl le_rfl
        · exact Or.inl le_rfl
    · cases taken
  · simp only [CPUSheduler.step, CPUSheduler.popFree] at taken
    split at taken
    · rename_i call none
      cases taken
      apply Spares.ofCall scheduler scheduler rfl
      · simp
      · simp
      · exact fresh
      · exact fun _ _ => le_rfl
      · rw [call]
        exact Or.inl le_rfl
    · rename_i worker rest call isFree
      cases taken
      apply Spares.ofCall scheduler { scheduler with freeWorkerThreads := rest } rfl
      · simp
      · simp
      · exact fresh
      · exact fun _ _ => le_rfl
      · rw [call]
        exact Or.inl le_rfl
    · cases taken
  · simp only [CPUSheduler.step, CPUSheduler.append] at taken
    split at taken
    · rename_i call
      cases taken
      apply Spares.ofCall scheduler { scheduler with
        pendingTasks := scheduler.pendingTasks ++ [task] } rfl
      · simp
      · simp
      · exact fresh
      · intro other differ
        simp [CPUSheduler.places, Ne.symm differ]
      · rw [call]
        left
        simp only [CPUSheduler.places, List.count_append, List.count_singleton_self, inHand]
        omega
    · cases taken

/-- A step of a worker. -/
theorem spares_worker (fresh : ∀ other, Fresh (scheduler.threads other))
    {worker : Fin threadCount} {event : SchedulerEvent threadCount Task}
    (taken : scheduler.step event = some next)
    (isWorker : event = .beginRun worker ∨ event = .endRun worker ∨ event = .look worker ∨
      event = .enlist worker ∨ event = .assign worker ∨ ∃ inner, event = .run worker inner) :
    Spares scheduler next event := by
  rcases isWorker with rfl | rfl | rfl | rfl | rfl | ⟨inner, rfl⟩
  · simp only [CPUSheduler.step, CPUSheduler.beginRun] at taken
    split at taken
    · rename_i task position waits
      split at taken
      · cases taken
        have unrun : (scheduler.threads worker).unrun = true :=
          fresh worker position (waits ▸ Option.some_ne_none task)
        apply Spares.ofWorker fresh { scheduler with
          runs := Function.update scheduler.runs task (scheduler.runs task + 1) } rfl rfl
        · simp
        · intro atLoop
          cases atLoop
        · intro other
          by_cases same : other = task
          · subst same
            rw [places_runs_self]
            simp [carried, position, waits, unrun]
          · rw [places_runs_of_ne same]
            simp [carried, position, waits, Ne.symm same]
      · cases taken
    · cases taken
  · simp only [CPUSheduler.step, CPUSheduler.endRun] at taken
    split at taken
    · rename_i task position
      cases taken
      apply Spares.ofWorker fresh scheduler rfl rfl
      · simp
      · intro atLoop
        cases atLoop
      · intro other
        simp [carried, position]
    · cases taken
  · simp only [CPUSheduler.step, CPUSheduler.look] at taken
    split at taken
    · rename_i task position found
      cases taken
      have member := List.mem_of_find?_eq_some found
      apply Spares.ofWorker fresh { scheduler with
        pendingTasks := scheduler.pendingTasks.erase task } rfl rfl
      · simp
      · intro atLoop
        cases atLoop
      · intro other
        by_cases same : other = task
        · subst same
          rw [← places_pendingTasks_erase member]
          simp only [carried, position, ↓reduceIte, reduceCtorEq]
          omega
        · rw [places_pendingTasks_erase_of_ne same]
          simp [carried, position, Ne.symm same]
    · rename_i position none
      cases taken
      apply Spares.ofWorker fresh scheduler rfl rfl
      · simp
      · intro atLoop
        cases atLoop
      · intro other
        simp [carried, position]
    · cases taken
  · simp only [CPUSheduler.step, CPUSheduler.enlist] at taken
    split at taken
    · rename_i position
      cases taken
      apply Spares.ofWorker fresh { scheduler with
        freeWorkerThreads := scheduler.freeWorkerThreads ++ [worker] } rfl rfl
      · simp
      · intro atLoop
        cases atLoop
      · intro other
        simp [carried, position, CPUSheduler.places]
    · cases taken
  · simp only [CPUSheduler.step, CPUSheduler.assign] at taken
    split at taken
    · rename_i task position
      cases taken
      apply Spares.ofWorker fresh scheduler rfl rfl
      · simp
      · exact fun _ some => Option.isSome_iff_ne_none.mpr some
      · intro other
        simp only [carried, position, reduceCtorEq, ↓reduceIte, WorkerPosition.assigning.injEq]
        by_cases same : task = some other
        · simp [same]
        · simp [same]
    · cases taken
  · obtain ⟨thread, _, rfl⟩ := run_cases taken
    apply Spares.ofWorker fresh scheduler rfl rfl
    · simp
    · exact fresh worker
    · exact fun _ => le_rfl

theorem spares_step (fresh : ∀ other, Fresh (scheduler.threads other))
    {event : SchedulerEvent threadCount Task} (taken : scheduler.step event = some next) :
    Spares scheduler next event := by
  cases event with
  | sheduleTask task => exact spares_call fresh taken (Or.inl ⟨task, rfl⟩)
  | testReady task => exact spares_call fresh taken (Or.inr (Or.inl ⟨task, rfl⟩))
  | popFree task => exact spares_call fresh taken (Or.inr (Or.inr (Or.inl ⟨task, rfl⟩)))
  | setWaitingTask task => exact spares_setWaitingTask fresh taken
  | condSignal task => exact spares_condSignal fresh taken
  | append task => exact spares_call fresh taken (Or.inr (Or.inr (Or.inr ⟨task, rfl⟩)))
  | becomesReady task =>
      cases taken
      exact ⟨fun _ => Or.inl le_rfl, fun _ => id, nofun, fresh⟩
  | beginRun worker => exact spares_worker fresh taken (Or.inl rfl)
  | endRun worker => exact spares_worker fresh taken (Or.inr (Or.inl rfl))
  | look worker => exact spares_worker fresh taken (Or.inr (Or.inr (Or.inl rfl)))
  | enlist worker => exact spares_worker fresh taken (Or.inr (Or.inr (Or.inr (Or.inl rfl))))
  | assign worker =>
      exact spares_worker fresh taken (Or.inr (Or.inr (Or.inr (Or.inr (Or.inl rfl)))))
  | run worker event =>
      exact spares_worker fresh taken (Or.inr (Or.inr (Or.inr (Or.inr (Or.inr ⟨event, rfl⟩)))))

end CPUSheduler

namespace TimedSheduler

open CPUSheduler

variable {threadCount : Nat} {Task : Type} [DecidableEq Task]
  {timed next : TimedSheduler threadCount Task}

/-- Each task is at one place at most, at none before it is scheduled. -/
structure Single (timed : TimedSheduler threadCount Task) : Prop where
  onePlace : ∀ task, timed.places task ≤ 1
  unscheduled : ∀ task, timed.sheduler.calls task = .unscheduled → timed.places task = 0
  fresh : ∀ worker, Fresh (timed.sheduler.threads worker)

theorem single_start (ready : Task → Bool) :
    Single (start ready : TimedSheduler threadCount Task) where
  onePlace task := by simp [places, CPUSheduler.places, start, CPUSheduler.start, inHand, carried]
  unscheduled task _ := by
    simp [places, CPUSheduler.places, start, CPUSheduler.start, inHand, carried]
  fresh worker _ waits := absurd rfl waits

/-- A step of the scheduler itself. -/
theorem Single.inner (single : timed.Single) {event : SchedulerEvent threadCount Task}
    {scheduler : CPUSheduler threadCount Task} (taken : timed.sheduler.step event = some scheduler) :
    Single { timed with sheduler := scheduler } where
  onePlace task := by
    have before := single.onePlace task
    rcases (spares_step single.fresh taken).places task with fewer | ⟨_, unscheduled, one⟩
    · exact le_trans (Nat.add_le_add_right fewer _) before
    · have none := single.unscheduled task unscheduled
      unfold places at none ⊢
      dsimp only
      omega
  unscheduled task isUnscheduled := by
    have spares := spares_step single.fresh taken
    have unscheduled : timed.sheduler.calls task = .unscheduled :=
      not_not.mp fun scheduled => spares.calls task scheduled isUnscheduled
    have none := single.unscheduled task unscheduled
    rcases spares.places task with fewer | ⟨isCall, _, _⟩
    · unfold places at none ⊢
      dsimp only
      omega
    · exact absurd isUnscheduled (spares.scheduled task isCall)
  fresh := (spares_step single.fresh taken).fresh

/-- A step that moves no task to a new place and touches no worker. -/
theorem Single.of_places (single : timed.Single)
    (threads : next.sheduler.threads = timed.sheduler.threads)
    (calls : ∀ task, timed.sheduler.calls task ≠ .unscheduled →
      next.sheduler.calls task ≠ .unscheduled)
    (fewer : ∀ task, next.places task ≤ timed.places task) : Single next where
  onePlace task := le_trans (fewer task) (single.onePlace task)
  unscheduled task isUnscheduled := by
    have before := single.unscheduled task (not_not.mp fun scheduled =>
      calls task scheduled isUnscheduled)
    have now := fewer task
    omega
  fresh worker := threads ▸ single.fresh worker

/-- The timer takes a task from the pending ones into its hand. -/
theorem Single.takePending (single : timed.Single) (taken : timed.takePending = some next) :
    Single next := by
  unfold TimedSheduler.takePending at taken
  split at taken
  · rename_i task position found
    cases taken
    have member := List.mem_of_find?_eq_some found
    apply single.of_places
    · rfl
    · exact fun _ => id
    · intro other
      unfold places
      by_cases same : other = task
      · subst same
        rw [← places_pendingTasks_erase member, position]
        simp
      · rw [places_pendingTasks_erase_of_ne same, position]
        simp [Ne.symm same]
  · cases taken
    apply single.of_places
    · rfl
    · exact fun _ => id
    · intro other
      simp [places]
  · cases taken

/-- The timer schedules its task again, or drops it. -/
theorem Single.sheduleAgain (single : timed.Single) (taken : timed.sheduleAgain = some next) :
    Single next := by
  unfold TimedSheduler.sheduleAgain at taken
  split at taken
  · rename_i task position
    cases taken
    cases stopped : timed.stopped with
    | true =>
        simp only [↓reduceIte]
        apply single.of_places
        · rfl
        · exact fun _ => id
        · intro other
          simp [places]
    | false =>
        simp only [Bool.false_eq_true, ↓reduceIte]
        apply single.of_places
        · rfl
        · intro other scheduled
          by_cases same : other = task
          · rw [same, calls_setCall_self]
            simp
          · rw [calls_setCall_of_ne same]
            exact scheduled
        · intro other
          unfold places
          dsimp only
          by_cases same : other = task
          · subst same
            have moved := places_setCall_self timed.sheduler other .called
            change _ + _ = _ + 1 at moved
            simp only [position, reduceCtorEq, ↓reduceIte]
            omega
          · rw [places_setCall_of_ne same]
            simp
  · cases taken

theorem Single.step (single : timed.Single) {event : TimedEvent threadCount Task}
    (taken : timed.step event = some next) : Single next := by
  have ofInner (inner : SchedulerEvent threadCount Task)
      (taken : (timed.sheduler.step inner).map (fun next => { timed with sheduler := next }) =
        some next) : Single next := by
    obtain ⟨scheduler, stepped, rfl⟩ := Option.map_eq_some_iff.mp taken
    exact single.inner stepped
  cases event with
  | inner event =>
      cases event with
      | sheduleTask task =>
          simp only [TimedSheduler.step] at taken
          split at taken
          · cases taken
            exact single
          · exact ofInner (.sheduleTask task) taken
      | testReady task => exact ofInner (.testReady task) taken
      | popFree task => exact ofInner (.popFree task) taken
      | setWaitingTask task => exact ofInner (.setWaitingTask task) taken
      | condSignal task => exact ofInner (.condSignal task) taken
      | append task => exact ofInner (.append task) taken
      | becomesReady task => exact ofInner (.becomesReady task) taken
      | beginRun worker => exact ofInner (.beginRun worker) taken
      | endRun worker => exact ofInner (.endRun worker) taken
      | look worker => exact ofInner (.look worker) taken
      | enlist worker => exact ofInner (.enlist worker) taken
      | assign worker => exact ofInner (.assign worker) taken
      | run worker inner => exact ofInner (.run worker inner) taken
  | testStopped =>
      simp only [TimedSheduler.step, TimedSheduler.testStopped] at taken
      split at taken
      · cases taken
        apply single.of_places
        · rfl
        · exact fun _ => id
        · intro other
          cases stopped : timed.stopped with
          | true => simp [places]
          | false => simp [places]
      · cases taken
  | takePending => exact single.takePending taken
  | sheduleAgain => exact single.sheduleAgain taken
  | stop =>
      cases taken
      exact ⟨single.onePlace, single.unscheduled, single.fresh⟩
  | clearPending =>
      cases taken
      apply single.of_places
      · rfl
      · exact fun _ => id
      · intro other
        simp [places, CPUSheduler.places]

/-- However the callers, the workers, the timer and `stop` interleave, each task is at one place at
most: in the hands of its caller or of the timer, pending, carried by a worker, or run. So no task
is run twice, a task that was run waits nowhere, and one that nobody scheduled is not run. -/
theorem runAtMostOnce_of_run {ready : Task → Bool} {events : List (TimedEvent threadCount Task)}
    {reached : TimedSheduler threadCount Task}
    (run : runEvents step events (start ready) = some reached) (task : Task) :
    reached.places task ≤ 1 ∧ reached.sheduler.runs task ≤ 1 ∧
      (reached.sheduler.runs task = 1 → task ∉ reached.sheduler.pendingTasks ∧
        reached.timer ≠ .holding task ∧ inHand (reached.sheduler.calls task) = 0 ∧
        ∀ worker, carried task (reached.sheduler.threads worker) = 0) ∧
      (reached.sheduler.calls task = .unscheduled → reached.sheduler.runs task = 0) := by
  have single : Single reached :=
    invariant_of_run (fun _ _ _ single taken => single.step taken) (single_start ready) run
  have atMost := single.onePlace task
  have none := single.unscheduled task
  unfold places CPUSheduler.places at atMost none
  refine ⟨single.onePlace task, by omega, fun isRun => ⟨?_, ?_, by omega, fun worker => ?_⟩,
    fun unscheduled => ?_⟩
  · intro member
    have positive := List.count_pos_iff.mpr member
    omega
  · intro holds
    rw [if_pos holds] at atMost
    omega
  · have part := Finset.single_le_sum
      (fun other _ => Nat.zero_le (carried task (reached.sheduler.threads other)))
      (Finset.mem_univ worker)
    omega
  · have noPlace := none unscheduled
    omega

/-- The task gets ready when the only worker is parked. The timer hands it over, and it is run
while the scheduler is stopped. -/
theorem runAtMostOnce_timer :
    ∃ reached, runEvents step [.inner (.sheduleTask ()), .inner (.testReady ()),
        .inner (.append ()), .inner (.run 0 .testExit), .inner (.run 0 .lock),
        .inner (.run 0 .wait), .inner (.becomesReady ()), .testStopped, .takePending,
        .sheduleAgain, .inner (.testReady ()), .inner (.popFree ()),
        .inner (.setWaitingTask ()), .inner (.condSignal ()), .stop, .clearPending,
        .inner (.run 0 .relock), .inner (.run 0 .testAwake), .inner (.beginRun 0)]
        (start (fun _ => false) : TimedSheduler 1 Unit) = some reached ∧
      reached.places () ≤ 1 ∧ reached.sheduler.runs () = 1 ∧ reached.timer ≠ .holding () := by
  have run : runEvents step [.inner (.sheduleTask ()), .inner (.testReady ()),
        .inner (.append ()), .inner (.run 0 .testExit), .inner (.run 0 .lock),
        .inner (.run 0 .wait), .inner (.becomesReady ()), .testStopped, .takePending,
        .sheduleAgain, .inner (.testReady ()), .inner (.popFree ()),
        .inner (.setWaitingTask ()), .inner (.condSignal ()), .stop, .clearPending,
        .inner (.run 0 .relock), .inner (.run 0 .testAwake), .inner (.beginRun 0)]
        (start (fun _ => false) : TimedSheduler 1 Unit) = some _ := rfl
  obtain ⟨onePlace, _, once, _⟩ := runAtMostOnce_of_run run ()
  exact ⟨_, run, onePlace, rfl, (once rfl).2.1⟩

end TimedSheduler

end Tasks

end GradidoNode

import GradidoNode.Tasks.Thread
import Mathlib.Data.Fintype.BigOperators
import Mathlib.Data.List.FinRange

/-!
# The CPU scheduler

A task that is scheduled goes to a worker that has announced itself as free, or to the pending
tasks, where a worker looks before it announces itself. The queue of the free workers, the
pending tasks and the task of a worker have each a mutex of their own, or none.
-/

namespace GradidoNode

namespace Tasks

/-- Where the call of `sheduleTask` for a task is. -/
inductive CallPhase (threadCount : Nat)
  | unscheduled
  | called
  /-- `isReady` was true. -/
  | ready
  | popped (worker : Fin threadCount)
  /-- In `setNewTask`, before the signal. -/
  | stored (worker : Fin threadCount)
  | appending
  | returned
  deriving DecidableEq

/-- Where a worker is in its `ThreadFunction`. -/
inductive WorkerPosition (Task : Type)
  /-- Before the test of `mWaitingTask`, also while it is in no `ThreadFunction`. -/
  | loopTest
  | running (task : Task)
  /-- In `getNextUndoneTask`, before it looks at the pending tasks. -/
  | looking
  | enlisting
  /-- Before it assigns the result to `mWaitingTask`. -/
  | assigning (task : Option Task)
  deriving DecidableEq

structure CPUShedulerThread (Task : Type) where
  thread : Thread
  position : WorkerPosition Task
  waitingTask : Option Task
  /-- The task that waits was not run yet. -/
  unrun : Bool

structure CPUSheduler (threadCount : Nat) (Task : Type) where
  threads : Fin threadCount → CPUShedulerThread Task
  freeWorkerThreads : List (Fin threadCount)
  pendingTasks : List Task
  calls : Task → CallPhase threadCount
  /-- What `isReady` answers. -/
  ready : Task → Bool
  /-- How often the task was run. -/
  runs : Task → Nat

/-- The steps of the calls of `sheduleTask`, of the workers, and of what makes a task ready. -/
inductive SchedulerEvent (threadCount : Nat) (Task : Type)
  | sheduleTask (task : Task)
  | testReady (task : Task)
  | popFree (task : Task)
  | setWaitingTask (task : Task)
  | condSignal (task : Task)
  | append (task : Task)
  | becomesReady (task : Task)
  | beginRun (worker : Fin threadCount)
  | endRun (worker : Fin threadCount)
  | look (worker : Fin threadCount)
  | enlist (worker : Fin threadCount)
  | assign (worker : Fin threadCount)
  | run (worker : Fin threadCount) (event : RunEvent)

namespace CPUSheduler

variable {threadCount : Nat} {Task : Type} [DecidableEq Task]

/-- The constructor. Nobody knows the scheduler yet while the workers are constructed, so each
finds no task and announces itself. -/
def start (ready : Task → Bool) : CPUSheduler threadCount Task where
  threads _ := { thread := .init, position := .loopTest, waitingTask := none, unrun := false }
  freeWorkerThreads := List.finRange threadCount
  pendingTasks := []
  calls _ := .unscheduled
  ready := ready
  runs _ := 0

def setCall (scheduler : CPUSheduler threadCount Task) (task : Task)
    (phase : CallPhase threadCount) : CPUSheduler threadCount Task :=
  { scheduler with calls := Function.update scheduler.calls task phase }

def setThread (scheduler : CPUSheduler threadCount Task) (worker : Fin threadCount)
    (thread : CPUShedulerThread Task) : CPUSheduler threadCount Task :=
  { scheduler with threads := Function.update scheduler.threads worker thread }

section Calls

variable (scheduler : CPUSheduler threadCount Task) (task : Task)

/-- `sheduleTask`, before `stop`. -/
def sheduleTask : Option (CPUSheduler threadCount Task) :=
  match scheduler.calls task with
  | .unscheduled => some (scheduler.setCall task .called)
  | _ => none

def testReady : Option (CPUSheduler threadCount Task) :=
  match scheduler.calls task with
  | .called => some (scheduler.setCall task (if scheduler.ready task then .ready else .appending))
  | _ => none

/-- `mFreeWorkerThreads.pop`. -/
def popFree : Option (CPUSheduler threadCount Task) :=
  match scheduler.calls task, scheduler.freeWorkerThreads with
  | .ready, [] => some (scheduler.setCall task .appending)
  | .ready, worker :: rest =>
      some ({ scheduler with freeWorkerThreads := rest }.setCall task (.popped worker))
  | _, _ => none

/-- `setNewTask`, with its mutex. -/
def setWaitingTask : Option (CPUSheduler threadCount Task) :=
  match scheduler.calls task with
  | .popped worker =>
      some ((scheduler.setThread worker { scheduler.threads worker with
        waitingTask := some task
        unrun := true }).setCall task (.stored worker))
  | _ => none

/-- The end of `setNewTask`. -/
def condSignal : Option (CPUSheduler threadCount Task) :=
  match scheduler.calls task with
  | .stored worker =>
      some ((scheduler.setThread worker { scheduler.threads worker with
        thread := (scheduler.threads worker).thread.condSignal }).setCall task .returned)
  | _ => none

def append : Option (CPUSheduler threadCount Task) :=
  match scheduler.calls task with
  | .appending =>
      some ({ scheduler with
        pendingTasks := scheduler.pendingTasks ++ [task] }.setCall task .returned)
  | _ => none

/-- `isReady` answers true from now on. -/
def becomesReady : CPUSheduler threadCount Task :=
  { scheduler with ready := Function.update scheduler.ready task true }

end Calls

section Workers

variable (scheduler : CPUSheduler threadCount Task) (worker : Fin threadCount)

/-- `mWaitingTask->run` is called. -/
def beginRun : Option (CPUSheduler threadCount Task) :=
  match (scheduler.threads worker).position, (scheduler.threads worker).waitingTask with
  | .loopTest, some task =>
      if (scheduler.threads worker).thread.phase = .threadFunction then
        some ({ scheduler with
          runs := Function.update scheduler.runs task (scheduler.runs task + 1) }.setThread worker
            { scheduler.threads worker with position := .running task, unrun := false })
      else none
  | _, _ => none

/-- Whatever comes of a run, the next thing is to look for another task. -/
def endRun : Option (CPUSheduler threadCount Task) :=
  match (scheduler.threads worker).position with
  | .running _ =>
      some (scheduler.setThread worker { scheduler.threads worker with position := .looking })
  | _ => none

/-- `getNextUndoneTask`, with the mutex of the pending tasks. -/
def look : Option (CPUSheduler threadCount Task) :=
  match (scheduler.threads worker).position, scheduler.pendingTasks.find? scheduler.ready with
  | .looking, some task =>
      some ({ scheduler with
        pendingTasks := scheduler.pendingTasks.erase task }.setThread worker
          { scheduler.threads worker with position := .assigning (some task) })
  | .looking, none =>
      some (scheduler.setThread worker { scheduler.threads worker with position := .enlisting })
  | _, _ => none

/-- `mFreeWorkerThreads.push`. -/
def enlist : Option (CPUSheduler threadCount Task) :=
  match (scheduler.threads worker).position with
  | .enlisting =>
      some ({ scheduler with
        freeWorkerThreads := scheduler.freeWorkerThreads ++ [worker] }.setThread worker
          { scheduler.threads worker with position := .assigning none })
  | _ => none

/-- The result of `getNextUndoneTask` is stored, without a mutex. -/
def assign : Option (CPUSheduler threadCount Task) :=
  match (scheduler.threads worker).position with
  | .assigning task =>
      some (scheduler.setThread worker { scheduler.threads worker with
        position := .loopTest
        waitingTask := task
        unrun := task.isSome })
  | _ => none

/-- A step of `Thread::run`. `ThreadFunction` returns 0 when no task waits, and throws nothing. -/
def run (event : RunEvent) : Option (CPUSheduler threadCount Task) :=
  ((scheduler.threads worker).thread.step true event).bind fun thread =>
    let next := scheduler.setThread worker { scheduler.threads worker with thread := thread }
    match event with
    | .returns ret =>
        if ret = 0 ∧ (scheduler.threads worker).position = .loopTest ∧
            (scheduler.threads worker).waitingTask = none then some next
        else none
    | .throws => none
    | _ => some next

end Workers

def step (scheduler : CPUSheduler threadCount Task) :
    SchedulerEvent threadCount Task → Option (CPUSheduler threadCount Task)
  | .sheduleTask task => scheduler.sheduleTask task
  | .testReady task => scheduler.testReady task
  | .popFree task => scheduler.popFree task
  | .setWaitingTask task => scheduler.setWaitingTask task
  | .condSignal task => scheduler.condSignal task
  | .append task => scheduler.append task
  | .becomesReady task => some (scheduler.becomesReady task)
  | .beginRun worker => scheduler.beginRun worker
  | .endRun worker => scheduler.endRun worker
  | .look worker => scheduler.look worker
  | .enlist worker => scheduler.enlist worker
  | .assign worker => scheduler.assign worker
  | .run worker event => scheduler.run worker event

/-! ## The tasks and where they are -/

/-- The task is in the hands of its caller. -/
def inHand : CallPhase threadCount → Nat
  | .called => 1
  | .ready => 1
  | .popped _ => 1
  | .appending => 1
  | _ => 0

/-- The task was taken by the worker or stored for it, and is not run yet. -/
def carried (task : Task) (thread : CPUShedulerThread Task) : Nat :=
  (if thread.position = .assigning (some task) then 1 else 0) +
    (if thread.waitingTask = some task ∧ thread.unrun = true then 1 else 0)

/-- The number of places where a task waits to be run, and of its runs. -/
def places (scheduler : CPUSheduler threadCount Task) (task : Task) : Nat :=
  inHand (scheduler.calls task) + scheduler.pendingTasks.count task +
    (Finset.univ.sum fun worker => carried task (scheduler.threads worker)) + scheduler.runs task

/-- All workers are parked and announced as free. -/
def AllParked (scheduler : CPUSheduler threadCount Task) : Prop :=
  ∀ worker, worker ∈ scheduler.freeWorkerThreads ∧
    (scheduler.threads worker).thread.phase = .parked

/-- A task is stored for the worker, and its signal is still to come. -/
def ToBeSignalled (scheduler : CPUSheduler threadCount Task) (worker : Fin threadCount) : Prop :=
  ∃ task, scheduler.calls task = .stored worker

/-- Each scheduled task waits at one place or was run once, no task that is ready is left to
workers that are all parked, and no worker is parked on its task. -/
structure LosesNoTask (scheduler : CPUSheduler threadCount Task) : Prop where
  onePlace : ∀ task, scheduler.calls task ≠ .unscheduled → scheduler.places task = 1
  served : scheduler.AllParked → ∀ task ∈ scheduler.pendingTasks, scheduler.ready task = false
  notified : ∀ worker, (scheduler.threads worker).thread.phase = .parked →
    (scheduler.threads worker).waitingTask = none ∨ scheduler.ToBeSignalled worker

/-- A worker that stores its null result finds no new task there. A worker that begins to wait has
no task without a signal, and leaves no task that is ready to parked workers. No task that is ready
is appended, and none that is pending gets ready, while all workers are parked. -/
def LosesNone (scheduler : CPUSheduler threadCount Task) : SchedulerEvent threadCount Task → Prop
  | .assign worker => (scheduler.threads worker).position = .assigning none →
      (scheduler.threads worker).unrun = false
  | .run worker .wait => (scheduler.threads worker).thread.phase = .beforeWait →
      ((scheduler.threads worker).waitingTask = none ∨ scheduler.ToBeSignalled worker) ∧
      ((∀ other, other ∈ scheduler.freeWorkerThreads ∧
        (other ≠ worker → (scheduler.threads other).thread.phase = .parked)) →
          ∀ task ∈ scheduler.pendingTasks, scheduler.ready task = false)
  | .append task => scheduler.calls task = .appending → scheduler.ready task = true →
      ¬ scheduler.AllParked
  | .becomesReady task => scheduler.AllParked → task ∉ scheduler.pendingTasks
  | _ => True

end CPUSheduler

end Tasks

end GradidoNode

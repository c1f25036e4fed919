import GradidoNode.Cache.WriteOrder

/-!
# Shutting the server down

`MainServer::exit` stops the timer, clears the schedulers and only then closes the
blockchain, which waits for its write tasks and destroys its block. Until then
transactions come in and workers run.
-/

namespace GradidoNode

open Library Tasks Cache

/-- How far the thread in `MainServer::exit` has come. -/
inductive ExitStage
  /-- `exit` has not been called. -/
  | running
  | timerStopped
  | cpuSchedulerStopped
  | writeSchedulerStopped
  /-- `FileBased::exit` holds the work mutex and waits for the observed tasks. -/
  | waiting
  | waited
  | orderingManagerStopped
  /-- The cache of the blocks is cleared, and the destructor of the block has run `exit`. -/
  | blocksCleared
  | returned
  deriving DecidableEq

namespace ExitStage

/-- The stages in their order. -/
def rank : ExitStage → Nat
  | running => 0
  | timerStopped => 1
  | cpuSchedulerStopped => 2
  | writeSchedulerStopped => 3
  | waiting => 4
  | waited => 5
  | orderingManagerStopped => 6
  | blocksCleared => 7
  | returned => 8

end ExitStage

/-- One blockchain with its block, and the scheduler of the write tasks. -/
structure MainServer where
  writes : WriteSystem
  /-- `mPendingTasks`: the positions of write tasks that no worker has been given. -/
  pendingTasks : List Nat
  /-- The position of the task that the destructor of the block runs. -/
  exitTask : Option Nat
  stage : ExitStage
  deriving DecidableEq

inductive ServerEvent
  /-- A transaction comes in, the cache forgets one, or a write task takes a step. -/
  | write (event : WriteEvent)
  /-- The write timeout is over. The task goes to a free worker or into the pending list. -/
  | timer (freeWorker : Bool)
  /-- The next statement of `MainServer::exit` or of what it calls. -/
  | exit
  deriving DecidableEq

namespace MainServer

/-- `TaskObserver::getPendingTasksCount`. Every task handed over is observed until it has
finished; one that throws or never runs stays. -/
def pendingTasksCount (server : MainServer) : Nat :=
  (server.writes.handed.filter fun handed => handed.phase ≠ .finished).length

/-- `CPUSheduler::stop` for the write tasks. -/
def stopWriteScheduler (server : MainServer) : MainServer :=
  { server with
    writes := server.pendingTasks.foldl (fun writes position => writes.setPhase position .dropped)
      server.writes
    pendingTasks := [] }

/-- Clearing the cache of the blocks destroys the block, which runs its open task. -/
def clearBlocks (server : MainServer) : MainServer :=
  { server with
    writes := server.writes.handOver server.writes.block.exit .started
    exitTask := server.writes.block.exit.1.map fun _ => server.writes.handed.length }

/-- The task run by the destructor of the block is through. -/
def exitTaskFinished (server : MainServer) : Bool :=
  match server.exitTask with
  | none => true
  | some position =>
      match server.writes.handed[position]? with
      | some handed => handed.phase = .finished
      | none => false

/-- The statements of `MainServer::exit` in their order. The loop in `FileBased::exit`
ends when no observed task is left, and else gives up after a while. -/
def exit (server : MainServer) : Option MainServer :=
  match server.stage with
  | .running => some { server with stage := .timerStopped }
  | .timerStopped => some { server with stage := .cpuSchedulerStopped }
  | .cpuSchedulerStopped => some { server.stopWriteScheduler with stage := .writeSchedulerStopped }
  | .writeSchedulerStopped => some { server with stage := .waiting }
  | .waiting => some { server with stage := .waited }
  | .waited => some { server with stage := .orderingManagerStopped }
  | .orderingManagerStopped => some { server.clearBlocks with stage := .blocksCleared }
  | .blocksCleared =>
      if server.exitTaskFinished then some { server with stage := .returned } else none
  | .returned => none

/-- `callFromTimer`, and `sheduleTask` for the task it hands over. -/
def timer (server : MainServer) (freeWorker : Bool) : MainServer :=
  let handed := server.writes.block.callFromTimer
  { server with
    writes := server.writes.handOver handed .scheduled
    pendingTasks :=
      if freeWorker then server.pendingTasks
      else server.pendingTasks ++ (handed.1.map fun _ => server.writes.handed.length).toList }

variable (genericHash : List UInt8 → Digest)
  (getCommunityIdIndex : String → Except Exception UInt32)

/-- A worker takes the task it was given, or the first of the pending list. From
`FileBased::exit` on no transaction is pushed. -/
def step (server : MainServer) : ServerEvent → Option MainServer
  | .exit => server.exit
  | .timer freeWorker =>
      if server.stage = .running then some (server.timer freeWorker) else none
  | .write event =>
      match event with
      | .timer | .exit | .drop _ => none
      | .push _ =>
          if server.stage.rank < ExitStage.waiting.rank then
            (server.writes.step genericHash getCommunityIdIndex event).map fun writes =>
              { server with writes := writes }
          else some server
      | .take position =>
          if position ∈ server.pendingTasks.tail then none
          else
            (server.writes.step genericHash getCommunityIdIndex event).map fun writes =>
              { server with
                writes := writes
                pendingTasks := server.pendingTasks.erase position }
      | .expire _ | .lockTimeout _ | .append _ | .recordFileCursor _ | .serializeIndex _
      | .writeIndex _ =>
          (server.writes.step genericHash getCommunityIdIndex event).map fun writes =>
            { server with writes := writes }

/-- A server that has just been started. -/
def start (writes : WriteSystem) : MainServer where
  writes := writes
  pendingTasks := []
  exitTask := none
  stage := .running

/-- Every transaction pushed into the block is in the block file. -/
def Durable (server : MainServer) : Prop :=
  ∃ lines, server.writes.blockFile.Holds genericHash lines ∧
    ∀ transaction ∈ server.writes.pushed, transaction.serializedTransaction ∈ lines

end MainServer

end GradidoNode

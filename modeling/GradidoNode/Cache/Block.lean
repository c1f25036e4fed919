import GradidoNode.Cache.BlockIndexFile
import GradidoNode.Library.Run
import GradidoNode.Tasks.WriteTransactionsToBlockTask

/-!
# A block and its write tasks

Transactions are pushed into the open write task of a block. The timer hands the
open task over to the IO scheduler, `exit` runs it directly. The steps of all
tasks handed over so far interleave freely; only the appending of lines is one
step, since it holds the lock of the block file.
-/

namespace GradidoNode

open Library Tasks

namespace Cache

/-- `cache::Block` without its files. -/
structure Block where
  transactionWriteTask : Option WriteTransactionsToBlockTask
  blockIndex : BlockIndex
  serializedTransactions : OrderedMap UInt64 NodeTransactionEntry
  exitCalled : Bool
  deriving DecidableEq

namespace Block

/-- The constructor, around an index that may already be loaded. -/
def new (blockIndex : BlockIndex) : Block where
  transactionWriteTask := none
  blockIndex := blockIndex
  serializedTransactions := ∅
  exitCalled := false

def pushTransaction (block : Block) (getCommunityIdIndex : String → Except Exception UInt32)
    (transaction : NodeTransactionEntry) : Except Exception Bool × Block :=
  if block.exitCalled then (.ok false, block)
  else
    let openTask := block.transactionWriteTask.getD .new
    match WriteTransactionsToBlockTask.addSerializedTransaction getCommunityIdIndex transaction
        (openTask, block.blockIndex) with
    | (.error exception, (task, index)) =>
        (.error exception,
          { block with transactionWriteTask := some task, blockIndex := index })
    | (.ok _, (task, index)) =>
        (.ok true, { block with
          transactionWriteTask := some task
          blockIndex := index
          serializedTransactions :=
            block.serializedTransactions.set transaction.transactionNr transaction })

/-- `callFromTimer` once the write timeout is over: the task to schedule. -/
def callFromTimer (block : Block) : Option WriteTransactionsToBlockTask × Block :=
  if block.exitCalled then (none, block)
  else (block.transactionWriteTask, { block with transactionWriteTask := none })

/-- `exit`: the task to run at once. -/
def exit (block : Block) : Option WriteTransactionsToBlockTask × Block :=
  (block.transactionWriteTask, { block with transactionWriteTask := none, exitCalled := true })

variable (getCommunityIdIndex : String → Except Exception UInt32)

/-- A block that is ending takes no transaction. -/
theorem pushTransaction_of_exitCalled (block : Block) (transaction : NodeTransactionEntry)
    (called : block.exitCalled = true) :
    block.pushTransaction getCommunityIdIndex transaction = (.ok false, block) := by
  simp only [pushTransaction, called, ↓reduceIte]

/-- Pushing puts the transaction into the open task, whether or not indexing it throws. -/
theorem pushTransaction_openTask (block : Block) (transaction : NodeTransactionEntry)
    (called : block.exitCalled = false) :
    (block.pushTransaction getCommunityIdIndex transaction).2.transactionWriteTask =
      some ((block.transactionWriteTask.getD .new).insert transaction) := by
  simp only [pushTransaction, called, Bool.false_eq_true, ↓reduceIte,
    WriteTransactionsToBlockTask.addSerializedTransaction]
  cases BlockIndex.addIndicesForTransactionEntry getCommunityIdIndex transaction
      block.blockIndex with
  | mk outcome index => cases outcome <;> rfl

/-- A push changes the index as indexing the transaction does, even where that throws. -/
theorem pushTransaction_index (block : Block) (transaction : NodeTransactionEntry)
    (called : block.exitCalled = false) :
    (block.pushTransaction getCommunityIdIndex transaction).2.blockIndex =
      (BlockIndex.addIndicesForTransactionEntry getCommunityIdIndex transaction
        block.blockIndex).2 := by
  simp only [pushTransaction, called, Bool.false_eq_true, ↓reduceIte,
    WriteTransactionsToBlockTask.addSerializedTransaction]
  cases BlockIndex.addIndicesForTransactionEntry getCommunityIdIndex transaction
      block.blockIndex with
  | mk outcome index => cases outcome <;> rfl

/-- A push does not end the block. -/
theorem pushTransaction_exitCalled (block : Block) (transaction : NodeTransactionEntry) :
    (block.pushTransaction getCommunityIdIndex transaction).2.exitCalled = block.exitCalled := by
  unfold pushTransaction
  split
  · rfl
  · dsimp only
    split
    · rfl
    · rfl

/-- The cache gets the transaction, unless indexing it throws. -/
theorem pushTransaction_cache (block : Block) (transaction : NodeTransactionEntry) :
    (block.pushTransaction getCommunityIdIndex transaction).2.serializedTransactions =
        block.serializedTransactions ∨
      (block.pushTransaction getCommunityIdIndex transaction).2.serializedTransactions =
        block.serializedTransactions.set transaction.transactionNr transaction := by
  unfold pushTransaction
  split
  · exact Or.inl rfl
  · dsimp only
    split
    · exact Or.inl rfl
    · exact Or.inr rfl

end Block

/-- How far a task that left its block has come. -/
inductive Phase
  /-- In the pending list of the IO scheduler, or assigned to a worker that sleeps. -/
  | scheduled
  /-- Lost on the way to a worker, or cleared with the pending list. -/
  | dropped
  | started
  /-- The lines are in the file; these transactions still have to get their file cursor. -/
  | appended (fileCursors : List (UInt64 × UInt32))
  /-- The blocks of the index file are built and wait for the lock of the index file. -/
  | serialized (blocks : Option (List Files.IndexBlock))
  | finished
  /-- `run` threw, after writing the lines or not, and after the last file cursor or not. -/
  | failed (written recorded : Bool) (exception : Exception)
  deriving DecidableEq

/-- The lines of the task are in the block file. -/
def Phase.written : Phase → Bool
  | scheduled => false
  | dropped => false
  | started => false
  | appended _ => true
  | serialized _ => true
  | finished => true
  | failed written _ _ => written

/-- The loop that records the file cursors is over. -/
def Phase.recorded : Phase → Bool
  | scheduled => false
  | dropped => false
  | started => false
  | appended fileCursors => fileCursors.isEmpty
  | serialized _ => true
  | finished => true
  | failed _ recorded _ => recorded

/-- A task that has not written is not behind the append. -/
theorem Phase.ne_appended_of_unwritten {phase : Phase} (unwritten : phase.written = false)
    (fileCursors : List (UInt64 × UInt32)) : phase ≠ .appended fileCursors := by
  rintro rfl
  cases unwritten

structure HandedTask where
  task : WriteTransactionsToBlockTask
  phase : Phase
  deriving DecidableEq

/-- A block, its two files and the tasks that left it, in the order in which they left. -/
structure WriteSystem where
  block : Block
  blockFile : Files.Block
  indexDisk : Option (List UInt8)
  handed : List HandedTask
  /-- The transactions pushed so far, whether indexing them threw or not. -/
  pushed : List NodeTransactionEntry
  deriving DecidableEq

inductive WriteEvent
  | push (transaction : NodeTransactionEntry)
  /-- The cache forgets a transaction. -/
  | expire (transactionNr : UInt64)
  | timer
  | exit
  | take (position : Nat)
  | drop (position : Nat)
  /-- The file the task wants to write next stays locked for too long. -/
  | lockTimeout (position : Nat)
  | append (position : Nat)
  | recordFileCursor (position : Nat)
  | serializeIndex (position : Nat)
  | writeIndex (position : Nat)
  deriving DecidableEq

/-- The task whose step an event is. -/
def WriteEvent.position? : WriteEvent → Option Nat
  | push _ => none
  | expire _ => none
  | timer => none
  | exit => none
  | take position => some position
  | drop position => some position
  | lockTimeout position => some position
  | append position => some position
  | recordFileCursor position => some position
  | serializeIndex position => some position
  | writeIndex position => some position

namespace WriteSystem

def handOver (system : WriteSystem) (handed : Option WriteTransactionsToBlockTask × Block)
    (phase : Phase) : WriteSystem :=
  { system with
    block := handed.2
    handed := system.handed ++ (handed.1.map fun task => ⟨task, phase⟩).toList }

def setPhase (system : WriteSystem) (position : Nat) (phase : Phase) : WriteSystem :=
  { system with
    handed := system.handed.modify position fun handed => { handed with phase := phase } }

def setIndex (system : WriteSystem) (index : BlockIndex) : WriteSystem :=
  { system with block := { system.block with blockIndex := index } }

section

variable (genericHash : List UInt8 → Digest)
  (getCommunityIdIndex : String → Except Exception UInt32)

/-- The steps of `WriteTransactionsToBlockTask::run`, and what the scheduler does
with a task before. -/
def taskStep (system : WriteSystem) (position : Nat) (handed : HandedTask) :
    WriteEvent → Option WriteSystem
  | .take _ =>
      match handed.phase with
      | .scheduled => some (system.setPhase position .started)
      | _ => none
  | .drop _ =>
      match handed.phase with
      | .scheduled => some (system.setPhase position .dropped)
      | _ => none
  | .lockTimeout _ =>
      match handed.phase with
      | .started => some (system.setPhase position
          (.failed false false (.lockException "couldn't lock file in time" "blk.dat")))
      | .serialized (some _) => some (system.setPhase position
          (.failed true true
            (.lockException "cannot lock file to write into virtual file" "blk.index")))
      | _ => none
  | .append _ =>
      match handed.phase with
      | .started =>
          match WriteTransactionsToBlockTask.collectLines 0 handed.task.entries with
          | .error exception => some (system.setPhase position (.failed false false exception))
          | .ok lines =>
              let appended := Files.Block.appendLines genericHash lines system.blockFile
              some { system.setPhase position
                  (.appended ((handed.task.entries.map (·.transactionNr)).zip appended.1)) with
                blockFile := appended.2 }
      | _ => none
  | .recordFileCursor _ =>
      match handed.phase with
      | .appended ((transactionNr, fileCursor) :: rest) =>
          match BlockIndex.addFileCursorForTransaction transactionNr fileCursor.toInt32
              system.block.blockIndex with
          | (.ok _, index) => some ((system.setIndex index).setPhase position (.appended rest))
          | (.error exception, index) =>
              some ((system.setIndex index).setPhase position (.failed true false exception))
      | _ => none
  | .serializeIndex _ =>
      match handed.phase with
      | .appended [] =>
          match system.block.blockIndex.serialize with
          | .error exception => some { system.setPhase position (.failed true true exception) with
              indexDisk := some (system.indexDisk.getD []) }
          | .ok blocks => some (system.setPhase position (.serialized blocks))
      | _ => none
  | .writeIndex _ =>
      match handed.phase with
      | .serialized none => some (system.setPhase position .finished)
      | .serialized (some blocks) => some { system.setPhase position .finished with
          indexDisk := some (Files.fileContent genericHash blocks) }
      | _ => none
  | _ => none

def step (system : WriteSystem) (event : WriteEvent) : Option WriteSystem :=
  match event with
  | .push transaction =>
      let pushed := system.block.pushTransaction getCommunityIdIndex transaction
      some { system with
        block := pushed.2
        pushed := if system.block.exitCalled then system.pushed
          else system.pushed ++ [transaction] }
  | .expire transactionNr => some { system with block := { system.block with
      serializedTransactions := system.block.serializedTransactions.erase transactionNr } }
  | .timer => some (system.handOver system.block.callFromTimer .scheduled)
  | .exit => some (system.handOver system.block.exit .started)
  | .take position | .drop position | .lockTimeout position | .append position
  | .recordFileCursor position | .serializeIndex position | .writeIndex position =>
      match system.handed[position]? with
      | some handed => taskStep genericHash system position handed event
      | none => none

end

section

variable {genericHash : List UInt8 → Digest}
  {getCommunityIdIndex : String → Except Exception UInt32}

@[simp] theorem setPhase_block (system : WriteSystem) (position : Nat) (phase : Phase) :
    (system.setPhase position phase).block = system.block := rfl

@[simp] theorem setPhase_blockFile (system : WriteSystem) (position : Nat) (phase : Phase) :
    (system.setPhase position phase).blockFile = system.blockFile := rfl

@[simp] theorem setPhase_pushed (system : WriteSystem) (position : Nat) (phase : Phase) :
    (system.setPhase position phase).pushed = system.pushed := rfl

/-- Moving one task on leaves the others. -/
theorem setPhase_handed (system : WriteSystem) (position : Nat) (phase : Phase) :
    (system.setPhase position phase).handed =
      system.handed.modify position fun handed => { handed with phase := phase } := rfl

/-- Everything a step of a task can do: append its lines, record a file cursor, fail at
one, or change its phase without a trace in the index and the block file. -/
inductive TaskStep (genericHash : List UInt8 → Digest) (system : WriteSystem) (position : Nat)
    (handed : HandedTask) : WriteEvent → WriteSystem → Prop
  | append {lines : List (List UInt8)} (started : handed.phase = .started)
      (collected : WriteTransactionsToBlockTask.collectLines 0 handed.task.entries = .ok lines) :
      TaskStep genericHash system position handed (.append position)
        { system.setPhase position (.appended ((handed.task.entries.map (·.transactionNr)).zip
            (Files.Block.appendLines genericHash lines system.blockFile).1)) with
          blockFile := (Files.Block.appendLines genericHash lines system.blockFile).2 }
  | record {transactionNr : UInt64} {fileCursor : UInt32} {rest : List (UInt64 × UInt32)}
      {result : Bool} {index : BlockIndex}
      (appended : handed.phase = .appended ((transactionNr, fileCursor) :: rest))
      (recorded : BlockIndex.addFileCursorForTransaction transactionNr fileCursor.toInt32
        system.block.blockIndex = (.ok result, index)) :
      TaskStep genericHash system position handed (.recordFileCursor position)
        ((system.setIndex index).setPhase position (.appended rest))
  | recordFailed {transactionNr : UInt64} {fileCursor : UInt32}
      {rest : List (UInt64 × UInt32)} {exception : Exception} {index : BlockIndex}
      (appended : handed.phase = .appended ((transactionNr, fileCursor) :: rest))
      (failed : BlockIndex.addFileCursorForTransaction transactionNr fileCursor.toInt32
        system.block.blockIndex = (.error exception, index)) :
      TaskStep genericHash system position handed (.recordFileCursor position)
        ((system.setIndex index).setPhase position (.failed true false exception))
  | quiet {event : WriteEvent} (phase : Phase) (indexDisk : Option (List UInt8))
      (written : phase.written = handed.phase.written)
      (recorded : phase.recorded = handed.phase.recorded)
      (notAppended : ∀ fileCursors, phase ≠ .appended fileCursors) :
      TaskStep genericHash system position handed event
        { system.setPhase position phase with indexDisk := indexDisk }

/-- A task that only moves on takes a step that writes and records nothing. -/
theorem TaskStep.of_phase {system : WriteSystem} {position : Nat} {handed : HandedTask}
    {event : WriteEvent} {before phase : Phase} (start : handed.phase = before)
    (written : phase.written = before.written) (recorded : phase.recorded = before.recorded)
    (notAppended : ∀ fileCursors, phase ≠ .appended fileCursors) :
    TaskStep genericHash system position handed event (system.setPhase position phase) :=
  TaskStep.quiet phase system.indexDisk (start ▸ written) (start ▸ recorded) notAppended

/-- What the task function does is one of the steps. -/
theorem taskStep_sound {system next : WriteSystem} {position : Nat} {handed : HandedTask}
    {event : WriteEvent} (target : event.position? = some position)
    (taken : taskStep genericHash system position handed event = some next) :
    TaskStep genericHash system position handed event next := by
  cases event with
  | push _ => cases taken
  | expire _ => cases taken
  | timer => cases taken
  | exit => cases taken
  | take _ =>
      simp only [taskStep] at taken
      split at taken
      · rename_i start
        cases taken
        exact TaskStep.of_phase start rfl rfl nofun
      · cases taken
  | drop _ =>
      simp only [taskStep] at taken
      split at taken
      · rename_i start
        cases taken
        exact TaskStep.of_phase start rfl rfl nofun
      · cases taken
  | lockTimeout _ =>
      simp only [taskStep] at taken
      split at taken
      · rename_i start
        cases taken
        exact TaskStep.of_phase start rfl rfl nofun
      · rename_i start
        cases taken
        exact TaskStep.of_phase start rfl rfl nofun
      · cases taken
  | append _ =>
      cases target
      simp only [taskStep] at taken
      split at taken
      · rename_i start
        split at taken
        · cases taken
          exact TaskStep.of_phase start rfl rfl nofun
        · rename_i collected
          cases taken
          exact TaskStep.append start collected
      · cases taken
  | recordFileCursor _ =>
      cases target
      simp only [taskStep] at taken
      split at taken
      · rename_i appended
        split at taken
        · rename_i recorded
          cases taken
          exact TaskStep.record appended recorded
        · rename_i failed
          cases taken
          exact TaskStep.recordFailed appended failed
      · cases taken
  | serializeIndex _ =>
      simp only [taskStep] at taken
      split at taken
      · rename_i start
        split at taken
        · cases taken
          exact TaskStep.quiet _ _ (start ▸ rfl) (start ▸ rfl) nofun
        · cases taken
          exact TaskStep.of_phase start rfl rfl nofun
      · cases taken
  | writeIndex _ =>
      simp only [taskStep] at taken
      split at taken
      · rename_i start
        cases taken
        exact TaskStep.of_phase start rfl rfl nofun
      · rename_i start
        cases taken
        exact TaskStep.quiet _ _ (start ▸ rfl) (start ▸ rfl) nofun
      · cases taken

/-- A step either pushes, lets the cache forget, hands the open task over, or is a step
of a task handed over before. -/
inductive Step (genericHash : List UInt8 → Digest)
    (getCommunityIdIndex : String → Except Exception UInt32) (system : WriteSystem) :
    WriteEvent → WriteSystem → Prop
  | push (transaction : NodeTransactionEntry) :
      Step genericHash getCommunityIdIndex system (.push transaction) { system with
        block := (system.block.pushTransaction getCommunityIdIndex transaction).2
        pushed := if system.block.exitCalled then system.pushed
          else system.pushed ++ [transaction] }
  | expire (transactionNr : UInt64) :
      Step genericHash getCommunityIdIndex system (.expire transactionNr) { system with
        block := { system.block with
          serializedTransactions := system.block.serializedTransactions.erase transactionNr } }
  | timer : Step genericHash getCommunityIdIndex system .timer
      (system.handOver system.block.callFromTimer .scheduled)
  | exit : Step genericHash getCommunityIdIndex system .exit
      (system.handOver system.block.exit .started)
  | task {position : Nat} {handed : HandedTask} {event : WriteEvent} {next : WriteSystem}
      (target : event.position? = some position)
      (found : system.handed[position]? = some handed)
      (taken : TaskStep genericHash system position handed event next) :
      Step genericHash getCommunityIdIndex system event next

/-- What the step function does is one of the steps. -/
theorem step_sound {system next : WriteSystem} {event : WriteEvent}
    (taken : step genericHash getCommunityIdIndex system event = some next) :
    Step genericHash getCommunityIdIndex system event next := by
  have ofTask {position : Nat} (target : event.position? = some position)
      (taken : (match system.handed[position]? with
        | some handed => taskStep genericHash system position handed event
        | none => none) = some next) :
      Step genericHash getCommunityIdIndex system event next := by
    split at taken
    · rename_i handed found
      exact Step.task target found (taskStep_sound target taken)
    · cases taken
  cases event with
  | push transaction =>
      cases taken
      exact Step.push transaction
  | expire transactionNr =>
      cases taken
      exact Step.expire transactionNr
  | timer =>
      cases taken
      exact Step.timer
  | exit =>
      cases taken
      exact Step.exit
  | take _ => exact ofTask rfl taken
  | drop _ => exact ofTask rfl taken
  | lockTimeout _ => exact ofTask rfl taken
  | append _ => exact ofTask rfl taken
  | recordFileCursor _ => exact ofTask rfl taken
  | serializeIndex _ => exact ofTask rfl taken
  | writeIndex _ => exact ofTask rfl taken

/-- An event of a task is a step of that task. -/
theorem step_of_position {event : WriteEvent} {position : Nat}
    (target : event.position? = some position) (system : WriteSystem) :
    system.step genericHash getCommunityIdIndex event =
      (system.handed[position]?).bind fun handed =>
        taskStep genericHash system position handed event := by
  cases event with
  | push _ => cases target
  | expire _ => cases target
  | timer => cases target
  | exit => cases target
  | _ =>
      cases target
      unfold step
      dsimp only
      cases system.handed[position]? with
      | none => rfl
      | some _ => rfl

/-- A step of a task is one of a task that was handed over. -/
theorem taskStep_of_step {system next : WriteSystem} {event : WriteEvent} {position : Nat}
    (target : event.position? = some position)
    (taken : system.step genericHash getCommunityIdIndex event = some next) :
    ∃ handed, system.handed[position]? = some handed ∧
      taskStep genericHash system position handed event = some next := by
  rw [step_of_position target] at taken
  exact Option.bind_eq_some_iff.mp taken

end

end WriteSystem

end Cache

end GradidoNode

import GradidoNode.Cache.Block
import GradidoNode.Controller.TaskObserver

/-!
# Reading a transaction of a block

`getTransaction` looks for a transaction in the cache, in the open write task, at the observer
and last in the block file. It holds the mutex of the block, so transactions are not pushed
meanwhile and the open task stays, but write tasks go on and the cache forgets.
-/

namespace GradidoNode

open Library Tasks Controller

namespace Cache

/-- What reading relies on: the constructor of an entry from a line and its file cursor, the
deserializer that is asked once more for the log, the path of the block file, and what
writing relies on. -/
structure ReadEnvironment where
  genericHash : List UInt8 → Digest
  getCommunityIdIndex : String → Except Exception UInt32
  transactionEntry : List UInt8 → Int32 → Except Exception NodeTransactionEntry
  deserialize : List UInt8 → Except Exception Unit
  blockPath : String

/-- How far a call of `getTransaction` has come. -/
inductive ReadPhase
  | cache
  | openTask
  | isPending
  | observed
  /-- In front of `getFileCursorForTransactionNr`, for the first or the second time. -/
  | fileCursor (again : Bool)
  /-- Asleep in its loop, with the rounds left. -/
  | fileCursorWait (again : Bool) (timeout : Nat)
  | readLine (fileCursor : Int32)
  | addTransaction (fileCursor : Int32) (blockLine : List UInt8)
  | cacheAgain (fileCursor : Int32)
  | returned (result : Except Exception NodeTransactionEntry)
  deriving DecidableEq

/-- A call of `getTransaction`. -/
structure Reader where
  transactionNr : UInt64
  phase : ReadPhase
  deriving DecidableEq

/-- A block with its write tasks, their observer and the last call of `getTransaction`, which
is remembered until the next transaction is pushed. -/
structure ReadSystem where
  writes : WriteSystem
  observer : TaskObserver
  reader : Option Reader
  deriving DecidableEq

inductive ReadEvent
  | write (event : WriteEvent)
  /-- The finish command of a task. -/
  | taskFinished (position : Nat)
  | getTransaction (transactionNr : UInt64)
  | read
  /-- The block file stays locked for too long. -/
  | readLocked
  deriving DecidableEq

namespace ReadSystem

/-- A call of `getTransaction` holds the mutex of the block. -/
def isLocked (system : ReadSystem) : Bool :=
  match system.reader with
  | none => false
  | some reader =>
      match reader.phase with
      | .returned _ => false
      | _ => true

def setPhase (system : ReadSystem) (transactionNr : UInt64) (phase : ReadPhase) : ReadSystem :=
  { system with reader := some ⟨transactionNr, phase⟩ }

def setCache (system : ReadSystem)
    (serializedTransactions : OrderedMap UInt64 NodeTransactionEntry) : ReadSystem :=
  { system with writes := { system.writes with
      block := { system.writes.block with serializedTransactions := serializedTransactions } } }

/-- The exceptions of `getTransaction` itself. -/
def notFound (what : String) (transactionNr : UInt64) : ReadPhase :=
  .returned (.error (.transactionNotFound what transactionNr))

/-- What an exception while reading the file is turned into. -/
def whileReading (transactionNr : UInt64) : Exception → ReadPhase
  | .endReaching _ _ _ _ => notFound "transaction not found in file" transactionNr
  | exception => .returned (.error exception)

/-- `getFileCursorForTransactionNr` found no file cursor. -/
def noFileCursor (again : Bool) (transactionNr : UInt64) : ReadPhase :=
  if again then
    notFound "transaction not found in cache, in write task or file after sleep" transactionNr
  else notFound "transaction not found in cache, in write task or file" transactionNr

/-- `getFileCursorForTransactionNr` found a file cursor. A 0 is asked for once more where the
transaction is not the last one. -/
def fileCursorFound (system : ReadSystem) (again : Bool) (transactionNr : UInt64)
    (fileCursor : Int32) : ReadPhase :=
  if !again ∧ fileCursor = 0 ∧ transactionNr < system.writes.block.blockIndex.maxTransactionNr then
    .fileCursor true
  else .readLine fileCursor

variable (environment : ReadEnvironment)

/-- A step of `getTransaction`. -/
def readStep (system : ReadSystem) (transactionNr : UInt64) : ReadPhase → Option ReadSystem
  | .cache =>
      match system.writes.block.serializedTransactions.find? transactionNr with
      | some entry => some (system.setPhase transactionNr (.returned (.ok entry)))
      | none => some (system.setPhase transactionNr .openTask)
  | .openTask =>
      match (system.writes.block.transactionWriteTask.getD .new).getTransaction transactionNr with
      | some entry => some (system.setPhase transactionNr (.returned (.ok entry)))
      | none => some (system.setPhase transactionNr .isPending)
  | .isPending =>
      if system.observer.isTransactionPending transactionNr then
        some (system.setPhase transactionNr .observed)
      else some (system.setPhase transactionNr (.fileCursor false))
  | .observed =>
      match system.observer.getTransaction transactionNr with
      | some entry => some (system.setPhase transactionNr (.returned (.ok entry)))
      | none => some (system.setPhase transactionNr (.fileCursor false))
  | .fileCursor again =>
      match system.writes.block.blockIndex.transactionNrsFileCursors.find? transactionNr with
      | none => some (system.setPhase transactionNr (noFileCursor again transactionNr))
      | some fileCursor =>
          if fileCursor = 0 ∧ transactionNr > 1 then
            some (system.setPhase transactionNr (.fileCursorWait again 100))
          else some (system.setPhase transactionNr
            (system.fileCursorFound again transactionNr fileCursor))
  | .fileCursorWait again timeout =>
      match system.writes.block.blockIndex.transactionNrsFileCursors.find? transactionNr with
      | none => some (system.setPhase transactionNr (noFileCursor again transactionNr))
      | some fileCursor =>
          if fileCursor = 0 ∧ timeout > 1 then
            some (system.setPhase transactionNr (.fileCursorWait again (timeout - 1)))
          else some (system.setPhase transactionNr
            (system.fileCursorFound again transactionNr fileCursor))
  | .readLine fileCursor =>
      match system.writes.blockFile.readLine environment.blockPath fileCursor.toUInt32 with
      | .error exception => some (system.setPhase transactionNr
          (whileReading transactionNr exception))
      | .ok blockLine => some (system.setPhase transactionNr (.addTransaction fileCursor blockLine))
  | .addTransaction fileCursor blockLine =>
      match environment.transactionEntry blockLine fileCursor with
      | .error exception => some (system.setPhase transactionNr
          (whileReading transactionNr exception))
      | .ok entry =>
          if system.writes.block.exitCalled then
            some (system.setPhase transactionNr (.cacheAgain fileCursor))
          else some ((system.setCache (system.writes.block.serializedTransactions.set
            entry.transactionNr entry)).setPhase transactionNr (.cacheAgain fileCursor))
  | .cacheAgain fileCursor =>
      match system.writes.block.serializedTransactions.find? transactionNr with
      | some entry => some (system.setPhase transactionNr (.returned (.ok entry)))
      | none =>
          -- the line is read again for the log
          match system.writes.blockFile.readLine environment.blockPath fileCursor.toUInt32 with
          | .error exception => some (system.setPhase transactionNr (.returned (.error exception)))
          | .ok blockLine =>
              match environment.deserialize blockLine with
              | .error exception =>
                  some (system.setPhase transactionNr (.returned (.error exception)))
              | .ok _ => some (system.setPhase transactionNr
                  (notFound "transaction not found after reading from block file" transactionNr))
  | .returned _ => none

/-- The timer gives the open task to the observer before it is scheduled. -/
def observe (system : ReadSystem) (position : Nat) : TaskObserver :=
  match system.writes.block.callFromTimer.1 with
  | some task => (system.observer.addBlockWriteTask position task).2
  | none => system.observer

/-- A step of the writing part. Pushing, the timer and `exit` need the mutex of the block. -/
def writeStep (system : ReadSystem) (event : WriteEvent) : Option ReadSystem :=
  (system.writes.step environment.genericHash environment.getCommunityIdIndex event).bind
    fun writes =>
      match event with
      | .push _ => if system.isLocked then none else some { system with
          writes := writes
          reader := none }
      | .exit => if system.isLocked then none else some { system with writes := writes }
      | .timer => if system.isLocked then none else some { system with
          writes := writes
          observer := system.observe system.writes.handed.length }
      | _ => some { system with writes := writes }

def step (system : ReadSystem) : ReadEvent → Option ReadSystem
  | .write event => system.writeStep environment event
  | .taskFinished position =>
      match system.writes.handed[position]? with
      | none => none
      | some handed =>
          if handed.phase = .finished then some { system with
            observer := (system.observer.removeBlockWriteTask position).2 }
          else none
  | .getTransaction transactionNr =>
      if system.isLocked then none else some (system.setPhase transactionNr .cache)
  | .read => system.reader.bind fun reader =>
      system.readStep environment reader.transactionNr reader.phase
  | .readLocked =>
      match system.reader with
      | some ⟨transactionNr, .readLine _⟩ => some (system.setPhase transactionNr
          (.returned (.error (.lockException "cannot lock file for reading"
            environment.blockPath))))
      | _ => none

end ReadSystem

/-- The steps a call of `getTransaction` has left at most. -/
def ReadPhase.stepsLeft : ReadPhase → Nat
  | returned _ => 0
  | cacheAgain _ => 1
  | addTransaction _ _ => 2
  | readLine _ => 3
  | fileCursorWait true timeout => 4 + timeout
  | fileCursor true => 105
  | fileCursorWait false timeout => 106 + timeout
  | fileCursor false => 207
  | observed => 208
  | isPending => 209
  | openTask => 210
  | cache => 211

end Cache

end GradidoNode

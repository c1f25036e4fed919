import GradidoNode.Files.DamagedBlock
import GradidoNode.Lib.VirtualFile
import GradidoNode.SingletonManager.FileLockManager

/-!
# Reading and writing under file locks

The functions that lock a file while they work on it. A block file is opened where its stream
was closed meanwhile, which may throw. A stream that comes to the end of its file fails from
then on: nothing is read from it, nothing is written to it, and it is nowhere.
-/

namespace GradidoNode

open Library

namespace Files

/-- `mBlockFile`: null, a good stream with its position, or one whose `failbit` is set. -/
inductive Stream
  | null
  | opened (position : Nat)
  | failing
  deriving DecidableEq

namespace Stream

/-- `seekg` and `seekp`; they share one position. -/
def seek (position : Nat) : Stream → Stream
  | opened _ => opened position
  | stream => stream

/-- `read` of a number of bytes: those that are there, and the stream behind them. -/
def read (disk : List UInt8) (count : Nat) : Stream → List UInt8 × Stream
  | opened position =>
      let bytes := (disk.drop position).take count
      (bytes, if bytes.length = count then opened (position + count) else failing)
  | stream => ([], stream)

end Stream

/-- A block file with its stream. -/
structure OpenBlock where
  file : Block
  stream : Stream
  deriving DecidableEq

/-- What a `getOpenFile` comes upon. -/
structure Opening where
  /-- `callFromTimer` has closed the stream before. -/
  timedOut : Bool
  /-- The file can be opened. -/
  opens : Bool

/-- The block files, the other files, and their locks. -/
structure FileSystem where
  locks : FileLockManager
  blocks : String → OpenBlock
  contents : String → Option (List UInt8)

/-- What uninitialised memory holds: a buffer of some size, and an array for a hash. -/
structure Uninitialised where
  buffer : VirtualFile.Allocator
  hash : Digest

/-- A buffer after a read into it; a short read leaves its end as it was. -/
def readIntoBuffer (buffer bytes : List UInt8) : List UInt8 := bytes ++ buffer.drop bytes.length

namespace OpenBlock

/-- `Block::getOpenFile`; a file that is opened is opened at its end. A file that cannot be opened
leaves its stream behind, and the next call does not open it again. -/
def getOpenFile (path : String) (opening : Opening) : Throwing OpenBlock Unit := fun block =>
  if block.stream = .null ∨ opening.timedOut = true then
    if opening.opens then
      (.ok (), {
        file := { block.file with
          currentFileSize :=
            if block.file.disk.length > 32 then UInt32.ofNat block.file.disk.length - 32
            else block.file.currentFileSize }
        stream := .opened block.file.disk.length })
    else (.error (.openFile "cannot open block file" path), { block with stream := .failing })
  else (.ok (), block)

/-- `read` where the stream is. -/
def read (count : Nat) (block : OpenBlock) : List UInt8 × OpenBlock :=
  let bytes := block.stream.read block.file.disk count
  (bytes.1, { block with stream := bytes.2 })

/-- `read` behind `seekg`. -/
def readAt (position count : Nat) (block : OpenBlock) : List UInt8 × OpenBlock :=
  ({ block with stream := block.stream.seek position } : OpenBlock).read count

/-- What `readLine` does under its lock; the size is zero where nothing can be read. -/
def readRecord (path : String) (startReading : UInt32) (memory : Uninitialised) :
    Throwing OpenBlock (List UInt8) := fun block =>
  let sized := block.readAt startReading.toNat 2
  let transactionSize : UInt16 := LittleEndian.decode sized.1
  if startReading + transactionSize.toUInt32 > block.file.currentFileSize then
    (.error (.endReaching "file is to small for transaction size" path startReading.toNat
      transactionSize.toNat), sized.2)
  else if transactionSize.toNat < Block.minimalFileSize then
    (.error (.invalidReadBlockSize "transactionSize is to small to contain a transaction" path
      startReading.toNat transactionSize.toNat), sized.2)
  else
    let line := sized.2.read transactionSize.toNat
    (.ok (readIntoBuffer (memory.buffer transactionSize.toNat).1 line.1), line.2)

/-- What `appendLines` does with the stream. Where the old hash cannot be read in full, the stream
fails before anything is written. -/
def writeLines (genericHash : List UInt8 → Digest) (lines : List (List UInt8)) :
    Throwing OpenBlock (List UInt32) := fun block =>
  let final := lines.foldl (Block.appendLine genericHash) (.start block.file)
  let hashRead :=
    if block.file.currentFileSize > 0 then
      (block.readAt block.file.currentFileSize.toNat 32).2.stream
    else block.stream
  match hashRead with
  | .opened _ =>
      let appended := block.file.appendLines genericHash lines
      (.ok appended.1, { file := appended.2, stream := .opened (final.position + 32) })
  | stream =>
      (.ok (lines.map fun _ => (-1 : Int32).toUInt32), {
        file := { block.file with currentFileSize := final.currentFileSize }
        stream := stream })

/-- What `calculateHash` does with the stream and its buffer of `reserved` bytes. -/
def hashLines (genericHash : List UInt8 → Digest) (reserved : UInt32) (memory : Uninitialised) :
    Throwing OpenBlock Block.HashOutcome := fun block =>
  let content := block.readAt 0 block.file.currentFileSize.toNat
  let vfile := readIntoBuffer (memory.buffer reserved.toNat).1 content.1
  (.ok (({ block.file with disk := vfile } : Block).calculateHash genericHash memory.hash),
    content.2)

/-- A hash is read into uninitialised memory, where the stream is. -/
def readHash (memory : Uninitialised) : Throwing OpenBlock Digest := fun block =>
  let hash := block.read 32
  (.ok (memory.hash.readInto hash.1), hash.2)

/-- What `validateHash` reads before it calculates: the hash behind the lines. -/
def readStoredHash (memory : Uninitialised) : Throwing OpenBlock Digest := fun block =>
  let hash := block.readAt block.file.currentFileSize.toNat 32
  (.ok (memory.hash.readInto hash.1), hash.2)

end OpenBlock

/-- What `VirtualFile::readFromFile` returns. The size of a file that does not exist is -1, for
which there is no buffer. -/
inductive ReadFile
  | nullptr
  | virtualFile (virtualFile : VirtualFile)
  | withoutBuffer

namespace FileSystem

variable {Value : Type}

def onLocks (operation : Throwing FileLockManager Value) : Throwing FileSystem Value :=
  Fallible.onPart locks (fun system locks => { system with locks := locks }) operation

def onBlock (path : String) (operation : Throwing OpenBlock Value) : Throwing FileSystem Value :=
  Fallible.onPart (fun system => system.blocks path)
    (fun system block => { system with blocks := Function.update system.blocks path block })
    operation

/-- An operation between `tryLockTimeout` and `unlock`. Where it throws, the file stays
locked. -/
def underLock (file : String) (notLocked : Except Exception Value)
    (operation : Throwing FileSystem Value) : Throwing FileSystem Value :=
  (onLocks (FileLockManager.tryLockTimeout file 100)).andThen fun locked =>
    if !locked then Fallible.outcome notLocked
    else operation.andThen fun value =>
      (onLocks (FileLockManager.unlock file)).andThen fun _ => Fallible.outcome (.ok value)

/-- The operation finds the file locked, and unlocks it if it does not throw. -/
theorem underLock_of_free {file : String} {notLocked : Except Exception Value}
    {operation : Throwing FileSystem Value} {system : FileSystem}
    (free : system.locks.files file ≠ some true) :
    underLock file notLocked operation system =
      operation.andThen (fun value => (onLocks (FileLockManager.unlock file)).andThen fun _ =>
        Fallible.outcome (.ok value)) { system with locks := system.locks.insert file true } := by
  have locked : onLocks (FileLockManager.tryLockTimeout file 100) system =
      (.ok true, { system with locks := system.locks.insert file true }) := by
    unfold onLocks Fallible.onPart
    rw [FileLockManager.tryLockTimeout_of_free free]
  exact Fallible.andThen_of_ok locked

/-- An operation that does not throw. -/
theorem underLock_of_ok {file : String} {notLocked : Except Exception Value}
    {operation : Throwing FileSystem Value} {system next : FileSystem} {value : Value}
    (free : system.locks.files file ≠ some true)
    (success : operation { system with locks := system.locks.insert file true } =
      (.ok value, next)) :
    underLock file notLocked operation system =
      (.ok value, { next with locks := (FileLockManager.unlock file next.locks).2 }) := by
  rw [underLock_of_free free, Fallible.andThen_of_ok success]
  rfl

/-- An operation that throws leaves its file locked. -/
theorem underLock_of_error {file : String} {notLocked : Except Exception Value}
    {operation : Throwing FileSystem Value} {system next : FileSystem} {exception : Exception}
    (free : system.locks.files file ≠ some true)
    (failure : operation { system with locks := system.locks.insert file true } =
      (.error exception, next)) :
    underLock file notLocked operation system = (.error exception, next) := by
  rw [underLock_of_free free, Fallible.andThen_of_error failure]

/-- While the file is locked nothing is done. -/
theorem underLock_of_locked {file : String} {notLocked : Except Exception Value}
    {operation : Throwing FileSystem Value} {system : FileSystem}
    (locked : system.locks.files file = some true) :
    underLock file notLocked operation system =
      (.error (.lockException "couldn't lock file" file), system) := by
  have failed : onLocks (FileLockManager.tryLockTimeout file 100) system =
      (.error (.lockException "couldn't lock file" file), system) := by
    unfold onLocks Fallible.onPart
    rw [FileLockManager.tryLockTimeout_of_locked locked]
  exact Fallible.andThen_of_error failed

/-- `Block::readLine`, which opens the file and checks its size before it locks it. -/
def readLine (path : String) (startReading : UInt32) (opening : Opening)
    (memory : Uninitialised) : Throwing FileSystem (List UInt8) :=
  (onBlock path (OpenBlock.getOpenFile path opening)).andThen fun _ system =>
    let block := system.blocks path
    if block.stream = .failing then
      (.error (.runtimeError "[model::files::Block::readLine] file stream is failing!"), system)
    else if block.file.currentFileSize.toNat ≤ Block.minimalFileSize then
      (.error (.endReaching "file is smaller than minimal block size" path 0
        Block.minimalFileSize), system)
    else if startReading.toNat > block.file.currentFileSize.toNat - Block.minimalFileSize then
      (.error (.endReaching "file is to small for read request" path startReading.toNat
        Block.minimalFileSize), system)
    else
      -- the file is unlocked before what is wrong with the record is thrown
      ((underLock path (.error (.lockException "cannot lock file for reading" path))
        (onBlock path (Fallible.attempt (OpenBlock.readRecord path startReading memory)))).andThen
        Fallible.outcome) system

section

variable (genericHash : List UInt8 → Digest)

/-- `Block::appendLines`. -/
def appendLines (path : String) (lines : List (List UInt8)) (opening : Opening) :
    Throwing FileSystem (List UInt32) :=
  underLock path (.error (.lockException "couldn't lock file in time" path))
    ((onBlock path (OpenBlock.getOpenFile path opening)).andThen fun _ =>
      onBlock path (OpenBlock.writeLines genericHash lines))

/-- `Block::calculateHash`; the buffer is reserved before the file is opened. -/
def calculateHash (path : String) (opening : Opening) (memory : Uninitialised) :
    Throwing FileSystem Block.HashOutcome := fun system =>
  let reserved := (system.blocks path).file.currentFileSize
  if reserved = 0 then (.ok .nullptr, system)
  else
    underLock path (.ok .nullptr)
      ((onBlock path (OpenBlock.getOpenFile path opening)).andThen fun _ =>
        onBlock path (OpenBlock.hashLines genericHash reserved memory)) system

/-- Whether the hash of the file is the one behind its lines. There may be no hash to compare
with, which is not checked. -/
def compareHashes (hash : Digest) : Block.HashOutcome → Option Bool
  | .hash hash2 => some (hash = hash2)
  | .nullptr => none
  | .outOfBounds => none

/-- `Block::validateHash`. -/
def validateHash (path : String) (first second : Opening) (memory : Uninitialised) :
    Throwing FileSystem (Option Bool) :=
  (underLock path (.ok none)
    ((onBlock path (OpenBlock.getOpenFile path first)).andThen fun _ =>
      (onBlock path (OpenBlock.readStoredHash memory)).andThen fun hash =>
        Fallible.outcome (.ok (some hash)))).andThen fun read =>
    match read with
    | none => Fallible.outcome (.ok (some false))
    | some hash => (calculateHash genericHash path second memory).andThen fun hash2 =>
        Fallible.outcome (.ok (compareHashes hash hash2))

/-- The loop of `rebuildBlockIndex`. The cursor moves on with every round, so fewer rounds than an
`uint32_t` can count are enough. -/
def rebuildLoop (path : String) (openings : Nat → Opening) (memory : Uninitialised) :
    Nat → Nat → Block.RebuildState → Throwing FileSystem Block.RebuildState
  | 0, _, state => Fallible.outcome (.ok state)
  | fuel + 1, round, state => fun system =>
      if state.fileCursor.toInt64.toUInt64 + 27 ≤
          (system.blocks path).file.currentFileSize.toUInt64 then
        ((readLine path state.fileCursor.toUInt32 (openings round) memory).andThen fun line =>
          rebuildLoop path openings memory fuel (round + 1) {
            fileCursor := (state.fileCursor.toUInt32 + UInt32.ofNat (line.length + 2)).toInt32
            position := state.fileCursor.toUInt32.toNat + 2 + line.length
            hash := Block.calculateOneHashStep genericHash state.hash line
            pendingLines := state.pendingLines ++ [(state.fileCursor, line)] }) system
      else (.ok state, system)

/-- The loop from the start of the file. -/
def readLines (path : String) (openings : Nat → Opening) (memory : Uninitialised) :
    Throwing FileSystem Block.RebuildState := fun system =>
  rebuildLoop genericHash path openings memory UInt32.size 0
    (.start (system.blocks path).file) system

/-- `Block::rebuildBlockIndex`, which reads every line under a lock of its own and locks the file
once more for the hash. The hash is read where the stream is: behind the last line, but at the end
of a file that was just opened. -/
def rebuildBlockIndex (path : String) (openings : Nat → Opening) (last : Opening)
    (memory : Uninitialised) : Throwing FileSystem (List (Int32 × List UInt8)) :=
  (readLines genericHash path openings memory).andThen fun final =>
    (underLock path (.error (.lockException "couldn't lock file in time" path))
      ((onBlock path (OpenBlock.getOpenFile path last)).andThen fun _ =>
        onBlock path (OpenBlock.readHash memory))).andThen fun hash2 =>
      Fallible.outcome
        (if final.hash = hash2 then .ok final.pendingLines
        else .error (.hashMismatch "block hash mismatch" final.hash.1 hash2.1))

end

/-- `VirtualFile::readFromFile`. What is thrown under the lock is caught there, and the file is
unlocked. -/
def readFromFile (filename : String) (throws : Bool) : Throwing FileSystem ReadFile :=
  underLock filename (.error (.lockException "cannot lock file to read into virtual file" filename))
    fun system =>
      (.ok (if throws then .nullptr else
        match system.contents filename with
        | none => .withoutBuffer
        | some [] => .nullptr
        | some content => .virtualFile (VirtualFile.ofBuffer content)), system)

/-- `VirtualFile::writeToFile`, which does not look whether the file was opened. -/
def writeToFile (filename : String) (opens : Bool) (file : VirtualFile) :
    Throwing FileSystem Unit :=
  underLock filename
    (.error (.lockException "cannot lock file to write into virtual file" filename)) fun system =>
      (.ok (), if opens then { system with
        contents :=
          Function.update system.contents filename (some file.content) }
        else system)

theorem writeToFile_of_locked {filename : String} {system : FileSystem}
    (locked : system.locks.files filename = some true) (opens : Bool) (file : VirtualFile) :
    writeToFile filename opens file system =
      (.error (.lockException "couldn't lock file" filename), system) :=
  underLock_of_locked locked

/-- A file that is free is written if it can be opened, and is free again. -/
theorem writeToFile_of_free {filename : String} {system : FileSystem}
    (free : system.locks.files filename ≠ some true) (opens : Bool) (file : VirtualFile) :
    writeToFile filename opens file system = (.ok (), { system with
      locks := (FileLockManager.unlock filename (system.locks.insert filename true)).2
      contents :=
        if opens then Function.update system.contents filename (some file.content)
        else system.contents }) := by
  have written : writeToFile filename opens file system = (.ok (), _) := underLock_of_ok free rfl
  rw [written]
  cases opens with
  | true => rfl
  | false => rfl

end FileSystem

/-- A call of one of the functions, with what it comes upon. -/
inductive FileCall
  | appendLines (path : String) (lines : List (List UInt8)) (opening : Opening)
  | readLine (path : String) (startReading : UInt32) (opening : Opening) (memory : Uninitialised)
  | calculateHash (path : String) (opening : Opening) (memory : Uninitialised)
  | validateHash (path : String) (first second : Opening) (memory : Uninitialised)
  | rebuildBlockIndex (path : String) (openings : Nat → Opening) (last : Opening)
      (memory : Uninitialised)
  | readFromFile (filename : String) (throws : Bool)
  | writeToFile (filename : String) (opens : Bool) (file : VirtualFile)

/-- The files after some calls, and whether one of the calls could not lock its file. -/
structure FileRun where
  system : FileSystem
  lockFailed : Bool

namespace FileRun

def isLockException {Value : Type} : Except Exception Value → Bool
  | .error (.lockException _ _) => true
  | _ => false

/-- No file was locked yet. -/
def start (blocks : String → OpenBlock) (contents : String → Option (List UInt8)) : FileRun where
  system := ⟨FileLockManager.new, blocks, contents⟩
  lockFailed := false

variable (genericHash : List UInt8 → Digest)

/-- A call without what it returns. -/
def perform : FileCall → Throwing FileSystem Unit
  | .appendLines path lines opening =>
      (FileSystem.appendLines genericHash path lines opening).andThen fun _ =>
        Fallible.outcome (.ok ())
  | .readLine path startReading opening memory =>
      (FileSystem.readLine path startReading opening memory).andThen fun _ =>
        Fallible.outcome (.ok ())
  | .calculateHash path opening memory =>
      (FileSystem.calculateHash genericHash path opening memory).andThen fun _ =>
        Fallible.outcome (.ok ())
  | .validateHash path first second memory =>
      (FileSystem.validateHash genericHash path first second memory).andThen fun _ =>
        Fallible.outcome (.ok ())
  | .rebuildBlockIndex path openings last memory =>
      (FileSystem.rebuildBlockIndex genericHash path openings last memory).andThen fun _ =>
        Fallible.outcome (.ok ())
  | .readFromFile filename throws =>
      (FileSystem.readFromFile filename throws).andThen fun _ => Fallible.outcome (.ok ())
  | .writeToFile filename opens file => FileSystem.writeToFile filename opens file

def step (run : FileRun) (call : FileCall) : Option FileRun :=
  let performed := perform genericHash call run.system
  some {
    system := performed.2
    lockFailed := run.lockFailed || isLockException performed.1 }

end FileRun

end Files

end GradidoNode

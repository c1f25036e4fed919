import GradidoNode.Files.BlockIndexWalk
import GradidoNode.Files.LockedFiles

/-!
# Writing index files

The blocks wait in a queue while their sizes are summed up. Writing allocates a buffer of
that size, empties the queue into it field by field, and puts what the buffer holds up to
its cursor into the file, if that can be locked and opened. The sum is only reset by `exit`, so a
buffer may be larger than what is written into it, but never smaller.
-/

namespace GradidoNode

open Library

namespace Files

open BlockTypes

namespace IndexBlock

/-- The arguments of the calls of `write` that `Block::writeIntoFile` makes, in their order. -/
def fields : IndexBlock → List (List UInt8)
  | yearBlock year => [LittleEndian.encode YEAR_BLOCK, LittleEndian.encode year]
  | monthBlock month => [LittleEndian.encode MONTH_BLOCK, LittleEndian.encode month]
  | dataBlock block => [
      LittleEndian.encode DATA_BLOCK,
      LittleEndian.encode block.transactionNr,
      LittleEndian.encode block.fileCursor,
      LittleEndian.encode block.transactionType,
      LittleEndian.encode block.coinCommunityIdIndex,
      LittleEndian.encode block.addressIndicesCount,
      LittleEndian.encodeArray block.addressIndices]

def writeIntoFile (block : IndexBlock) (vFile : VirtualFile) : Except Exception VirtualFile :=
  block.fields.foldlM VirtualFile.write vFile

/-- `Block::size`. -/
def size : IndexBlock → Nat
  | yearBlock _ => 1 + 2
  | monthBlock _ => 1 + 1
  | dataBlock block => 1 + 8 + 4 + 1 + 4 + (1 + 4 * block.addressIndicesCount.toNat)

theorem flatten_fields (block : IndexBlock) : block.fields.flatten = block.written := by
  cases block with
  | yearBlock year => rfl
  | monthBlock month => rfl
  | dataBlock block =>
      simp only [fields, List.flatten_cons, List.flatten_nil, List.append_nil]
      rfl

/-- The announced size is the one that is written. -/
theorem length_written (block : IndexBlock) : block.written.length = block.size := by
  cases block with
  | yearBlock year => exact congrArg Nat.succ (LittleEndian.length_encode year)
  | monthBlock month => exact congrArg Nat.succ (LittleEndian.length_encode month)
  | dataBlock block =>
      have words := LittleEndian.length_encodeArray block.addressIndices
      have wide : LittleEndian.width UInt32 = 4 := rfl
      simp only [written, body, DataBlock.body, List.length_cons, List.length_append,
        LittleEndian.length_encode, words, size, DataBlock.toNat_addressIndicesCount, wide]
      simp only [LittleEndian.width]
      omega

end IndexBlock

/-- `model::files::BlockIndex`. -/
structure BlockIndexFile where
  fileName : String
  dataBlocks : List IndexBlock
  dataBlockSumSize : Nat
  deriving DecidableEq

/-- An object for an index file, among the files and their locks. -/
structure IndexFiles where
  object : BlockIndexFile
  system : FileSystem

/-- The calls, with what they come upon, and what other threads do to the lock of the file. -/
inductive BlockIndexFileCall
  | addYearBlock (year : Int16)
  | addMonthBlock (month : UInt8)
  | addDataBlock (transactionNr : UInt64) (fileCursor : Int32) (transactionType : UInt8)
      (coinCommunityIdIndex : UInt32) (addressIndices : List UInt32)
  | serialize
  | writeToFile (opens : Bool)
  | reset (removes : Bool)
  | exit
  | othersLock
  | othersUnlock
  deriving DecidableEq

namespace BlockIndexFile

def new (fileName : String) : BlockIndexFile where
  fileName := fileName
  dataBlocks := []
  dataBlockSumSize := 0

/-- What the three `add` functions share. -/
def push (block : IndexBlock) (file : BlockIndexFile) : BlockIndexFile :=
  { file with
    dataBlocks := file.dataBlocks ++ [block]
    dataBlockSumSize := file.dataBlockSumSize + block.size }

def addYearBlock (year : Int16) : BlockIndexFile → BlockIndexFile := push (.yearBlock year)

def addMonthBlock (month : UInt8) : BlockIndexFile → BlockIndexFile := push (.monthBlock month)

def addDataBlock (transactionNr : UInt64) (fileCursor : Int32) (transactionType : UInt8)
    (coinCommunityIdIndex : UInt32) (addressIndices : List UInt32) :
    BlockIndexFile → BlockIndexFile :=
  push (.dataBlock (.ofVector transactionNr fileCursor transactionType coinCommunityIdIndex
    addressIndices))

def exit (file : BlockIndexFile) : BlockIndexFile :=
  { file with dataBlocks := [], dataBlockSumSize := 0 }

/-- The loop of `serialize` and `writeToFile`: what is written and hashed, and the blocks
that are left in the queue. -/
def drain : List IndexBlock → VirtualFile → List UInt8 →
    Except Exception (VirtualFile × List UInt8) × List IndexBlock
  | [], vFile, state => (.ok (vFile, state), [])
  | block :: rest, vFile, state =>
      match block.writeIntoFile vFile with
      | .error exception => (.error exception, rest)
      | .ok vFile => drain rest vFile (state ++ block.hashed)

section

variable (malloc : VirtualFile.Allocator) (genericHash : List UInt8 → Digest)

/-- The hash block behind the others. -/
def writeHash (vFile : VirtualFile) (state : List UInt8) : Except Exception VirtualFile := do
  let vFile ← vFile.write (LittleEndian.encode HASH_BLOCK)
  vFile.write (genericHash state).1

def serialize : Throwing BlockIndexFile VirtualFile := fun file =>
  let vFile := VirtualFile.ofSize malloc (file.dataBlockSumSize + 32 + 1)
  match drain file.dataBlocks vFile [] with
  | (.error exception, rest) => (.error exception, { file with dataBlocks := rest })
  | (.ok (vFile, state), rest) =>
      (writeHash genericHash vFile state, { file with dataBlocks := rest })

end

end BlockIndexFile

namespace IndexFiles

variable {Value : Type}

def onObject (operation : Throwing BlockIndexFile Value) : Throwing IndexFiles Value :=
  Fallible.onPart object (fun files object => { files with object := object }) operation

def onSystem (operation : Throwing FileSystem Value) : Throwing IndexFiles Value :=
  Fallible.onPart system (fun files system => { files with system := system }) operation

/-- The constructor with a folder and a block number creates a missing file, if it can. -/
def new (fileName : String) (creates : Bool) (system : FileSystem) : IndexFiles where
  object := .new fileName
  system := { system with
    contents :=
      if creates then Function.update system.contents fileName
        (some ((system.contents fileName).getD []))
      else system.contents }

/-- A change of the object. -/
def change (changed : BlockIndexFile → BlockIndexFile) : Throwing IndexFiles Unit :=
  onObject fun object => (.ok (), changed object)

/-- `std::filesystem::remove`, which may throw. -/
def removeFile (fileName : String) (removes : Bool) : Throwing FileSystem Unit := fun system =>
  if removes then
    (.ok (), { system with contents := Function.update system.contents fileName none })
  else (.error (.runtimeError "filesystem error: cannot remove"), system)

/-- `reset`. -/
def reset (removes : Bool) : Throwing IndexFiles Unit := fun files =>
  onSystem (FileSystem.underLock files.object.fileName
    (.error (.lockException "cannot lock file for reset" files.object.fileName))
    (removeFile files.object.fileName removes)) files

section

variable (malloc : VirtualFile.Allocator) (genericHash : List UInt8 → Digest)

/-- `writeToFile` fills its buffer as `serialize` does, and locks the file only then. -/
def writeToFile (opens : Bool) : Throwing IndexFiles Unit := fun files =>
  ((onObject (BlockIndexFile.serialize malloc genericHash)).andThen fun vFile =>
    onSystem (FileSystem.writeToFile files.object.fileName opens vFile)) files

/-- One call; what `serialize` returns is dropped. -/
def perform : BlockIndexFileCall → Throwing IndexFiles Unit
  | .addYearBlock year => change (BlockIndexFile.addYearBlock year)
  | .addMonthBlock month => change (BlockIndexFile.addMonthBlock month)
  | .addDataBlock transactionNr fileCursor transactionType coinCommunityIdIndex addressIndices =>
      change (BlockIndexFile.addDataBlock transactionNr fileCursor transactionType
        coinCommunityIdIndex addressIndices)
  | .serialize => (onObject (BlockIndexFile.serialize malloc genericHash)).andThen fun _ =>
      Fallible.outcome (.ok ())
  | .writeToFile opens => writeToFile malloc genericHash opens
  | .reset removes => reset removes
  | .exit => change BlockIndexFile.exit
  | .othersLock => fun files =>
      onSystem (FileSystem.onLocks fun locks =>
        (.ok (), (locks.tryLock files.object.fileName).2)) files
  | .othersUnlock => fun files =>
      onSystem (FileSystem.onLocks (FileLockManager.unlock files.object.fileName)) files

def performAll (calls : List BlockIndexFileCall) (files : IndexFiles) : IndexFiles :=
  calls.foldl (fun files call => (perform malloc genericHash call files).2) files

end

/-! ## What the calls are for -/

/-- The blocks that wait, the content of the file, and whether it is locked. -/
structure Intended where
  blocks : List IndexBlock
  disk : Option (List UInt8)
  locked : Bool

/-- A call in terms of whole blocks: the buffer and its size do not occur. -/
def Intended.perform (genericHash : List UInt8 → Digest) (intended : Intended) :
    BlockIndexFileCall → Intended
  | .addYearBlock year => { intended with blocks := intended.blocks ++ [.yearBlock year] }
  | .addMonthBlock month => { intended with blocks := intended.blocks ++ [.monthBlock month] }
  | .addDataBlock transactionNr fileCursor transactionType coinCommunityIdIndex addressIndices =>
      { intended with blocks := intended.blocks ++ [.dataBlock (.ofVector transactionNr fileCursor
          transactionType coinCommunityIdIndex addressIndices)] }
  | .serialize | .exit => { intended with blocks := [] }
  | .writeToFile opens => { intended with
      blocks := []
      disk :=
        if opens && !intended.locked then some (fileContent genericHash intended.blocks)
        else intended.disk }
  | .reset removes =>
      if intended.locked then intended
      else if removes then { intended with disk := none }
      else { intended with locked := true }
  | .othersLock => { intended with locked := true }
  | .othersUnlock => { intended with locked := false }

/-- How a call ends: only a locked file and one that cannot be removed are failures, and a file
that cannot be opened is none. -/
def Intended.outcomeOf (fileName : String) (intended : Intended) :
    BlockIndexFileCall → Except Exception Unit
  | .writeToFile _ =>
      if intended.locked then .error (.lockException "couldn't lock file" fileName) else .ok ()
  | .reset removes =>
      if intended.locked then .error (.lockException "couldn't lock file" fileName)
      else if removes then .ok ()
      else .error (.runtimeError "filesystem error: cannot remove")
  | _ => .ok ()

/-- The queue, the file and its lock are the intended ones, and the summed size is enough for the
queue. -/
structure Refines (fileName : String) (files : IndexFiles) (intended : Intended) : Prop where
  named : files.object.fileName = fileName
  blocks : files.object.dataBlocks = intended.blocks
  disk : files.system.contents fileName = intended.disk
  locked : files.system.locks.files fileName = some true ↔ intended.locked = true
  room : (files.object.dataBlocks.flatMap IndexBlock.written).length ≤
    files.object.dataBlockSumSize

variable {malloc : VirtualFile.Allocator} {genericHash : List UInt8 → Digest} {fileName : String}
  {files : IndexFiles} {intended : Intended}

open BlockIndexFile

/-- In a buffer with enough room the whole queue is written behind what is there. -/
theorem drain_eq {blocks : List IndexBlock} {vFile : VirtualFile} (state : List UInt8)
    (room : vFile.content.length + (blocks.flatMap IndexBlock.written).length ≤ vFile.getSize) :
    ∃ next,
      drain blocks vFile state = (.ok (next, state ++ blocks.flatMap IndexBlock.hashed), []) ∧
      next.content = vFile.content ++ blocks.flatMap IndexBlock.written ∧
      next.getSize = vFile.getSize := by
  induction blocks generalizing vFile state with
  | nil =>
      refine ⟨vFile, ?_, (List.append_nil _).symm, rfl⟩
      rw [List.flatMap_nil, List.append_nil]
      rfl
  | cons block rest ih =>
      rw [List.flatMap_cons, List.length_append] at room
      have blockRoom : vFile.content.length + block.fields.flatten.length ≤ vFile.getSize := by
        rw [IndexBlock.flatten_fields]
        omega
      obtain ⟨middle, written, content, size⟩ := VirtualFile.exists_foldlM_write blockRoom
      rw [IndexBlock.flatten_fields] at content
      have restRoom : middle.content.length + (rest.flatMap IndexBlock.written).length ≤
          middle.getSize := by
        rw [content, size, List.length_append]
        omega
      obtain ⟨next, drained, restContent, restSize⟩ := ih (state ++ block.hashed) restRoom
      refine ⟨next, ?_, ?_, restSize.trans size⟩
      · have continued : drain (block :: rest) vFile state =
            drain rest middle (state ++ block.hashed) := by
          simp only [drain, IndexBlock.writeIntoFile, written]
        rw [continued, drained, List.flatMap_cons, List.append_assoc]
      · rw [restContent, content, List.flatMap_cons, List.append_assoc]

/-- `serialize` never runs over a buffer with room for the queue, and fills it with the file's
content. -/
theorem serialize_of_room {file : BlockIndexFile}
    (room : (file.dataBlocks.flatMap IndexBlock.written).length ≤ file.dataBlockSumSize)
    (malloc : VirtualFile.Allocator) (genericHash : List UInt8 → Digest) :
    ∃ vFile, serialize malloc genericHash file = (.ok vFile, { file with dataBlocks := [] }) ∧
      vFile.content = fileContent genericHash file.dataBlocks := by
  have queueRoom : (VirtualFile.ofSize malloc (file.dataBlockSumSize + 32 + 1)).content.length +
      (file.dataBlocks.flatMap IndexBlock.written).length ≤
        (VirtualFile.ofSize malloc (file.dataBlockSumSize + 32 + 1)).getSize := by
    rw [VirtualFile.getSize_ofSize]
    change 0 + _ ≤ _
    omega
  obtain ⟨drained, isDrained, content, size⟩ := drain_eq [] queueRoom
  have emptyBefore : (VirtualFile.ofSize malloc (file.dataBlockSumSize + 32 + 1)).content = [] := rfl
  rw [emptyBefore, List.nil_append] at content
  rw [VirtualFile.getSize_ofSize] at size
  have typeRoom : drained.content.length + (LittleEndian.encode HASH_BLOCK).length ≤
      drained.getSize := by
    rw [content, size, LittleEndian.length_encode]
    change _ + 1 ≤ _
    omega
  obtain ⟨typed, typeWritten, typeContent, typeSize⟩ := VirtualFile.exists_write typeRoom
  have hashRoom : typed.content.length +
      (genericHash (file.dataBlocks.flatMap IndexBlock.hashed)).1.length ≤ typed.getSize := by
    rw [typeContent, typeSize, List.length_append, content, size, LittleEndian.length_encode,
      (genericHash (file.dataBlocks.flatMap IndexBlock.hashed)).2]
    change _ + 1 + 32 ≤ _
    omega
  obtain ⟨vFile, hashWritten, hashContent, _⟩ := VirtualFile.exists_write hashRoom
  refine ⟨vFile, ?_, ?_⟩
  · unfold BlockIndexFile.serialize writeHash
    simp only [isDrained, List.nil_append]
    rw [typeWritten]
    exact congrArg (Prod.mk · _) hashWritten
  · rw [hashContent, typeContent, content, fileContent, List.append_assoc]
    rfl

/-- `serialize` hands out the intended file, and empties the queue. -/
theorem Refines.serialize (refines : Refines fileName files intended)
    (malloc : VirtualFile.Allocator) (genericHash : List UInt8 → Digest) :
    ∃ vFile, onObject (BlockIndexFile.serialize malloc genericHash) files =
        (.ok vFile, { files with object := { files.object with dataBlocks := [] } }) ∧
      vFile.content = fileContent genericHash intended.blocks := by
  obtain ⟨vFile, serialized, content⟩ := serialize_of_room refines.room malloc genericHash
  refine ⟨vFile, ?_, ?_⟩
  · unfold onObject Fallible.onPart
    rw [serialized]
  · rw [content, refines.blocks]

/-- A queued block is announced with its size. -/
theorem Refines.push (refines : Refines fileName files intended) (block : IndexBlock) :
    Refines fileName { files with object := files.object.push block }
      { intended with blocks := intended.blocks ++ [block] } where
  named := refines.named
  blocks := congrArg (· ++ [block]) refines.blocks
  disk := refines.disk
  locked := refines.locked
  room := by
    have room := refines.room
    change ((files.object.dataBlocks ++ [block]).flatMap IndexBlock.written).length ≤
      files.object.dataBlockSumSize + block.size
    rw [List.flatMap_append, List.length_append, List.flatMap_singleton, IndexBlock.length_written]
    omega

/-- An empty queue fits whatever sum is left. -/
theorem Refines.emptied (refines : Refines fileName files intended) (sum : Nat) :
    Refines fileName
      { files with object := { files.object with dataBlocks := [], dataBlockSumSize := sum } }
      { intended with blocks := [] } where
  named := refines.named
  blocks := rfl
  disk := refines.disk
  locked := refines.locked
  room := Nat.zero_le _

/-- A file that was unlocked is free. -/
theorem unlocked_iff (locks : FileLockManager) :
    (FileLockManager.unlock fileName locks).2.files fileName = some true ↔ false = true := by
  simp [FileLockManager.unlock, FileLockManager.insert]

/-- `writeToFile` fails only where the file is locked; the queue is lost in any case. -/
theorem Refines.writeToFile (refines : Refines fileName files intended) (opens : Bool) :
    (writeToFile malloc genericHash opens files).1 =
        intended.outcomeOf fileName (.writeToFile opens) ∧
      Refines fileName (writeToFile malloc genericHash opens files).2
        (intended.perform genericHash (.writeToFile opens)) := by
  obtain rfl := refines.named
  obtain ⟨vFile, serialized, content⟩ := refines.serialize malloc genericHash
  have written : IndexFiles.writeToFile malloc genericHash opens files =
      onSystem (FileSystem.writeToFile files.object.fileName opens vFile)
        { files with object := { files.object with dataBlocks := [] } } := by
    unfold IndexFiles.writeToFile
    rw [Fallible.andThen_of_ok serialized]
  unfold onSystem Fallible.onPart at written
  dsimp only at written
  have disk := refines.disk
  have locked := refines.locked
  rw [written]
  cases isLocked : intended.locked with
  | true =>
      rw [FileSystem.writeToFile_of_locked (locked.mpr isLocked)]
      simp only [Intended.outcomeOf, Intended.perform, isLocked]
      refine ⟨rfl, rfl, rfl, ?_, iff_of_true (locked.mpr isLocked) rfl, Nat.zero_le _⟩
      simp [disk]
  | false =>
      have free : files.system.locks.files files.object.fileName ≠ some true := by
        rw [Ne, locked, isLocked]
        exact Bool.false_ne_true
      rw [FileSystem.writeToFile_of_free free]
      simp only [Intended.outcomeOf, Intended.perform, isLocked]
      refine ⟨rfl, rfl, rfl, ?_, unlocked_iff _, Nat.zero_le _⟩
      cases opens with
      | true => simp [content]
      | false => simp [disk]

/-- `reset` leaves the file locked where it cannot remove it. -/
theorem Refines.reset (refines : Refines fileName files intended) (removes : Bool) :
    (IndexFiles.reset removes files).1 = intended.outcomeOf fileName (.reset removes) ∧
      Refines fileName (IndexFiles.reset removes files).2
        (intended.perform genericHash (.reset removes)) := by
  obtain rfl := refines.named
  have locked := refines.locked
  unfold IndexFiles.reset onSystem Fallible.onPart
  cases isLocked : intended.locked with
  | true =>
      rw [FileSystem.underLock_of_locked (locked.mpr isLocked)]
      simp only [Intended.outcomeOf, Intended.perform, isLocked]
      exact ⟨rfl, refines⟩
  | false =>
      have free : files.system.locks.files files.object.fileName ≠ some true := by
        rw [Ne, locked, isLocked]
        exact Bool.false_ne_true
      cases removes with
      | true =>
          have removed : FileSystem.underLock files.object.fileName
              (.error (.lockException "cannot lock file for reset" files.object.fileName))
              (removeFile files.object.fileName true) files.system = (.ok (), _) :=
            FileSystem.underLock_of_ok free rfl
          rw [removed]
          simp only [Intended.outcomeOf, Intended.perform, isLocked]
          exact ⟨rfl, rfl, refines.blocks, Function.update_self .., unlocked_iff _, refines.room⟩
      | false =>
          have failed : FileSystem.underLock files.object.fileName
              (.error (.lockException "cannot lock file for reset" files.object.fileName))
              (removeFile files.object.fileName false) files.system = (.error _, _) :=
            FileSystem.underLock_of_error free rfl
          rw [failed]
          simp only [Intended.outcomeOf, Intended.perform, isLocked]
          exact ⟨rfl, rfl, refines.blocks, refines.disk,
            iff_of_true (Function.update_self ..) rfl, refines.room⟩

/-- A file that another thread tries to lock is locked then. -/
theorem tryLock_locks (locks : FileLockManager) :
    (locks.tryLock fileName).2.files fileName = some true := by
  unfold FileLockManager.tryLock
  split
  · assumption
  · exact Function.update_self ..

/-- Every call does what is intended. -/
theorem Refines.perform (refines : Refines fileName files intended) (call : BlockIndexFileCall) :
    (perform malloc genericHash call files).1 = intended.outcomeOf fileName call ∧
      Refines fileName (perform malloc genericHash call files).2
        (intended.perform genericHash call) := by
  cases call with
  | addYearBlock year => exact ⟨rfl, refines.push _⟩
  | addMonthBlock month => exact ⟨rfl, refines.push _⟩
  | addDataBlock => exact ⟨rfl, refines.push _⟩
  | serialize =>
      obtain ⟨vFile, serialized, _⟩ := refines.serialize malloc genericHash
      have dropped : IndexFiles.perform malloc genericHash .serialize files = (.ok (), _) :=
        Fallible.andThen_of_ok serialized
      rw [dropped]
      exact ⟨rfl, refines.emptied _⟩
  | writeToFile opens => exact refines.writeToFile opens
  | reset removes => exact refines.reset removes
  | exit => exact ⟨rfl, refines.emptied 0⟩
  | othersLock =>
      obtain rfl := refines.named
      exact ⟨rfl, rfl, refines.blocks, refines.disk, iff_of_true (tryLock_locks _) rfl,
        refines.room⟩
  | othersUnlock =>
      obtain rfl := refines.named
      exact ⟨rfl, rfl, refines.blocks, refines.disk, unlocked_iff _, refines.room⟩

/-- A whole sequence of calls does what is intended. -/
theorem Refines.performAll (refines : Refines fileName files intended)
    (calls : List BlockIndexFileCall) :
    Refines fileName (performAll malloc genericHash calls files)
      (calls.foldl (Intended.perform genericHash) intended) := by
  induction calls generalizing files intended with
  | nil => exact refines
  | cons call calls ih => exact ih (refines.perform call).2

/-- The file is as it was, or was created empty. -/
def Intended.start (fileName : String) (creates : Bool) (system : FileSystem) : Intended where
  blocks := []
  disk :=
    if creates then some ((system.contents fileName).getD []) else system.contents fileName
  locked := system.locks.files fileName = some true

theorem Refines.new (fileName : String) (creates : Bool) (system : FileSystem) :
    Refines fileName (IndexFiles.new fileName creates system)
      (.start fileName creates system) where
  named := rfl
  blocks := rfl
  disk := by
    unfold IndexFiles.new Intended.start
    cases creates with
    | true => exact Function.update_self ..
    | false => rfl
  locked := by
    unfold Intended.start
    rw [decide_eq_true_iff]
    rfl
  room := Nat.le_refl 0

def exampleHash : Digest := ⟨List.replicate 32 7, rfl⟩

end IndexFiles

end Files

end GradidoNode

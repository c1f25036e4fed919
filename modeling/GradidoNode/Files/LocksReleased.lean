import GradidoNode.Files.LockedFiles
import GradidoNode.Library.Run

/-!
# File locks that are given back

A file that cannot be opened under its lock stays locked. Nothing else leaves a file locked or
finds it locked.
-/

namespace GradidoNode

open Library

namespace Files

namespace OpenBlock

/-- `getOpenFile` comes upon an open stream, or opens the file. -/
def Opens (block : OpenBlock) (opening : Opening) : Prop :=
  block.stream ≠ .null ∧ opening.timedOut = false ∨ opening.opens = true

/-- Opening a block file succeeds where it opens and throws elsewhere. -/
theorem getOpenFile_cases (path : String) (opening : Opening) (block : OpenBlock) :
    (block.Opens opening ∧ (getOpenFile path opening block).1 = .ok ()) ∨
      (¬ block.Opens opening ∧ (getOpenFile path opening block).1 =
        .error (.openFile "cannot open block file" path)) := by
  unfold getOpenFile Opens
  by_cases closed : block.stream = .null ∨ opening.timedOut = true
  · rw [if_pos closed]
    cases opens : opening.opens with
    | true => exact Or.inl ⟨Or.inr rfl, rfl⟩
    | false =>
        refine Or.inr ⟨?_, rfl⟩
        rintro (⟨notNull, inTime⟩ | opens)
        · rcases closed with null | timedOut
          · exact notNull null
          · rw [inTime] at timedOut
            cases timedOut
        · cases opens
  · rw [if_neg closed]
    rw [not_or, Bool.not_eq_true] at closed
    exact Or.inl ⟨Or.inl closed, rfl⟩

end OpenBlock

namespace FileSystem

variable {Value Result : Type} {system : FileSystem}

/-- After a call no file is locked, and the call could lock its file. -/
structure Released (result : Except Exception Value × FileSystem) : Prop where
  free : result.2.locks.AllFree
  lockable : FileRun.isLockException result.1 = false

/-- Two steps in a row release the locks if each does. -/
theorem Released.andThen {first : Throwing FileSystem Value}
    {second : Value → Throwing FileSystem Result} (released : Released (first system))
    (later : ∀ value next, first system = (.ok value, next) → next.locks.AllFree →
      Released (second value next)) : Released (first.andThen second system) := by
  rcases taken : first system with ⟨exception | value, next⟩
  · rw [Fallible.andThen_of_error taken]
    rw [taken] at released
    refine ⟨released.free, ?_⟩
    have lockable := released.lockable
    cases exception <;> first | rfl | exact lockable
  · rw [Fallible.andThen_of_ok taken]
    rw [taken] at released
    exact later value next taken released.free

/-- What is done with a result afterwards keeps the locks as they are. -/
theorem released_andThen_outcome_iff {first : Throwing FileSystem Value}
    {outcomeOf : Value → Except Exception Result}
    (lockable : ∀ value, FileRun.isLockException (outcomeOf value) = false) :
    Released (first.andThen (fun value => Fallible.outcome (outcomeOf value)) system) ↔
      Released (first system) := by
  constructor
  · intro released
    rcases taken : first system with ⟨exception | value, next⟩
    · rw [Fallible.andThen_of_error taken] at released
      refine ⟨released.free, ?_⟩
      have lockable := released.lockable
      cases exception <;> first | rfl | exact lockable
    · rw [Fallible.andThen_of_ok taken] at released
      exact ⟨released.free, rfl⟩
  · intro released
    exact released.andThen fun value next _ free => ⟨free, lockable value⟩

/-! ## Under a lock -/

/-- A step that succeeds under the lock releases it. -/
theorem released_underLock {file : String} {notLocked : Except Exception Value}
    {operation : Throwing FileSystem Value} (free : system.locks.AllFree)
    (succeeds : ∀ system, ∃ value next, operation system = (.ok value, next) ∧
      next.locks = system.locks) : Released (underLock file notLocked operation system) := by
  obtain ⟨value, next, success, kept⟩ :=
    succeeds { system with locks := system.locks.insert file true }
  rw [underLock_of_ok (free file) success]
  refine ⟨?_, rfl⟩
  dsimp only
  rw [kept]
  exact free.unlock_insert file

/-- An operation that opens the block file first, and does not throw otherwise. -/
theorem underLock_opened {path : String} {opening : Opening} {notLocked : Except Exception Value}
    {rest : Unit → Throwing FileSystem Value} (free : system.locks.AllFree)
    (succeeds : ∀ system, ∃ value next, rest () system = (.ok value, next) ∧
      next.locks = system.locks) (opens : (system.blocks path).Opens opening) :
    ∃ value next, underLock path notLocked
        ((onBlock path (OpenBlock.getOpenFile path opening)).andThen rest) system =
          (.ok value, { next with locks := (FileLockManager.unlock path next.locks).2 }) ∧
      next.locks = system.locks.insert path true ∧
      rest () (onBlock path (OpenBlock.getOpenFile path opening)
        { system with locks := system.locks.insert path true }).2 = (.ok value, next) := by
  rcases OpenBlock.getOpenFile_cases path opening (system.blocks path) with
    ⟨_, opened⟩ | ⟨notOpens, _⟩
  · have taken : onBlock path (OpenBlock.getOpenFile path opening)
        { system with locks := system.locks.insert path true } =
          (.ok (), (onBlock path (OpenBlock.getOpenFile path opening)
            { system with locks := system.locks.insert path true }).2) := Prod.ext opened rfl
    obtain ⟨value, next, success, kept⟩ := succeeds
      (onBlock path (OpenBlock.getOpenFile path opening)
        { system with locks := system.locks.insert path true }).2
    refine ⟨value, next, underLock_of_ok (free path) ?_, kept, success⟩
    rw [Fallible.andThen_of_ok taken, success]
  · exact absurd opens notOpens

/-- A block file that cannot be opened stays locked. -/
theorem underLock_notOpened {path : String} {opening : Opening}
    {notLocked : Except Exception Value} {rest : Unit → Throwing FileSystem Value}
    (free : system.locks.AllFree) (fails : ¬ (system.blocks path).Opens opening) :
    ∃ next, underLock path notLocked
        ((onBlock path (OpenBlock.getOpenFile path opening)).andThen rest) system =
          (.error (.openFile "cannot open block file" path), next) ∧
      ¬ next.locks.AllFree := by
  rcases OpenBlock.getOpenFile_cases path opening (system.blocks path) with
    ⟨opens, _⟩ | ⟨_, failed⟩
  · exact absurd opens fails
  · have thrown : onBlock path (OpenBlock.getOpenFile path opening)
        { system with locks := system.locks.insert path true } =
          (.error (.openFile "cannot open block file" path),
            (onBlock path (OpenBlock.getOpenFile path opening)
              { system with locks := system.locks.insert path true }).2) := Prod.ext failed rfl
    refine ⟨(onBlock path (OpenBlock.getOpenFile path opening)
      { system with locks := system.locks.insert path true }).2, ?_,
      FileLockManager.not_allFree_insert path system.locks⟩
    rw [underLock_of_free (free path),
      Fallible.andThen_of_error (Fallible.andThen_of_error thrown)]

/-- With the file opened under the lock, the lock is released exactly if the file opens. -/
theorem released_underLock_opened_iff {path : String} {opening : Opening}
    {notLocked : Except Exception Value} {rest : Unit → Throwing FileSystem Value}
    (free : system.locks.AllFree)
    (succeeds : ∀ system, ∃ value next, rest () system = (.ok value, next) ∧
      next.locks = system.locks) :
    Released (underLock path notLocked
        ((onBlock path (OpenBlock.getOpenFile path opening)).andThen rest) system) ↔
      (system.blocks path).Opens opening := by
  constructor
  · intro released
    by_contra fails
    obtain ⟨next, result, locked⟩ :=
      @underLock_notOpened Value system path opening notLocked rest free fails
    rw [result] at released
    exact locked released.free
  · intro opens
    obtain ⟨value, next, result, kept, _⟩ :=
      @underLock_opened Value system path opening notLocked rest free succeeds opens
    rw [result]
    refine ⟨?_, rfl⟩
    dsimp only
    rw [kept]
    exact free.unlock_insert path

/-! ## Reading lines -/

/-- What is wrong with a record is never that the file is locked. -/
theorem isLockException_readRecord (path : String) (startReading : UInt32)
    (memory : Uninitialised) (block : OpenBlock) :
    FileRun.isLockException (OpenBlock.readRecord path startReading memory block).1 = false := by
  unfold OpenBlock.readRecord
  dsimp only
  split
  · rfl
  · split
    · rfl
    · rfl

/-- `readLine` opens the file before it locks it, and unlocks it before it throws. -/
theorem released_readLine (path : String) (startReading : UInt32) (opening : Opening)
    (memory : Uninitialised) (free : system.locks.AllFree) :
    Released (readLine path startReading opening memory system) := by
  unfold readLine
  apply Released.andThen
  · refine ⟨free, ?_⟩
    rcases OpenBlock.getOpenFile_cases path opening (system.blocks path) with
      ⟨_, opened⟩ | ⟨_, failed⟩
    · exact congrArg FileRun.isLockException opened
    · exact congrArg FileRun.isLockException failed
  · intro _ next _ free
    dsimp only
    split
    · exact ⟨free, rfl⟩
    · split
      · exact ⟨free, rfl⟩
      · split
        · exact ⟨free, rfl⟩
        · have read : underLock path (.error (.lockException "cannot lock file for reading" path))
              (onBlock path (Fallible.attempt (OpenBlock.readRecord path startReading memory)))
                next = _ := underLock_of_ok (free path) rfl
          rw [Fallible.andThen_of_ok read]
          exact ⟨free.unlock_insert path, isLockException_readRecord path startReading memory _⟩

section Calls

variable (genericHash : List UInt8 → Digest)

/-- The lines are read one after the other, so no file stays locked. -/
theorem released_rebuildLoop (path : String) (openings : Nat → Opening) (memory : Uninitialised)
    (fuel round : Nat) (state : Block.RebuildState) (free : system.locks.AllFree) :
    Released (rebuildLoop genericHash path openings memory fuel round state system) := by
  induction fuel generalizing round state system with
  | zero => exact ⟨free, rfl⟩
  | succ fuel ih =>
      unfold rebuildLoop
      split
      · apply (released_readLine path _ _ memory free).andThen
        intro line next _ stillFree
        exact ih _ _ stillFree
      · exact ⟨free, rfl⟩

/-- Reading lines releases the lock: the file is opened before it is taken. -/
theorem released_readLines (path : String) (openings : Nat → Opening) (memory : Uninitialised)
    (free : system.locks.AllFree) :
    Released (readLines genericHash path openings memory system) :=
  released_rebuildLoop genericHash path openings memory _ _ _ free

/-! ## The calls -/

/-- Writing lines throws nothing. -/
theorem writeLines_succeeds (path : String) (lines : List (List UInt8)) (system : FileSystem) :
    ∃ positions next, onBlock path (OpenBlock.writeLines genericHash lines) system =
      (.ok positions, next) ∧ next.locks = system.locks := by
  have written : ∃ positions, (OpenBlock.writeLines genericHash lines (system.blocks path)).1 =
      .ok positions := by
    unfold OpenBlock.writeLines
    dsimp only
    split
    · exact ⟨_, rfl⟩
    · exact ⟨_, rfl⟩
  obtain ⟨positions, success⟩ := written
  exact ⟨positions, _, Prod.ext success rfl, rfl⟩

/-- `appendLines` keeps the lock exactly if its file does not open. -/
theorem released_appendLines_iff (path : String) (lines : List (List UInt8)) (opening : Opening)
    (free : system.locks.AllFree) :
    Released (appendLines genericHash path lines opening system) ↔
      (system.blocks path).Opens opening :=
  released_underLock_opened_iff free fun system =>
    writeLines_succeeds genericHash path lines system

/-- `calculateHash` does not lock a file without lines. -/
def HashOpens (block : OpenBlock) (opening : Opening) : Prop :=
  block.file.currentFileSize = 0 ∨ block.Opens opening

/-- `calculateHash` keeps it exactly if its file does not open. -/
theorem released_calculateHash_iff (path : String) (opening : Opening) (memory : Uninitialised)
    (free : system.locks.AllFree) :
    Released (calculateHash genericHash path opening memory system) ↔
      HashOpens (system.blocks path) opening := by
  unfold calculateHash HashOpens
  by_cases empty : (system.blocks path).file.currentFileSize = 0
  · rw [if_pos empty]
    exact iff_of_true ⟨free, rfl⟩ (Or.inl empty)
  · rw [if_neg empty, or_iff_right empty]
    exact released_underLock_opened_iff free fun system => ⟨_, _, rfl, rfl⟩

/-- What `validateHash` leaves of the block file before it calculates. -/
def beforeValidation (path : String) (first : Opening) (memory : Uninitialised)
    (block : OpenBlock) : OpenBlock :=
  (OpenBlock.readStoredHash memory (OpenBlock.getOpenFile path first block).2).2

/-- `validateHash` opens the file for the hash behind the lines, and then for the lines. -/
def ValidationOpens (path : String) (block : OpenBlock) (first second : Opening)
    (memory : Uninitialised) : Prop :=
  block.Opens first ∧ HashOpens (beforeValidation path first memory block) second

/-- `validateHash` keeps it exactly if one of its two openings fails. -/
theorem released_validateHash_iff (path : String) (first second : Opening)
    (memory : Uninitialised) (free : system.locks.AllFree) :
    Released (validateHash genericHash path first second memory system) ↔
      ValidationOpens path (system.blocks path) first second memory := by
  unfold validateHash ValidationOpens
  by_cases opens : (system.blocks path).Opens first
  · rw [and_iff_right opens]
    obtain ⟨value, next, result, kept, isRest⟩ := @underLock_opened _ system path first
      (.ok none) (fun _ => (onBlock path (OpenBlock.readStoredHash memory)).andThen fun hash =>
        Fallible.outcome (.ok (some hash))) free (fun system => ⟨_, _, rfl, rfl⟩) opens
    cases isRest
    rw [Fallible.andThen_of_ok result]
    dsimp only
    rw [released_andThen_outcome_iff fun _ => rfl,
      released_calculateHash_iff genericHash path second memory]
    · simp [onBlock, Fallible.onPart, beforeValidation]
    · exact free.unlock_insert path
  · rw [iff_false_right fun both => opens both.1]
    obtain ⟨next, result, locked⟩ := @underLock_notOpened _ system path first (.ok none)
      (fun _ => (onBlock path (OpenBlock.readStoredHash memory)).andThen fun hash =>
        Fallible.outcome (.ok (some hash))) free opens
    rw [Fallible.andThen_of_error result]
    exact fun released => locked released.free

/-- If `rebuildBlockIndex` comes to its last line, it opens the file for the hash. -/
def RebuildOpens (path : String) (openings : Nat → Opening) (last : Opening)
    (memory : Uninitialised) (system : FileSystem) : Prop :=
  ∀ final next, readLines genericHash path openings memory system = (.ok final, next) →
    (next.blocks path).Opens last

/-- `rebuildBlockIndex` keeps it exactly if an opening fails under it. -/
theorem released_rebuildBlockIndex_iff (path : String) (openings : Nat → Opening)
    (last : Opening) (memory : Uninitialised) (free : system.locks.AllFree) :
    Released (rebuildBlockIndex genericHash path openings last memory system) ↔
      RebuildOpens genericHash path openings last memory system := by
  have read := released_readLines genericHash path openings memory free
  unfold rebuildBlockIndex RebuildOpens
  rcases lines : readLines genericHash path openings memory system with ⟨exception | final, next⟩
  · rw [lines] at read
    rw [Fallible.andThen_of_error lines]
    refine iff_of_true ⟨read.free, ?_⟩ fun _ _ absent => by cases absent
    have lockable := read.lockable
    cases exception <;> first | rfl | exact lockable
  · rw [lines] at read
    rw [Fallible.andThen_of_ok lines, released_andThen_outcome_iff fun hash2 => ?_,
      released_underLock_opened_iff read.free fun system =>
        ⟨_, (onBlock path (OpenBlock.readHash memory) system).2, rfl, rfl⟩]
    · constructor
      · rintro opens _ _ ⟨⟩
        exact opens
      · intro opens
        exact opens final next rfl
    · split
      · rfl
      · rfl

end Calls

/-- Reading a virtual file releases the lock. -/
theorem released_readFromFile (filename : String) (throws : Bool) (free : system.locks.AllFree) :
    Released (readFromFile filename throws system) :=
  released_underLock free fun system => ⟨_, system, rfl, rfl⟩

/-- So does writing one. -/
theorem released_writeToFile (filename : String) (opens : Bool) (file : VirtualFile)
    (free : system.locks.AllFree) : Released (writeToFile filename opens file system) := by
  apply released_underLock free
  intro system
  cases opens with
  | true => exact ⟨_, _, rfl, rfl⟩
  | false => exact ⟨_, _, rfl, rfl⟩

/-! ## A file that stays open -/

end FileSystem

/-- The hash is there behind the lines, and no end of a record wraps around. -/
structure Block.Whole (file : Block) : Prop where
  hash : file.currentFileSize.toNat + 32 ≤ file.disk.length
  small : file.currentFileSize.toNat + 2 ^ 16 ≤ 2 ^ 32

namespace OpenBlock

/-- A good stream reads what is inside the file. -/
theorem readAt_of_inside {file : Block} {start position count : Nat}
    (inside : position + count ≤ file.disk.length) :
    readAt position count ⟨file, .opened start⟩ =
      ((file.disk.drop position).take count, ⟨file, .opened (position + count)⟩) := by
  have whole : ((file.disk.drop position).take count).length = count := by
    rw [List.length_take, List.length_drop]
    omega
  unfold readAt read
  simp only [Stream.seek, Stream.read, whole, ↓reduceIte]

/-- The record is read that the file has there, and the stream is behind it. -/
theorem readRecord_of_whole {file : Block} (whole : file.Whole) (path : String)
    {start : Nat} {startReading : UInt32} (memory : Uninitialised)
    (large : ¬ file.currentFileSize.toNat ≤ Block.minimalFileSize)
    (inside : ¬ startReading.toNat > file.currentFileSize.toNat - Block.minimalFileSize) :
    (readRecord path startReading memory ⟨file, .opened start⟩).1 =
        file.readLine path startReading ∧
      ∀ line, file.readLine path startReading = .ok line →
        (readRecord path startReading memory ⟨file, .opened start⟩).2 =
          ⟨file, .opened (startReading.toNat + 2 + line.length)⟩ := by
  obtain ⟨hash, small⟩ := whole
  have field : startReading.toNat + 2 ≤ file.disk.length := by
    unfold Block.minimalFileSize at large inside
    omega
  unfold readRecord Block.readLine
  rw [if_neg large, if_neg inside, readAt_of_inside field]
  dsimp only
  generalize (LittleEndian.decode ((file.disk.drop startReading.toNat).take 2) : UInt16) = size
  by_cases behind : startReading + size.toUInt32 > file.currentFileSize
  · rw [if_pos behind, if_pos behind]
    exact ⟨rfl, fun _ returned => by cases returned⟩
  · rw [if_neg behind, if_neg behind]
    split
    · exact ⟨rfl, fun _ returned => by cases returned⟩
    · have bounded := size.toNat_lt
      have ends : startReading.toNat + size.toNat ≤ file.currentFileSize.toNat := by
        unfold Block.minimalFileSize at large inside
        rw [gt_iff_lt, UInt32.lt_iff_toNat_lt, UInt32.toNat_add, UInt16.toNat_toUInt32,
          Nat.mod_eq_of_lt (by omega)] at behind
        omega
      have line : ((file.disk.drop (startReading.toNat + 2)).take size.toNat).length =
          size.toNat := by
        rw [List.length_take, List.length_drop]
        omega
      have read : OpenBlock.read size.toNat ⟨file, .opened (startReading.toNat + 2)⟩ =
          ((file.disk.drop (startReading.toNat + 2)).take size.toNat,
            ⟨file, .opened (startReading.toNat + 2 + size.toNat)⟩) :=
        @readAt_of_inside file 0 (startReading.toNat + 2) size.toNat (by omega)
      have filled : readIntoBuffer (memory.buffer size.toNat).1
          ((file.disk.drop (startReading.toNat + 2)).take size.toNat) =
            (file.disk.drop (startReading.toNat + 2)).take size.toNat := by
        rw [readIntoBuffer, line, List.drop_eq_nil_of_le (Nat.le_of_eq (memory.buffer size.toNat).2),
          List.append_nil]
      rw [read, filled]
      refine ⟨rfl, fun _ returned => ?_⟩
      cases returned
      rw [line]

end OpenBlock

namespace FileSystem

/-- The stream of a block file is at a position, and nothing is locked. -/
structure Opened (path : String) (file : Block) (position : Nat) (system : FileSystem) :
    Prop where
  block : system.blocks path = ⟨file, .opened position⟩
  free : system.locks.AllFree

variable {system : FileSystem} {path : String} {file : Block} {position : Nat} {opening : Opening}

/-- A stream that the timer has not closed stays as it is. -/
theorem getOpenFile_of_opened (isOpened : system.blocks path = ⟨file, .opened position⟩)
    (inTime : opening.timedOut = false) :
    onBlock path (OpenBlock.getOpenFile path opening) system = (.ok (), system) := by
  have notNull : ¬ ((⟨file, .opened position⟩ : OpenBlock).stream = .null ∨
      opening.timedOut = true) := by
    simp [inTime]
  have got : OpenBlock.getOpenFile path opening ⟨file, .opened position⟩ =
      (.ok (), ⟨file, .opened position⟩) := if_neg notNull
  unfold onBlock Fallible.onPart
  dsimp only
  rw [isOpened, got, ← isOpened, Function.update_eq_self]

/-- Of an open file, the line is read that the file has there. -/
theorem Opened.readLine (opened : Opened path file position system) (whole : file.Whole)
    (startReading : UInt32) (inTime : opening.timedOut = false) (memory : Uninitialised) :
    ∃ next, FileSystem.readLine path startReading opening memory system =
        (file.readLine path startReading, next) ∧
      ∀ line, file.readLine path startReading = .ok line →
        Opened path file (startReading.toNat + 2 + line.length) next := by
  unfold FileSystem.readLine
  rw [Fallible.andThen_of_ok (getOpenFile_of_opened opened.block inTime)]
  dsimp only
  rw [opened.block, if_neg nofun]
  by_cases small : file.currentFileSize.toNat ≤ Block.minimalFileSize
  · have thrown : file.readLine path startReading =
        .error (.endReaching "file is smaller than minimal block size" path 0
          Block.minimalFileSize) := if_pos small
    rw [if_pos small, thrown]
    exact ⟨system, rfl, fun _ returned => by cases returned⟩
  · rw [if_neg small]
    by_cases behind : startReading.toNat > file.currentFileSize.toNat - Block.minimalFileSize
    · have thrown : file.readLine path startReading =
          .error (.endReaching "file is to small for read request" path startReading.toNat
            Block.minimalFileSize) := by
        unfold Block.readLine
        rw [if_neg small, if_pos behind]
      rw [if_pos behind, thrown]
      exact ⟨system, rfl, fun _ returned => by cases returned⟩
    · rw [if_neg behind]
      obtain ⟨result, after⟩ := @OpenBlock.readRecord_of_whole file whole path position startReading
        memory small behind
      have read : underLock path (.error (.lockException "cannot lock file for reading" path))
          (onBlock path (Fallible.attempt (OpenBlock.readRecord path startReading memory)))
            system = _ := underLock_of_ok (opened.free path) rfl
      rw [Fallible.andThen_of_ok read]
      refine ⟨_, Prod.ext ?_ rfl, fun line returned => ⟨?_, opened.free.unlock_insert path⟩⟩
      · change (OpenBlock.readRecord path startReading memory (system.blocks path)).1 = _
        rw [opened.block]
        exact result
      · change Function.update system.blocks path
          (OpenBlock.readRecord path startReading memory (system.blocks path)).2 path = _
        rw [Function.update_self, opened.block]
        exact after line returned

/-- The lines are read as they are from the file at rest. -/
theorem Opened.rebuildLoop (genericHash : List UInt8 → Digest) (whole : file.Whole)
    {openings : Nat → Opening} (inTime : ∀ round, (openings round).timedOut = false)
    (memory : Uninitialised) (fuel round : Nat) (state : Block.RebuildState)
    (opened : Opened path file state.position system) :
    ∃ next, FileSystem.rebuildLoop genericHash path openings memory fuel round state system =
        (Block.rebuildLoop genericHash path file fuel state, next) ∧
      ∀ final, Block.rebuildLoop genericHash path file fuel state = .ok final →
        Opened path file final.position next := by
  induction fuel generalizing round state system with
  | zero =>
      refine ⟨system, rfl, fun final ended => ?_⟩
      cases ended
      exact opened
  | succ fuel ih =>
      unfold FileSystem.rebuildLoop Block.rebuildLoop
      rw [opened.block]
      dsimp only
      split
      · obtain ⟨next, read, stillOpened⟩ :=
          opened.readLine whole state.fileCursor.toUInt32 (inTime round) memory
        cases line : file.readLine path state.fileCursor.toUInt32 with
        | error exception =>
            rw [line] at read
            rw [Fallible.andThen_of_error read]
            exact ⟨next, rfl, fun _ ended => by cases ended⟩
        | ok line =>
            rw [line] at read
            rw [Fallible.andThen_of_ok read]
            exact ih (round + 1) _ (stillOpened _ line)
      · refine ⟨system, rfl, fun final ended => ?_⟩
        cases ended
        exact opened

/-- More rounds than the loop needs change nothing. -/
theorem rebuildLoop_of_more {genericHash : List UInt8 → Digest} {fuel : Nat} (more : Nat)
    {state : Block.RebuildState}
    (ends : ∀ final, Block.rebuildLoop genericHash path file fuel state = .ok final →
      ¬ final.GoesOn file) :
    Block.rebuildLoop genericHash path file (fuel + more) state =
      Block.rebuildLoop genericHash path file fuel state := by
  induction fuel generalizing state with
  | zero =>
      cases more with
      | zero => rfl
      | succ more => exact if_neg (ends state rfl)
  | succ fuel ih =>
      rw [Nat.succ_add]
      unfold Block.rebuildLoop
      unfold Block.rebuildLoop at ends
      split
      · rename_i goesOn
        rw [if_pos goesOn] at ends
        cases line : file.readLine path state.fileCursor.toUInt32 with
        | error exception => rfl
        | ok line =>
            simp only [line] at ends
            exact ih ends
      · rfl

/-- The loop of a file at rest ends within the rounds that its cursor can count. -/
theorem rebuildLoop_start (genericHash : List UInt8 → Digest) (path : String) {file : Block}
    (sized : file.currentFileSize.toNat ≤ file.disk.length) :
    Block.rebuildLoop genericHash path file UInt32.size (.start file) =
      Block.rebuildLoop genericHash path file file.disk.length (.start file) := by
  have atStart : (Block.RebuildState.start file).fileCursor.toUInt32.toNat = 0 := rfl
  have ends {fuel : Nat} (enough : file.currentFileSize.toNat ≤ fuel)
      (final : Block.RebuildState)
      (ended : Block.rebuildLoop genericHash path file fuel (.start file) = .ok final) :
      ¬ final.GoesOn file := by
    refine Block.rebuildLoop_ends genericHash path file ?_ (fun negative => ?_) ended
    · rw [atStart, Nat.zero_add]
      exact enough
    · rw [atStart] at negative
      exact absurd negative (by decide)
  calc Block.rebuildLoop genericHash path file UInt32.size (.start file)
      = Block.rebuildLoop genericHash path file (UInt32.size + file.disk.length) (.start file) :=
        (rebuildLoop_of_more _ (ends (Nat.le_of_lt file.currentFileSize.toNat_lt))).symm
    _ = Block.rebuildLoop genericHash path file file.disk.length (.start file) := by
        rw [Nat.add_comm]
        exact rebuildLoop_of_more _ (ends sized)

/-- An exception in the loop ends the rebuild with it. -/
theorem rebuildBlockIndex_of_error {genericHash : List UInt8 → Digest} {uninitialised : Digest}
    {exception : Exception}
    (ended : Block.rebuildLoop genericHash path file file.disk.length (.start file) =
      .error exception) :
    file.rebuildBlockIndex genericHash uninitialised path = .error exception := by
  unfold Block.RebuildState.start at ended
  unfold Block.rebuildBlockIndex
  rw [ended]

/-- After the lines the hash is compared. -/
theorem rebuildBlockIndex_of_ok {genericHash : List UInt8 → Digest} {uninitialised : Digest}
    {final : Block.RebuildState}
    (ended : Block.rebuildLoop genericHash path file file.disk.length (.start file) = .ok final) :
    file.rebuildBlockIndex genericHash uninitialised path =
      if final.hash = uninitialised.readInto ((file.disk.drop final.position).take 32) then
        .ok final.pendingLines
      else .error (.hashMismatch "block hash mismatch" final.hash.1
        (uninitialised.readInto ((file.disk.drop final.position).take 32)).1) := by
  unfold Block.RebuildState.start at ended
  unfold Block.rebuildBlockIndex
  rw [ended]

/-- A file that was just opened is rebuilt as it is at rest. -/
theorem Opened.rebuildBlockIndex (genericHash : List UInt8 → Digest) (whole : file.Whole)
    {openings : Nat → Opening} (inTime : ∀ round, (openings round).timedOut = false)
    {last : Opening} (lastInTime : last.timedOut = false) (memory : Uninitialised)
    (opened : Opened path file file.disk.length system) :
    (FileSystem.rebuildBlockIndex genericHash path openings last memory system).1 =
      Block.rebuildBlockIndex genericHash memory.hash path file := by
  have sized : file.currentFileSize.toNat ≤ file.disk.length := Nat.le_of_add_right_le whole.hash
  obtain ⟨next, lines, stillOpened⟩ := @Opened.rebuildLoop system path file genericHash whole
    openings inTime memory UInt32.size 0 (.start file) opened
  rw [rebuildLoop_start genericHash path sized] at lines stillOpened
  have read : readLines genericHash path openings memory system =
      (Block.rebuildLoop genericHash path file file.disk.length (.start file), next) := by
    unfold readLines
    rw [opened.block]
    exact lines
  unfold FileSystem.rebuildBlockIndex
  cases ended : Block.rebuildLoop genericHash path file file.disk.length (.start file) with
  | error exception =>
      rw [ended] at read
      rw [Fallible.andThen_of_error read, rebuildBlockIndex_of_error ended]
  | ok final =>
      rw [ended] at read
      have atEnd := stillOpened final ended
      have hashRead : ((onBlock path (OpenBlock.getOpenFile path last)).andThen fun _ =>
          onBlock path (OpenBlock.readHash memory))
            { next with locks := next.locks.insert path true } =
          (.ok (memory.hash.readInto ((file.disk.drop final.position).take 32)),
            (onBlock path (OpenBlock.readHash memory)
              { next with locks := next.locks.insert path true }).2) := by
        have got : onBlock path (OpenBlock.getOpenFile path last)
            { next with locks := next.locks.insert path true } = (.ok (), _) :=
          getOpenFile_of_opened atEnd.block lastInTime
        rw [Fallible.andThen_of_ok got]
        refine Prod.ext ?_ rfl
        change (OpenBlock.readHash memory (next.blocks path)).1 = _
        rw [atEnd.block]
        rfl
      rw [Fallible.andThen_of_ok read,
        Fallible.andThen_of_ok (underLock_of_ok (atEnd.free path) hashRead),
        rebuildBlockIndex_of_ok ended]
      rfl

end FileSystem

namespace FileRun

open FileSystem

/-- No file is locked, and no call has found its file locked. -/
structure LocksReleased (run : FileRun) : Prop where
  free : run.system.locks.AllFree
  neverFailed : run.lockFailed = false

/-- Wherever the call opens a block file under its lock, the stream is open or the file can be
opened. -/
def OpensUnderLock (genericHash : List UInt8 → Digest) (run : FileRun) : FileCall → Prop
  | .appendLines path _ opening => (run.system.blocks path).Opens opening
  | .readLine _ _ _ _ => True
  | .calculateHash path opening _ => HashOpens (run.system.blocks path) opening
  | .validateHash path first second memory =>
      ValidationOpens path (run.system.blocks path) first second memory
  | .rebuildBlockIndex path openings last memory =>
      RebuildOpens genericHash path openings last memory run.system
  | .readFromFile _ _ => True
  | .writeToFile _ _ _ => True

variable {genericHash : List UInt8 → Digest} {run next : FileRun}

/-- A call out of a state with free locks. -/
theorem released_perform_iff (released : LocksReleased run) (call : FileCall) :
    Released (perform genericHash call run.system) ↔ OpensUnderLock genericHash run call := by
  have free := released.free
  cases call with
  | appendLines path lines opening =>
      exact (released_andThen_outcome_iff fun _ => rfl).trans
        (released_appendLines_iff genericHash path lines opening free)
  | readLine path startReading opening memory =>
      exact iff_true_intro ((released_andThen_outcome_iff fun _ => rfl).mpr
        (released_readLine path startReading opening memory free))
  | calculateHash path opening memory =>
      exact (released_andThen_outcome_iff fun _ => rfl).trans
        (released_calculateHash_iff genericHash path opening memory free)
  | validateHash path first second memory =>
      exact (released_andThen_outcome_iff fun _ => rfl).trans
        (released_validateHash_iff genericHash path first second memory free)
  | rebuildBlockIndex path openings last memory =>
      exact (released_andThen_outcome_iff fun _ => rfl).trans
        (released_rebuildBlockIndex_iff genericHash path openings last memory free)
  | readFromFile filename throws =>
      exact iff_true_intro ((released_andThen_outcome_iff fun _ => rfl).mpr
        (released_readFromFile filename throws free))
  | writeToFile filename opens file =>
      exact iff_true_intro (released_writeToFile filename opens file free)

/-- In every sequence of calls, each call leaves all files unlocked and none finds its file locked,
if and only if every block file that is opened under its lock can be opened. -/
theorem locksReleased_iff (genericHash : List UInt8 → Digest) (blocks : String → OpenBlock)
    (contents : String → Option (List UInt8)) (calls : List FileCall) :
    (∀ first rest reached, calls = first ++ rest →
      runEvents (step genericHash) first (start blocks contents) = some reached →
        LocksReleased reached) ↔
      StepsMeet (step genericHash) (OpensUnderLock genericHash) calls (start blocks contents) := by
  have stable (run : FileRun) (call : FileCall) (next : FileRun) (released : LocksReleased run)
      (opens : OpensUnderLock genericHash run call) (taken : step genericHash run call = some next) :
      LocksReleased next := by
    have performed := (released_perform_iff released call).mpr opens
    cases taken
    exact ⟨performed.free, by rw [released.neverFailed, performed.lockable]; rfl⟩
  have opens_of_good (run : FileRun) (call : FileCall) (released : LocksReleased run)
      (good : ∀ next, step genericHash run call = some next → LocksReleased next) :
      OpensUnderLock genericHash run call := by
    apply (released_perform_iff released call).mp
    have next := good _ rfl
    have lockable := next.neverFailed
    dsimp only at lockable
    rw [Bool.or_eq_false_iff] at lockable
    exact ⟨next.free, lockable.2⟩
  exact good_iff_stepsMeet stable (fun _ released => released) opens_of_good calls
    ⟨FileLockManager.allFree_new, rfl⟩

/-- The stream of a block file was closed by the timer, and the file cannot be opened again. After
the line that could not be appended, no line ever can. -/
theorem not_locksReleased_notOpened :
    ∃ reached, runEvents (step fun _ => Digest.zero)
        [.appendLines "blk00000001.dat" [[1]] ⟨true, false⟩,
          .appendLines "blk00000001.dat" [[1]] ⟨true, true⟩]
        (start (fun _ => ⟨⟨[], 0⟩, .opened 0⟩) fun _ => none) = some reached ∧
      reached.lockFailed = true ∧ reached.system.locks.files "blk00000001.dat" = some true ∧
      ¬ LocksReleased reached := by
  refine ⟨_, rfl, rfl, rfl, fun released => ?_⟩
  cases released.neverFailed

end FileRun

end Files

end GradidoNode

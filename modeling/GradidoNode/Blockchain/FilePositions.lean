import GradidoNode.Blockchain.AddAtomic
import GradidoNode.Cache.WriteOrder
import GradidoNode.Files.BlockRoundTrip

/-!
# The positions in the block files of a growing chain

Every transaction that is added goes into the block with the stored last number, and no
step changes that number: `hasSpaceLeft` is not asked. A batch ends below the greatest
size of a block file and its own length, with cursors that are right, if and only if the
file has space left and all its lines start below 2 GiB.
-/

namespace GradidoNode

open Library Files Cache

namespace Cache

/-- `GRADIDO_NODE_CACHE_BLOCK_MAX_FILE_SIZE_BYTE`. -/
def maxFileSizeByte : UInt32 := 128 * 1024 * 1024

/-- `Block::hasSpaceLeft`. -/
def hasSpaceLeft (blockFile : Files.Block) : Bool :=
  blockFile.currentFileSize + 32 < maxFileSizeByte

/-- A line in the block file, with the cursor that was set for its transaction. -/
structure AppendedLine where
  transactionNr : UInt64
  fileCursor : Int32
  line : List UInt8
  deriving DecidableEq

/-- A block with its files and tasks, and everything appended to its file so far. -/
structure PositionLog where
  system : WriteSystem
  appended : List AppendedLine
  /-- The bytes of the batch that was written last. -/
  lastBatch : Nat
  deriving DecidableEq

namespace PositionLog

/-- A block without files. -/
def new : PositionLog where
  system := {
    block := .new .new
    blockFile := .new []
    indexDisk := none
    handed := []
    pushed := [] }
  appended := []
  lastBatch := 0

/-- The lines in the block file, as they are stored. -/
def lines (log : PositionLog) : List (List UInt8) := log.appended.map AppendedLine.line

def withBlock (log : PositionLog) (block : Cache.Block) : PositionLog :=
  { log with system := { log.system with block := block } }

/-- The transactions that a step writes. -/
def batch (log : PositionLog) : WriteEvent → Option (List NodeTransactionEntry)
  | .append position =>
      match log.system.handed[position]? with
      | some ⟨task, .started⟩ =>
          match Tasks.WriteTransactionsToBlockTask.collectLines 0 task.entries with
          | .ok _ => some task.entries
          | .error _ => none
      | _ => none
  | _ => none

/-- The lines of transactions, as they are stored. -/
def storedLines (transactions : List NodeTransactionEntry) : List (List UInt8) :=
  transactions.map fun transaction => storedLine transaction.serializedTransaction

section

variable (genericHash : List UInt8 → Digest)
  (getCommunityIdIndex : String → Except Exception UInt32)

/-- `setFileCursor` of each transaction after its line was appended. -/
def appendedLines (transactions : List NodeTransactionEntry) (blockFile : Files.Block) :
    List AppendedLine :=
  (transactions.zip (Files.Block.appendLines genericHash
      (transactions.map NodeTransactionEntry.serializedTransaction) blockFile).1).map fun pair =>
    { transactionNr := pair.1.transactionNr
      fileCursor := pair.2.toInt32
      line := storedLine pair.1.serializedTransaction }

def step (log : PositionLog) (event : WriteEvent) : Option PositionLog :=
  (log.system.step genericHash getCommunityIdIndex event).map fun next =>
    match log.batch event with
    | none => { log with system := next }
    | some transactions => {
        system := next
        appended := log.appended ++
          appendedLines genericHash transactions log.system.blockFile
        lastBatch := (encodeLines (storedLines transactions)).length }

/-- The file is not longer than allowed, where the 32 bytes of the hash at its end count as well,
the cursor of each transaction is the offset of its line, which is not negative, and the index
has no other cursors. -/
structure PositionsRight (log : PositionLog) : Prop where
  content : encodeLines log.lines <+: log.system.blockFile.disk
  bounded : log.system.blockFile.disk.length < maxFileSizeByte.toNat + log.lastBatch
  offsets : ∀ before record after, log.appended = before ++ record :: after →
    record.fileCursor.toInt = ((encodeLines (before.map AppendedLine.line)).length : Int)
  recorded : ∀ transactionNr fileCursor,
    log.system.block.blockIndex.transactionNrsFileCursors.find? transactionNr = some fileCursor →
      ∃ record ∈ log.appended,
        record.transactionNr = transactionNr ∧ record.fileCursor = fileCursor

/-- A batch is appended to a file with space left, and each of its lines starts below
2 GiB. -/
def HasRoom (log : PositionLog) (event : WriteEvent) : Prop :=
  ∀ transactions, log.batch event = some transactions →
    hasSpaceLeft log.system.blockFile = true ∧
    ∀ start ∈ positionsFrom log.system.blockFile.currentFileSize.toNat (storedLines transactions),
      start < 2 ^ 31

/-- The file keeps exactly what was appended, and the cursors still to be recorded are set. -/
structure Sound (log : PositionLog) : Prop where
  keeps : BlockFile.Keeps genericHash ⟨log.system.blockFile, true⟩ log.lines
  small : (encodeLines log.lines).length < 2 ^ 31 + 2 ^ 17
  right : PositionsRight log
  pending : ∀ handed ∈ log.system.handed, ∀ fileCursors, handed.phase = .appended fileCursors →
    ∀ fileCursor ∈ fileCursors, ∃ record ∈ log.appended,
      record.transactionNr = fileCursor.1 ∧ record.fileCursor = fileCursor.2.toInt32

end

section

variable {genericHash : List UInt8 → Digest}
  {getCommunityIdIndex : String → Except Exception UInt32} {log : PositionLog}

/-- What a batch consists of. -/
theorem batch_eq_some_iff {event : WriteEvent} {transactions : List NodeTransactionEntry} :
    log.batch event = some transactions ↔ ∃ position handed lines, event = .append position ∧
      log.system.handed[position]? = some handed ∧ handed.phase = .started ∧
      Tasks.WriteTransactionsToBlockTask.collectLines 0 handed.task.entries = .ok lines ∧
      handed.task.entries = transactions := by
  constructor
  · intro isBatch
    unfold batch at isBatch
    split at isBatch
    · rename_i position
      split at isBatch
      · rename_i task found
        split at isBatch
        · rename_i lines collected
          exact ⟨position, _, lines, rfl, found, rfl, collected, Option.some.inj isBatch⟩
        · cases isBatch
      · cases isBatch
    · cases isBatch
  · rintro ⟨position, ⟨task, phase⟩, lines, rfl, found, started, collected, rfl⟩
    dsimp only at started collected ⊢
    subst started
    unfold batch
    dsimp only
    rw [found]
    dsimp only
    rw [collected]

/-- The stored lines are the serialized transactions, cut as `appendLines` cuts them. -/
theorem storedLines_eq (transactions : List NodeTransactionEntry) : storedLines transactions =
    (transactions.map NodeTransactionEntry.serializedTransaction).map storedLine := by
  rw [storedLines, List.map_map]
  rfl

/-- A stored line is shorter than 2 ^ 16 bytes. -/
theorem storedLines_short {transactions : List NodeTransactionEntry} :
    ∀ line ∈ storedLines transactions, line.length < 2 ^ 16 := by
  intro line member
  obtain ⟨transaction, _, rfl⟩ := List.mem_map.mp member
  exact length_storedLine_lt transaction.serializedTransaction

/-- The cursors are where the stored lines start, as 32-bit numbers. -/
theorem appendLines_cursors (transactions : List NodeTransactionEntry)
    (blockFile : Files.Block) :
    (Files.Block.appendLines genericHash
        (transactions.map NodeTransactionEntry.serializedTransaction) blockFile).1 =
      (positionsFrom blockFile.currentFileSize.toNat (storedLines transactions)).map
        UInt32.ofNat := by
  rw [← Files.Block.appendLines_map_storedLine, ← storedLines_eq]
  exact Files.Block.appendLines_positions genericHash storedLines_short

/-- The records of a batch whose first line starts at a position. -/
def recordsFrom : Nat → List NodeTransactionEntry → List AppendedLine
  | _, [] => []
  | start, transaction :: rest =>
      { transactionNr := transaction.transactionNr
        fileCursor := (UInt32.ofNat start).toInt32
        line := storedLine transaction.serializedTransaction } ::
      recordsFrom (start + 2 + (storedLine transaction.serializedTransaction).length) rest

/-- Where the lines of a batch lie: one behind the other from the end of the file on. -/
theorem appendedLines_eq (transactions : List NodeTransactionEntry) (blockFile : Files.Block) :
    appendedLines genericHash transactions blockFile =
      recordsFrom blockFile.currentFileSize.toNat transactions := by
  rw [appendedLines, appendLines_cursors]
  generalize blockFile.currentFileSize.toNat = start
  induction transactions generalizing start with
  | nil => rfl
  | cons transaction rest ih =>
      rw [recordsFrom, ← ih]
      rfl

@[simp] theorem map_line_recordsFrom (start : Nat) (transactions : List NodeTransactionEntry) :
    (recordsFrom start transactions).map AppendedLine.line = storedLines transactions := by
  induction transactions generalizing start with
  | nil => rfl
  | cons transaction rest ih =>
      rw [recordsFrom, List.map_cons, ih]
      rfl

/-- A record of a batch has the offset of its line as its cursor, as a 32-bit number. -/
theorem fileCursor_of_mem_recordsFrom {start : Nat} {transactions : List NodeTransactionEntry}
    {before after : List AppendedLine} {record : AppendedLine}
    (split : recordsFrom start transactions = before ++ record :: after) :
    record.fileCursor =
      (UInt32.ofNat (start + (encodeLines (before.map AppendedLine.line)).length)).toInt32 := by
  induction transactions generalizing start before with
  | nil => exact absurd split.symm (List.append_ne_nil_of_right_ne_nil _ (List.cons_ne_nil _ _))
  | cons transaction rest ih =>
      rw [recordsFrom] at split
      cases before with
      | nil =>
          rw [List.nil_append] at split
          rw [← (List.cons.inj split).1]
          rfl
      | cons first others =>
          rw [List.cons_append] at split
          obtain ⟨isFirst, later⟩ := List.cons.inj split
          rw [ih later, ← isFirst, List.map_cons, length_encodeLines_cons, Nat.add_assoc,
            Nat.add_assoc, Nat.add_assoc]

/-- A record of two lists behind each other is in the first, or behind it in the second. -/
theorem record_of_append {first second before after : List AppendedLine} {record : AppendedLine}
    (split : first ++ second = before ++ record :: after) :
    (∃ rest, first = before ++ record :: rest) ∨
      ∃ others, before = first ++ others ∧ second = others ++ record :: after := by
  rcases List.append_eq_append_iff.mp split with ⟨others, isBefore, isSecond⟩ |
    ⟨others, isFirst, isRest⟩
  · exact Or.inr ⟨others, isBefore, isSecond⟩
  · cases others with
    | nil =>
        rw [List.append_nil] at isFirst
        rw [List.nil_append] at isRest
        exact Or.inr ⟨[], by rw [isFirst, List.append_nil], isRest.symm⟩
    | cons head rest =>
        rw [List.cons_append] at isRest
        rw [(List.cons.inj isRest).1]
        exact Or.inl ⟨rest, isFirst⟩

/-- The state after a batch was appended. -/
def afterBatch (genericHash : List UInt8 → Digest) (log : PositionLog) (position : Nat)
    (transactions : List NodeTransactionEntry) : PositionLog :=
  let appended := Files.Block.appendLines genericHash
    (transactions.map NodeTransactionEntry.serializedTransaction) log.system.blockFile
  { system := { log.system.setPhase position
        (.appended ((transactions.map NodeTransactionEntry.transactionNr).zip appended.1)) with
      blockFile := appended.2 }
    appended := log.appended ++ appendedLines genericHash transactions log.system.blockFile
    lastBatch := (encodeLines (storedLines transactions)).length }

/-- A batch appends its lines to the log. -/
theorem lines_afterBatch (position : Nat) (transactions : List NodeTransactionEntry) :
    (afterBatch genericHash log position transactions).lines =
      log.lines ++ storedLines transactions := by
  rw [lines, afterBatch, appendedLines_eq, List.map_append, map_line_recordsFrom]
  rfl

/-- A batch appends its lines to the block file. -/
theorem blockFile_afterBatch (position : Nat) (transactions : List NodeTransactionEntry) :
    (afterBatch genericHash log position transactions).system.blockFile =
      (Files.Block.appendLines genericHash (storedLines transactions) log.system.blockFile).2 := by
  rw [storedLines_eq, Files.Block.appendLines_map_storedLine]
  rfl

/-- The file is at most as long as its lines and their hash. -/
theorem length_disk_le
    (keeps : BlockFile.Keeps genericHash ⟨log.system.blockFile, true⟩ log.lines) :
    log.system.blockFile.disk.length ≤ (encodeLines log.lines).length + 32 := by
  rcases keeps.disk with content | ⟨_, zero⟩
  · rw [show log.system.blockFile.disk = _ from content]
    exact length_blockContent_le genericHash log.lines
  · rw [show log.system.blockFile.disk = _ from zero, Digest.length]
    omega

/-- A file that keeps the lines begins with them. -/
theorem content_of_keeps
    (keeps : BlockFile.Keeps genericHash ⟨log.system.blockFile, true⟩ log.lines) :
    encodeLines log.lines <+: log.system.blockFile.disk := by
  rcases keeps.disk with content | ⟨none, _⟩
  · rw [show log.system.blockFile.disk = _ from content, ← take_blockContent genericHash log.lines]
    exact List.take_prefix _ _
  · rw [none]
    exact List.nil_prefix

/-- While there is space left, the size and a hash are below the greatest size. -/
theorem hasSpaceLeft_iff {blockFile : Files.Block}
    (small : blockFile.currentFileSize.toNat < 2 ^ 31 + 2 ^ 17) :
    hasSpaceLeft blockFile = true ↔
      blockFile.currentFileSize.toNat + 32 < maxFileSizeByte.toNat := by
  have added : (blockFile.currentFileSize + 32).toNat = blockFile.currentFileSize.toNat + 32 := by
    rw [UInt32.toNat_add]
    exact Nat.mod_eq_of_lt (by
      change blockFile.currentFileSize.toNat + 32 < 2 ^ 32
      omega)
  rw [hasSpaceLeft, decide_eq_true_iff, UInt32.lt_iff_toNat_lt, added]

/-- A batch whose lines start below 2 GiB ends not far behind. -/
theorem length_of_starts {stored : List (List UInt8)} {transactions : List NodeTransactionEntry}
    (small : (encodeLines stored).length < 2 ^ 31 + 2 ^ 17)
    (starts : ∀ start ∈ positionsFrom (encodeLines stored).length (storedLines transactions),
      start < 2 ^ 31) :
    (encodeLines (stored ++ storedLines transactions)).length < 2 ^ 31 + 2 ^ 17 := by
  rw [encodeLines_append, List.length_append]
  by_cases none : storedLines transactions = []
  · rw [none]
    exact small
  · obtain ⟨last, isStart, line, member, ends⟩ :=
      @exists_last_start (encodeLines stored).length (storedLines transactions) none
    have below := starts last isStart
    obtain ⟨transaction, _, rfl⟩ := List.mem_map.mp member
    have short := length_storedLine_lt transaction.serializedTransaction
    omega

/-- Every pair still to be recorded after a batch was appended is one of a record. -/
theorem exists_record_of_pending {start : Nat} {transactions : List NodeTransactionEntry}
    {fileCursor : UInt64 × UInt32}
    (member : fileCursor ∈ (transactions.map NodeTransactionEntry.transactionNr).zip
      ((positionsFrom start (storedLines transactions)).map UInt32.ofNat)) :
    ∃ record ∈ recordsFrom start transactions,
      record.transactionNr = fileCursor.1 ∧ record.fileCursor = fileCursor.2.toInt32 := by
  induction transactions generalizing start with
  | nil => cases member
  | cons transaction rest ih =>
      rcases List.mem_cons.mp member with rfl | later
      · exact ⟨_, List.mem_cons_self .., rfl, rfl⟩
      · obtain ⟨record, isRecord, same⟩ := ih later
        exact ⟨record, List.mem_cons_of_mem _ isRecord, same⟩

/-- A batch with room keeps the file in order. -/
theorem Sound.append (sound : Sound genericHash log) {position : Nat} {handed : HandedTask}
    {transactions : List NodeTransactionEntry}
    (found : log.system.handed[position]? = some handed)
    (room : hasSpaceLeft log.system.blockFile = true ∧
      ∀ start ∈ positionsFrom log.system.blockFile.currentFileSize.toNat
        (storedLines transactions), start < 2 ^ 31) :
    Sound genericHash (afterBatch genericHash log position transactions) := by
  have size : log.system.blockFile.currentFileSize.toNat = (encodeLines log.lines).length :=
    sound.keeps.size
  obtain ⟨space, starts⟩ := room
  rw [hasSpaceLeft_iff (size ▸ sound.small)] at space
  rw [size] at starts space
  have small := length_of_starts sound.small starts
  have isLines := @lines_afterBatch genericHash log position transactions
  have kept : BlockFile.Keeps genericHash
      ⟨(afterBatch genericHash log position transactions).system.blockFile, true⟩
      (afterBatch genericHash log position transactions).lines := by
    rw [blockFile_afterBatch, isLines]
    exact (sound.keeps.appendLines storedLines_short (Nat.lt_trans small (by decide))).1
  have length : (encodeLines (afterBatch genericHash log position transactions).lines).length =
      (encodeLines log.lines).length + (encodeLines (storedLines transactions)).length := by
    rw [isLines, encodeLines_append, List.length_append]
  refine ⟨kept, isLines ▸ small, ⟨content_of_keeps kept, ?_, ?_, ?_⟩, ?_⟩
  · have ends := length_disk_le kept
    rw [length] at ends
    change _ < maxFileSizeByte.toNat + (encodeLines (storedLines transactions)).length
    omega
  · intro before record after split
    rcases record_of_append split with ⟨rest, isOld⟩ | ⟨others, rfl, isNew⟩
    · exact sound.right.offsets before record rest isOld
    · rw [appendedLines_eq, size] at isNew
      have below : (encodeLines log.lines).length +
          (encodeLines (others.map AppendedLine.line)).length < 2 ^ 31 := by
        apply starts
        have divided := congrArg (List.map AppendedLine.line) isNew
        rw [map_line_recordsFrom, List.map_append, List.map_cons] at divided
        rw [divided]
        exact mem_positionsFrom_append _ _ _ _
      rw [fileCursor_of_mem_recordsFrom isNew, toInt_toInt32_ofNat below, List.map_append,
        encodeLines_append, List.length_append]
      rfl
  · intro transactionNr fileCursor isRecorded
    obtain ⟨record, isOld, same⟩ := sound.right.recorded transactionNr fileCursor isRecorded
    exact ⟨record, List.mem_append_left _ isOld, same⟩
  · intro other isHanded fileCursors appended fileCursor isPending
    rcases WriteSystem.mem_setPhase_handed found isHanded with rfl | before
    · cases appended
      rw [appendLines_cursors] at isPending
      obtain ⟨record, isNew, same⟩ := exists_record_of_pending isPending
      refine ⟨record, List.mem_append_right _ ?_, same⟩
      rw [appendedLines_eq]
      exact isNew
    · obtain ⟨record, isOld, same⟩ :=
        sound.pending other before fileCursors appended fileCursor isPending
      exact ⟨record, List.mem_append_left _ isOld, same⟩

/-- A step that writes a batch does nothing else. -/
theorem step_of_batch {event : WriteEvent} {transactions : List NodeTransactionEntry}
    (isBatch : log.batch event = some transactions) :
    ∃ position handed, log.system.handed[position]? = some handed ∧
      log.step genericHash getCommunityIdIndex event =
        some (afterBatch genericHash log position transactions) := by
  obtain ⟨position, ⟨task, phase⟩, lines, rfl, found, started, collected, rfl⟩ :=
    batch_eq_some_iff.mp isBatch
  refine ⟨position, _, found, ?_⟩
  have isLines := Tasks.WriteTransactionsToBlockTask.collectLines_ok collected
  subst started isLines
  unfold step
  rw [isBatch]
  simp only [WriteSystem.step, found, WriteSystem.taskStep, collected]
  rfl

/-- An event that brings no batch is a step of the write system alone. -/
theorem step_of_none {event : WriteEvent} (noBatch : log.batch event = none) :
    log.step genericHash getCommunityIdIndex event =
      (log.system.step genericHash getCommunityIdIndex event).map fun next =>
        { log with system := next } := by
  unfold step
  rw [noBatch]

/-- What only moves tasks and records the cursors of lines that are there changes nothing. -/
theorem Sound.withSystem (sound : Sound genericHash log) {next : WriteSystem}
    (blockFile : next.blockFile = log.system.blockFile)
    (recorded : ∀ transactionNr fileCursor,
      next.block.blockIndex.transactionNrsFileCursors.find? transactionNr = some fileCursor →
        ∃ record ∈ log.appended,
          record.transactionNr = transactionNr ∧ record.fileCursor = fileCursor)
    (pending : ∀ handed ∈ next.handed, ∀ fileCursors, handed.phase = .appended fileCursors →
      ∀ fileCursor ∈ fileCursors, ∃ record ∈ log.appended,
        record.transactionNr = fileCursor.1 ∧ record.fileCursor = fileCursor.2.toInt32) :
    Sound genericHash { log with system := next } where
  keeps := by
    rw [show ({ log with system := next } : PositionLog).system.blockFile = _ from blockFile]
    exact sound.keeps
  small := sound.small
  right := {
    content := by
      rw [show ({ log with system := next } : PositionLog).system.blockFile = _ from blockFile]
      exact sound.right.content
    bounded := by
      rw [show ({ log with system := next } : PositionLog).system.blockFile = _ from blockFile]
      exact sound.right.bounded
    offsets := sound.right.offsets
    recorded := recorded }
  pending := pending

/-- A task that is handed over has nothing to record yet. -/
theorem Sound.handOver (sound : Sound genericHash log)
    {handed : Option Tasks.WriteTransactionsToBlockTask × Cache.Block} {phase : Phase}
    (index : handed.2.blockIndex = log.system.block.blockIndex)
    (unwritten : phase.written = false) :
    Sound genericHash { log with system := log.system.handOver handed phase } := by
  refine sound.withSystem rfl ?_ ?_
  · intro transactionNr fileCursor found
    change handed.2.blockIndex.transactionNrsFileCursors.find? transactionNr = some fileCursor
      at found
    rw [index] at found
    exact sound.right.recorded transactionNr fileCursor found
  · intro other isHanded fileCursors appended
    rcases List.mem_append.mp isHanded with before | new
    · exact sound.pending other before fileCursors appended
    · rw [Option.toList_map] at new
      obtain ⟨task, _, rfl⟩ := List.mem_map.mp new
      exact absurd appended (Phase.ne_appended_of_unwritten unwritten fileCursors)

/-- The cursor that a task records is the one of a line. -/
theorem Sound.taskMoved (sound : Sound genericHash log) {position : Nat} {handed : HandedTask}
    {index : BlockIndex} {phase : Phase} (found : log.system.handed[position]? = some handed)
    (recorded : ∀ transactionNr fileCursor,
      index.transactionNrsFileCursors.find? transactionNr = some fileCursor →
        ∃ record ∈ log.appended,
          record.transactionNr = transactionNr ∧ record.fileCursor = fileCursor)
    (pending : ∀ fileCursors, phase = .appended fileCursors → ∀ fileCursor ∈ fileCursors,
      ∃ record ∈ log.appended,
        record.transactionNr = fileCursor.1 ∧ record.fileCursor = fileCursor.2.toInt32) :
    Sound genericHash
      { log with system := (log.system.setIndex index).setPhase position phase } := by
  refine sound.withSystem rfl recorded ?_
  intro other isHanded fileCursors appended
  rcases WriteSystem.mem_setPhase_handed found isHanded with rfl | before
  · exact pending fileCursors appended
  · exact sound.pending other before fileCursors appended

/-- A step of a task that writes no batch keeps the log sound. -/
theorem Sound.task (sound : Sound genericHash log) {position : Nat} {handed : HandedTask}
    {event : WriteEvent} {next : WriteSystem} (noBatch : log.batch event = none)
    (found : log.system.handed[position]? = some handed)
    (taken : WriteSystem.TaskStep genericHash log.system position handed event next) :
    Sound genericHash { log with system := next } := by
  cases taken with
  | append started collected =>
      rw [batch_eq_some_iff.mpr ⟨position, handed, _, rfl, found, started, collected, rfl⟩]
        at noBatch
      cases noBatch
  | record appended recorded =>
      have pending := sound.pending handed (List.mem_of_getElem? found) _ appended
      refine sound.taskMoved found ?_ ?_
      · intro other fileCursor isFound
        rcases BlockIndex.find?_addFileCursorForTransaction recorded isFound with
          before | ⟨rfl, rfl⟩
        · exact sound.right.recorded other fileCursor before
        · exact pending _ (List.mem_cons_self ..)
      · intro fileCursors isRest fileCursor isPending
        cases isRest
        exact pending fileCursor (List.mem_cons_of_mem _ isPending)
  | recordFailed appended failed =>
      have pending := sound.pending handed (List.mem_of_getElem? found) _ appended
      refine sound.taskMoved found ?_ (fun _ isAppended => absurd isAppended Phase.noConfusion)
      intro other fileCursor isFound
      rcases BlockIndex.find?_addFileCursorForTransaction failed isFound with before | ⟨rfl, rfl⟩
      · exact sound.right.recorded other fileCursor before
      · exact pending _ (List.mem_cons_self ..)
  | quiet phase indexDisk written recorded notAppended =>
      refine sound.withSystem rfl sound.right.recorded ?_
      intro other isHanded fileCursors appended
      rcases WriteSystem.mem_setPhase_handed found isHanded with rfl | before
      · exact absurd appended (notAppended fileCursors)
      · exact sound.pending other before fileCursors appended

/-- The open task is handed over, taken and run. -/
theorem exists_run_batch {task : Tasks.WriteTransactionsToBlockTask} {lines : List (List UInt8)}
    (taking : log.system.block.exitCalled = false)
    (isOpen : log.system.block.transactionWriteTask = some task)
    (collected : Tasks.WriteTransactionsToBlockTask.collectLines 0 task.entries = .ok lines) :
    ∃ next, runEvents (step genericHash getCommunityIdIndex)
        [.timer, .take log.system.handed.length, .append log.system.handed.length] log =
          some next ∧
      next.system.block.exitCalled = false ∧ next.system.block.transactionWriteTask = none ∧
      next.system.handed.length = log.system.handed.length + 1 ∧
      next.system.blockFile = (Files.Block.appendLines genericHash
        (storedLines task.entries) log.system.blockFile).2 ∧
      next.lastBatch = (encodeLines (storedLines task.entries)).length := by
  let handedOver : PositionLog := { log with system := { log.system with
    block := { log.system.block with transactionWriteTask := none }
    handed := log.system.handed ++ [⟨task, .scheduled⟩] } }
  let taken : PositionLog := { handedOver with
    system := handedOver.system.setPhase log.system.handed.length .started }
  have afterTimer : log.step genericHash getCommunityIdIndex .timer = some handedOver := by
    have timer : log.system.block.callFromTimer =
        (some task, { log.system.block with transactionWriteTask := none }) := by
      simp only [Block.callFromTimer, if_neg (Bool.eq_false_iff.mp taking), isOpen]
    rw [step_of_none rfl, WriteSystem.step, timer]
    rfl
  have foundScheduled : handedOver.system.handed[log.system.handed.length]? =
      some ⟨task, .scheduled⟩ := List.getElem?_concat_length
  have afterTake : handedOver.step genericHash getCommunityIdIndex
      (.take log.system.handed.length) = some taken := by
    rw [step_of_none rfl]
    simp only [WriteSystem.step, foundScheduled, WriteSystem.taskStep]
    rfl
  have foundStarted : taken.system.handed[log.system.handed.length]? = some ⟨task, .started⟩ := by
    rw [WriteSystem.getElem?_setPhase, foundScheduled, Option.map_some, if_pos rfl]
  have isBatch : taken.batch (.append log.system.handed.length) = some task.entries :=
    batch_eq_some_iff.mpr ⟨_, _, lines, rfl, foundStarted, rfl, collected, rfl⟩
  obtain ⟨position, handed, _, afterAppend⟩ :=
    @step_of_batch genericHash getCommunityIdIndex taken _ _ isBatch
  refine ⟨_, runEvents_cons.mpr ⟨_, afterTimer, runEvents_cons.mpr ⟨_, afterTake,
    runEvents_cons.mpr ⟨_, afterAppend, rfl⟩⟩⟩, taking, rfl, ?_, blockFile_afterBatch _ _, rfl⟩
  change (List.modify (List.modify (log.system.handed ++ [_]) _ _) _ _).length = _
  rw [List.length_modify, List.length_modify, List.length_append, List.length_singleton]

/-- Every step with room that is not a push keeps the file in order. -/
theorem Sound.step (sound : Sound genericHash log) {event : WriteEvent} {next : PositionLog}
    (noPush : ∀ transaction, event ≠ .push transaction) (room : HasRoom log event)
    (taken : log.step genericHash getCommunityIdIndex event = some next) :
    Sound genericHash next := by
  cases isBatch : log.batch event with
  | some transactions =>
      obtain ⟨position, handed, found, stepped⟩ := step_of_batch isBatch
      cases taken.symm.trans stepped
      exact sound.append found (room transactions isBatch)
  | none =>
      rw [step_of_none isBatch] at taken
      obtain ⟨system, stepped, rfl⟩ := Option.map_eq_some_iff.mp taken
      cases WriteSystem.step_sound stepped with
      | push transaction => exact absurd rfl (noPush transaction)
      | expire transactionNr => exact sound.withSystem rfl sound.right.recorded sound.pending
      | timer =>
          apply sound.handOver _ rfl
          unfold Block.callFromTimer
          split
          · rfl
          · rfl
      | exit => exact sound.handOver rfl rfl
      | task target found moved => exact sound.task isBatch found moved

/-- Pushing a transaction whose line is not written yet records no cursor. -/
theorem Sound.push (sound : Sound genericHash log) {transaction : NodeTransactionEntry}
    (unwritten : transaction.fileCursor < 0) :
    Sound genericHash (log.withBlock
      (log.system.block.pushTransaction getCommunityIdIndex transaction).2) := by
  refine sound.withSystem rfl ?_ sound.pending
  intro transactionNr fileCursor found
  cases called : log.system.block.exitCalled with
  | true =>
      rw [Block.pushTransaction_of_exitCalled _ _ _ called] at found
      exact sound.right.recorded transactionNr fileCursor found
  | false =>
      dsimp only at found
      rw [Block.pushTransaction_index _ _ _ called,
        BlockIndex.fileCursors_addIndicesForTransactionEntry getCommunityIdIndex unwritten] at found
      exact sound.right.recorded transactionNr fileCursor found

end

end PositionLog

end Cache

namespace Blockchain

open FileBased

/-- A blockchain with the files of its blocks. -/
structure ChainFiles (Octet TransactionId : Type) [LinearOrder Octet]
    [LinearOrder TransactionId] where
  chain : FileBased Octet TransactionId
  logs : OrderedMap UInt32 PositionLog

/-- A transaction is added, or a block makes a step of its own. -/
inductive ChainFilesEvent (Transaction : Type)
  | add (call : AddCall Transaction)
  | write (blockNr : UInt32) (event : WriteEvent)

namespace ChainFiles

variable {Octet TransactionId Transaction : Type} [LinearOrder Octet] [LinearOrder TransactionId]

/-- A blockchain before its first transaction; its other stores may be in any state. -/
def start (chain : FileBased Octet TransactionId) : ChainFiles Octet TransactionId where
  chain := { chain with blocks := ∅ }
  logs := ∅

def log (files : ChainFiles Octet TransactionId) (blockNr : UInt32) : PositionLog :=
  ((files.logs.find? blockNr).getD .new).withBlock (files.chain.getBlock blockNr)

section

variable (genericHash : List UInt8 → Digest)
  (getCommunityIdIndex : String → Except Exception UInt32)
  (signatureOctet : List UInt8 → Octet) (format : TransactionIdFormat TransactionId)

/-- Only `createAndAddConfirmedTransaction` pushes. -/
def step (files : ChainFiles Octet TransactionId) :
    ChainFilesEvent Transaction → Option (ChainFiles Octet TransactionId)
  | .add call => some { files with chain := (call.run signatureOctet format files.chain).2 }
  | .write _ (.push _) => none
  | .write blockNr event =>
      ((files.log blockNr).step genericHash getCommunityIdIndex event).map fun next => {
        chain := files.chain.setBlock blockNr next.system.block
        logs := files.logs.set blockNr next }

/-- The positions in all block files are right. -/
def PositionsRight (files : ChainFiles Octet TransactionId) : Prop :=
  ∀ blockNr, (files.log blockNr).PositionsRight

/-- What a block writes fits into its file. -/
def HasRoom (files : ChainFiles Octet TransactionId) : ChainFilesEvent Transaction → Prop
  | .add _ => True
  | .write blockNr event => (files.log blockNr).HasRoom event

end

section

variable {genericHash : List UInt8 → Digest}
  {getCommunityIdIndex : String → Except Exception UInt32}
  {signatureOctet : List UInt8 → Octet} {format : TransactionIdFormat TransactionId}

/-- A block replaced is the one found; the others stay. -/
theorem getBlock_setBlock (chain : FileBased Octet TransactionId) (blockNr other : UInt32)
    (block : Cache.Block) : (chain.setBlock blockNr block).getBlock other =
      if other = blockNr then block else chain.getBlock other := by
  change ((chain.blocks.set blockNr block).find? other).getD _ = _
  by_cases same : other = blockNr
  · rw [if_pos same, same, OrderedMap.set, OrderedMap.find?_alter_self, Option.getD_some]
  · rw [if_neg same, OrderedMap.set, OrderedMap.find?_alter_of_ne _ same]
    rfl

/-- What the stores behind the block do not show is as the push left it. -/
theorem view_pushed {View : Type} {view : FileBased Octet TransactionId → View}
    {environment : AddEnvironment Transaction} {confirmed : ConfirmedTransaction}
    (keeps : Fallible.Keeps view (addPastBlock signatureOctet format environment confirmed :
      Throwing (FileBased Octet TransactionId) Bool)) (addressIndices : List UInt32)
    (chain : FileBased Octet TransactionId) :
    view ((pushTransaction environment.getCommunityIdIndex chain.lastBlockNr
        (confirmed.entry addressIndices)).andThen (fun pushed =>
          if pushed then addPastBlock signatureOctet format environment confirmed
          else Fallible.outcome (.ok false)) chain).2 =
      view (chain.setBlock chain.lastBlockNr ((chain.getBlock chain.lastBlockNr).pushTransaction
        environment.getCommunityIdIndex (confirmed.entry addressIndices)).2) := by
  apply Fallible.view_andThen
  intro pushed
  cases pushed with
  | true => exact keeps
  | false => exact Fallible.keeps_outcome _ _

/-- Past the push only the last block has changed. -/
theorem getBlock_pushed (environment : AddEnvironment Transaction)
    (confirmed : ConfirmedTransaction) (addressIndices : List UInt32)
    (chain : FileBased Octet TransactionId) (blockNr : UInt32) :
    ((pushTransaction environment.getCommunityIdIndex chain.lastBlockNr
        (confirmed.entry addressIndices)).andThen (fun pushed =>
          if pushed then addPastBlock signatureOctet format environment confirmed
          else Fallible.outcome (.ok false)) chain).2.getBlock blockNr =
      if blockNr = chain.lastBlockNr then
        ((chain.getBlock blockNr).pushTransaction environment.getCommunityIdIndex
          (confirmed.entry addressIndices)).2
      else chain.getBlock blockNr := by
  have pushes := view_pushed (@keeps_blocks_addPastBlock _ _ _ _ _ signatureOctet format
    environment confirmed) addressIndices chain
  have found := congrArg (fun blocks => (blocks.find? blockNr).getD (.new .new)) pushes
  refine found.trans ((getBlock_setBlock chain chain.lastBlockNr blockNr _).trans ?_)
  by_cases same : blockNr = chain.lastBlockNr
  · rw [if_pos same, if_pos same, same]
  · rw [if_neg same, if_neg same]

/-- Adding a transaction leaves a block as it is, or pushes one whose line is not written
yet into it. -/
theorem getBlock_run (call : AddCall Transaction) (chain : FileBased Octet TransactionId)
    (blockNr : UInt32) :
    (call.run signatureOctet format chain).2.getBlock blockNr = chain.getBlock blockNr ∨
      ∃ transaction : NodeTransactionEntry, transaction.fileCursor < 0 ∧
        (call.run signatureOctet format chain).2.getBlock blockNr =
          ((chain.getBlock blockNr).pushTransaction call.environment.getCommunityIdIndex
            transaction).2 := by
  unfold AddCall.run createAndAddConfirmedTransaction
  split
  · exact Or.inl rfl
  · exact Or.inl rfl
  · split
    · exact Or.inl rfl
    · split
      · exact Or.inl rfl
      · exact Or.inl rfl
      · rename_i confirmed _
        split
        · exact Or.inl rfl
        · split
          · exact Or.inl rfl
          · rename_i addressIndices _
            by_cases same : blockNr = chain.lastBlockNr
            · have unwritten : (-10 : Int32) < 0 := by decide
              exact Or.inr ⟨confirmed.entry addressIndices, unwritten,
                (getBlock_pushed ..).trans (if_pos same)⟩
            · exact Or.inl ((getBlock_pushed ..).trans (if_neg same))

/-- The block files are in order. -/
def Sound (genericHash : List UInt8 → Digest) (files : ChainFiles Octet TransactionId) : Prop :=
  ∀ blockNr, (files.log blockNr).Sound genericHash

/-- Adding a transaction to the chain keeps the logs sound. -/
theorem Sound.add {files : ChainFiles Octet TransactionId} (sound : files.Sound genericHash)
    (call : AddCall Transaction) :
    Sound genericHash { files with chain := (call.run signatureOctet format files.chain).2 } := by
  intro blockNr
  have before := sound blockNr
  unfold log at before ⊢
  rcases @getBlock_run _ _ _ _ _ signatureOctet format call files.chain blockNr with
    same | ⟨transaction, unwritten, pushed⟩
  · rw [same]
    exact before
  · rw [pushed]
    exact before.push unwritten

/-- A step of a block leaves the other blocks alone. -/
theorem log_write (files : ChainFiles Octet TransactionId) (blockNr other : UInt32)
    (next : PositionLog) :
    log { chain := files.chain.setBlock blockNr next.system.block
          logs := files.logs.set blockNr next } other =
      if other = blockNr then next else files.log other := by
  unfold log
  rw [getBlock_setBlock]
  by_cases same : other = blockNr
  · rw [if_pos same, if_pos same, same, OrderedMap.set, OrderedMap.find?_alter_self]
    rfl
  · rw [if_neg same, if_neg same, OrderedMap.set, OrderedMap.find?_alter_of_ne _ same]

/-- A step of a block's writing is a step of its log. -/
theorem step_write (files : ChainFiles Octet TransactionId) (blockNr : UInt32)
    {event : WriteEvent} (noPush : ∀ transaction, event ≠ .push transaction) :
    files.step genericHash getCommunityIdIndex signatureOctet format
        (.write blockNr event : ChainFilesEvent Transaction) =
      ((files.log blockNr).step genericHash getCommunityIdIndex event).map fun next => {
        chain := files.chain.setBlock blockNr next.system.block
        logs := files.logs.set blockNr next } := by
  cases event with
  | push transaction => exact absurd rfl (noPush transaction)
  | _ => rfl

/-- A block cannot push on its own. -/
theorem noPush_of_step {files next : ChainFiles Octet TransactionId} {blockNr : UInt32}
    {event : WriteEvent}
    (taken : files.step genericHash getCommunityIdIndex signatureOctet format
      (.write blockNr event : ChainFilesEvent Transaction) = some next) :
    ∀ transaction, event ≠ .push transaction := by
  rintro transaction rfl
  cases taken

/-- Every step that finds room keeps the logs sound. -/
theorem Sound.step {files next : ChainFiles Octet TransactionId}
    (sound : files.Sound genericHash) {event : ChainFilesEvent Transaction}
    (room : files.HasRoom event)
    (taken : files.step genericHash getCommunityIdIndex signatureOctet format event =
      some next) : next.Sound genericHash := by
  cases event with
  | add call =>
      cases taken
      exact sound.add call
  | write blockNr event =>
      have noPush := noPush_of_step taken
      rw [step_write files blockNr noPush] at taken
      obtain ⟨log, stepped, rfl⟩ := Option.map_eq_some_iff.mp taken
      intro other
      rw [log_write]
      by_cases same : other = blockNr
      · rw [if_pos same]
        exact (sound blockNr).step noPush room stepped
      · rw [if_neg same]
        exact sound other

/-- Steps of a block carry the chain along. -/
theorem exists_run_writes {blockNr : UInt32} {events : List WriteEvent} {next : PositionLog}
    (noPush : ∀ event ∈ events, ∀ transaction, event ≠ .push transaction)
    (files : ChainFiles Octet TransactionId)
    (reached : runEvents (PositionLog.step genericHash getCommunityIdIndex) events
      (files.log blockNr) = some next) :
    ∃ final : ChainFiles Octet TransactionId,
      runEvents (step genericHash getCommunityIdIndex signatureOctet format)
        (events.map fun event => (.write blockNr event : ChainFilesEvent Transaction)) files =
          some final ∧
      final.log blockNr = next ∧ final.chain.exitCalled = files.chain.exitCalled ∧
      final.chain.lastBlockNr = files.chain.lastBlockNr := by
  induction events generalizing files with
  | nil =>
      cases reached
      exact ⟨files, rfl, rfl, rfl, rfl⟩
  | cons event rest ih =>
      obtain ⟨log, stepped, later⟩ := runEvents_cons.mp reached
      have written := log_write files blockNr blockNr log
      rw [if_pos rfl] at written
      rw [← written] at later
      obtain ⟨final, run, isLog, running, lastBlock⟩ :=
        ih (fun other member => noPush other (List.mem_cons_of_mem _ member)) _ later
      refine ⟨final, runEvents_cons.mpr ⟨_, ?_, run⟩, isLog, running, lastBlock⟩
      rw [step_write files blockNr (noPush event (List.mem_cons_self ..)), stepped]
      rfl

end

section Example

/-- A transaction whose line is as long as its size field allows. -/
def exampleConfirmed (number : Nat) : ConfirmedTransaction where
  id := UInt64.ofNat (number + 1)
  month := 5
  year := 2025
  transactionType := 1
  coinCommunityId := ""
  serializedTransaction := List.replicate 65535 0
  firstSignature := bytesLE 8 number
  messageId := bytesLE 8 number

def exampleCall (number : Nat) : AddCall Unit where
  environment := {
    confirm _ _ := .ok (some (exampleConfirmed number))
    getBlock _ := .ok ()
    addressIndices := .ok [1]
    getCommunityIdIndex _ := .ok 1
    runPastAddToBlockchain := .ok ()
    lastAddressIndex := 1
    putTransactionId := true
    putAddressIndex := true
    putMessageId := true
    publicKeysAdded := .ok () }
  gradidoTransaction := some ()
  messageId := some (bytesLE 8 number)

/-- The transaction is added, and its write task runs. -/
def exampleRound (number : Nat) : List (ChainFilesEvent Unit) :=
  .add (exampleCall number) ::
    [.timer, .take number, .append number].map fun event => .write 1 event

/-- That many transactions are in the block file, each behind its size. -/
structure Written (files : ChainFiles Nat Nat) (count : Nat) : Prop where
  running : files.chain.exitCalled = false
  lastBlock : files.chain.lastBlockNr = 1
  taking : (files.log 1).system.block.exitCalled = false
  noTask : (files.log 1).system.block.transactionWriteTask = none
  handed : (files.log 1).system.handed.length = count
  size : (files.log 1).system.blockFile.currentFileSize.toNat = count * 65537
  disk : (files.log 1).system.blockFile.disk.length ≥ count * 65537
  hash : count ≠ 0 → (files.log 1).system.blockFile.disk.length ≥ count * 65537 + 32 ∧
    (files.log 1).lastBatch = 65537

abbrev exampleStep : ChainFiles Nat Nat → ChainFilesEvent Unit → Option (ChainFiles Nat Nat) :=
  step (fun _ => Digest.zero) (fun _ => .ok 1) FileBased.firstBytes FileBased.numberFormat

/-- One line of the example fills 65537 bytes. -/
theorem length_exampleLine (count : Nat) :
    (encodeLines (PositionLog.storedLines [(exampleConfirmed count).entry [1]])).length =
      65537 := by
  have whole : (UInt16.ofNat (List.replicate 65535 (0 : UInt8)).length).toNat = 65535 := by
    rw [List.length_replicate]
    decide
  rw [PositionLog.storedLines, List.map_singleton, length_encodeLines_cons, length_storedLine]
  change 2 + (UInt16.ofNat (List.replicate 65535 (0 : UInt8)).length).toNat + 0 = 65537
  rw [whole]

/-- A further transaction of the example run is added and handed to its task. -/
theorem Written.add {files : ChainFiles Nat Nat} {count : Nat} (written : Written files count) :
    ∃ next task, exampleStep files (.add (exampleCall count)) = some next ∧
      next.chain.exitCalled = false ∧ next.chain.lastBlockNr = 1 ∧
      (next.log 1).system.block.exitCalled = false ∧
      (next.log 1).system.block.transactionWriteTask = some task ∧
      task.entries = [(exampleConfirmed count).entry [1]] ∧
      (next.log 1).system.handed = (files.log 1).system.handed ∧
      (next.log 1).system.blockFile = (files.log 1).system.blockFile := by
  have isLast : files.chain.getBlock files.chain.lastBlockNr = (files.log 1).system.block := by
    rw [written.lastBlock]
    rfl
  have reaches : (exampleCall count).ReachesBlock files.chain (exampleConfirmed count) [1] := {
    running := written.running
    confirmed := ⟨(), _, rfl, rfl, rfl⟩
    loaded := rfl
    addressIndices := rfl
    taking := by
      unfold FileBased.lastBlock
      rw [isLast]
      exact written.taking }
  have run := @run_of_reaches _ _ _ _ _ FileBased.firstBytes FileBased.numberFormat _ _ _ _ reaches
  have past : Fallible.Keeps FileBased.exitCalled (addPastBlock FileBased.firstBytes
      FileBased.numberFormat (exampleCall count).environment (exampleConfirmed count)) := by
    refine keeps_addPastBlock (fun key value putOk _ => ?_) (fun _ _ => rfl) (fun _ _ => rfl) _ _
    unfold updateState
    apply Fallible.keeps_onPart
    exact fun _ _ => rfl
  have pushed := @getBlock_pushed _ _ _ _ _ FileBased.firstBytes FileBased.numberFormat
    (exampleCall count).environment (exampleConfirmed count) [1] files.chain 1
  rw [← run, if_pos written.lastBlock.symm] at pushed
  refine ⟨_, Tasks.WriteTransactionsToBlockTask.new.insert ((exampleConfirmed count).entry [1]), rfl,
    ?_, ?_, ?_, ?_, ?_, rfl, rfl⟩
  · dsimp only
    rw [run, view_pushed past]
    exact written.running
  · dsimp only
    rw [run, view_pushed (keeps_lastBlockNr_addPastBlock _ _)]
    exact written.lastBlock
  · change (FileBased.getBlock _ 1).exitCalled = false
    rw [pushed, Block.pushTransaction_exitCalled]
    exact written.taking
  · have opened := Block.pushTransaction_openTask (exampleCall count).environment.getCommunityIdIndex
      (files.log 1).system.block ((exampleConfirmed count).entry [1]) written.taking
    rw [written.noTask] at opened
    exact (congrArg Cache.Block.transactionWriteTask pushed).trans opened
  · exact Tasks.WriteTransactionsToBlockTask.entries_insert nofun

/-- Each round writes one more transaction. -/
theorem Written.round {files : ChainFiles Nat Nat} {count : Nat} (written : Written files count)
    (below : count ≤ 2048) :
    ∃ next, runEvents exampleStep (exampleRound count) files = some next ∧
      Written next (count + 1) := by
  obtain ⟨added, task, afterAdd, running, lastBlock, taking, isOpen, single, handed, blockFile⟩ :=
    written.add
  have collected : Tasks.WriteTransactionsToBlockTask.collectLines 0 task.entries =
      .ok [List.replicate 65535 0] := by
    rw [single]
    rfl
  obtain ⟨log, run, stillTaking, noTask, more, appended, batch⟩ :=
    @PositionLog.exists_run_batch (fun _ => Digest.zero) (fun _ => .ok 1) _ _ _ taking isOpen
      collected
  rw [handed, written.handed] at run more
  have noPush : ∀ event ∈ [WriteEvent.timer, .take count, .append count], ∀ transaction,
      event ≠ .push transaction := by
    intro event member transaction isPush
    subst isPush
    simp at member
  obtain ⟨next, writes, isLog, stillRunning, sameBlock⟩ := @exists_run_writes Nat Nat Unit _ _ _ _
    FileBased.firstBytes FileBased.numberFormat 1 _ _ noPush added run
  refine ⟨next, runEvents_cons.mpr ⟨added, afterAdd, writes⟩, ?_⟩
  rw [single] at appended batch
  have length := length_exampleLine count
  rw [length] at batch
  have size := written.size
  rw [blockFile] at appended
  have short := @PositionLog.storedLines_short [(exampleConfirmed count).entry [1]]
  have counted := @Files.Block.appendLines_size (fun _ => Digest.zero)
    (files.log 1).system.blockFile _ short (by
      rw [length, size]
      omega)
  have ends := @Files.Block.appendLines_disk (fun _ => Digest.zero)
    (files.log 1).system.blockFile _ short (size ▸ written.disk)
  rw [← appended, length, size] at counted ends
  rw [← isLog] at stillTaking noTask more counted ends batch
  exact {
    running := stillRunning.trans running
    lastBlock := sameBlock.trans lastBlock
    taking := stillTaking
    noTask := noTask
    handed := more
    size := by
      rw [counted]
      omega
    disk := by omega
    hash := fun _ => ⟨by omega, batch⟩ }

end Example

end ChainFiles

end Blockchain

end GradidoNode

import GradidoNode.Cache.IncrementalIndex
import Mathlib.Data.List.Nodup

/-!
# The index that pushing and writing gives

The entries come from the pushes and the file cursors from the write tasks. Once every task has
written, the index is the one that opening the block without an index file gives, if the
rebuilding is done in time.
-/

namespace GradidoNode

open Library Tasks

namespace Cache

section StoredAt

/-- A transaction takes two bytes for its size and its own bytes in the file. -/
theorem length_encodeLines_linesOf_cons (transaction : NodeTransactionEntry)
    (rest : List NodeTransactionEntry) :
    (Files.encodeLines (linesOf (transaction :: rest))).length =
      2 + transaction.serializedTransaction.length + (Files.encodeLines (linesOf rest)).length :=
  Files.length_encodeLines_cons _ _

/-- The block file stores the transaction with this number at this position, or will. -/
def StoredAt (pushed : List NodeTransactionEntry) (transactionNr : UInt64) (position : Nat) : Prop :=
  ∃ before transaction rest, pushed = before ++ transaction :: rest ∧
    transaction.transactionNr = transactionNr ∧
    (Files.encodeLines (linesOf before)).length = position

/-- A transaction stays where it is stored when others are appended. -/
theorem StoredAt.append {pushed : List NodeTransactionEntry} {transactionNr : UInt64}
    {position : Nat} (stored : StoredAt pushed transactionNr position)
    (added : List NodeTransactionEntry) : StoredAt (pushed ++ added) transactionNr position := by
  obtain ⟨before, transaction, rest, rfl, isNr, isPosition⟩ := stored
  refine ⟨before, transaction, rest ++ added, ?_, isNr, isPosition⟩
  rw [List.append_assoc, List.cons_append]

/-- A stored transaction was pushed. -/
theorem StoredAt.mem_numbers {pushed : List NodeTransactionEntry} {transactionNr : UInt64}
    {position : Nat} (stored : StoredAt pushed transactionNr position) :
    transactionNr ∈ pushed.map NodeTransactionEntry.transactionNr := by
  obtain ⟨before, transaction, rest, rfl, isNr, _⟩ := stored
  rw [← isNr]
  exact List.mem_map_of_mem (List.mem_append_right _ (List.mem_cons_self ..))

/-- Only the first transaction is stored at position 0. -/
theorem StoredAt.first {pushed : List NodeTransactionEntry} {transactionNr : UInt64}
    (stored : StoredAt pushed transactionNr 0) :
    ∃ first rest, pushed = first :: rest ∧ first.transactionNr = transactionNr := by
  obtain ⟨before, transaction, rest, split, isNr, isPosition⟩ := stored
  cases before with
  | nil => exact ⟨transaction, rest, split, isNr⟩
  | cons line _ =>
      rw [length_encodeLines_linesOf_cons] at isPosition
      omega

/-- The cursors of two lists of transactions, one behind the other. -/
theorem cursoredFrom_append (start : Nat) (before rest : List NodeTransactionEntry) :
    cursoredFrom start (before ++ rest) = cursoredFrom start before ++
      cursoredFrom (start + (Files.encodeLines (linesOf before)).length) rest := by
  induction before generalizing start with
  | nil => rfl
  | cons transaction before ih =>
      have next : start + 2 + transaction.serializedTransaction.length +
          (Files.encodeLines (linesOf before)).length =
            start + (Files.encodeLines (linesOf (transaction :: before))).length := by
        rw [length_encodeLines_linesOf_cons]
        omega
      rw [List.cons_append, cursoredFrom_cons, cursoredFrom_cons, ih, List.cons_append, next]

/-- The file cursor of a stored transaction is its position. -/
theorem StoredAt.cursored {pushed : List NodeTransactionEntry} {transactionNr : UInt64}
    {position : Nat} (stored : StoredAt pushed transactionNr position) :
    ∃ entry ∈ cursored pushed, entry.transactionNr = transactionNr ∧
      entry.fileCursor = Files.fileCursorOf position := by
  obtain ⟨before, transaction, rest, rfl, isNr, isPosition⟩ := stored
  refine ⟨{ transaction with fileCursor := Files.fileCursorOf position }, ?_, isNr, rfl⟩
  rw [Cache.cursored, cursoredFrom_append, cursoredFrom_cons, Nat.zero_add, isPosition]
  exact List.mem_append_right _ (List.mem_cons_self ..)

/-- The lines of a task are stored behind those before it. -/
theorem storedAt_of_mem_zip {before entries rest : List NodeTransactionEntry} {start : Nat}
    {transactionNr : UInt64} {position : Nat}
    (behind : start = (Files.encodeLines (linesOf before)).length)
    (member : (transactionNr, position) ∈ (entries.map NodeTransactionEntry.transactionNr).zip
      (Files.positionsFrom start (linesOf entries))) :
    StoredAt (before ++ entries ++ rest) transactionNr position := by
  induction entries generalizing before start with
  | nil => cases member
  | cons entry entries ih =>
      have regrouped : before ++ entry :: entries ++ rest = (before ++ [entry]) ++ entries ++ rest := by
        rw [List.append_assoc before [entry], List.singleton_append]
      rcases List.mem_cons.mp member with first | later
      · cases first
        refine ⟨before, entry, entries ++ rest, ?_, rfl, behind.symm⟩
        rw [List.append_assoc, List.cons_append]
      · rw [regrouped]
        apply ih _ later
        have added : (Files.encodeLines (linesOf [entry])).length =
            2 + entry.serializedTransaction.length := length_encodeLines_linesOf_cons entry []
        rw [linesOf, List.map_append, Files.encodeLines_append, List.length_append, behind,
          Nat.add_assoc]
        exact congrArg _ added.symm

end StoredAt

namespace WriteSystem

open BlockIndex

section Interrupted

variable {genericHash : List UInt8 → Digest}
  {getCommunityIdIndex : String → Except Exception UInt32}

/-- The loop over the file cursors ends early only where the index refuses one. -/
theorem taskStep_interrupted {system next : WriteSystem} {event : WriteEvent} {position : Nat}
    {handed : HandedTask} (taken : taskStep genericHash system position handed event = some next) :
    (∃ transactionNr fileCursor rest exception index,
      handed.phase = .appended ((transactionNr, fileCursor) :: rest) ∧
      addFileCursorForTransaction transactionNr fileCursor.toInt32 system.block.blockIndex =
        (.error exception, index)) ∨
    ∃ phase, next.handed = (system.setPhase position phase).handed ∧
      ∀ exception, phase ≠ .failed true false exception := by
  cases event with
  | push _ => cases taken
  | expire _ => cases taken
  | timer => cases taken
  | exit => cases taken
  | take _ =>
      simp only [taskStep] at taken
      split at taken
      · cases taken
        exact Or.inr ⟨_, rfl, fun _ same => by cases same⟩
      · cases taken
  | drop _ =>
      simp only [taskStep] at taken
      split at taken
      · cases taken
        exact Or.inr ⟨_, rfl, fun _ same => by cases same⟩
      · cases taken
  | lockTimeout _ =>
      simp only [taskStep] at taken
      split at taken
      · cases taken
        exact Or.inr ⟨_, rfl, fun _ same => by cases same⟩
      · cases taken
        exact Or.inr ⟨_, rfl, fun _ same => by cases same⟩
      · cases taken
  | append _ =>
      simp only [taskStep] at taken
      split at taken
      · split at taken
        · cases taken
          exact Or.inr ⟨_, rfl, fun _ same => by cases same⟩
        · cases taken
          exact Or.inr ⟨_, rfl, fun _ same => by cases same⟩
      · cases taken
  | recordFileCursor _ =>
      simp only [taskStep] at taken
      split at taken
      · rename_i appended
        split at taken
        · cases taken
          exact Or.inr ⟨_, rfl, fun _ same => by cases same⟩
        · rename_i failed
          exact Or.inl ⟨_, _, _, _, _, appended, failed⟩
      · cases taken
  | serializeIndex _ =>
      simp only [taskStep] at taken
      split at taken
      · split at taken
        · cases taken
          exact Or.inr ⟨_, rfl, fun _ same => by cases same⟩
        · cases taken
          exact Or.inr ⟨_, rfl, fun _ same => by cases same⟩
      · cases taken
  | writeIndex _ =>
      simp only [taskStep] at taken
      split at taken
      · cases taken
        exact Or.inr ⟨_, rfl, fun _ same => by cases same⟩
      · cases taken
        exact Or.inr ⟨_, rfl, fun _ same => by cases same⟩
      · cases taken

end Interrupted

/-- A file cursor of the index, as a position below 2 GiB of the block file. -/
def HasFileCursor (pushed : List NodeTransactionEntry) (transactionNr : UInt64)
    (fileCursor : Int32) : Prop :=
  ∃ position, position < 2 ^ 31 ∧ StoredAt pushed transactionNr position ∧
    fileCursor = Files.fileCursorOf position

/-- A cursor stays right when transactions are appended. -/
theorem HasFileCursor.append {pushed : List NodeTransactionEntry} {transactionNr : UInt64}
    {fileCursor : Int32} (has : HasFileCursor pushed transactionNr fileCursor)
    (added : List NodeTransactionEntry) : HasFileCursor (pushed ++ added) transactionNr fileCursor := by
  obtain ⟨position, below, stored, isCursor⟩ := has
  exact ⟨position, below, stored.append added, isCursor⟩

/-- Confirmed transactions are pushed in the order of their numbers, long enough to be read
back and short enough for their size field, from known communities, and with at most 256
addresses. Tasks append in the order in which they left the block, below 2 GiB. -/
def IndexesRight (getCommunityIdIndex : String → Except Exception UInt32) (system : WriteSystem) :
    WriteEvent → Prop
  | .push transaction => system.block.exitCalled = false →
      Follows system.pushed transaction ∧ 0 < transaction.transactionNr ∧
      Files.Block.minimalFileSize ≤ transaction.serializedTransaction.length ∧
      transaction.serializedTransaction.length < 2 ^ 16 ∧
      transaction.fileCursor < 0 ∧ Accepts getCommunityIdIndex transaction
  | .append position =>
      (∀ earlier ∈ system.handed.take position, earlier.phase.written = true) ∧
      ∀ handed, system.handed[position]? = some handed →
        system.blockFile.currentFileSize.toNat +
          (Files.encodeLines handed.task.lines).length < 2 ^ 31
  | _ => True

/-- The entries are those of the pushed transactions, and every file cursor, recorded or on its
way, is the position of its transaction. -/
structure BuildsIndex (genericHash : List UInt8 → Digest)
    (getCommunityIdIndex : String → Except Exception UInt32) (system : WriteSystem) : Prop where
  inOrder : InOrder genericHash [] system
  cursors : CursorsPending system
  accepted : ∀ transaction ∈ system.pushed, 0 < transaction.transactionNr ∧
    Files.Block.minimalFileSize ≤ transaction.serializedTransaction.length ∧
    Accepts getCommunityIdIndex transaction
  below : system.blockFile.currentFileSize.toNat < 2 ^ 31
  entries : SameEntries system.block.blockIndex
    (unwrittenIndex getCommunityIdIndex system.pushed)
  fileCursors : ∀ transactionNr fileCursor,
    system.block.blockIndex.transactionNrsFileCursors.find? transactionNr = some fileCursor →
      HasFileCursor system.pushed transactionNr fileCursor
  appended : ∀ handed ∈ system.handed, ∀ fileCursors, handed.phase = .appended fileCursors →
    ∀ fileCursor ∈ fileCursors,
      HasFileCursor system.pushed fileCursor.1 fileCursor.2.toInt32
  uninterrupted : ∀ handed ∈ system.handed, ∀ exception,
    handed.phase ≠ .failed true false exception

section Builds

variable {genericHash : List UInt8 → Digest}
  {getCommunityIdIndex : String → Except Exception UInt32}

/-- The transactions pushed come in ascending order. -/
theorem BuildsIndex.ascending {system : WriteSystem}
    (builds : BuildsIndex genericHash getCommunityIdIndex system) :
    system.pushed.Pairwise fun first second => first.transactionNr < second.transactionNr :=
  builds.inOrder.consecutive.pairwise.imp UInt64.lt_iff_toNat_lt.mpr

/-- The index holds the numbers that were pushed. -/
theorem BuildsIndex.numbers {system : WriteSystem}
    (builds : BuildsIndex genericHash getCommunityIdIndex system) :
    (system.block.blockIndex.allEntries.map BlockIndexEntry.transactionNr).Perm
      (system.pushed.map NodeTransactionEntry.transactionNr) := by
  rw [builds.entries.allEntries]
  exact numbers_unwrittenIndex_perm getCommunityIdIndex system.pushed

/-- What allows a step here is what keeps the block file in order. -/
theorem IndexesRight.writesInOrder {system : WriteSystem} {event : WriteEvent}
    (allowed : IndexesRight getCommunityIdIndex system event) : WritesInOrder system event := by
  cases event with
  | push transaction =>
      intro called
      obtain ⟨follows, _, _, short, _⟩ := allowed called
      exact ⟨follows, short⟩
  | append position =>
      refine ⟨allowed.1, fun handed found => ?_⟩
      have fits := allowed.2 handed found
      omega
  | _ => trivial

/-- The lines of a task are shorter than 2 ^ 16 bytes. -/
theorem InOrder.short_lines {system : WriteSystem} {initial : List (List UInt8)}
    (inOrder : InOrder genericHash initial system) {handed : HandedTask}
    (isHanded : handed ∈ system.handed) : ∀ line ∈ handed.task.lines, line.length < 2 ^ 16 := by
  intro line member
  rw [WriteTransactionsToBlockTask.lines] at member
  obtain ⟨transaction, isEntry, rfl⟩ := List.mem_map.mp member
  apply inOrder.short transaction
  rw [inOrder.split]
  exact List.mem_append_left _
    (List.mem_flatMap.mpr ⟨handed.task, List.mem_map_of_mem isHanded, isEntry⟩)

/-- Where a task indexes rightly, its cursors are recorded in time. -/
theorem IndexesRight.fileCursorsInTime {system : WriteSystem} {position : Nat}
    (allowed : IndexesRight getCommunityIdIndex system (.append position))
    (inOrder : InOrder genericHash [] system) : FileCursorsInTime system (.append position) := by
  intro handed found
  have fits := allowed.2 handed found
  refine ⟨inOrder.short_lines (List.mem_of_getElem? found), by omega, fun start isStart => ?_⟩
  have inside := Files.lt_of_mem_positionsFrom isStart
  omega

/-- Pushing adds an entry and no file cursor. -/
theorem BuildsIndex.push {system next : WriteSystem} {transaction : NodeTransactionEntry}
    (builds : BuildsIndex genericHash getCommunityIdIndex system)
    (allowed : IndexesRight getCommunityIdIndex system (.push transaction))
    (inOrder : InOrder genericHash [] next) (cursors : CursorsPending next)
    (isNext : next = { system with
      block := (system.block.pushTransaction getCommunityIdIndex transaction).2
      pushed := if system.block.exitCalled then system.pushed
        else system.pushed ++ [transaction] }) :
    BuildsIndex genericHash getCommunityIdIndex next := by
  cases called : system.block.exitCalled with
  | true =>
      rw [called, system.block.pushTransaction_of_exitCalled getCommunityIdIndex transaction called]
        at isNext
      subst isNext
      exact ⟨inOrder, cursors, builds.accepted, builds.below, builds.entries, builds.fileCursors,
        builds.appended, builds.uninterrupted⟩
  | false =>
      obtain ⟨follows, positive, long, short, unwritten, accepts⟩ := allowed called
      have consecutive := builds.inOrder.consecutive.append follows
      have behind : system.block.blockIndex.BehindMonth
          (indicesOfTransaction getCommunityIdIndex transaction) := by
        intro back isLast
        have inIndex := mem_allEntries_of_mem_monthList (List.mem_of_getLast? isLast)
        have isNumber := builds.numbers.mem_iff.mp (List.mem_map_of_mem inIndex)
        obtain ⟨other, isPushed, same⟩ := List.mem_map.mp isNumber
        rw [← same]
        exact consecutive.lt_of_append other isPushed
      have index := system.block.pushTransaction_index getCommunityIdIndex transaction called
      rw [addIndicesForTransactionEntry_withEntry accepts unwritten behind] at index
      rw [called, if_neg Bool.false_ne_true] at isNext
      subst isNext
      refine ⟨inOrder, cursors, ?_, builds.below, ?_, ?_, ?_, builds.uninterrupted⟩
      · intro other member
        rcases List.mem_append.mp member with before | last
        · exact builds.accepted other before
        · rw [List.mem_singleton.mp last]
          exact ⟨positive, long, accepts⟩
      · dsimp only
        rw [index, unwrittenIndex_append]
        exact builds.entries.withEntry rfl
      · intro transactionNr fileCursor found
        dsimp only at found
        rw [index] at found
        exact (builds.fileCursors transactionNr fileCursor found).append _
      · intro handed isHanded fileCursors appended fileCursor member
        exact (builds.appended handed isHanded fileCursors appended fileCursor member).append _

/-- A task that leaves the block has recorded nothing. -/
theorem BuildsIndex.handOver {system : WriteSystem}
    {left : Option WriteTransactionsToBlockTask × Block} {phase : Phase}
    (builds : BuildsIndex genericHash getCommunityIdIndex system)
    (index : left.2.blockIndex = system.block.blockIndex) (unwritten : phase.written = false)
    (inOrder : InOrder genericHash [] (system.handOver left phase))
    (cursors : CursorsPending (system.handOver left phase)) :
    BuildsIndex genericHash getCommunityIdIndex (system.handOver left phase) := by
  have isLeft {handed : HandedTask}
      (member : handed ∈ (left.1.map fun task => (⟨task, phase⟩ : HandedTask)).toList) :
      handed.phase = phase := by
    obtain ⟨task, _, rfl⟩ := Option.map_eq_some_iff.mp (Option.mem_toList.mp member)
    rfl
  refine ⟨inOrder, cursors, builds.accepted, builds.below, ?_, ?_, ?_, ?_⟩
  · exact (congrArg (SameEntries · _) index).mpr builds.entries
  · intro transactionNr fileCursor found
    apply builds.fileCursors transactionNr fileCursor
    rw [← index]
    exact found
  · intro handed isHanded fileCursors appended
    rcases List.mem_append.mp isHanded with before | last
    · exact builds.appended handed before fileCursors appended
    · exact absurd ((isLeft last).symm.trans appended)
        (Phase.ne_appended_of_unwritten unwritten fileCursors)
  · intro handed isHanded exception interrupted
    rcases List.mem_append.mp isHanded with before | last
    · exact builds.uninterrupted handed before exception interrupted
    · rw [← isLeft last, interrupted] at unwritten
      cases unwritten

/-- A task moves on: its phase carries right file cursors, and the index has right ones. -/
theorem BuildsIndex.taskMoved {system next : WriteSystem} {position : Nat} {handed : HandedTask}
    {phase : Phase} (builds : BuildsIndex genericHash getCommunityIdIndex system)
    (found : system.handed[position]? = some handed)
    (isHanded : next.handed = (system.setPhase position phase).handed)
    (samePushed : next.pushed = system.pushed)
    (inOrder : InOrder genericHash [] next) (cursors : CursorsPending next)
    (below : next.blockFile.currentFileSize.toNat < 2 ^ 31)
    (entries : SameEntries next.block.blockIndex system.block.blockIndex)
    (fileCursors : ∀ transactionNr fileCursor,
      next.block.blockIndex.transactionNrsFileCursors.find? transactionNr = some fileCursor →
        HasFileCursor system.pushed transactionNr fileCursor)
    (appended : ∀ fileCursors, phase = .appended fileCursors → ∀ fileCursor ∈ fileCursors,
      HasFileCursor system.pushed fileCursor.1 fileCursor.2.toInt32)
    (uninterrupted : ∀ exception, phase ≠ .failed true false exception) :
    BuildsIndex genericHash getCommunityIdIndex next := by
  refine ⟨inOrder, cursors, samePushed ▸ builds.accepted, below, ?_, ?_, ?_, ?_⟩
  · rw [samePushed]
    exact entries.trans builds.entries
  · rw [samePushed]
    exact fileCursors
  · rw [isHanded, samePushed]
    intro moved member
    rcases mem_setPhase_handed found member with rfl | before
    · exact appended
    · exact builds.appended moved before
  · rw [isHanded]
    intro moved member
    rcases mem_setPhase_handed found member with rfl | before
    · exact uninterrupted
    · exact builds.uninterrupted moved before

/-- The index refuses no file cursor: only the first transaction has the file cursor 0. -/
theorem BuildsIndex.not_refused {system : WriteSystem} {transactionNr : UInt64}
    {fileCursor : Int32} (builds : BuildsIndex genericHash getCommunityIdIndex system)
    (has : HasFileCursor system.pushed transactionNr fileCursor) :
    ∃ result next, addFileCursorForTransaction transactionNr fileCursor system.block.blockIndex =
        (.ok result, next) ∧
      ∀ other kept, next.transactionNrsFileCursors.find? other = some kept →
        HasFileCursor system.pushed other kept := by
  obtain ⟨position, small, stored, rfl⟩ := has
  rcases addFileCursorForTransaction_cases transactionNr (Files.fileCursorOf position)
      system.block.blockIndex with
    ⟨_, ignored⟩ | ⟨isZero, above, _⟩ | ⟨_, _, result, fileCursors, recorded, found, others⟩
  · exact ⟨false, _, ignored, builds.fileCursors⟩
  · have atStart : position = 0 := by
      have same := toInt_toInt32_ofNat small
      rw [← Files.fileCursorOf, isZero] at same
      exact (Int.natCast_eq_zero.mp same.symm)
    subst atStart
    obtain ⟨first, rest, split, isNr⟩ := stored.first
    have positive := (builds.accepted first (split ▸ List.mem_cons_self ..)).1
    have least := minTransactionNr_unwrittenIndex getCommunityIdIndex positive
      (split ▸ builds.ascending)
    rw [builds.entries.minTransactionNr, split, least, isNr] at above
    exact absurd above (lt_irrefl _)
  · refine ⟨result, _, recorded, fun other kept isKept => ?_⟩
    by_cases same : other = transactionNr
    · subst same
      rw [found] at isKept
      cases isKept
      cases present : system.block.blockIndex.transactionNrsFileCursors.find? other with
      | none => exact ⟨position, small, stored, rfl⟩
      | some cursor =>
          unfold keptFileCursor
          dsimp only
          split
          · exact ⟨position, small, stored, rfl⟩
          · exact builds.fileCursors other cursor present
    · rw [others other same] at isKept
      exact builds.fileCursors other kept isKept

/-- Where the oldest task that has not written stores its lines. -/
theorem BuildsIndex.appendLines {system : WriteSystem} {position : Nat} {handed : HandedTask}
    (builds : BuildsIndex genericHash getCommunityIdIndex system)
    (found : system.handed[position]? = some handed) (started : handed.phase = .started)
    (allowed : IndexesRight getCommunityIdIndex system (.append position)) :
    (∀ fileCursor ∈ (handed.task.entries.map (·.transactionNr)).zip
        (Files.Block.appendLines genericHash handed.task.lines system.blockFile).1,
      HasFileCursor system.pushed fileCursor.1 fileCursor.2.toInt32) ∧
    (Files.Block.appendLines genericHash handed.task.lines
      system.blockFile).2.currentFileSize.toNat < 2 ^ 31 := by
  have isHanded := List.mem_of_getElem? found
  have fits := allowed.2 handed found
  have taskAt := getElem?_tasks found
  obtain ⟨_, holds⟩ := builds.inOrder.oldest found started allowed.1
  have storedEq : [] ++ (system.tasks.take position).flatMap WriteTransactionsToBlockTask.lines =
      linesOf ((system.tasks.take position).flatMap WriteTransactionsToBlockTask.entries) := by
    rw [List.nil_append, linesOf, List.map_flatMap]
    rfl
  rw [storedEq] at holds
  have linesSome : handed.task.lines ≠ [] := by
    rw [WriteTransactionsToBlockTask.lines]
    exact fun none => builds.inOrder.nonempty handed.task (List.mem_of_getElem? taskAt)
      (List.map_eq_nil_iff.mp none)
  obtain ⟨next, positions⟩ := Files.Block.appendLines_holds holds linesSome
    (builds.inOrder.short_lines isHanded) (by
      rw [Files.encodeLines_append, List.length_append, ← holds.size]
      omega)
  constructor
  · rintro ⟨transactionNr, fileCursor⟩ member
    rw [positions, List.zip_map_right] at member
    obtain ⟨⟨_, start⟩, zipped, same⟩ := List.mem_map.mp member
    cases same
    have inside := Files.lt_of_mem_positionsFrom (List.of_mem_zip zipped).2
    have stored := @storedAt_of_mem_zip
      ((system.tasks.take position).flatMap WriteTransactionsToBlockTask.entries)
      handed.task.entries
      ((system.tasks.drop (position + 1)).flatMap WriteTransactionsToBlockTask.entries ++
        system.openEntries) _ _ _ rfl zipped
    have divided : system.tasks =
        system.tasks.take position ++ handed.task :: system.tasks.drop (position + 1) := by
      obtain ⟨_, isTask⟩ := List.getElem?_eq_some_iff.mp taskAt
      rw [← isTask, List.getElem_cons_drop, List.take_append_drop]
    have split := builds.inOrder.split
    rw [divided, List.flatMap_append, List.flatMap_cons] at split
    rw [← List.append_assoc, List.append_assoc _ handed.task.entries, ← split] at stored
    refine ⟨start, ?_, stored, rfl⟩
    rw [← holds.size] at inside
    omega
  · rw [next.size, Files.encodeLines_append, List.length_append, ← holds.size]
    exact fits

/-- Every step of a task keeps the index right. -/
theorem BuildsIndex.task {system next : WriteSystem} {position : Nat} {handed : HandedTask}
    {event : WriteEvent} (builds : BuildsIndex genericHash getCommunityIdIndex system)
    (found : system.handed[position]? = some handed)
    (allowed : IndexesRight getCommunityIdIndex system event)
    (inOrder : InOrder genericHash [] next) (cursors : CursorsPending next)
    (raw : taskStep genericHash system position handed event = some next)
    (taken : TaskStep genericHash system position handed event next) :
    BuildsIndex genericHash getCommunityIdIndex next := by
  have isHanded := List.mem_of_getElem? found
  cases taken with
  | @append lines started collected =>
      have linesEq : lines = handed.task.lines :=
        WriteTransactionsToBlockTask.collectLines_ok collected
      obtain ⟨stored, below⟩ := builds.appendLines found started allowed
      rw [← linesEq] at stored below
      refine builds.taskMoved found rfl rfl inOrder cursors below (SameEntries.refl _)
        builds.fileCursors ?_ nofun
      intro fileCursors same
      cases same
      exact stored
  | @record transactionNr fileCursor rest result index appended recorded =>
      have has := builds.appended handed isHanded _ appended _ (List.mem_cons_self ..)
      obtain ⟨_, _, accepted, right⟩ := builds.not_refused has
      cases recorded.symm.trans accepted
      refine builds.taskMoved found rfl rfl inOrder cursors builds.below
        (sameEntries_addFileCursorForTransaction recorded) right ?_ nofun
      intro fileCursors same other isPending
      cases same
      exact builds.appended handed isHanded _ appended other (List.mem_cons_of_mem _ isPending)
  | @recordFailed transactionNr fileCursor rest exception index appended failed =>
      have has := builds.appended handed isHanded _ appended _ (List.mem_cons_self ..)
      obtain ⟨_, _, accepted, _⟩ := builds.not_refused has
      cases failed.symm.trans accepted
  | quiet phase indexDisk written recorded notAppended =>
      rcases taskStep_interrupted raw with
        ⟨transactionNr, fileCursor, rest, exception, index, appended, refused⟩ |
        ⟨other, isOther, uninterrupted⟩
      · have has := builds.appended handed isHanded _ appended _ (List.mem_cons_self ..)
        obtain ⟨_, _, accepted, _⟩ := builds.not_refused has
        cases refused.symm.trans accepted
      · refine builds.taskMoved found rfl rfl inOrder cursors builds.below
          (SameEntries.refl _) builds.fileCursors
          (fun fileCursors same => absurd same (notAppended fileCursors)) ?_
        have here := congrArg (fun handed => handed[position]?) isOther
        dsimp only at here
        rw [getElem?_setPhase] at here
        change (system.handed[position]?).map _ = (system.setPhase position other).handed[position]?
          at here
        rw [getElem?_setPhase, found, Option.map_some, Option.map_some, if_pos rfl, if_pos rfl]
          at here
        cases here
        exact uninterrupted

/-- Every step that indexes right keeps the index right. -/
theorem BuildsIndex.step {system next : WriteSystem} {event : WriteEvent}
    (builds : BuildsIndex genericHash getCommunityIdIndex system)
    (allowed : IndexesRight getCommunityIdIndex system event)
    (taken : system.step genericHash getCommunityIdIndex event = some next) :
    BuildsIndex genericHash getCommunityIdIndex next := by
  have inOrder := builds.inOrder.step allowed.writesInOrder taken
  have cursors := builds.cursors.step (fun position isAppend => by
    subst isAppend
    exact allowed.fileCursorsInTime builds.inOrder) taken
  cases step_sound taken with
  | push transaction => exact builds.push allowed inOrder cursors rfl
  | expire transactionNr =>
      exact ⟨inOrder, cursors, builds.accepted, builds.below, builds.entries, builds.fileCursors,
        builds.appended, builds.uninterrupted⟩
  | timer =>
      refine builds.handOver ?_ rfl inOrder cursors
      unfold Block.callFromTimer
      split <;> rfl
  | exit => exact builds.handOver rfl rfl inOrder cursors
  | task target found stepTaken =>
      obtain ⟨other, foundOther, raw⟩ := taskStep_of_step target taken
      cases found.symm.trans foundOther
      exact builds.task found allowed inOrder cursors raw stepTaken

/-- At the start the index is built from nothing. -/
theorem BuildsIndex.start : BuildsIndex genericHash getCommunityIdIndex
    (start BlockIndex.new (Files.Block.new []) none) where
  inOrder := InOrder.start ⟨rfl, rfl⟩
  cursors := CursorsPending.start nofun
  accepted := nofun
  below := by decide
  entries := SameEntries.refl _
  fileCursors := nofun
  appended := nofun
  uninterrupted := nofun

end Builds

/-- No task is open, and every task that left the block has written its lines and is through
the loop over their file cursors. -/
structure AllWritten (system : WriteSystem) : Prop where
  noneOpen : system.block.transactionWriteTask = none
  written : ∀ handed ∈ system.handed, handed.phase.written = true
  looped : ∀ handed ∈ system.handed, ∀ fileCursors, handed.phase = .appended fileCursors →
    fileCursors = []

/-- Opening the block without an index file gives the index of the block in memory. -/
def RebuildAgrees (environment : InitEnvironment) (disk : Option (List UInt8)) (appended : Nat)
    (system : WriteSystem) : Prop :=
  (∃ result, (init environment system.blockFile appended ⟨BlockIndex.new, disk⟩).1 = .ok result) ∧
    BlockIndex.SameContents
      (init environment system.blockFile appended ⟨BlockIndex.new, disk⟩).2.index
      system.block.blockIndex

section Agreement

variable {genericHash : List UInt8 → Digest}
  {getCommunityIdIndex : String → Except Exception UInt32}

/-- Where all is written, every task has recorded its cursors. -/
theorem AllWritten.recorded {system : WriteSystem} (all : AllWritten system)
    (builds : BuildsIndex genericHash getCommunityIdIndex system) {handed : HandedTask}
    (isHanded : handed ∈ system.handed) : handed.phase.recorded = true := by
  have written := all.written handed isHanded
  have looped := all.looped handed isHanded
  have uninterrupted := builds.uninterrupted handed isHanded
  cases isPhase : handed.phase with
  | appended fileCursors => exact List.isEmpty_iff.mpr (looped fileCursors isPhase)
  | serialized _ => rfl
  | finished => rfl
  | failed written' recorded exception =>
      rw [isPhase] at written
      cases recorded with
      | true => rfl
      | false =>
          cases written
          exact absurd isPhase (uninterrupted exception)
  | _ =>
      rw [isPhase] at written
      cases written

/-- When everything is written, the block file holds every transaction. -/
theorem AllWritten.holds {system : WriteSystem} (all : AllWritten system)
    (inOrder : InOrder genericHash [] system) :
    system.blockFile.Holds genericHash (linesOf system.pushed) := by
  obtain ⟨count, bounded, flags, holds⟩ := inOrder.stored
  have complete : count = system.tasks.length := by
    by_contra differ
    have inside : count < system.handed.length := by
      rw [tasks, List.length_map] at bounded differ
      omega
    have found := List.getElem?_eq_getElem inside
    have written := all.written _ (List.getElem_mem inside)
    exact lt_irrefl _ ((flags count _ found).mp written)
  have split := inOrder.split
  rw [openEntries, all.noneOpen, Option.getD_none, WriteTransactionsToBlockTask.entries_new,
    List.append_nil] at split
  rw [complete, List.take_length, List.nil_append] at holds
  rw [split, linesOf, List.map_flatMap]
  exact holds

/-- When everything is written, the index has the file cursors of the block file. -/
theorem AllWritten.indexesExactly {system : WriteSystem} (all : AllWritten system)
    (builds : BuildsIndex genericHash getCommunityIdIndex system) :
    IndexesExactly system.block.blockIndex (cursored system.pushed) := by
  have numbers := map_transactionNr_cursoredFrom 0 system.pushed
  have nodup : ((cursored system.pushed).map NodeTransactionEntry.transactionNr).Nodup := by
    rw [cursored, numbers]
    exact List.pairwise_map.mpr (builds.ascending.imp ne_of_lt)
  have complete := builds.cursors.complete
    (show FileCursorsInTime system (.serializeIndex 0) from
      ⟨all.noneOpen, fun handed isHanded => all.recorded builds isHanded⟩)
  constructor
  · rw [cursored, numbers]
    exact builds.numbers
  · intro transaction member
    have isNumber : transaction.transactionNr ∈
        system.pushed.map NodeTransactionEntry.transactionNr := by
      rw [← numbers]
      exact List.mem_map_of_mem member
    obtain ⟨entry, indexed, sameNr⟩ := List.mem_map.mp (builds.numbers.mem_iff.mpr isNumber)
    obtain ⟨fileCursor, found⟩ := Option.ne_none_iff_exists'.mp (complete entry indexed)
    rw [sameNr] at found
    obtain ⟨position, _, stored, isPosition⟩ := builds.fileCursors _ _ found
    obtain ⟨other, otherMember, otherNr, otherCursor⟩ := stored.cursored
    have same := List.inj_on_of_nodup_map nodup otherMember member otherNr
    rw [found, isPosition, ← otherCursor, same]
  · intro transactionNr absent
    by_contra present
    obtain ⟨fileCursor, found⟩ := Option.ne_none_iff_exists'.mp present
    obtain ⟨position, _, stored, _⟩ := builds.fileCursors _ _ found
    rw [cursored, numbers] at absent
    exact absent stored.mem_numbers

/-- The file cursors of a block file are those of any exact index of it. -/
theorem sameFileCursors_of_indexesExactly {first second : BlockIndex}
    {transactions : List NodeTransactionEntry} (left : IndexesExactly first transactions)
    (right : IndexesExactly second transactions) :
    first.transactionNrsFileCursors = second.transactionNrsFileCursors := by
  apply OrderedMap.eq_of_find?_eq
  intro transactionNr
  by_cases isNumber : transactionNr ∈ transactions.map NodeTransactionEntry.transactionNr
  · obtain ⟨transaction, member, rfl⟩ := List.mem_map.mp isNumber
    rw [left.fileCursors transaction member, right.fileCursors transaction member]
  · rw [left.others transactionNr isNumber, right.others transactionNr isNumber]

variable {environment : InitEnvironment}

/-- Where all is written, the file's lines deserialize to the transactions pushed. -/
theorem AllWritten.wellFormed {system : WriteSystem} (all : AllWritten system)
    (builds : BuildsIndex environment.genericHash environment.getCommunityIdIndex system)
    (some : system.pushed ≠ [])
    (deserialized : ∀ transaction ∈ system.pushed, ∀ fileCursor,
      environment.transactionEntry transaction.serializedTransaction fileCursor =
        .ok { transaction with fileCursor := fileCursor }) :
    WellFormed environment system.blockFile system.pushed := by
  have holds := all.holds builds.inOrder
  refine ⟨some, holds, ⟨?_, ?_, ?_⟩, fun transaction member => (builds.accepted _ member).1,
    builds.ascending, deserialized⟩
  · intro line member
    obtain ⟨transaction, isPushed, rfl⟩ := List.mem_map.mp member
    exact (builds.accepted transaction isPushed).2.1
  · intro line member
    obtain ⟨transaction, isPushed, rfl⟩ := List.mem_map.mp member
    exact builds.inOrder.short transaction isPushed
  · rw [← holds.size]
    exact builds.below

/-- A block file without lines leaves the index empty. -/
theorem init_of_noLines {blockFile : Files.Block} {appended : Nat} {disk : Option (List UInt8)}
    (noLines : blockFile.currentFileSize = 0) (empty : disk.getD [] = []) :
    init environment blockFile appended ⟨BlockIndex.new, disk⟩ =
      (.ok false, ⟨BlockIndex.new, some []⟩) := by
  have read : StoredIndex.loadFromFile environment.genericHash environment.enumContains
      environment.hashFromFile ⟨BlockIndex.new, disk⟩ = (.ok false, ⟨BlockIndex.new, some []⟩) := by
    simp only [StoredIndex.loadFromFile, StoredIndex.openFile, StoredIndex.content, empty,
      Option.getD_some]
    rfl
  unfold init
  rw [read]
  dsimp only
  rw [if_pos noLines]

/-- Behind a run that wrote everything the rebuilt index agrees exactly if the wait lasted until all
of its entries were appended. -/
theorem BuildsIndex.rebuildAgrees_iff {system : WriteSystem} {disk : Option (List UInt8)}
    {appended : Nat}
    (builds : BuildsIndex environment.genericHash environment.getCommunityIdIndex system)
    (all : AllWritten system)
    (deserialized : ∀ transaction ∈ system.pushed, ∀ fileCursor,
      environment.transactionEntry transaction.serializedTransaction fileCursor =
        .ok { transaction with fileCursor := fileCursor })
    (empty : disk.getD [] = []) :
    RebuildAgrees environment disk appended system ↔ system.pushed.length ≤ appended := by
  have exact_ := all.indexesExactly builds
  by_cases none : system.pushed = []
  · have noLines : system.blockFile.currentFileSize = 0 := by
      apply UInt32.toNat_inj.mp
      rw [(all.holds builds.inOrder).size, none]
      rfl
    have same := builds.entries
    rw [none] at exact_ same
    have fresh : IndexesExactly BlockIndex.new (cursored []) := indexed_new.toIndexesExactly
    unfold RebuildAgrees
    rw [init_of_noLines noLines empty, none]
    refine iff_of_true ⟨⟨false, rfl⟩, ?_⟩ (Nat.zero_le _)
    exact ⟨same.entries.symm, sameFileCursors_of_indexesExactly fresh exact_,
      same.maxTransactionNr.symm, same.minTransactionNr.symm⟩
  · have wellFormed := all.wellFormed builds none deserialized
    have correct := @initCorrect_of_empty environment system.blockFile system.pushed appended disk
      wellFormed empty
    constructor
    · rintro ⟨⟨result, success⟩, same⟩
      have isTrue : (init environment system.blockFile appended ⟨BlockIndex.new, disk⟩).1 =
          .ok true := by
        rw [init_of_empty wellFormed empty] at success ⊢
        dsimp only at success ⊢
        split at success
        · rfl
        · cases success
      refine (correct.mp ⟨isTrue, ?_⟩).1
      constructor
      · rw [BlockIndex.allEntries, same.entries]
        exact exact_.entries
      · rw [same.fileCursors]
        exact exact_.fileCursors
      · rw [same.fileCursors]
        exact exact_.others
    · intro inTime
      have accepts : ∀ transaction ∈ system.pushed,
          Accepts environment.getCommunityIdIndex transaction :=
        fun transaction member => (builds.accepted transaction member).2.2
      obtain ⟨success, rebuilt⟩ := correct.mpr ⟨inTime, accepts⟩
      have same := (sameEntries_rebuilt wellFormed empty accepts inTime).trans
        ⟨builds.entries.entries.symm, builds.entries.maxTransactionNr.symm,
          builds.entries.minTransactionNr.symm⟩
      exact ⟨⟨true, success⟩, same.entries, sameFileCursors_of_indexesExactly rebuilt exact_,
        same.maxTransactionNr, same.minTransactionNr⟩

/-- In every run from an empty block in which confirmed transactions are pushed and written in
order, rebuilding the index from the block file gives the index in memory exactly where the
rebuild task is done in time. -/
theorem rebuildAgrees_iff_of_run {events : List WriteEvent} {reached : WriteSystem}
    {disk : Option (List UInt8)} {appended : Nat}
    (meets : StepsMeet
      (WriteSystem.step environment.genericHash environment.getCommunityIdIndex)
      (IndexesRight environment.getCommunityIdIndex) events
      (start BlockIndex.new (Files.Block.new []) none))
    (run : runEvents (WriteSystem.step environment.genericHash environment.getCommunityIdIndex)
      events (start BlockIndex.new (Files.Block.new []) none) = some reached)
    (all : AllWritten reached)
    (deserialized : ∀ transaction ∈ reached.pushed, ∀ fileCursor,
      environment.transactionEntry transaction.serializedTransaction fileCursor =
        .ok { transaction with fileCursor := fileCursor })
    (empty : disk.getD [] = []) :
    RebuildAgrees environment disk appended reached ↔ reached.pushed.length ≤ appended :=
  (invariant_of_stepsMeet (fun _ _ _ builds allowed taken => builds.step allowed taken)
    BuildsIndex.start meets run).rebuildAgrees_iff all deserialized empty

end Agreement

section Example

/-- Two transactions are pushed, written in turn and given their file cursors. -/
def bothRecorded : List WriteEvent :=
  writtenInTurn ++ [.recordFileCursor 0, .recordFileCursor 1]

/-- A line of the example is deserialized to its transaction. -/
def exampleEnvironment : InitEnvironment where
  genericHash := fun _ => firstHash
  enumContains := fun type => type ≤ 8
  hashFromFile := Digest.zero
  hash2 := Digest.zero
  blockPath := "blk00000001.dat"
  getCommunityIdIndex := noCommunities
  transactionEntry := fun line fileCursor =>
    .ok { exampleTransaction (line.headD 0).toUInt64 with fileCursor := fileCursor }

/-- The example run with two tasks indexes rightly. -/
theorem indexesRight_bothRecorded :
    StepsMeet (WriteSystem.step exampleEnvironment.genericHash
        exampleEnvironment.getCommunityIdIndex)
      (IndexesRight exampleEnvironment.getCommunityIdIndex) bothRecorded
      (start BlockIndex.new (Files.Block.new []) none) := by
  have accepts (transactionNr : UInt64) :
      Accepts exampleEnvironment.getCommunityIdIndex (exampleTransaction transactionNr) :=
    ⟨Or.inl rfl, Nat.not_lt_zero _⟩
  refine StepsMeet.cons
    (fun _ => ⟨nofun, by decide, by decide, by decide, by decide, accepts 1⟩) rfl ?_
  refine StepsMeet.cons trivial rfl (StepsMeet.cons
    (fun _ => ⟨?_, by decide, by decide, by decide, by decide, accepts 2⟩) rfl ?_)
  · rintro _ ⟨⟩
    rfl
  refine StepsMeet.cons trivial rfl (StepsMeet.cons trivial rfl (StepsMeet.cons trivial rfl ?_))
  refine StepsMeet.cons ⟨nofun, ?_⟩ rfl (StepsMeet.cons ⟨?_, ?_⟩ rfl
    (StepsMeet.cons trivial rfl (StepsMeet.cons trivial rfl trivial)))
  · rintro _ ⟨⟩
    decide
  · intro earlier member
    cases List.mem_singleton.mp member
    rfl
  · rintro _ ⟨⟩
    decide

/-- It writes both of its transactions. -/
theorem allWritten_bothRecorded :
    ∃ reached, runEvents (WriteSystem.step exampleEnvironment.genericHash
        exampleEnvironment.getCommunityIdIndex) bothRecorded
        (start BlockIndex.new (Files.Block.new []) none) = some reached ∧
      AllWritten reached ∧ reached.pushed = [exampleTransaction 1, exampleTransaction 2] := by
  refine ⟨_, rfl, ⟨rfl, by decide, ?_⟩, rfl⟩
  intro handed isHanded fileCursors appended
  rcases List.mem_pair.mp isHanded with rfl | rfl
  · cases appended
    rfl
  · cases appended
    rfl

/-- Both lines deserialize to their transactions. -/
theorem deserialized_bothRecorded {pushed : List NodeTransactionEntry}
    (isPushed : pushed = [exampleTransaction 1, exampleTransaction 2]) :
    ∀ transaction ∈ pushed, ∀ fileCursor,
      exampleEnvironment.transactionEntry transaction.serializedTransaction fileCursor =
        .ok { transaction with fileCursor := fileCursor } := by
  intro transaction member fileCursor
  rw [isPushed] at member
  rcases List.mem_pair.mp member with rfl | rfl
  · rfl
  · rfl

/-- Both transactions are rebuilt when the rebuild task is done with them. -/
theorem rebuildAgrees_bothRecorded :
    ∃ reached, runEvents (WriteSystem.step exampleEnvironment.genericHash
        exampleEnvironment.getCommunityIdIndex) bothRecorded
        (start BlockIndex.new (Files.Block.new []) none) = some reached ∧
      RebuildAgrees exampleEnvironment none 2 reached := by
  obtain ⟨reached, run, all, isPushed⟩ := allWritten_bothRecorded
  have inTime : reached.pushed.length ≤ 2 := by rw [isPushed]; exact Nat.le_refl 2
  exact ⟨reached, run, (rebuildAgrees_iff_of_run indexesRight_bothRecorded run all
    (deserialized_bothRecorded isPushed) rfl).mpr inTime⟩

/-- The second one is missing when the rebuild task still works on its line. -/
theorem not_rebuildAgrees_lastMissing :
    ∃ reached, runEvents (WriteSystem.step exampleEnvironment.genericHash
        exampleEnvironment.getCommunityIdIndex) bothRecorded
        (start BlockIndex.new (Files.Block.new []) none) = some reached ∧
      AllWritten reached ∧ ¬ RebuildAgrees exampleEnvironment none 1 reached := by
  obtain ⟨reached, run, all, isPushed⟩ := allWritten_bothRecorded
  have builds := invariant_of_stepsMeet (fun _ _ _ builds allowed taken =>
    BuildsIndex.step builds allowed taken) BuildsIndex.start indexesRight_bothRecorded run
  refine ⟨reached, run, all, fun agrees => ?_⟩
  have inTime := (builds.rebuildAgrees_iff all (deserialized_bothRecorded isPushed) rfl).mp agrees
  rw [isPushed] at inTime
  exact absurd inTime (Nat.not_succ_le_self 1)

end Example

end WriteSystem

end Cache

end GradidoNode

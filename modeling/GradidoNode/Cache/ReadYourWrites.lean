import GradidoNode.Cache.FileCursors
import GradidoNode.Cache.GetTransaction
import GradidoNode.Files.RebuildBlockIndex
import Mathlib.Data.List.Nodup

/-!
# Transactions stay readable

Between being pushed and being stored, a transaction is in the open task, then in a task that
the observer knows, and at last the index has its file cursor. A call of `getTransaction` asks
these places in the order in which the transaction moves through them.
-/

namespace GradidoNode

open Library Tasks Controller

namespace Cache

/-- The file cursor leads to the line. -/
def Located (lines : List (List UInt8)) (fileCursor : Int32) (line : List UInt8) : Prop :=
  ∃ before after, lines = before ++ line :: after ∧
    fileCursor = Files.fileCursorOf (Files.encodeLines before).length

/-- A line stays where it lies when others are appended. -/
theorem Located.append {lines : List (List UInt8)} {fileCursor : Int32} {line : List UInt8}
    (located : Located lines fileCursor line) (added : List (List UInt8)) :
    Located (lines ++ added) fileCursor line := by
  obtain ⟨before, after, rfl, isCursor⟩ := located
  refine ⟨before, after ++ added, ?_, isCursor⟩
  rw [List.append_assoc, List.cons_append]

/-- The cursor of a stored line is not negative. -/
theorem Located.nonnegative {lines : List (List UInt8)} {fileCursor : Int32} {line : List UInt8}
    (located : Located lines fileCursor line) (readable : Files.Readable lines) :
    ¬ fileCursor < 0 := by
  obtain ⟨before, after, rfl, rfl⟩ := located
  have below := readable.below
  rw [Files.encodeLines_append, List.length_append] at below
  exact toInt32_ofNat_nonnegative (by omega)

/-- A line is read back at its file cursor. -/
theorem Located.readLine {genericHash : List UInt8 → Digest} {file : Files.Block}
    {lines : List (List UInt8)} {fileCursor : Int32} {line : List UInt8}
    (located : Located lines fileCursor line) (holds : file.Holds genericHash lines)
    (readable : Files.Readable lines) (path : String) :
    file.readLine path fileCursor.toUInt32 = .ok line := by
  obtain ⟨before, after, rfl, rfl⟩ := located
  have isLine : line ∈ before ++ line :: after :=
    List.mem_append_right _ (List.mem_cons_self ..)
  rw [Files.toUInt32_fileCursorOf]
  exact Files.Block.readLine_of_holds holds (readable.long line isLine)
    (readable.short line isLine)

/-- The lines of a task are found at the positions they are appended at. -/
theorem located_of_mem_zip {before entries : List NodeTransactionEntry}
    {stored : List (List UInt8)} {start : Nat} {transactionNr : UInt64} {position : Nat}
    (behind : start = (Files.encodeLines (stored ++
      before.map NodeTransactionEntry.serializedTransaction)).length)
    (member : (transactionNr, position) ∈ (entries.map NodeTransactionEntry.transactionNr).zip
      (Files.positionsFrom start (entries.map NodeTransactionEntry.serializedTransaction))) :
    ∃ transaction ∈ entries, transaction.transactionNr = transactionNr ∧
      Located (stored ++ (before ++ entries).map NodeTransactionEntry.serializedTransaction)
        (Files.fileCursorOf position) transaction.serializedTransaction := by
  induction entries generalizing before start with
  | nil => cases member
  | cons entry rest ih =>
      rcases List.mem_cons.mp member with first | later
      · cases first
        refine ⟨entry, List.mem_cons_self .., rfl,
          stored ++ before.map NodeTransactionEntry.serializedTransaction,
          rest.map NodeTransactionEntry.serializedTransaction, ?_, ?_⟩
        · rw [List.map_append, List.map_cons, List.append_assoc]
        · rw [← behind]
      · have next : start + 2 + entry.serializedTransaction.length =
            (Files.encodeLines (stored ++
              (before ++ [entry]).map NodeTransactionEntry.serializedTransaction)).length := by
          have added := Files.length_encodeLines_cons entry.serializedTransaction []
          rw [List.map_append, ← List.append_assoc, Files.encodeLines_append, List.length_append,
            ← behind]
          change _ = start + (Files.encodeLines [entry.serializedTransaction]).length
          rw [added]
          simp only [Files.encodeLines, List.flatMap_nil, List.length_nil]
          omega
        obtain ⟨transaction, inRest, isNr, located⟩ := ih next later
        rw [List.append_assoc, List.singleton_append] at located
        exact ⟨transaction, List.mem_cons_of_mem _ inRest, isNr, located⟩

/-- The entry is the transaction, whatever file cursor it has. -/
def SameTransaction (entry transaction : NodeTransactionEntry) : Prop :=
  { entry with fileCursor := transaction.fileCursor } = transaction

/-- The line is read as a transaction with this number, and if one was pushed, it is its
line. -/
structure IsLineOf (environment : ReadEnvironment) (pushed : List NodeTransactionEntry)
    (transactionNr : UInt64) (line : List UInt8) : Prop where
  numbered : ∀ fileCursor entry, environment.transactionEntry line fileCursor = .ok entry →
    entry.transactionNr = transactionNr
  own : ∀ transaction ∈ pushed, transaction.transactionNr = transactionNr →
    line = transaction.serializedTransaction

/-- A push of another number leaves what is written of this one. -/
theorem IsLineOf.push {environment : ReadEnvironment} {pushed : List NodeTransactionEntry}
    {transactionNr : UInt64} {line : List UInt8}
    (isLine : IsLineOf environment pushed transactionNr line) {transaction : NodeTransactionEntry}
    (differs : transaction.transactionNr ≠ transactionNr) :
    IsLineOf environment (pushed ++ [transaction]) transactionNr line := by
  refine ⟨isLine.numbered, fun other member same => ?_⟩
  rcases List.mem_append.mp member with before | last
  · exact isLine.own other before same
  · rw [List.mem_singleton.mp last] at same
    exact absurd same differs

/-- The entry built from the line of a transaction is the transaction. -/
def ReadsBack (environment : ReadEnvironment) (transaction : NodeTransactionEntry) : Prop :=
  ∀ fileCursor, ∃ entry,
    environment.transactionEntry transaction.serializedTransaction fileCursor = .ok entry ∧
      SameTransaction entry transaction

/-- The same transaction has the same number. -/
theorem SameTransaction.transactionNr {entry transaction : NodeTransactionEntry}
    (same : SameTransaction entry transaction) :
    entry.transactionNr = transaction.transactionNr := by
  have numbers := congrArg NodeTransactionEntry.transactionNr same
  exact numbers

/-- Transactions that are pushed are not written yet, have a new number, are long enough to be
read back and short enough for their size field, and are read as what they are. The block file
stays below 2 GiB, and the block stays in memory. -/
def WritesReadably (environment : ReadEnvironment) (system : WriteSystem) : WriteEvent → Prop
  | .push transaction =>
      (∀ other ∈ system.pushed, other.transactionNr ≠ transaction.transactionNr) ∧
      system.block.blockIndex.transactionNrsFileCursors.find? transaction.transactionNr = none ∧
      transaction.fileCursor < 0 ∧
      Files.Block.minimalFileSize ≤ transaction.serializedTransaction.length ∧
      transaction.serializedTransaction.length < 2 ^ 16 ∧ ReadsBack environment transaction
  | .append position => ∀ handed, system.handed[position]? = some handed →
      system.blockFile.currentFileSize.toNat +
        (Files.encodeLines handed.task.lines).length < 2 ^ 31
  | .exit => False
  | _ => True

/-- Every transaction that was pushed is in a task until the index has its file cursor, and
file cursors lead to the right lines. -/
structure Traceable (environment : ReadEnvironment) (lines : List (List UInt8))
    (system : WriteSystem) : Prop where
  holds : system.blockFile.Holds environment.genericHash lines
  readable : Files.Readable lines
  running : system.block.exitCalled = false
  numbers : (system.pushed.map NodeTransactionEntry.transactionNr).Nodup
  fits : ∀ transaction ∈ system.pushed,
    Files.Block.minimalFileSize ≤ transaction.serializedTransaction.length ∧
    transaction.serializedTransaction.length < 2 ^ 16 ∧ ReadsBack environment transaction
  openPushed : ∀ transaction ∈ system.openEntries, transaction ∈ system.pushed
  openNonempty : ∀ task, system.block.transactionWriteTask = some task → task.entries ≠ []
  handedPushed : ∀ handed ∈ system.handed, handed.task.entries ≠ [] ∧
    ∀ transaction ∈ handed.task.entries,
      transaction ∈ system.pushed ∧ transaction ∉ system.openEntries
  placed : ∀ transaction ∈ system.pushed, transaction ∈ system.openEntries ∨
    ∃ handed ∈ system.handed, transaction ∈ handed.task.entries
  located : ∀ transactionNr fileCursor,
    system.block.blockIndex.transactionNrsFileCursors.find? transactionNr = some fileCursor →
      ∃ line, Located lines fileCursor line ∧
        IsLineOf environment system.pushed transactionNr line
  appended : ∀ handed ∈ system.handed, ∀ fileCursors, handed.phase = .appended fileCursors →
    ∀ fileCursor ∈ fileCursors, ∃ transaction ∈ handed.task.entries,
      transaction.transactionNr = fileCursor.1 ∧
      Located lines fileCursor.2.toInt32 transaction.serializedTransaction
  recorded : ∀ handed ∈ system.handed, ∀ transaction ∈ handed.task.entries,
    transaction.transactionNr ∈ handed.unrecorded ∨
    system.block.blockIndex.transactionNrsFileCursors.find? transaction.transactionNr ≠ none
  cached : ∀ transactionNr entry,
    system.block.serializedTransactions.find? transactionNr = some entry →
      (system.block.blockIndex.transactionNrsFileCursors.find? transactionNr ≠ none ∨
        ∃ transaction ∈ system.pushed, transaction.transactionNr = transactionNr) ∧
      ∀ transaction ∈ system.pushed, transaction.transactionNr = transactionNr →
        SameTransaction entry transaction

namespace Traceable

variable {environment : ReadEnvironment} {lines : List (List UInt8)} {system : WriteSystem}

/-- A number was pushed once. -/
theorem unique (traceable : Traceable environment lines system)
    {first second : NodeTransactionEntry} (inPushed : first ∈ system.pushed)
    (alsoInPushed : second ∈ system.pushed) (same : first.transactionNr = second.transactionNr) :
    first = second :=
  List.inj_on_of_nodup_map traceable.numbers inPushed alsoInPushed same

/-- The line of a pushed transaction is its serialization. -/
theorem isLineOf (traceable : Traceable environment lines system)
    {transaction : NodeTransactionEntry} (inPushed : transaction ∈ system.pushed) :
    IsLineOf environment system.pushed transaction.transactionNr
      transaction.serializedTransaction := by
  constructor
  · intro fileCursor entry read
    obtain ⟨other, alsoRead, same⟩ := (traceable.fits transaction inPushed).2.2 fileCursor
    cases read.symm.trans alsoRead
    exact same.transactionNr
  · intro other alsoInPushed same
    rw [traceable.unique alsoInPushed inPushed same]

/-- A new number is the number of no transaction that has a file cursor. -/
theorem push (traceable : Traceable environment lines system)
    {transaction : NodeTransactionEntry}
    (readably : WritesReadably environment system (.push transaction)) :
    Traceable environment lines { system with
      block := (system.block.pushTransaction environment.getCommunityIdIndex transaction).2
      pushed := if system.block.exitCalled then system.pushed
        else system.pushed ++ [transaction] } := by
  obtain ⟨newNumber, newCursor, unwritten, long, short, readsBack⟩ := readably
  have openTask := system.block.pushTransaction_openTask environment.getCommunityIdIndex
    transaction traceable.running
  have index := system.block.pushTransaction_index environment.getCommunityIdIndex transaction
    traceable.running
  have cursors := BlockIndex.fileCursors_addIndicesForTransactionEntry
    environment.getCommunityIdIndex unwritten system.block.blockIndex
  have newInOpen : ∀ entry ∈ (system.block.transactionWriteTask.getD .new).entries,
      entry.transactionNr ≠ transaction.transactionNr := fun entry member =>
    newNumber entry (traceable.openPushed entry member)
  have notPushed : transaction ∉ system.pushed := fun member =>
    newNumber transaction member rfl
  have inOpen (other : NodeTransactionEntry) :
      other ∈ (((system.block.pushTransaction environment.getCommunityIdIndex
        transaction).2.transactionWriteTask).getD .new).entries ↔
          other ∈ system.openEntries ∨ other = transaction := by
    rw [openTask, Option.getD_some]
    exact WriteTransactionsToBlockTask.mem_entries_insert newInOpen
  rw [traceable.running, if_neg Bool.false_ne_true]
  exact {
    holds := traceable.holds
    readable := traceable.readable
    running := by
      rw [← traceable.running]
      exact system.block.pushTransaction_exitCalled environment.getCommunityIdIndex transaction
    numbers := by
      rw [List.map_append]
      apply List.nodup_append.mpr ⟨traceable.numbers, List.nodup_singleton _, ?_⟩
      intro number member other isNew
      obtain ⟨before, inPushed, rfl⟩ := List.mem_map.mp member
      rw [List.mem_singleton.mp isNew]
      exact newNumber before inPushed
    fits := by
      intro other member
      rcases List.mem_append.mp member with before | last
      · exact traceable.fits other before
      · rw [List.mem_singleton.mp last]
        exact ⟨long, short, readsBack⟩
    openPushed := by
      intro other member
      rcases (inOpen other).mp member with before | rfl
      · exact List.mem_append_left _ (traceable.openPushed other before)
      · exact List.mem_append_right _ (List.mem_singleton_self _)
    openNonempty := by
      intro task isOpen
      rw [openTask] at isOpen
      cases isOpen
      exact List.ne_nil_of_mem
        ((WriteTransactionsToBlockTask.mem_entries_insert newInOpen).mpr (Or.inr rfl))
    handedPushed := by
      intro handed isHanded
      obtain ⟨nonempty, entries⟩ := traceable.handedPushed handed isHanded
      refine ⟨nonempty, fun other member => ?_⟩
      obtain ⟨inPushed, notOpen⟩ := entries other member
      refine ⟨List.mem_append_left _ inPushed, fun nowOpen => ?_⟩
      rcases (inOpen other).mp nowOpen with before | rfl
      · exact notOpen before
      · exact notPushed inPushed
    placed := by
      intro other member
      rcases List.mem_append.mp member with before | last
      · rcases traceable.placed other before with isOpen | isHanded
        · exact Or.inl ((inOpen other).mpr (Or.inl isOpen))
        · exact Or.inr isHanded
      · exact Or.inl ((inOpen other).mpr (Or.inr (List.mem_singleton.mp last)))
    located := by
      intro transactionNr fileCursor found
      dsimp only at found
      rw [index, cursors] at found
      obtain ⟨line, isLocated, isLine⟩ := traceable.located transactionNr fileCursor found
      refine ⟨line, isLocated, isLine.push fun same => ?_⟩
      rw [← same, newCursor] at found
      cases found
    appended := traceable.appended
    recorded := by
      intro handed isHanded other member
      dsimp only
      rw [index, cursors]
      exact traceable.recorded handed isHanded other member
    cached := by
      have before (transactionNr : UInt64) (entry : NodeTransactionEntry)
          (found : system.block.serializedTransactions.find? transactionNr = some entry) :
          (system.block.blockIndex.transactionNrsFileCursors.find? transactionNr ≠ none ∨
            ∃ other ∈ system.pushed ++ [transaction], other.transactionNr = transactionNr) ∧
          ∀ other ∈ system.pushed ++ [transaction], other.transactionNr = transactionNr →
            SameTransaction entry other := by
        obtain ⟨known, same⟩ := traceable.cached transactionNr entry found
        refine ⟨known.imp_right fun ⟨other, member, isNr⟩ =>
          ⟨other, List.mem_append_left _ member, isNr⟩, fun other member isNr => ?_⟩
        rcases List.mem_append.mp member with old | last
        · exact same other old isNr
        · rw [List.mem_singleton.mp last] at isNr
          subst isNr
          rcases known with cursor | ⟨old, isOld, isNr⟩
          · exact absurd newCursor cursor
          · exact absurd isNr (newNumber old isOld)
      intro transactionNr entry found
      dsimp only
      rw [index, cursors]
      rcases system.block.pushTransaction_cache environment.getCommunityIdIndex transaction with
        kept | added
      · dsimp only at found
        rw [kept] at found
        exact before transactionNr entry found
      · dsimp only at found
        rw [added] at found
        by_cases isNew : transactionNr = transaction.transactionNr
        · subst isNew
          rw [OrderedMap.set, OrderedMap.find?_alter_self] at found
          cases found
          have isLast := List.mem_append_right system.pushed (List.mem_singleton_self transaction)
          refine ⟨Or.inr ⟨transaction, isLast, rfl⟩, fun other member isNr => ?_⟩
          rcases List.mem_append.mp member with old | last
          · exact absurd isNr (newNumber other old)
          · rw [List.mem_singleton.mp last]
            rfl
        · rw [OrderedMap.set, OrderedMap.find?_alter_of_ne _ isNew] at found
          exact before transactionNr entry found }

/-- Dropping a transaction from the cache keeps every pushed one traceable. -/
theorem expire (traceable : Traceable environment lines system) (transactionNr : UInt64) :
    Traceable environment lines { system with block := { system.block with
      serializedTransactions := system.block.serializedTransactions.erase transactionNr } } where
  holds := traceable.holds
  readable := traceable.readable
  running := traceable.running
  numbers := traceable.numbers
  fits := traceable.fits
  openPushed := traceable.openPushed
  openNonempty := traceable.openNonempty
  handedPushed := traceable.handedPushed
  placed := traceable.placed
  located := traceable.located
  appended := traceable.appended
  recorded := traceable.recorded
  cached := by
    intro other entry found
    dsimp only at found
    by_cases erased : other = transactionNr
    · rw [erased, OrderedMap.find?_erase_self] at found
      cases found
    · rw [OrderedMap.find?_erase_of_ne _ erased] at found
      exact traceable.cached other entry found

/-- The open task becomes the last of the tasks that left the block. -/
theorem timer (traceable : Traceable environment lines system) :
    Traceable environment lines (system.handOver system.block.callFromTimer .scheduled) := by
  have timed : system.block.callFromTimer =
      (system.block.transactionWriteTask, { system.block with transactionWriteTask := none }) := by
    unfold Block.callFromTimer
    exact if_neg (Bool.eq_false_iff.mp traceable.running)
  have isHanded (handed : HandedTask) :
      handed ∈ (system.handOver system.block.callFromTimer .scheduled).handed ↔
        handed ∈ system.handed ∨
          ∃ task, system.block.transactionWriteTask = some task ∧ handed = ⟨task, .scheduled⟩ := by
    rw [timed]
    unfold WriteSystem.handOver
    rw [List.mem_append, Option.mem_toList, Option.map_eq_some_iff]
    simp only [eq_comm]
  have openOf {task : WriteTransactionsToBlockTask}
      (isOpen : system.block.transactionWriteTask = some task) :
      system.openEntries = task.entries := by
    unfold WriteSystem.openEntries
    rw [isOpen]
    rfl
  have noneOpen :
      (system.handOver system.block.callFromTimer .scheduled).openEntries = [] := by
    rw [timed]
    rfl
  have index : (system.handOver system.block.callFromTimer .scheduled).block.blockIndex =
      system.block.blockIndex := by
    rw [timed]
    rfl
  exact {
    holds := traceable.holds
    readable := traceable.readable
    running := by
      rw [timed]
      exact traceable.running
    numbers := traceable.numbers
    fits := traceable.fits
    openPushed := by
      rw [noneOpen]
      exact nofun
    openNonempty := by
      rw [timed]
      exact nofun
    handedPushed := by
      intro handed member
      rw [noneOpen]
      rcases (isHanded handed).mp member with before | ⟨task, isOpen, rfl⟩
      · obtain ⟨nonempty, entries⟩ := traceable.handedPushed handed before
        exact ⟨nonempty, fun other inTask => ⟨(entries other inTask).1, List.not_mem_nil⟩⟩
      · refine ⟨traceable.openNonempty task isOpen, fun other inTask => ⟨?_, List.not_mem_nil⟩⟩
        exact traceable.openPushed other (openOf isOpen ▸ inTask)
    placed := by
      intro other member
      rcases traceable.placed other member with inOpen | ⟨handed, before, inTask⟩
      · cases isOpen : system.block.transactionWriteTask with
        | none =>
            unfold WriteSystem.openEntries at inOpen
            rw [isOpen] at inOpen
            cases inOpen
        | some task =>
            rw [openOf isOpen] at inOpen
            exact Or.inr ⟨⟨task, .scheduled⟩, (isHanded _).mpr (Or.inr ⟨task, isOpen, rfl⟩), inOpen⟩
      · exact Or.inr ⟨handed, (isHanded _).mpr (Or.inl before), inTask⟩
    located := by
      rw [index]
      exact traceable.located
    appended := by
      intro handed member fileCursors isAppended
      rcases (isHanded handed).mp member with before | ⟨task, _, rfl⟩
      · exact traceable.appended handed before fileCursors isAppended
      · cases isAppended
    recorded := by
      intro handed member
      rw [index]
      rcases (isHanded handed).mp member with before | ⟨task, _, rfl⟩
      · exact traceable.recorded handed before
      · exact fun other inTask => Or.inl (List.mem_map_of_mem inTask)
    cached := by
      rw [timed]
      exact traceable.cached }

/-- A task moves on and loses no transaction. -/
theorem taskMoved (traceable : Traceable environment lines system) {next : WriteSystem}
    {stored : List (List UInt8)} {position : Nat} {handed : HandedTask} {phase : Phase}
    {index : BlockIndex} (found : system.handed[position]? = some handed)
    (isHanded : next.handed = (system.setPhase position phase).handed)
    (samePushed : next.pushed = system.pushed)
    (isBlock : next.block = { system.block with blockIndex := index })
    (holds : next.blockFile.Holds environment.genericHash stored)
    (readable : Files.Readable stored)
    (longer : ∀ fileCursor line, Located lines fileCursor line → Located stored fileCursor line)
    (grows : ∀ transactionNr,
      system.block.blockIndex.transactionNrsFileCursors.find? transactionNr ≠ none →
        index.transactionNrsFileCursors.find? transactionNr ≠ none)
    (located : ∀ transactionNr fileCursor,
      index.transactionNrsFileCursors.find? transactionNr = some fileCursor →
        ∃ line, Located stored fileCursor line ∧
          IsLineOf environment system.pushed transactionNr line)
    (appended : ∀ fileCursors, phase = .appended fileCursors → ∀ fileCursor ∈ fileCursors,
      ∃ transaction ∈ handed.task.entries, transaction.transactionNr = fileCursor.1 ∧
        Located stored fileCursor.2.toInt32 transaction.serializedTransaction)
    (covered : ∀ transactionNr ∈ handed.unrecorded,
      index.transactionNrsFileCursors.find? transactionNr ≠ none ∨
        transactionNr ∈ HandedTask.unrecorded ⟨handed.task, phase⟩) :
    Traceable environment stored next := by
  have isOpen : next.openEntries = system.openEntries := by
    unfold WriteSystem.openEntries
    rw [isBlock]
  have wasHanded := List.mem_of_getElem? found
  have movedFrom {moved : HandedTask} (member : moved ∈ next.handed) :
      moved = ⟨handed.task, phase⟩ ∨ moved ∈ system.handed := by
    rw [isHanded] at member
    exact WriteSystem.mem_setPhase_handed found member
  exact {
    holds := holds
    readable := readable
    running := by
      rw [isBlock]
      exact traceable.running
    numbers := samePushed ▸ traceable.numbers
    fits := samePushed ▸ traceable.fits
    openPushed := by
      rw [isOpen, samePushed]
      exact traceable.openPushed
    openNonempty := by
      rw [isBlock]
      exact traceable.openNonempty
    handedPushed := by
      intro moved member
      rw [isOpen, samePushed]
      rcases movedFrom member with rfl | before
      · exact traceable.handedPushed handed wasHanded
      · exact traceable.handedPushed moved before
    placed := by
      intro transaction member
      rw [samePushed] at member
      rw [isOpen]
      rcases traceable.placed transaction member with inOpen | ⟨other, before, inTask⟩
      · exact Or.inl inOpen
      · have stillTask : other.task ∈ next.tasks := by
          unfold WriteSystem.tasks
          rw [isHanded]
          change other.task ∈ (system.setPhase position phase).tasks
          rw [WriteSystem.setPhase_tasks]
          exact List.mem_map_of_mem before
        obtain ⟨moved, isMoved, sameTask⟩ := List.mem_map.mp stillTask
        exact Or.inr ⟨moved, isMoved, sameTask ▸ inTask⟩
    located := by
      rw [isBlock, samePushed]
      exact located
    appended := by
      intro moved member fileCursors isAppended fileCursor inCursors
      rcases movedFrom member with rfl | before
      · exact appended fileCursors isAppended fileCursor inCursors
      · obtain ⟨transaction, inTask, isNr, isLocated⟩ :=
          traceable.appended moved before fileCursors isAppended fileCursor inCursors
        exact ⟨transaction, inTask, isNr, longer _ _ isLocated⟩
    recorded := by
      intro moved member transaction inTask
      rw [isBlock]
      rcases movedFrom member with rfl | before
      · rcases traceable.recorded handed wasHanded transaction inTask with unrecorded | present
        · exact (covered _ unrecorded).symm
        · exact Or.inr (grows _ present)
      · exact (traceable.recorded moved before transaction inTask).imp_right (grows _)
    cached := by
      rw [isBlock, samePushed]
      intro transactionNr entry inCache
      obtain ⟨known, same⟩ := traceable.cached transactionNr entry inCache
      exact ⟨known.imp_left (grows _), same⟩ }

/-- An unrecorded number belongs to a task that has not recorded yet. -/
theorem mem_numbers_of_unrecorded (traceable : Traceable environment lines system)
    {handed : HandedTask} (isHanded : handed ∈ system.handed) {transactionNr : UInt64}
    (unrecorded : transactionNr ∈ handed.unrecorded) :
    transactionNr ∈ handed.task.numbers ∧ handed.phase.recorded = false := by
  have notRecorded : handed.phase.recorded = false := by
    by_contra recorded
    rw [HandedTask.unrecorded_of_recorded (Bool.not_eq_false _ ▸ recorded)] at unrecorded
    cases unrecorded
  refine ⟨?_, notRecorded⟩
  unfold HandedTask.unrecorded at unrecorded
  split at unrecorded
  · rename_i fileCursors appended
    obtain ⟨fileCursor, isPending, rfl⟩ := List.mem_map.mp unrecorded
    obtain ⟨transaction, inTask, isNr, _⟩ :=
      traceable.appended handed isHanded fileCursors appended fileCursor isPending
    exact List.mem_map.mpr ⟨transaction, inTask, isNr⟩
  · rwa [notRecorded, if_neg Bool.false_ne_true] at unrecorded

/-- The lines of a task, appended to the block file. -/
theorem append (traceable : Traceable environment lines system) {position : Nat}
    {handed : HandedTask} (found : system.handed[position]? = some handed)
    (readably : WritesReadably environment system (.append position)) :
    Traceable environment (lines ++ handed.task.lines)
      { system.setPhase position (.appended ((handed.task.entries.map (·.transactionNr)).zip
          (Files.Block.appendLines environment.genericHash handed.task.lines
            system.blockFile).1)) with
        blockFile := (Files.Block.appendLines environment.genericHash handed.task.lines
          system.blockFile).2 } := by
  have isHanded := List.mem_of_getElem? found
  obtain ⟨nonempty, entries⟩ := traceable.handedPushed handed isHanded
  have fits : ∀ line ∈ handed.task.lines,
      Files.Block.minimalFileSize ≤ line.length ∧ line.length < 2 ^ 16 := by
    intro line member
    obtain ⟨transaction, inTask, rfl⟩ := List.mem_map.mp member
    obtain ⟨long, short, _⟩ := traceable.fits transaction (entries transaction inTask).1
    exact ⟨long, short⟩
  have below : (Files.encodeLines (lines ++ handed.task.lines)).length < 2 ^ 31 := by
    rw [Files.encodeLines_append, List.length_append, ← traceable.holds.size]
    exact readably handed found
  have someLines : handed.task.lines ≠ [] := fun none => nonempty (List.map_eq_nil_iff.mp none)
  obtain ⟨holds, positions⟩ := Files.Block.appendLines_holds traceable.holds someLines
    (fun line member => (fits line member).2) (by omega)
  have readable : Files.Readable (lines ++ handed.task.lines) := by
    refine ⟨fun line member => ?_, fun line member => ?_, below⟩
    · rcases List.mem_append.mp member with old | new
      · exact traceable.readable.long line old
      · exact (fits line new).1
    · rcases List.mem_append.mp member with old | new
      · exact traceable.readable.short line old
      · exact (fits line new).2
  refine traceable.taskMoved found rfl rfl rfl holds readable
    (fun _ _ located => located.append _) (fun _ present => present) ?_ ?_ ?_
  · intro transactionNr fileCursor isFound
    obtain ⟨line, isLocated, isLine⟩ := traceable.located transactionNr fileCursor isFound
    exact ⟨line, isLocated.append _, isLine⟩
  · intro fileCursors same fileCursor member
    cases same
    rw [positions, List.zip_map_right] at member
    obtain ⟨⟨transactionNr, start⟩, zipped, rfl⟩ := List.mem_map.mp member
    have behind : (Files.encodeLines lines).length = (Files.encodeLines (lines ++
        ([] : List NodeTransactionEntry).map NodeTransactionEntry.serializedTransaction)).length := by
      rw [List.map_nil, List.append_nil]
    exact located_of_mem_zip behind zipped
  · intro transactionNr unrecorded
    have count : (handed.task.entries.map (·.transactionNr)).length =
        (Files.Block.appendLines environment.genericHash handed.task.lines
          system.blockFile).1.length := by
      rw [positions, List.length_map, List.length_map, Files.length_positionsFrom]
      exact (List.length_map _).symm
    right
    unfold HandedTask.unrecorded
    dsimp only
    rw [List.map_fst_zip (Nat.le_of_eq count)]
    exact (traceable.mem_numbers_of_unrecorded isHanded unrecorded).1

/-- Recorded or refused, the file cursors of the index lead to the right lines. -/
theorem located_record (traceable : Traceable environment lines system) {handed : HandedTask}
    (isHanded : handed ∈ system.handed) {transactionNr : UInt64} {fileCursor : UInt32}
    {rest : List (UInt64 × UInt32)} {outcome : Except Exception Bool} {index : BlockIndex}
    (appended : handed.phase = .appended ((transactionNr, fileCursor) :: rest))
    (recorded : BlockIndex.addFileCursorForTransaction transactionNr fileCursor.toInt32
      system.block.blockIndex = (outcome, index)) (other : UInt64) (cursor : Int32)
    (isFound : index.transactionNrsFileCursors.find? other = some cursor) :
    ∃ line, Located lines cursor line ∧ IsLineOf environment system.pushed other line := by
  rcases BlockIndex.find?_addFileCursorForTransaction recorded isFound with before | ⟨rfl, rfl⟩
  · exact traceable.located other cursor before
  · obtain ⟨transaction, inTask, isNr, isLocated⟩ :=
      traceable.appended handed isHanded _ appended _ (List.mem_cons_self ..)
    have isLine := traceable.isLineOf
      ((traceable.handedPushed handed isHanded).2 transaction inTask).1
    rw [isNr] at isLine
    exact ⟨_, isLocated, isLine⟩

/-- Every step of a task keeps the transactions traceable, and what was stored stays stored. -/
theorem task (traceable : Traceable environment lines system) {next : WriteSystem}
    {position : Nat} {handed : HandedTask} {event : WriteEvent}
    (found : system.handed[position]? = some handed)
    (readably : WritesReadably environment system event)
    (taken : WriteSystem.TaskStep environment.genericHash system position handed event next) :
    ∃ added, Traceable environment (lines ++ added) next := by
  have isHanded := List.mem_of_getElem? found
  cases taken with
  | @append collectedLines _ collected =>
      have linesEq : collectedLines = handed.task.lines :=
        WriteTransactionsToBlockTask.collectLines_ok collected
      rw [linesEq]
      exact ⟨handed.task.lines, traceable.append found readably⟩
  | @record transactionNr fileCursor rest result index appended recorded =>
      obtain ⟨transaction, inTask, isNr, isLocated⟩ :=
        traceable.appended handed isHanded _ appended _ (List.mem_cons_self ..)
      have grows := BlockIndex.grows_addFileCursorForTransaction transactionNr transactionNr
        fileCursor.toInt32 system.block.blockIndex
      rw [recorded] at grows
      refine ⟨[], ?_⟩
      rw [List.append_nil]
      refine traceable.taskMoved found rfl rfl rfl traceable.holds traceable.readable
        (fun _ _ located => located) grows.fileCursors
        (traceable.located_record isHanded appended recorded) ?_ ?_
      · intro fileCursors same other member
        cases same
        exact traceable.appended handed isHanded _ appended other (List.mem_cons_of_mem _ member)
      · intro other unrecorded
        unfold HandedTask.unrecorded at unrecorded ⊢
        rw [appended] at unrecorded
        rcases List.mem_cons.mp unrecorded with rfl | later
        · exact Or.inl (WriteSystem.fileCursor_present
            (isLocated.nonnegative traceable.readable) recorded)
        · exact Or.inr later
  | @recordFailed transactionNr fileCursor rest exception index appended failed =>
      have grows := BlockIndex.grows_addFileCursorForTransaction transactionNr transactionNr
        fileCursor.toInt32 system.block.blockIndex
      rw [failed] at grows
      refine ⟨[], ?_⟩
      rw [List.append_nil]
      refine traceable.taskMoved found rfl rfl rfl traceable.holds traceable.readable
        (fun _ _ located => located) grows.fileCursors
        (traceable.located_record isHanded appended failed) nofun ?_
      intro other unrecorded
      exact Or.inr (traceable.mem_numbers_of_unrecorded isHanded unrecorded).1
  | quiet phase indexDisk written recorded notAppended =>
      refine ⟨[], ?_⟩
      rw [List.append_nil]
      refine traceable.taskMoved found rfl rfl rfl traceable.holds traceable.readable
        (fun _ _ located => located) (fun _ present => present) traceable.located
        (fun fileCursors same => absurd same (notAppended fileCursors)) ?_
      intro transactionNr unrecorded
      obtain ⟨inTask, notRecorded⟩ := traceable.mem_numbers_of_unrecorded isHanded unrecorded
      exact Or.inr (HandedTask.mem_unrecorded_of_not notAppended (recorded.trans notRecorded)
        inTask)

/-- A pushed transaction that is no longer open was handed to a task. -/
theorem mem_handed_of_not_open (traceable : Traceable environment lines system)
    {transaction : NodeTransactionEntry} (inPushed : transaction ∈ system.pushed)
    (notOpen : transaction ∉ system.openEntries) :
    ∃ (position : Nat) (handed : HandedTask), system.handed[position]? = some handed ∧
      transaction ∈ handed.task.entries := by
  obtain ⟨handed, isHanded, inTask⟩ :=
    (traceable.placed transaction inPushed).resolve_left notOpen
  obtain ⟨position, found⟩ := List.mem_iff_getElem?.mp isHanded
  exact ⟨position, handed, found, inTask⟩

end Traceable

/-- The observer knows every task that left the block and is not finished. -/
structure Tracked (environment : ReadEnvironment) (lines : List (List UInt8))
    (system : ReadSystem) : Prop where
  writes : Traceable environment lines system.writes
  consistent : system.observer.Consistent
  observed : ∀ position task, system.observer.blockWriteTasks.find? position = some task →
    ∃ handed : HandedTask, system.writes.handed[position]? = some handed ∧ handed.task = task
  unfinished : ∀ (position : Nat) (handed : HandedTask),
    system.writes.handed[position]? = some handed →
    handed.phase = .finished ∨
      system.observer.blockWriteTasks.find? position = some handed.task

namespace Tracked

variable {environment : ReadEnvironment} {lines : List (List UInt8)} {system : ReadSystem}

/-- What the observer has under a number is the transaction with this number. -/
theorem pending_eq (tracked : Tracked environment lines system)
    {transaction entry : NodeTransactionEntry} (inPushed : transaction ∈ system.writes.pushed)
    (found : system.observer.transactionsFromPendingTasks.find? transaction.transactionNr =
      some entry) : entry = transaction := by
  obtain ⟨position, task, isObserved, inTask⟩ := (tracked.consistent.pending _ _).mp found
  obtain ⟨handed, isHanded, rfl⟩ := tracked.observed position task isObserved
  obtain ⟨member, isNr⟩ := WriteTransactionsToBlockTask.mem_entries_of_getTransaction inTask
  have entries := (tracked.writes.handedPushed handed (List.mem_of_getElem? isHanded)).2
  exact tracked.writes.unique (entries entry member).1 inPushed isNr

/-- A transaction that is neither in the open task nor pending has its file cursor. -/
theorem recorded_of_not_pending (tracked : Tracked environment lines system)
    {transaction : NodeTransactionEntry} (inPushed : transaction ∈ system.writes.pushed)
    (notOpen : transaction ∉ system.writes.openEntries)
    (notPending : system.observer.transactionsFromPendingTasks.find? transaction.transactionNr =
      none) :
    system.writes.block.blockIndex.transactionNrsFileCursors.find? transaction.transactionNr ≠
      none := by
  obtain ⟨position, handed, found, inTask⟩ :=
    tracked.writes.mem_handed_of_not_open inPushed notOpen
  have finished : handed.phase = .finished := by
    refine (tracked.unfinished position handed found).resolve_right fun isObserved => ?_
    have pending := (tracked.consistent.pending transaction.transactionNr transaction).mpr
      ⟨position, handed.task, isObserved, WriteTransactionsToBlockTask.mem_entries.mp inTask⟩
    rw [notPending] at pending
    cases pending
  have recorded : handed.phase.recorded = true := by
    rw [finished]
    rfl
  refine (tracked.writes.recorded handed (List.mem_of_getElem? found) transaction
    inTask).resolve_left fun unrecorded => ?_
  rw [HandedTask.unrecorded_of_recorded recorded] at unrecorded
  cases unrecorded

/-- A finished task may be forgotten by the observer. -/
theorem taskFinished (tracked : Tracked environment lines system) {position : Nat}
    {handed : HandedTask} (found : system.writes.handed[position]? = some handed)
    (finished : handed.phase = .finished) :
    Tracked environment lines { system with
      observer := (system.observer.removeBlockWriteTask position).2 } := by
  obtain ⟨consistent, tasks⟩ := tracked.consistent.remove position
  refine ⟨tracked.writes, consistent, fun other task isObserved => ?_,
    fun other moved isHanded => ?_⟩
  · dsimp only at isObserved
    rw [tasks] at isObserved
    split at isObserved
    · cases isObserved
    · exact tracked.observed other task isObserved
  · dsimp only
    rw [tasks]
    by_cases same : other = position
    · subst same
      cases found.symm.trans isHanded
      exact Or.inl finished
    · rw [if_neg same]
      exact tracked.unfinished other moved isHanded

/-- The timer's hand-over keeps every task tracked. -/
theorem timer (tracked : Tracked environment lines system) :
    Tracked environment lines { system with
      writes := system.writes.handOver system.writes.block.callFromTimer .scheduled
      observer := system.observe system.writes.handed.length } := by
  have writes := tracked.writes.timer
  have timed : system.writes.block.callFromTimer = (system.writes.block.transactionWriteTask,
      { system.writes.block with transactionWriteTask := none }) := by
    unfold Block.callFromTimer
    exact if_neg (Bool.eq_false_iff.mp tracked.writes.running)
  have handedEq : (system.writes.handOver system.writes.block.callFromTimer .scheduled).handed =
      system.writes.handed ++ (system.writes.block.transactionWriteTask.map
        fun task => (⟨task, .scheduled⟩ : HandedTask)).toList := by
    rw [timed]
    rfl
  unfold ReadSystem.observe
  cases isOpen : system.writes.block.transactionWriteTask with
  | none =>
      have same : (system.writes.handOver system.writes.block.callFromTimer .scheduled).handed =
          system.writes.handed := by
        rw [handedEq, isOpen]
        exact List.append_nil _
      have noTask : system.writes.block.callFromTimer.1 = none := by
        rw [timed]
        exact isOpen
      rw [noTask]
      refine ⟨writes, tracked.consistent, ?_, ?_⟩
      · dsimp only
        rw [same]
        exact tracked.observed
      · dsimp only
        rw [same]
        exact tracked.unfinished
  | some task =>
      have same : (system.writes.handOver system.writes.block.callFromTimer .scheduled).handed =
          system.writes.handed ++ [⟨task, .scheduled⟩] := by
        rw [handedEq, isOpen]
        rfl
      have isTask : system.writes.block.callFromTimer.1 = some task := by
        rw [timed]
        exact isOpen
      have newAddress :
          system.observer.blockWriteTasks.find? system.writes.handed.length = none := by
        rw [Option.eq_none_iff_forall_ne_some]
        intro other isObserved
        obtain ⟨handed, found, _⟩ := tracked.observed _ _ isObserved
        rw [List.getElem?_eq_none (Nat.le_refl _)] at found
        cases found
      have newNumbers : ∀ other otherTask,
          system.observer.blockWriteTasks.find? other = some otherTask →
            ∀ transactionNr ∈ task.numbers, transactionNr ∉ otherTask.numbers := by
        intro other otherTask isObserved transactionNr inNew inOther
        obtain ⟨handed, found, rfl⟩ := tracked.observed other otherTask isObserved
        obtain ⟨transaction, isEntry, rfl⟩ := List.mem_map.mp inNew
        obtain ⟨otherTransaction, alsoEntry, sameNr⟩ := List.mem_map.mp inOther
        have inOpen : transaction ∈ system.writes.openEntries := by
          unfold WriteSystem.openEntries
          rw [isOpen]
          exact isEntry
        obtain ⟨inPushed, notOpen⟩ :=
          (tracked.writes.handedPushed handed (List.mem_of_getElem? found)).2 _ alsoEntry
        have sameTransaction := tracked.writes.unique inPushed
          (tracked.writes.openPushed transaction inOpen) sameNr
        exact notOpen (sameTransaction ▸ inOpen)
      obtain ⟨consistent, tasks⟩ := tracked.consistent.add newAddress newNumbers
      rw [isTask]
      refine ⟨writes, consistent, fun position other isObserved => ?_,
        fun position handed found => ?_⟩
      · dsimp only at isObserved ⊢
        rw [tasks] at isObserved
        rw [same]
        by_cases isNew : position = system.writes.handed.length
        · subst isNew
          rw [OrderedMap.insertNew, OrderedMap.find?_alter_self, newAddress] at isObserved
          cases isObserved
          exact ⟨_, List.getElem?_concat_length, rfl⟩
        · rw [OrderedMap.insertNew, OrderedMap.find?_alter_of_ne _ isNew] at isObserved
          obtain ⟨handed, found, isTask⟩ := tracked.observed position other isObserved
          obtain ⟨inside, _⟩ := List.getElem?_eq_some_iff.mp found
          exact ⟨handed, (List.getElem?_append_left inside).trans found, isTask⟩
      · dsimp only at found ⊢
        rw [same] at found
        rw [tasks]
        by_cases isNew : position = system.writes.handed.length
        · subst isNew
          rw [List.getElem?_concat_length] at found
          cases found
          rw [OrderedMap.insertNew, OrderedMap.find?_alter_self, newAddress]
          exact Or.inr rfl
        · rw [OrderedMap.insertNew, OrderedMap.find?_alter_of_ne _ isNew]
          have inside : position < system.writes.handed.length := by
            obtain ⟨inside, _⟩ := List.getElem?_eq_some_iff.mp found
            rw [List.length_append, List.length_singleton] at inside
            omega
          rw [List.getElem?_append_left inside] at found
          exact tracked.unfinished position handed found

end Tracked

/-- What a call of `getTransaction` may rely on while a task goes on. -/
structure KeepsFound (system next : WriteSystem) : Prop where
  pushed : next.pushed = system.pushed
  openEntries : next.openEntries = system.openEntries
  fileCursors : ∀ transactionNr,
    system.block.blockIndex.transactionNrsFileCursors.find? transactionNr ≠ none →
      next.block.blockIndex.transactionNrsFileCursors.find? transactionNr ≠ none
  cache : next.block.serializedTransactions = system.block.serializedTransactions

section TaskStep

variable {genericHash : List UInt8 → Digest} {system next : WriteSystem} {position : Nat}
  {handed : HandedTask} {event : WriteEvent}

/-- A step of a task keeps what a reader has found. -/
theorem keepsFound_of_taskStep
    (taken : WriteSystem.TaskStep genericHash system position handed event next) :
    KeepsFound system next ∧ ∃ phase, next.handed = (system.setPhase position phase).handed := by
  cases taken with
  | append started collected => exact ⟨⟨rfl, rfl, fun _ present => present, rfl⟩, _, rfl⟩
  | @record transactionNr fileCursor rest result index appended recorded =>
      have grows := BlockIndex.grows_addFileCursorForTransaction transactionNr transactionNr
        fileCursor.toInt32 system.block.blockIndex
      rw [recorded] at grows
      exact ⟨⟨rfl, rfl, grows.fileCursors, rfl⟩, _, rfl⟩
  | @recordFailed transactionNr fileCursor rest exception index appended failed =>
      have grows := BlockIndex.grows_addFileCursorForTransaction transactionNr transactionNr
        fileCursor.toInt32 system.block.blockIndex
      rw [failed] at grows
      exact ⟨⟨rfl, rfl, grows.fileCursors, rfl⟩, _, rfl⟩
  | quiet phase indexDisk written recorded notAppended =>
      exact ⟨⟨rfl, rfl, fun _ present => present, rfl⟩, phase, rfl⟩

/-- A finished task takes no step. -/
theorem unfinished_of_taskStep
    (taken : WriteSystem.taskStep genericHash system position handed event = some next) :
    handed.phase ≠ .finished := by
  intro finished
  unfold WriteSystem.taskStep at taken
  rw [finished] at taken
  cases event with
  | _ => cases taken

end TaskStep

namespace Tracked

variable {environment : ReadEnvironment} {lines : List (List UInt8)} {system : ReadSystem}

/-- A push keeps every task tracked. -/
theorem push (tracked : Tracked environment lines system) {transaction : NodeTransactionEntry}
    (readably : WritesReadably environment system.writes (.push transaction)) :
    Tracked environment lines { system with writes := { system.writes with
      block := (system.writes.block.pushTransaction environment.getCommunityIdIndex
        transaction).2
      pushed := if system.writes.block.exitCalled then system.writes.pushed
        else system.writes.pushed ++ [transaction] } } :=
  ⟨tracked.writes.push readably, tracked.consistent, tracked.observed, tracked.unfinished⟩

/-- A step of a task keeps every task tracked. -/
theorem task (tracked : Tracked environment lines system) {next : WriteSystem} {position : Nat}
    {handed : HandedTask} {event : WriteEvent}
    (found : system.writes.handed[position]? = some handed)
    (readably : WritesReadably environment system.writes event)
    (taken : WriteSystem.taskStep environment.genericHash system.writes position handed event =
      some next) (target : event.position? = some position) :
    ∃ added, Tracked environment (lines ++ added) { system with writes := next } := by
  have isStep := WriteSystem.taskStep_sound target taken
  obtain ⟨added, writes⟩ := tracked.writes.task found readably isStep
  obtain ⟨_, phase, isHanded⟩ := keepsFound_of_taskStep isStep
  refine ⟨added, writes, tracked.consistent, fun other task isObserved => ?_,
    fun other moved isFound => ?_⟩
  · obtain ⟨before, foundBefore, isTask⟩ := tracked.observed other task isObserved
    dsimp only
    rw [isHanded, WriteSystem.getElem?_setPhase, foundBefore, Option.map_some]
    refine ⟨_, rfl, ?_⟩
    split
    · exact isTask
    · exact isTask
  · dsimp only at isFound ⊢
    rw [isHanded, WriteSystem.getElem?_setPhase, Option.map_eq_some_iff] at isFound
    obtain ⟨before, foundBefore, rfl⟩ := isFound
    split
    · rename_i same
      subst same
      cases found.symm.trans foundBefore
      exact Or.inr ((tracked.unfinished position _ found).resolve_left
        (unfinished_of_taskStep taken))
    · exact tracked.unfinished other before foundBefore

end Tracked

end Cache

end GradidoNode

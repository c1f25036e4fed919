import GradidoNode.Cache.Block
import Mathlib.Data.List.Chain

/-!
# The order of the block file

Write tasks append as their workers get to it. The file stays a prefix of the
pushed transactions exactly as long as no task appends before an older one has.
-/

namespace GradidoNode

open Library Tasks

namespace Cache

/-- Transaction numbers without a gap. -/
def Consecutive (transactions : List NodeTransactionEntry) : Prop :=
  transactions.IsChain fun first second =>
    second.transactionNr.toNat = first.transactionNr.toNat + 1

/-- The number of a transaction is the next one. -/
def Follows (pushed : List NodeTransactionEntry) (transaction : NodeTransactionEntry) : Prop :=
  ∀ last ∈ pushed.getLast?, transaction.transactionNr.toNat = last.transactionNr.toNat + 1

/-- The number behind the last keeps the numbers consecutive. -/
theorem Consecutive.append {pushed : List NodeTransactionEntry}
    {transaction : NodeTransactionEntry} (consecutive : Consecutive pushed)
    (follows : Follows pushed transaction) : Consecutive (pushed ++ [transaction]) := by
  refine List.isChain_append.mpr ⟨consecutive, List.isChain_singleton _, ?_⟩
  intro last isLast first isFirst
  cases isFirst
  exact follows last isLast

/-- Consecutive numbers ascend. -/
theorem Consecutive.pairwise {transactions : List NodeTransactionEntry}
    (consecutive : Consecutive transactions) :
    transactions.Pairwise fun first second =>
      first.transactionNr.toNat < second.transactionNr.toNat := by
  have ascending : transactions.IsChain fun first second =>
      first.transactionNr.toNat < second.transactionNr.toNat :=
    consecutive.imp fun first second next => by omega
  have transitive : IsTrans NodeTransactionEntry fun first second =>
      first.transactionNr.toNat < second.transactionNr.toNat := ⟨fun _ _ _ => Nat.lt_trans⟩
  exact List.isChain_iff_pairwise.mp ascending

/-- The last of consecutive numbers is the greatest. -/
theorem Consecutive.lt_of_append {pushed : List NodeTransactionEntry}
    {transaction : NodeTransactionEntry} (consecutive : Consecutive (pushed ++ [transaction])) :
    ∀ entry ∈ pushed, entry.transactionNr < transaction.transactionNr := by
  intro entry member
  have pairwise := (List.pairwise_append.mp consecutive.pairwise).2.2
  exact UInt64.lt_iff_toNat_lt.mpr (pairwise entry member transaction (List.mem_singleton_self _))

namespace WriteSystem

/-- The tasks that left the block. -/
def tasks (system : WriteSystem) : List WriteTransactionsToBlockTask :=
  system.handed.map HandedTask.task

/-- The transactions of the open task. -/
def openEntries (system : WriteSystem) : List NodeTransactionEntry :=
  (system.block.transactionWriteTask.getD .new).entries

@[simp] theorem setPhase_tasks (system : WriteSystem) (position : Nat) (phase : Phase) :
    (system.setPhase position phase).tasks = system.tasks := by
  apply List.ext_getElem?
  intro index
  simp only [tasks, setPhase_handed, List.getElem?_map, List.getElem?_modify]
  cases system.handed[index]? with
  | none => rfl
  | some handed => by_cases same : position = index <;> simp [same]

/-- Moving one task on leaves the others. -/
theorem getElem?_setPhase (system : WriteSystem) (position index : Nat) (phase : Phase) :
    (system.setPhase position phase).handed[index]? = system.handed[index]?.map fun handed =>
      if position = index then { handed with phase := phase } else handed := by
  rw [setPhase_handed, List.getElem?_modify]
  rfl

/-- The members of the tasks after one of them has changed its phase. -/
theorem mem_setPhase_handed {system : WriteSystem} {position : Nat} {phase : Phase}
    {handed moved : HandedTask} (found : system.handed[position]? = some handed)
    (member : moved ∈ (system.setPhase position phase).handed) :
    moved = ⟨handed.task, phase⟩ ∨ moved ∈ system.handed := by
  obtain ⟨index, foundMoved⟩ := List.mem_iff_getElem?.mp member
  rw [getElem?_setPhase, Option.map_eq_some_iff] at foundMoved
  obtain ⟨before, foundBefore, rfl⟩ := foundMoved
  by_cases same : position = index
  · subst same
    cases found.symm.trans foundBefore
    rw [if_pos rfl]
    exact Or.inl rfl
  · rw [if_neg same]
    exact Or.inr (List.mem_of_getElem? foundBefore)

/-- The block file stores a prefix of the pushed transactions behind what it held at
the start, and their numbers have no gap. -/
def StoredInOrder (genericHash : List UInt8 → Digest) (initial : List (List UInt8))
    (system : WriteSystem) : Prop :=
  Consecutive system.pushed ∧ ∃ count, system.blockFile.Holds genericHash
    (initial ++ (system.pushed.take count).map NodeTransactionEntry.serializedTransaction)

/-- Transactions come in with consecutive numbers and fit into their size field, and a
task appends only after all tasks that left the block before it, within the 32 bits of
the file size. -/
def WritesInOrder (system : WriteSystem) : WriteEvent → Prop
  | .push transaction => system.block.exitCalled = false →
      Follows system.pushed transaction ∧ transaction.serializedTransaction.length < 2 ^ 16
  | .append position =>
      (∀ earlier ∈ system.handed.take position, earlier.phase.written = true) ∧
      ∀ handed, system.handed[position]? = some handed →
        system.blockFile.currentFileSize.toNat +
          (Files.encodeLines handed.task.lines).length < 2 ^ 32
  | _ => True

/-- The tasks that have written are the oldest ones, and the file holds their lines. -/
structure InOrder (genericHash : List UInt8 → Digest) (initial : List (List UInt8))
    (system : WriteSystem) : Prop where
  consecutive : Consecutive system.pushed
  short : ∀ transaction ∈ system.pushed, transaction.serializedTransaction.length < 2 ^ 16
  split : system.pushed =
    system.tasks.flatMap WriteTransactionsToBlockTask.entries ++ system.openEntries
  nonempty : ∀ task ∈ system.tasks, task.entries ≠ []
  openNonempty : ∀ task, system.block.transactionWriteTask = some task → task.entries ≠ []
  stored : ∃ count ≤ system.tasks.length,
    (∀ index handed, system.handed[index]? = some handed →
      (handed.phase.written = true ↔ index < count)) ∧
    system.blockFile.Holds genericHash
      (initial ++ (system.tasks.take count).flatMap WriteTransactionsToBlockTask.lines)

variable {genericHash : List UInt8 → Digest}
  {getCommunityIdIndex : String → Except Exception UInt32} {initial : List (List UInt8)}

/-- The account of the tasks gives the order of the file. -/
theorem InOrder.storedInOrder {system : WriteSystem}
    (inOrder : InOrder genericHash initial system) : StoredInOrder genericHash initial system := by
  obtain ⟨count, _, _, holds⟩ := inOrder.stored
  refine ⟨inOrder.consecutive,
    ((system.tasks.take count).flatMap WriteTransactionsToBlockTask.entries).length, ?_⟩
  have divided : system.pushed =
      (system.tasks.take count).flatMap WriteTransactionsToBlockTask.entries ++
        ((system.tasks.drop count).flatMap WriteTransactionsToBlockTask.entries ++
          system.openEntries) := by
    rw [← List.append_assoc, ← List.flatMap_append, List.take_append_drop]
    exact inOrder.split
  rw [divided, List.take_left, List.map_flatMap]
  exact holds

/-- A push that follows the last one keeps the order. -/
theorem InOrder.push {system : WriteSystem} (inOrder : InOrder genericHash initial system)
    {transaction : NodeTransactionEntry}
    (allowed : WritesInOrder system (.push transaction)) :
    InOrder genericHash initial { system with
      block := (system.block.pushTransaction getCommunityIdIndex transaction).2
      pushed := if system.block.exitCalled then system.pushed
        else system.pushed ++ [transaction] } := by
  cases called : system.block.exitCalled with
  | true =>
      have refused := system.block.pushTransaction_of_exitCalled getCommunityIdIndex transaction
        called
      simp only [refused, ↓reduceIte]
      exact inOrder
  | false =>
      obtain ⟨follows, short⟩ := allowed called
      have consecutive := inOrder.consecutive.append follows
      have openTask := system.block.pushTransaction_openTask getCommunityIdIndex transaction called
      have openBelow : ∀ entry ∈ system.openEntries,
          entry.transactionNr < transaction.transactionNr := by
        intro entry member
        apply consecutive.lt_of_append entry
        rw [inOrder.split]
        exact List.mem_append_right _ member
      have inserted := WriteTransactionsToBlockTask.entries_insert openBelow
      simp only [Bool.false_eq_true, ↓reduceIte]
      refine ⟨consecutive, ?_, ?_, inOrder.nonempty, ?_, inOrder.stored⟩
      · intro other member
        rcases List.mem_append.mp member with before | last
        · exact inOrder.short other before
        · rw [List.mem_singleton.mp last]
          exact short
      · simp only [openEntries, openTask, Option.getD_some, inserted]
        rw [← List.append_assoc]
        exact congrArg (· ++ [transaction]) inOrder.split
      · intro task isOpen
        simp only [openTask, Option.some.injEq] at isOpen
        rw [← isOpen, inserted]
        exact List.append_ne_nil_of_right_ne_nil _ (List.cons_ne_nil _ _)

/-- Handing the open task over moves its transactions, unwritten, behind the others. -/
theorem InOrder.handOver {system : WriteSystem} (inOrder : InOrder genericHash initial system)
    {block : Block} {phase : Phase} (unwritten : phase.written = false)
    (noneOpen : block.transactionWriteTask = none) :
    InOrder genericHash initial
      (system.handOver (system.block.transactionWriteTask, block) phase) := by
  obtain ⟨count, bounded, written, holds⟩ := inOrder.stored
  cases isOpen : system.block.transactionWriteTask with
  | none =>
      have split := inOrder.split
      simp only [openEntries, isOpen, Option.getD_none,
        WriteTransactionsToBlockTask.entries_new] at split
      refine ⟨inOrder.consecutive, inOrder.short, ?_, ?_, ?_, count, ?_, ?_, ?_⟩
      · simpa [WriteSystem.handOver, tasks, openEntries, noneOpen] using split
      · simpa [WriteSystem.handOver, tasks] using inOrder.nonempty
      · simp [WriteSystem.handOver, noneOpen]
      · simpa [WriteSystem.handOver, tasks] using bounded
      · simpa [WriteSystem.handOver] using written
      · simpa [WriteSystem.handOver, tasks] using holds
  | some task =>
      have split := inOrder.split
      simp only [openEntries, isOpen, Option.getD_some] at split
      have handedOver : (system.handOver (some task, block) phase).tasks =
          system.tasks ++ [task] := by
        simp [WriteSystem.handOver, tasks]
      refine ⟨inOrder.consecutive, inOrder.short, ?_, ?_, ?_, count, ?_, ?_, ?_⟩
      · rw [handedOver, List.flatMap_append]
        simpa [WriteSystem.handOver, openEntries, noneOpen] using split
      · rw [handedOver]
        intro other member
        rcases List.mem_append.mp member with before | last
        · exact inOrder.nonempty other before
        · rw [List.mem_singleton.mp last]
          exact inOrder.openNonempty task isOpen
      · simp [WriteSystem.handOver, noneOpen]
      · rw [handedOver, List.length_append]
        exact Nat.le_add_right_of_le bounded
      · intro index handed found
        simp only [WriteSystem.handOver, Option.map_some, Option.toList_some] at found
        rw [List.getElem?_append] at found
        split at found
        · exact written index handed found
        · rename_i behind
          simp only [tasks, List.length_map] at bounded
          cases offset : index - system.handed.length with
          | zero =>
              rw [offset] at found
              cases found
              simp only [unwritten, Bool.false_eq_true, false_iff]
              omega
          | succ _ =>
              rw [offset] at found
              cases found
      · rw [handedOver, List.take_append_of_le_length bounded]
        exact holds

/-- A step of a task that neither writes lines nor forgets that it has. -/
theorem InOrder.setPhase {system : WriteSystem} (inOrder : InOrder genericHash initial system)
    {position : Nat} {handed : HandedTask} {phase : Phase}
    (found : system.handed[position]? = some handed)
    (written : phase.written = handed.phase.written) :
    InOrder genericHash initial (system.setPhase position phase) := by
  obtain ⟨count, bounded, flags, holds⟩ := inOrder.stored
  refine ⟨inOrder.consecutive, inOrder.short, ?_, ?_, inOrder.openNonempty, count, ?_, ?_, ?_⟩
  · rw [setPhase_tasks]
    exact inOrder.split
  · rw [setPhase_tasks]
    exact inOrder.nonempty
  · rw [setPhase_tasks]
    exact bounded
  · intro index other foundOther
    rw [getElem?_setPhase, Option.map_eq_some_iff] at foundOther
    obtain ⟨before, foundBefore, rfl⟩ := foundOther
    have flag := flags index before foundBefore
    by_cases same : position = index
    · subst same
      rw [found] at foundBefore
      cases foundBefore
      simpa only [↓reduceIte, written] using flag
    · simpa only [same, ↓reduceIte] using flag
  · rw [setPhase_tasks]
    exact holds

/-- The index does not matter for the order of the lines. -/
theorem InOrder.setIndex {system : WriteSystem} (inOrder : InOrder genericHash initial system)
    (index : BlockIndex) : InOrder genericHash initial (system.setIndex index) :=
  ⟨inOrder.consecutive, inOrder.short, inOrder.split, inOrder.nonempty, inOrder.openNonempty,
    inOrder.stored⟩

/-- The oldest task that has not written finds the lines of all earlier ones in the file. -/
theorem InOrder.oldest {system : WriteSystem} (inOrder : InOrder genericHash initial system)
    {position : Nat} {handed : HandedTask}
    (found : system.handed[position]? = some handed) (started : handed.phase = .started)
    (earlierWritten : ∀ earlier ∈ system.handed.take position, earlier.phase.written = true) :
    (∀ index other, system.handed[index]? = some other →
      (other.phase.written = true ↔ index < position)) ∧
    system.blockFile.Holds genericHash
      (initial ++ (system.tasks.take position).flatMap WriteTransactionsToBlockTask.lines) := by
  obtain ⟨count, bounded, flags, holds⟩ := inOrder.stored
  have notBefore : ¬ position < count := by
    rw [← flags position handed found, started]
    exact Bool.false_ne_true
  have notBehind : ¬ count < position := by
    intro before
    have inside : position < system.handed.length := (List.getElem?_eq_some_iff.mp found).1
    obtain ⟨other, foundOther⟩ := List.getElem?_eq_some_iff.mpr ⟨Nat.lt_trans before inside, rfl⟩
      |> fun found => (⟨_, found⟩ : ∃ other, system.handed[count]? = some other)
    have otherWritten := earlierWritten other
      (List.mem_of_getElem? (List.getElem?_take_of_lt before ▸ foundOther))
    exact Nat.lt_irrefl count ((flags count other foundOther).mp otherWritten)
  have same : position = count := by omega
  rw [same]
  exact ⟨flags, holds⟩

/-- The task of a task handed over. -/
theorem getElem?_tasks {system : WriteSystem} {position : Nat} {handed : HandedTask}
    (found : system.handed[position]? = some handed) :
    system.tasks[position]? = some handed.task := by
  rw [tasks, List.getElem?_map, found]
  rfl

/-- The oldest task that has not written appends the next transactions. -/
theorem InOrder.append {system : WriteSystem} (inOrder : InOrder genericHash initial system)
    {position : Nat} {handed : HandedTask} {lines : List (List UInt8)}
    {fileCursors : List (UInt64 × UInt32)}
    (found : system.handed[position]? = some handed) (started : handed.phase = .started)
    (collected : WriteTransactionsToBlockTask.collectLines 0 handed.task.entries = .ok lines)
    (allowed : WritesInOrder system (.append position)) :
    InOrder genericHash initial { system.setPhase position (.appended fileCursors) with
      blockFile := (Files.Block.appendLines genericHash lines system.blockFile).2 } := by
  obtain ⟨earlierWritten, fits⟩ := allowed
  obtain ⟨flags, holds⟩ := inOrder.oldest found started earlierWritten
  have taskAt := getElem?_tasks found
  have isTask : handed.task ∈ system.tasks := List.mem_of_getElem? taskAt
  have linesEq : lines = handed.task.lines := WriteTransactionsToBlockTask.collectLines_ok collected
  have linesSome : lines ≠ [] := by
    rw [linesEq, WriteTransactionsToBlockTask.lines]
    exact fun none => inOrder.nonempty handed.task isTask (List.map_eq_nil_iff.mp none)
  have linesShort : ∀ line ∈ lines, line.length < 2 ^ 16 := by
    intro line member
    rw [linesEq, WriteTransactionsToBlockTask.lines] at member
    obtain ⟨transaction, isEntry, rfl⟩ := List.mem_map.mp member
    apply inOrder.short transaction
    rw [inOrder.split]
    exact List.mem_append_left _ (List.mem_flatMap.mpr ⟨handed.task, isTask, isEntry⟩)
  have appended := Files.Block.appendLines_holds holds linesSome linesShort (by
    rw [Files.encodeLines_append, List.length_append, ← holds.size, linesEq]
    exact fits handed found)
  refine ⟨inOrder.consecutive, inOrder.short, ?_, ?_, inOrder.openNonempty, position + 1, ?_, ?_,
    ?_⟩
  · exact (setPhase_tasks system position _).symm ▸ inOrder.split
  · exact (setPhase_tasks system position _).symm ▸ inOrder.nonempty
  · have inside := (List.getElem?_eq_some_iff.mp taskAt).1
    exact (setPhase_tasks system position _).symm ▸ inside
  · intro index other foundOther
    change (system.setPhase position (.appended fileCursors)).handed[index]? = some other
      at foundOther
    rw [getElem?_setPhase, Option.map_eq_some_iff] at foundOther
    obtain ⟨before, foundBefore, rfl⟩ := foundOther
    have flag := flags index before foundBefore
    by_cases same : position = index
    · subst same
      simp [Phase.written]
    · simp only [same, ↓reduceIte, flag]
      omega
  · have grown : (system.setPhase position (.appended fileCursors)).tasks.take (position + 1) =
        system.tasks.take position ++ [handed.task] := by
      rw [setPhase_tasks, List.take_add_one, taskAt]
      rfl
    change Files.Block.Holds genericHash _ (initial ++
      ((system.setPhase position (.appended fileCursors)).tasks.take (position + 1)).flatMap
        WriteTransactionsToBlockTask.lines)
    rw [grown, List.flatMap_append, ← List.append_assoc]
    simpa [linesEq] using appended.1

/-- Every step that keeps the order keeps the invariant. -/
theorem InOrder.step {system next : WriteSystem} {event : WriteEvent}
    (inOrder : InOrder genericHash initial system) (allowed : WritesInOrder system event)
    (taken : system.step genericHash getCommunityIdIndex event = some next) :
    InOrder genericHash initial next := by
  cases step_sound taken with
  | push transaction => exact inOrder.push allowed
  | expire transactionNr =>
      exact ⟨inOrder.consecutive, inOrder.short, inOrder.split, inOrder.nonempty,
        inOrder.openNonempty, inOrder.stored⟩
  | timer =>
      cases called : system.block.exitCalled with
      | true => simpa [Block.callFromTimer, called, WriteSystem.handOver] using inOrder
      | false =>
          have timed : system.block.callFromTimer =
              (system.block.transactionWriteTask,
                { system.block with transactionWriteTask := none }) := by
            simp [Block.callFromTimer, called]
          rw [timed]
          exact inOrder.handOver rfl rfl
  | exit => exact inOrder.handOver rfl rfl
  | task target found taken =>
      cases taken with
      | append started collected =>
          exact inOrder.append found started collected allowed
      | record appended recorded =>
          exact (inOrder.setIndex _).setPhase found (appended ▸ rfl)
      | recordFailed appended failed =>
          exact (inOrder.setIndex _).setPhase found (appended ▸ rfl)
      | quiet phase indexDisk written recorded notAppended =>
          have moved := inOrder.setPhase found written
          exact ⟨moved.consecutive, moved.short, moved.split, moved.nonempty,
            moved.openNonempty, moved.stored⟩

/-- A block just opened, with an index and a block file. -/
def start (index : BlockIndex) (blockFile : Files.Block) (indexDisk : Option (List UInt8)) :
    WriteSystem where
  block := Block.new index
  blockFile := blockFile
  indexDisk := indexDisk
  handed := []
  pushed := []

/-- A block opened on its own file starts in order. -/
theorem InOrder.start {index : BlockIndex} {blockFile : Files.Block}
    {indexDisk : Option (List UInt8)} (holds : blockFile.Holds genericHash initial) :
    InOrder genericHash initial (start index blockFile indexDisk) where
  consecutive := List.isChain_nil
  short := nofun
  split := rfl
  nonempty := nofun
  openNonempty := nofun
  stored := ⟨0, Nat.zero_le _, nofun, by rwa [List.take_zero, List.flatMap_nil, List.append_nil]⟩

/-- In every run in which no task appends before an older one, the block file is at every
moment a gapless prefix of the pushed transactions. -/
theorem storedInOrder_of_run {index : BlockIndex} {blockFile : Files.Block}
    {indexDisk : Option (List UInt8)} {events : List WriteEvent} {reached : WriteSystem}
    (holds : blockFile.Holds genericHash initial)
    (meets : StepsMeet (WriteSystem.step genericHash getCommunityIdIndex) WritesInOrder events
      (start index blockFile indexDisk))
    (run : runEvents (WriteSystem.step genericHash getCommunityIdIndex) events
      (start index blockFile indexDisk) = some reached) :
    StoredInOrder genericHash initial reached :=
  (invariant_of_stepsMeet (fun _ _ _ inOrder allowed taken => inOrder.step allowed taken)
    (InOrder.start holds) meets run).storedInOrder

section Example

/-- A transaction of 30 bytes and its successor of 31 bytes. -/
def exampleTransaction (transactionNr : UInt64) : NodeTransactionEntry where
  transactionNr := transactionNr
  month := 5
  year := 2024
  transactionType := 1
  coinCommunityId := ""
  serializedTransaction := List.replicate (29 + transactionNr.toNat) transactionNr.toUInt8
  addressIndices := []
  fileCursor := -10

/-- No community is looked up for a transaction of the own community. -/
def noCommunities (_ : String) : Except Exception UInt32 := .error (.runtimeError "not looked up")

/-- The hash chained over the first transaction alone. -/
def firstHash : Digest :=
  ⟨[205, 129, 8, 72, 92, 151, 192, 26, 144, 210, 119, 64, 96, 61, 53, 19, 19, 215, 49, 143,
    170, 159, 225, 79, 195, 0, 90, 48, 54, 0, 200, 89], rfl⟩

/-- The hash chained over the second transaction alone. -/
def secondHash : Digest :=
  ⟨[72, 36, 25, 69, 61, 26, 210, 149, 255, 129, 97, 18, 146, 99, 187, 185, 38, 192, 182, 170,
    79, 57, 77, 227, 104, 16, 166, 152, 99, 117, 131, 236], rfl⟩

/-- Two transactions, handed over to two workers that append in turn. -/
def writtenInTurn : List WriteEvent :=
  [.push (exampleTransaction 1), .timer, .push (exampleTransaction 2), .timer, .take 0, .take 1,
    .append 0, .append 1]

/-- Two tasks that append in turn leave the file in order. -/
theorem storedInOrder_twoTasks :
    ∃ reached, runEvents (WriteSystem.step (fun _ => firstHash) noCommunities) writtenInTurn
        (start BlockIndex.new (Files.Block.new []) none) = some reached ∧
      StoredInOrder (fun _ => firstHash) [] reached := by
  refine ⟨_, rfl, @storedInOrder_of_run (fun _ => firstHash) noCommunities [] BlockIndex.new
    (Files.Block.new []) none writtenInTurn _ ⟨rfl, rfl⟩ ?_ rfl⟩
  refine StepsMeet.cons (fun _ => ⟨nofun, by decide⟩) rfl (StepsMeet.cons trivial rfl ?_)
  refine StepsMeet.cons (fun _ => ⟨?_, by decide⟩) rfl (StepsMeet.cons trivial rfl ?_)
  · rintro _ ⟨⟩
    rfl
  refine StepsMeet.cons trivial rfl (StepsMeet.cons trivial rfl ?_)
  refine StepsMeet.cons ⟨nofun, ?_⟩ rfl (StepsMeet.cons ⟨?_, ?_⟩ rfl trivial)
  · rintro _ ⟨⟩
    decide
  · intro earlier member
    cases List.mem_singleton.mp member
    rfl
  · rintro _ ⟨⟩
    decide

/-- Two tasks wait for two workers, and the second appends first. -/
theorem not_storedInOrder_second_first :
    ∃ reached, runEvents (WriteSystem.step (fun _ => secondHash) noCommunities)
        [.push (exampleTransaction 1), .timer, .push (exampleTransaction 2), .timer,
          .take 0, .take 1, .append 1]
        (start BlockIndex.new (Files.Block.new []) none) = some reached ∧
      ¬ StoredInOrder (fun _ => secondHash) [] reached := by
  refine ⟨_, rfl, ?_⟩
  rintro ⟨_, count, holds⟩
  have size := holds.size
  match count with
  | 0 => exact absurd size (by decide)
  | 1 => exact absurd size (by decide)
  | count + 2 =>
      rw [List.take_of_length_le (Nat.le_add_left 2 count)] at size
      exact absurd size (by decide)

end Example

end WriteSystem

end Cache

end GradidoNode

import GradidoNode.Cache.WriteOrder
import Mathlib.Data.List.Perm.Subperm

/-!
# Every transaction is written at most once

Workers may overtake one another, tasks may be lost on their way or fail. Whatever
the order, each task that has written is in the block file once and in one piece, and
every pushed transaction is in the file, in a task that has not written, or still in
the open task.
-/

namespace GradidoNode

open Library Tasks

section Modify

variable {Item : Type*} {items : List Item} {position : Nat} {found : Item}
  {changed : Item → Item} {selected : Item → Bool}

/-- One item more is selected when a change selects it. -/
theorem filter_modify_perm (isFound : items[position]? = some found)
    (before : selected found = false) (after : selected (changed found) = true) :
    ((items.modify position changed).filter selected).Perm
      (items.filter selected ++ [changed found]) := by
  induction items generalizing position with
  | nil => cases isFound
  | cons head rest ih =>
      cases position with
      | zero =>
          cases isFound
          rw [List.modify_zero_cons, List.filter_cons_of_pos after,
            List.filter_cons_of_neg (Bool.eq_false_iff.mp before)]
          exact (List.perm_append_singleton _ _).symm
      | succ position =>
          rw [List.modify_succ_cons]
          have below := ih isFound
          cases isSelected : selected head with
          | true =>
              rw [List.filter_cons_of_pos isSelected, List.filter_cons_of_pos isSelected]
              exact below.cons head
          | false =>
              rw [List.filter_cons_of_neg (Bool.eq_false_iff.mp isSelected),
                List.filter_cons_of_neg (Bool.eq_false_iff.mp isSelected)]
              exact below

/-- A change that neither selects nor shows leaves what the selected items show. -/
theorem map_filter_modify {Value : Type*} {shown : Item → Value}
    (isFound : items[position]? = some found)
    (same : selected (changed found) = selected found)
    (hidden : shown (changed found) = shown found) :
    ((items.modify position changed).filter selected).map shown =
      (items.filter selected).map shown := by
  induction items generalizing position with
  | nil => cases isFound
  | cons head rest ih =>
      cases position with
      | zero =>
          cases isFound
          rw [List.modify_zero_cons, List.filter_cons, List.filter_cons, same]
          split
          · rw [List.map_cons, List.map_cons, hidden]
          · rfl
      | succ position =>
          rw [List.modify_succ_cons, List.filter_cons, List.filter_cons]
          split
          · rw [List.map_cons, List.map_cons, ih isFound]
          · exact ih isFound

end Modify

namespace Tasks.WriteTransactionsToBlockTask

variable {task : WriteTransactionsToBlockTask} {transaction : NodeTransactionEntry}

/-- A transaction whose number is in the batch is not collected again. -/
theorem insert_of_mem_numbers (present : transaction.transactionNr ∈ task.numbers) :
    (task.insert transaction).entries = task.entries :=
  congrArg OrderedMap.values
    (OrderedMap.insertNew_of_present transaction (mem_numbers.mp present))

theorem insert_perm_of_fresh (fresh : transaction.transactionNr ∉ task.numbers) :
    (task.insert transaction).entries.Perm (task.entries ++ [transaction]) := by
  have absent : task.transactions.find? transaction.transactionNr = none :=
    not_not.mp fun present => fresh (mem_numbers.mpr present)
  have grown := (OrderedMap.toList_alter_perm
    (fun present => present.getD transaction) absent).map Prod.snd
  rw [List.map_append] at grown
  exact grown

theorem insert_subperm :
    (task.insert transaction).entries.Subperm (task.entries ++ [transaction]) := by
  by_cases present : transaction.transactionNr ∈ task.numbers
  · rw [insert_of_mem_numbers present]
    exact (List.sublist_append_left _ _).subperm
  · exact (insert_perm_of_fresh present).subperm

end Tasks.WriteTransactionsToBlockTask

namespace Cache.WriteSystem

/-- The tasks whose lines are in the block file. -/
def writtenTasks (system : WriteSystem) : List WriteTransactionsToBlockTask :=
  (system.handed.filter fun handed => handed.phase.written).map HandedTask.task

/-- The tasks that left the block and did not write: they wait, were dropped or failed. -/
def unwrittenTasks (system : WriteSystem) : List WriteTransactionsToBlockTask :=
  (system.handed.filter fun handed => !handed.phase.written).map HandedTask.task

theorem writtenTasks_perm (system : WriteSystem) :
    (system.writtenTasks ++ system.unwrittenTasks).Perm system.tasks := by
  have divided := List.filter_append_perm (fun handed : HandedTask => handed.phase.written)
    system.handed
  have shown := divided.map HandedTask.task
  rw [List.map_append] at shown
  exact shown

/-- Transactions fit into their size field, and a task writes within the 32 bits of the file
size. -/
def Fits (system : WriteSystem) : WriteEvent → Prop
  | .push transaction => system.block.exitCalled = false →
      transaction.serializedTransaction.length < 2 ^ 16
  | .append position => ∀ handed, system.handed[position]? = some handed →
      system.blockFile.currentFileSize.toNat +
        (Files.encodeLines handed.task.lines).length < 2 ^ 32
  | _ => True

/-- All transactions that left the block or wait in its open task. -/
def collected (system : WriteSystem) : List NodeTransactionEntry :=
  system.tasks.flatMap WriteTransactionsToBlockTask.entries ++ system.openEntries

/-- The file holds `batches`, which are those of the tasks that have written. -/
structure Stored (genericHash : List UInt8 → Digest) (initial : List (List UInt8))
    (batches : List WriteTransactionsToBlockTask) (system : WriteSystem) : Prop where
  written : batches.Perm system.writtenTasks
  holds : system.blockFile.Holds genericHash
    (initial ++ batches.flatMap WriteTransactionsToBlockTask.lines)

/-- No transaction is collected twice, and none is lost while all numbers differ. -/
structure CollectedOnce (system : WriteSystem) : Prop where
  short : ∀ transaction ∈ system.pushed, transaction.serializedTransaction.length < 2 ^ 16
  nonempty : ∀ task ∈ system.tasks, task.entries ≠ []
  openNonempty : ∀ task, system.block.transactionWriteTask = some task → task.entries ≠ []
  pushed : system.collected.Subperm system.pushed
  complete : (system.pushed.map NodeTransactionEntry.transactionNr).Nodup →
    system.collected.Perm system.pushed

variable {genericHash : List UInt8 → Digest}
  {getCommunityIdIndex : String → Except Exception UInt32} {initial : List (List UInt8)}
  {written : List WriteTransactionsToBlockTask} {system : WriteSystem}

theorem CollectedOnce.push (once : CollectedOnce system) {transaction : NodeTransactionEntry}
    (allowed : Fits system (.push transaction)) :
    CollectedOnce { system with
      block := (system.block.pushTransaction getCommunityIdIndex transaction).2
      pushed := if system.block.exitCalled then system.pushed
        else system.pushed ++ [transaction] } := by
  cases called : system.block.exitCalled with
  | true =>
      have refused := system.block.pushTransaction_of_exitCalled getCommunityIdIndex transaction
        called
      simp only [refused, ↓reduceIte]
      exact once
  | false =>
      have openTask := system.block.pushTransaction_openTask getCommunityIdIndex transaction called
      have collectedNow {pushed : List NodeTransactionEntry} : collected { system with
          block := (system.block.pushTransaction getCommunityIdIndex transaction).2
          pushed := pushed } =
          system.tasks.flatMap WriteTransactionsToBlockTask.entries ++
            ((system.block.transactionWriteTask.getD .new).insert transaction).entries := by
        simp only [collected, openEntries, openTask, Option.getD_some]
        rfl
      simp only [Bool.false_eq_true, ↓reduceIte]
      refine ⟨?_, once.nonempty, ?_, ?_, ?_⟩
      · intro other member
        rcases List.mem_append.mp member with before | last
        · exact once.short other before
        · rw [List.mem_singleton.mp last]
          exact allowed called
      · intro task isOpen
        simp only [openTask, Option.some.injEq] at isOpen
        have isMember : transaction.transactionNr ∈ task.numbers := by
          rw [← isOpen]
          exact WriteTransactionsToBlockTask.mem_numbers_insert (Or.inl rfl)
        intro empty
        rw [WriteTransactionsToBlockTask.numbers, empty] at isMember
        cases isMember
      · rw [collectedNow]
        refine ((List.subperm_append_left _).mpr
          WriteTransactionsToBlockTask.insert_subperm).trans ?_
        rw [← List.append_assoc]
        exact (List.subperm_append_right _).mpr once.pushed
      · intro distinct
        dsimp only at distinct
        rw [List.map_append, List.nodup_append] at distinct
        obtain ⟨distinctBefore, _, apart⟩ := distinct
        have before := once.complete distinctBefore
        have fresh : transaction.transactionNr ∉
            (system.block.transactionWriteTask.getD .new).numbers := by
          intro member
          obtain ⟨entry, isEntry, same⟩ := List.mem_map.mp member
          have isPushed : entry ∈ system.pushed :=
            before.subset (List.mem_append_right _ isEntry)
          exact apart _ (List.mem_map_of_mem isPushed) _ (List.mem_singleton_self _) same
        rw [collectedNow]
        refine ((WriteTransactionsToBlockTask.insert_perm_of_fresh fresh).append_left _).trans ?_
        rw [← List.append_assoc]
        exact before.append_right _

/-- Handing the open task over moves its transactions to the tasks. -/
theorem CollectedOnce.handOver (once : CollectedOnce system) {block : Block} {phase : Phase}
    (noneOpen : block.transactionWriteTask = none) :
    CollectedOnce (system.handOver (system.block.transactionWriteTask, block) phase) := by
  have sameCollected :
      (system.handOver (system.block.transactionWriteTask, block) phase).collected =
        system.collected := by
    cases isOpen : system.block.transactionWriteTask with
    | none => simp [collected, openEntries, tasks, WriteSystem.handOver, isOpen, noneOpen]
    | some task => simp [collected, openEntries, tasks, WriteSystem.handOver, isOpen, noneOpen]
  refine ⟨once.short, ?_, ?_, sameCollected ▸ once.pushed, sameCollected ▸ once.complete⟩
  · intro task member
    simp only [tasks, WriteSystem.handOver, List.map_append, List.mem_append] at member
    rcases member with before | last
    · exact once.nonempty task before
    · obtain ⟨handed, isLast, rfl⟩ := List.mem_map.mp last
      obtain ⟨opened, isOpen, rfl⟩ := Option.map_eq_some_iff.mp (Option.mem_toList.mp isLast)
      exact once.openNonempty opened isOpen
  · intro task isOpen
    change block.transactionWriteTask = some task at isOpen
    rw [noneOpen] at isOpen
    cases isOpen

/-- No step of a task changes what is collected. -/
theorem CollectedOnce.of_tasks (once : CollectedOnce system) {next : WriteSystem}
    (tasks : next.tasks = system.tasks)
    (openTask : next.block.transactionWriteTask = system.block.transactionWriteTask)
    (pushed : next.pushed = system.pushed) : CollectedOnce next := by
  have sameCollected : next.collected = system.collected := by
    unfold collected openEntries
    rw [tasks, openTask]
  exact ⟨pushed ▸ once.short, tasks ▸ once.nonempty, openTask ▸ once.openNonempty,
    sameCollected ▸ pushed ▸ once.pushed, sameCollected ▸ pushed ▸ once.complete⟩

theorem Stored.handOver (stored : Stored genericHash initial written system)
    {handed : Option WriteTransactionsToBlockTask × Block} {phase : Phase}
    (unwritten : phase.written = false) :
    Stored genericHash initial written (system.handOver handed phase) := by
  have sameTasks : (system.handOver handed phase).writtenTasks = system.writtenTasks := by
    unfold writtenTasks WriteSystem.handOver
    rw [List.filter_append, List.map_append]
    cases handed.1 with
    | none => exact List.append_nil _
    | some task => simp [unwritten]
  exact ⟨sameTasks ▸ stored.written, stored.holds⟩

theorem Stored.setPhase (stored : Stored genericHash initial written system) {position : Nat}
    {handed : HandedTask} {phase : Phase} (found : system.handed[position]? = some handed)
    (same : phase.written = handed.phase.written) :
    Stored genericHash initial written (system.setPhase position phase) := by
  have sameTasks : (system.setPhase position phase).writtenTasks = system.writtenTasks :=
    map_filter_modify found same rfl
  exact ⟨sameTasks ▸ stored.written, stored.holds⟩

theorem Stored.setIndex (stored : Stored genericHash initial written system) (index : BlockIndex) :
    Stored genericHash initial written (system.setIndex index) :=
  ⟨stored.written, stored.holds⟩

/-- A task appends its whole batch, whatever the others have done. -/
theorem Stored.append (stored : Stored genericHash initial written system)
    (once : CollectedOnce system) {position : Nat} {handed : HandedTask}
    {lines : List (List UInt8)} {fileCursors : List (UInt64 × UInt32)}
    (found : system.handed[position]? = some handed) (started : handed.phase = .started)
    (collected : WriteTransactionsToBlockTask.collectLines 0 handed.task.entries = .ok lines)
    (allowed : Fits system (.append position)) :
    Stored genericHash initial (written ++ [handed.task])
      { system.setPhase position (.appended fileCursors) with
        blockFile := (Files.Block.appendLines genericHash lines system.blockFile).2 } := by
  have isTask : handed.task ∈ system.tasks := List.mem_of_getElem? (getElem?_tasks found)
  have linesEq : lines = handed.task.lines := WriteTransactionsToBlockTask.collectLines_ok collected
  subst linesEq
  have linesSome : handed.task.lines ≠ [] :=
    fun none => once.nonempty handed.task isTask (List.map_eq_nil_iff.mp none)
  have linesShort : ∀ line ∈ handed.task.lines, line.length < 2 ^ 16 := by
    intro line member
    obtain ⟨transaction, isEntry, rfl⟩ := List.mem_map.mp member
    refine once.short transaction (once.pushed.subset (List.mem_append_left _ ?_))
    exact List.mem_flatMap.mpr ⟨handed.task, isTask, isEntry⟩
  have appended := Files.Block.appendLines_holds stored.holds linesSome linesShort (by
    rw [Files.encodeLines_append, List.length_append, ← stored.holds.size]
    exact allowed handed found)
  have unwritten : handed.phase.written = false := started ▸ rfl
  have selected : ((system.setPhase position (.appended fileCursors)).handed.filter
      fun handed => handed.phase.written).Perm
      (system.handed.filter (fun handed => handed.phase.written) ++
        [⟨handed.task, .appended fileCursors⟩]) := filter_modify_perm found unwritten rfl
  have oneMore := selected.map HandedTask.task
  rw [List.map_append] at oneMore
  refine ⟨(stored.written.append_right _).trans oneMore.symm, ?_⟩
  rw [List.flatMap_append, ← List.append_assoc, List.flatMap_singleton]
  exact appended.1

/-- Every step keeps the account. -/
theorem accounts_step {next : WriteSystem} {event : WriteEvent}
    (accounts : CollectedOnce system ∧ ∃ written, Stored genericHash initial written system)
    (allowed : Fits system event)
    (taken : system.step genericHash getCommunityIdIndex event = some next) :
    CollectedOnce next ∧ ∃ written, Stored genericHash initial written next := by
  obtain ⟨once, written, stored⟩ := accounts
  cases step_sound taken with
  | push transaction => exact ⟨once.push allowed, written, stored.written, stored.holds⟩
  | expire transactionNr =>
      exact ⟨once.of_tasks rfl rfl rfl, written, stored.written, stored.holds⟩
  | timer =>
      refine ⟨?_, written, stored.handOver rfl⟩
      cases called : system.block.exitCalled with
      | true =>
          have stopped : system.block.callFromTimer = (none, system.block) := by
            unfold Block.callFromTimer
            exact if_pos called
          rw [stopped]
          exact once.of_tasks (by simp [tasks, WriteSystem.handOver]) rfl rfl
      | false =>
          have timed : system.block.callFromTimer =
              (system.block.transactionWriteTask,
                { system.block with transactionWriteTask := none }) := by
            unfold Block.callFromTimer
            exact if_neg (Bool.eq_false_iff.mp called)
          rw [timed]
          exact once.handOver rfl
  | exit => exact ⟨once.handOver rfl, written, stored.handOver rfl⟩
  | task target found taken =>
      cases taken with
      | append started collected =>
          exact ⟨once.of_tasks (setPhase_tasks _ _ _) rfl rfl, _,
            stored.append once found started collected allowed⟩
      | record appended recorded =>
          exact ⟨once.of_tasks (setPhase_tasks _ _ _) rfl rfl, written,
            (stored.setIndex _).setPhase found (appended ▸ rfl)⟩
      | recordFailed appended failed =>
          exact ⟨once.of_tasks (setPhase_tasks _ _ _) rfl rfl, written,
            (stored.setIndex _).setPhase found (appended ▸ rfl)⟩
      | quiet phase indexDisk sameWritten recorded notAppended =>
          have moved := stored.setPhase found sameWritten
          exact ⟨once.of_tasks (setPhase_tasks _ _ _) rfl rfl, written, moved.written, moved.holds⟩

/-- In every run, however the workers overtake one another and whichever tasks are lost or fail,
the block file holds the batches of the tasks that have written, each once and in one piece. No
transaction is in the file twice, and while all numbers differ, every pushed transaction is in the
file, in a task that has not written, or in the open task. -/
theorem writtenOnce_of_run {index : BlockIndex} {blockFile : Files.Block}
    {indexDisk : Option (List UInt8)} {events : List WriteEvent} {reached : WriteSystem}
    (holds : blockFile.Holds genericHash initial)
    (meets : StepsMeet (WriteSystem.step genericHash getCommunityIdIndex) Fits events
      (start index blockFile indexDisk))
    (run : runEvents (WriteSystem.step genericHash getCommunityIdIndex) events
      (start index blockFile indexDisk) = some reached) :
    ∃ written : List WriteTransactionsToBlockTask,
      written.Perm reached.writtenTasks ∧
      reached.blockFile.Holds genericHash
        (initial ++ written.flatMap WriteTransactionsToBlockTask.lines) ∧
      (written.flatMap WriteTransactionsToBlockTask.entries).Subperm reached.pushed ∧
      ((reached.pushed.map NodeTransactionEntry.transactionNr).Nodup →
        (written.flatMap WriteTransactionsToBlockTask.entries ++
          reached.unwrittenTasks.flatMap WriteTransactionsToBlockTask.entries ++
          reached.openEntries).Perm reached.pushed) := by
  have started : CollectedOnce (start index blockFile indexDisk) ∧
      ∃ written, Stored genericHash initial written (start index blockFile indexDisk) :=
    ⟨⟨nofun, nofun, nofun, List.Subperm.refl [], fun _ => List.Perm.refl []⟩, [],
      List.Perm.refl [], by rwa [List.flatMap_nil, List.append_nil]⟩
  obtain ⟨once, written, stored⟩ := invariant_of_stepsMeet
    (fun _ _ _ accounts allowed taken => accounts_step accounts allowed taken) started meets run
  have divided : (written ++ reached.unwrittenTasks).Perm reached.tasks :=
    (stored.written.append_right _).trans reached.writtenTasks_perm
  have spread := divided.flatMap_right WriteTransactionsToBlockTask.entries
  rw [List.flatMap_append] at spread
  refine ⟨written, stored.written, stored.holds, ?_, fun distinct =>
    (spread.append_right _).trans (once.complete distinct)⟩
  have inCollected : (written.flatMap WriteTransactionsToBlockTask.entries).Subperm
      reached.collected :=
    (List.sublist_append_left _ _).subperm.trans
      (spread.subperm.trans (List.sublist_append_left _ _).subperm)
  exact inCollected.trans once.pushed

/-- The second task overtakes the first, which is lost, while a third transaction waits. -/
theorem writtenOnce_overtaking :
    ∃ reached, runEvents (WriteSystem.step (fun _ => secondHash) noCommunities)
        [.push (exampleTransaction 1), .timer, .push (exampleTransaction 2), .timer,
          .push (exampleTransaction 3), .take 1, .append 1, .drop 0]
        (start BlockIndex.new (Files.Block.new []) none) = some reached ∧
      ∃ written : List WriteTransactionsToBlockTask,
        reached.blockFile.Holds (fun _ => secondHash)
          ([] ++ written.flatMap WriteTransactionsToBlockTask.lines) ∧
        (written.flatMap WriteTransactionsToBlockTask.entries ++
          reached.unwrittenTasks.flatMap WriteTransactionsToBlockTask.entries ++
          reached.openEntries).Perm
          [exampleTransaction 1, exampleTransaction 2, exampleTransaction 3] := by
  refine ⟨_, rfl, ?_⟩
  obtain ⟨written, _, holds, _, complete⟩ := @writtenOnce_of_run (fun _ => secondHash)
    noCommunities [] BlockIndex.new (Files.Block.new []) none
    [.push (exampleTransaction 1), .timer, .push (exampleTransaction 2), .timer,
      .push (exampleTransaction 3), .take 1, .append 1, .drop 0] _ ⟨rfl, rfl⟩
    (by
      refine StepsMeet.cons (fun _ => by decide) rfl (StepsMeet.cons trivial rfl
        (StepsMeet.cons (fun _ => by decide) rfl (StepsMeet.cons trivial rfl
          (StepsMeet.cons (fun _ => by decide) rfl (StepsMeet.cons trivial rfl
            (StepsMeet.cons ?_ rfl (StepsMeet.cons trivial rfl trivial)))))))
      intro handed found
      cases found
      decide) rfl
  exact ⟨written, holds, complete (by decide)⟩

end Cache.WriteSystem

end GradidoNode

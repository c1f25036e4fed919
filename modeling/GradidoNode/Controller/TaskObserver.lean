import GradidoNode.Tasks.WriteTransactionsToBlockTask

/-!
# The observer of write tasks

A write task that has left its block is observed until it is finished. Meanwhile its
transactions can be asked for here.
-/

namespace GradidoNode

open Library Tasks

namespace Controller

/-- `TaskObserver`. The tasks are found by their addresses. -/
structure TaskObserver where
  blockWriteTasks : OrderedMap Nat WriteTransactionsToBlockTask
  transactionsFromPendingTasks : OrderedMap UInt64 NodeTransactionEntry
  deriving DecidableEq

namespace TaskObserver

def new : TaskObserver := ⟨∅, ∅⟩

/-- It yields false if a task with the address is observed already. -/
def addBlockWriteTask (address : Nat) (blockWriteTask : WriteTransactionsToBlockTask)
    (observer : TaskObserver) : Bool × TaskObserver :=
  if observer.blockWriteTasks.contains address then (false, observer)
  else (true, {
    blockWriteTasks := observer.blockWriteTasks.insertNew address blockWriteTask
    transactionsFromPendingTasks := blockWriteTask.transactions.toList.foldl
      (fun transactions entry => transactions.insertNew entry.1 entry.2)
      observer.transactionsFromPendingTasks })

/-- It yields false if no task with the address is observed. -/
def removeBlockWriteTask (address : Nat) (observer : TaskObserver) : Bool × TaskObserver :=
  match observer.blockWriteTasks.find? address with
  | none => (false, observer)
  | some blockWriteTask => (true, {
      blockWriteTasks := observer.blockWriteTasks.erase address
      transactionsFromPendingTasks := blockWriteTask.transactions.toList.foldl
        (fun transactions entry => transactions.erase entry.1)
        observer.transactionsFromPendingTasks })

def isTransactionPending (transactionNr : UInt64) (observer : TaskObserver) : Bool :=
  observer.transactionsFromPendingTasks.contains transactionNr

/-- The first observed task that has the transaction, else what is known of it. -/
def getTransaction (transactionNr : UInt64) (observer : TaskObserver) :
    Option NodeTransactionEntry :=
  (observer.blockWriteTasks.values.findSome? fun task => task.getTransaction transactionNr).or
    (observer.transactionsFromPendingTasks.find? transactionNr)

/-- The pending transactions are those of the observed tasks, which share no number. -/
structure Consistent (observer : TaskObserver) : Prop where
  pending : ∀ transactionNr transaction,
    observer.transactionsFromPendingTasks.find? transactionNr = some transaction ↔
      ∃ address task, observer.blockWriteTasks.find? address = some task ∧
        task.getTransaction transactionNr = some transaction
  apart : ∀ address other task otherTask transactionNr,
    observer.blockWriteTasks.find? address = some task →
    observer.blockWriteTasks.find? other = some otherTask →
    transactionNr ∈ task.numbers → transactionNr ∈ otherTask.numbers → address = other

theorem consistent_new : Consistent new where
  pending transactionNr transaction := by
    constructor
    · intro found
      cases found
    · rintro ⟨_, _, found, _⟩
      cases found
  apart := nofun

section

variable {observer : TaskObserver} {address : Nat} {task : WriteTransactionsToBlockTask}

theorem Consistent.getTransaction_eq (consistent : Consistent observer) (transactionNr : UInt64) :
    observer.getTransaction transactionNr =
      observer.transactionsFromPendingTasks.find? transactionNr := by
  unfold getTransaction
  cases found : observer.blockWriteTasks.values.findSome?
      fun task => task.getTransaction transactionNr with
  | none => rfl
  | some transaction =>
      obtain ⟨task, member, inTask⟩ := List.exists_of_findSome?_eq_some found
      obtain ⟨entry, inMap, rfl⟩ := List.mem_map.mp member
      exact ((consistent.pending transactionNr transaction).mpr
        ⟨entry.1, entry.2, OrderedMap.mem_toList_iff.mp inMap, inTask⟩).symm

/-- A new task with new numbers is observed from now on. -/
theorem Consistent.add (consistent : Consistent observer)
    (newAddress : observer.blockWriteTasks.find? address = none)
    (newNumbers : ∀ other otherTask, observer.blockWriteTasks.find? other = some otherTask →
      ∀ transactionNr ∈ task.numbers, transactionNr ∉ otherTask.numbers) :
    Consistent (observer.addBlockWriteTask address task).2 ∧
      (observer.addBlockWriteTask address task).2.blockWriteTasks =
        observer.blockWriteTasks.insertNew address task := by
  have added : observer.addBlockWriteTask address task = (true, {
      blockWriteTasks := observer.blockWriteTasks.insertNew address task
      transactionsFromPendingTasks := task.transactions.toList.foldl
        (fun transactions entry => transactions.insertNew entry.1 entry.2)
        observer.transactionsFromPendingTasks }) := by
    unfold addBlockWriteTask OrderedMap.contains
    rw [newAddress, Option.isSome_none, if_neg Bool.false_ne_true]
  have absent : ∀ entry ∈ task.transactions.toList,
      observer.transactionsFromPendingTasks.find? entry.1 = none := by
    intro entry member
    rw [Option.eq_none_iff_forall_ne_some]
    intro transaction found
    obtain ⟨other, otherTask, observed, inTask⟩ := (consistent.pending _ _).mp found
    have inNew : entry.1 ∈ task.numbers :=
      List.mem_map.mpr ⟨entry.2, List.mem_map_of_mem member, (task.keyed entry member).symm⟩
    obtain ⟨inOther, same⟩ := WriteTransactionsToBlockTask.mem_entries_of_getTransaction inTask
    exact newNumbers other otherTask observed entry.1 inNew
      (List.mem_map.mpr ⟨transaction, inOther, same⟩)
  have tasks (other : Nat) (otherTask : WriteTransactionsToBlockTask) :
      (observer.blockWriteTasks.insertNew address task).find? other = some otherTask ↔
        (other = address ∧ otherTask = task) ∨
          observer.blockWriteTasks.find? other = some otherTask := by
    by_cases same : other = address
    · rw [same, OrderedMap.insertNew, OrderedMap.find?_alter_self, newAddress]
      simp [eq_comm]
    · rw [OrderedMap.insertNew, OrderedMap.find?_alter_of_ne _ same]
      simp [same]
  rw [added]
  refine ⟨⟨fun transactionNr transaction => ?_, ?_⟩, rfl⟩
  · dsimp only
    rw [OrderedMap.find?_foldl_insertNew task.transactions.keys_nodup absent, consistent.pending]
    constructor
    · rintro (⟨other, otherTask, observed, inTask⟩ | member)
      · exact ⟨other, otherTask, (tasks _ _).mpr (Or.inr observed), inTask⟩
      · exact ⟨address, task, (tasks _ _).mpr (Or.inl ⟨rfl, rfl⟩),
          OrderedMap.mem_toList_iff.mp member⟩
    · rintro ⟨other, otherTask, observed, inTask⟩
      rcases (tasks _ _).mp observed with ⟨rfl, rfl⟩ | before
      · exact Or.inr (OrderedMap.mem_toList_iff.mpr inTask)
      · exact Or.inl ⟨other, otherTask, before, inTask⟩
  · intro first second firstTask secondTask transactionNr observed alsoObserved inFirst inSecond
    rcases (tasks _ _).mp observed with ⟨rfl, rfl⟩ | before
    · rcases (tasks _ _).mp alsoObserved with ⟨rfl, rfl⟩ | alsoBefore
      · rfl
      · exact absurd inSecond (newNumbers second secondTask alsoBefore transactionNr inFirst)
    · rcases (tasks _ _).mp alsoObserved with ⟨rfl, rfl⟩ | alsoBefore
      · exact absurd inFirst (newNumbers first firstTask before transactionNr inSecond)
      · exact consistent.apart first second firstTask secondTask transactionNr before alsoBefore
          inFirst inSecond

/-- A removed task is not observed any more, and neither are its transactions. -/
theorem Consistent.remove (consistent : Consistent observer) (address : Nat) :
    Consistent (observer.removeBlockWriteTask address).2 ∧
      ∀ other, (observer.removeBlockWriteTask address).2.blockWriteTasks.find? other =
        if other = address then none else observer.blockWriteTasks.find? other := by
  unfold removeBlockWriteTask
  cases found : observer.blockWriteTasks.find? address with
  | none =>
      refine ⟨consistent, fun other => ?_⟩
      by_cases same : other = address
      · rw [if_pos same, same]
        exact found
      · rw [if_neg same]
  | some task =>
      have tasks (other : Nat) : (observer.blockWriteTasks.erase address).find? other =
          if other = address then none else observer.blockWriteTasks.find? other := by
        split
        · rename_i same
          rw [same, OrderedMap.find?_erase_self]
        · rename_i differ
          rw [OrderedMap.find?_erase_of_ne _ differ]
      have numbers : task.transactions.toList.map Prod.fst = task.numbers := by
        unfold WriteTransactionsToBlockTask.numbers WriteTransactionsToBlockTask.entries
          OrderedMap.values
        rw [List.map_map]
        exact List.map_congr_left task.keyed
      refine ⟨⟨fun transactionNr transaction => ?_, ?_⟩, tasks⟩
      · dsimp only
        rw [OrderedMap.find?_foldl_erase, numbers]
        constructor
        · intro kept
          split at kept
          · cases kept
          · rename_i notInTask
            obtain ⟨other, otherTask, observed, inTask⟩ := (consistent.pending _ _).mp kept
            refine ⟨other, otherTask, ?_, inTask⟩
            rw [tasks, if_neg]
            · exact observed
            · rintro rfl
              cases found.symm.trans observed
              obtain ⟨member, same⟩ :=
                WriteTransactionsToBlockTask.mem_entries_of_getTransaction inTask
              exact notInTask (List.mem_map.mpr ⟨transaction, member, same⟩)
        · rintro ⟨other, otherTask, observed, inTask⟩
          rw [tasks] at observed
          split at observed
          · cases observed
          · rename_i differ
            obtain ⟨member, same⟩ :=
              WriteTransactionsToBlockTask.mem_entries_of_getTransaction inTask
            rw [if_neg]
            · exact (consistent.pending _ _).mpr ⟨other, otherTask, observed, inTask⟩
            · intro inRemoved
              exact differ (consistent.apart other address otherTask task transactionNr observed
                found (List.mem_map.mpr ⟨transaction, member, same⟩) inRemoved)
      · intro first second firstTask secondTask transactionNr observed alsoObserved
        rw [tasks] at observed alsoObserved
        split at observed
        · cases observed
        · split at alsoObserved
          · cases alsoObserved
          · exact consistent.apart first second firstTask secondTask transactionNr observed
              alsoObserved

end

end TaskObserver

end Controller

end GradidoNode

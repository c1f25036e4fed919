import GradidoNode.Cache.BlockIndex
import GradidoNode.Files.Block

/-!
# Write tasks

A write task collects transactions while it is the open task of a block, and later
writes them in one go: the lines into the block file, their positions into the
index, the index into its file.
-/

namespace GradidoNode

open Library

namespace Tasks

/-- The map `mTransactions`. Every transaction is stored under its own number. -/
structure WriteTransactionsToBlockTask where
  transactions : OrderedMap UInt64 NodeTransactionEntry
  keyed : ∀ entry ∈ transactions.toList, entry.1 = entry.2.transactionNr
  deriving DecidableEq

namespace WriteTransactionsToBlockTask

/-- The constructor. -/
def new : WriteTransactionsToBlockTask := ⟨∅, nofun⟩

/-- The transactions in the order in which `run` visits them. -/
def entries (task : WriteTransactionsToBlockTask) : List NodeTransactionEntry :=
  task.transactions.values

/-- `std::map::insert`, which keeps a transaction already stored under the number. -/
def insert (task : WriteTransactionsToBlockTask) (transaction : NodeTransactionEntry) :
    WriteTransactionsToBlockTask where
  transactions := task.transactions.insertNew transaction.transactionNr transaction
  keyed := by
    intro entry member
    rw [OrderedMap.mem_toList_iff] at member
    by_cases same : entry.1 = transaction.transactionNr
    · rw [same, OrderedMap.insertNew, OrderedMap.find?_alter_self] at member
      cases present : task.transactions.find? transaction.transactionNr with
      | none =>
          rw [present] at member
          cases member
          exact same
      | some kept =>
          rw [present] at member
          cases member
          rw [same]
          exact task.keyed _ (OrderedMap.mem_toList_iff.mpr present)
    · rw [OrderedMap.insertNew, OrderedMap.find?_alter_of_ne _ same] at member
      exact task.keyed entry (OrderedMap.mem_toList_iff.mpr member)

def getTransaction (task : WriteTransactionsToBlockTask) (nr : UInt64) :
    Option NodeTransactionEntry :=
  task.transactions.find? nr

/-- `addSerializedTransaction`: the transaction is in the map before the index is asked. -/
def addSerializedTransaction (getCommunityIdIndex : String → Except Exception UInt32)
    (transaction : NodeTransactionEntry) :
    Throwing (WriteTransactionsToBlockTask × Cache.BlockIndex) Unit := fun (task, index) =>
  let added := Cache.BlockIndex.addIndicesForTransactionEntry getCommunityIdIndex transaction index
  (added.1, (task.insert transaction, added.2))

/-- The first loop of `run`. `lastTransactionNr` is an `int`, compared with 64-bit numbers. -/
def collectLines (lastTransactionNr : Int32) :
    List NodeTransactionEntry → Except Exception (List (List UInt8))
  | [] => .ok []
  | transactionEntry :: rest =>
      if lastTransactionNr > 0 ∧
          (lastTransactionNr + 1).toInt64.toUInt64 ≠ transactionEntry.transactionNr then
        .error (.blockchainOrder "out of order transaction")
      else
        match collectLines transactionEntry.transactionNr.toUInt32.toInt32 rest with
        | .ok lines => .ok (transactionEntry.serializedTransaction :: lines)
        | .error exception => .error exception

/-- The lines `run` hands to the block file. -/
def lines (task : WriteTransactionsToBlockTask) : List (List UInt8) :=
  task.entries.map NodeTransactionEntry.serializedTransaction

/-- Where the order check lets a batch through, its lines are those of its transactions. -/
theorem collectLines_ok {lastTransactionNr : Int32} {entries : List NodeTransactionEntry}
    {lines : List (List UInt8)} (success : collectLines lastTransactionNr entries = .ok lines) :
    lines = entries.map NodeTransactionEntry.serializedTransaction := by
  induction entries generalizing lastTransactionNr lines with
  | nil =>
      cases success
      rfl
  | cons transactionEntry rest ih =>
      unfold collectLines at success
      split at success
      · cases success
      · split at success
        · rename_i restLines collected
          cases success
          rw [ih collected, List.map_cons]
        · cases success

/-- A transaction behind all others joins the batch at its end. -/
theorem entries_insert {task : WriteTransactionsToBlockTask} {transaction : NodeTransactionEntry}
    (last : ∀ entry ∈ task.entries, entry.transactionNr < transaction.transactionNr) :
    (task.insert transaction).entries = task.entries ++ [transaction] := by
  have keysBelow : ∀ entry ∈ task.transactions.toList, entry.1 < transaction.transactionNr := by
    intro entry member
    rw [task.keyed entry member]
    exact last entry.2 (List.mem_map_of_mem member)
  simp only [entries, insert, OrderedMap.values, OrderedMap.insertNew,
    OrderedMap.toList_alter_of_forall_lt _ _ keysBelow, List.map_append, List.map_cons,
    List.map_nil, Option.getD_none]

@[simp] theorem entries_new : new.entries = [] := rfl

/-- The numbers of the collected transactions. -/
def numbers (task : WriteTransactionsToBlockTask) : List UInt64 :=
  task.entries.map NodeTransactionEntry.transactionNr

theorem mem_numbers {task : WriteTransactionsToBlockTask} {transactionNr : UInt64} :
    transactionNr ∈ task.numbers ↔ task.transactions.find? transactionNr ≠ none := by
  constructor
  · intro member
    obtain ⟨transaction, isEntry, rfl⟩ := List.mem_map.mp member
    obtain ⟨entry, inMap, rfl⟩ := List.mem_map.mp isEntry
    rw [← task.keyed entry inMap, OrderedMap.mem_toList_iff.mp inMap]
    exact Option.some_ne_none entry.2
  · intro present
    obtain ⟨transaction, found⟩ := Option.ne_none_iff_exists'.mp present
    have inMap := OrderedMap.mem_toList_iff.mpr found
    exact List.mem_map.mpr
      ⟨transaction, List.mem_map_of_mem inMap, (task.keyed _ inMap).symm⟩

theorem mem_entries {task : WriteTransactionsToBlockTask} {transaction : NodeTransactionEntry} :
    transaction ∈ task.entries ↔
      task.transactions.find? transaction.transactionNr = some transaction := by
  rw [← OrderedMap.mem_toList_iff]
  constructor
  · intro member
    obtain ⟨entry, inMap, rfl⟩ := List.mem_map.mp member
    rw [← task.keyed entry inMap]
    exact inMap
  · intro inMap
    exact List.mem_map_of_mem inMap

/-- What is found under a number is a transaction of the batch with that number. -/
theorem mem_entries_of_getTransaction {task : WriteTransactionsToBlockTask} {nr : UInt64}
    {transaction : NodeTransactionEntry} (found : task.getTransaction nr = some transaction) :
    transaction ∈ task.entries ∧ transaction.transactionNr = nr := by
  have inMap := OrderedMap.mem_toList_iff.mpr found
  exact ⟨List.mem_map_of_mem inMap, (task.keyed _ inMap).symm⟩

/-- A transaction under a new number joins the batch. -/
theorem mem_entries_insert {task : WriteTransactionsToBlockTask}
    {transaction other : NodeTransactionEntry}
    (fresh : ∀ entry ∈ task.entries, entry.transactionNr ≠ transaction.transactionNr) :
    other ∈ (task.insert transaction).entries ↔ other ∈ task.entries ∨ other = transaction := by
  have absent : task.transactions.find? transaction.transactionNr = none := by
    by_contra present
    obtain ⟨entry, isEntry, same⟩ := List.mem_map.mp (mem_numbers.mpr present)
    exact fresh entry isEntry same
  rw [mem_entries, mem_entries]
  change (task.transactions.alter transaction.transactionNr
    fun present => present.getD transaction).find? other.transactionNr = _ ↔ _
  by_cases same : other.transactionNr = transaction.transactionNr
  · rw [same, OrderedMap.find?_alter_self, absent]
    simp [eq_comm]
  · rw [OrderedMap.find?_alter_of_ne _ same]
    constructor
    · exact Or.inl
    · rintro (old | rfl)
      · exact old
      · exact absurd rfl same

theorem mem_numbers_insert {task : WriteTransactionsToBlockTask}
    {transaction : NodeTransactionEntry} {transactionNr : UInt64}
    (either : transactionNr = transaction.transactionNr ∨ transactionNr ∈ task.numbers) :
    transactionNr ∈ (task.insert transaction).numbers := by
  rw [mem_numbers]
  change (task.transactions.alter transaction.transactionNr
    fun present => present.getD transaction).find? transactionNr ≠ none
  by_cases same : transactionNr = transaction.transactionNr
  · rw [same, OrderedMap.find?_alter_self]
    exact Option.some_ne_none _
  · rw [OrderedMap.find?_alter_of_ne _ same]
    exact mem_numbers.mp (either.resolve_left same)

end WriteTransactionsToBlockTask

end Tasks

end GradidoNode

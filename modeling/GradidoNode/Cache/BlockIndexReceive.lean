import GradidoNode.Cache.BlockIndexFile

/-!
# What a block index receives

Adding indices that are accepted has two effects: an entry at the end of its month, and a
file cursor. Whole sequences of additions are folds of the two.
-/

namespace GradidoNode

open Library

namespace Cache

namespace BlockIndex

/-- The index with an entry for the transaction, which has no file cursor yet. -/
def withEntry (indices : TransactionIndices) (index : BlockIndex) : BlockIndex :=
  { index.widen indices.transactionNr with
    dirty := true
    yearMonthAddressIndexEntries :=
      (index.alterMonth indices.year indices.month
        (· ++ [entryOf indices])).yearMonthAddressIndexEntries }

/-- The index with a file cursor for a transaction that has none. -/
def withFileCursor (transactionNr : UInt64) (fileCursor : Int32) (index : BlockIndex) :
    BlockIndex :=
  { index with
    dirty := true
    transactionNrsFileCursors :=
      index.transactionNrsFileCursors.insertNew transactionNr fileCursor }

/-- Creating the month before an entry is appended to it makes no difference. -/
theorem alterMonth_alterMonth (index : BlockIndex) (year : Int16) (month : UInt8)
    (change : List BlockIndexEntry → List BlockIndexEntry) :
    (index.alterMonth year month id).alterMonth year month change =
      index.alterMonth year month change := by
  unfold alterMonth
  dsimp only
  rw [OrderedMap.alter_alter]
  congr 1
  refine congrArg (index.yearMonthAddressIndexEntries.alter year) (funext fun months => ?_)
  rw [Option.getD_some, OrderedMap.alter_alter]
  rfl

/-- The last entry of the month has a smaller number. -/
def BehindMonth (index : BlockIndex) (indices : TransactionIndices) : Prop :=
  ∀ back ∈ (index.monthList indices.year indices.month).getLast?,
    back.transactionNr < indices.transactionNr

theorem monthList_alterMonth_id (index : BlockIndex) (year : Int16) (month : UInt8) :
    (index.alterMonth year month id).monthList year month = index.monthList year month := by
  unfold monthList alterMonth
  rw [OrderedMap.find?_alter_self, Option.getD_some, OrderedMap.find?_alter_self]
  rfl

/-- The outcome of recording a file cursor, without the result that nobody looks at. -/
def ignoreResult (outcome : Except Exception Bool × BlockIndex) :
    Except Exception Unit × BlockIndex :=
  (outcome.1.map fun _ => (), outcome.2)

/-- Indices behind their month are added as an entry; what is left to do is to record the
file cursor. -/
theorem addIndicesForTransaction_eq {indices : TransactionIndices} {index : BlockIndex}
    (count : ¬ indices.addressIndiceCount > 256) (behind : index.BehindMonth indices) :
    addIndicesForTransaction indices index =
      ignoreResult (addFileCursorForTransaction indices.transactionNr indices.fileCursor
        (index.withEntry indices)) := by
  have appended : (((({ index with dirty := true } : BlockIndex).widen
      indices.transactionNr).alterMonth indices.year indices.month id).alterMonth indices.year
        indices.month (· ++ [entryOf indices])) = index.withEntry indices := by
    rw [alterMonth_alterMonth]
    rfl
  have pushed : addIndicesForTransaction.pushEntry indices (entryOf indices)
      ((({ index with dirty := true } : BlockIndex).widen indices.transactionNr).alterMonth
        indices.year indices.month id) =
      ignoreResult (addFileCursorForTransaction indices.transactionNr indices.fileCursor
        (index.withEntry indices)) := by
    unfold addIndicesForTransaction.pushEntry
    dsimp only
    rw [appended]
    rcases addFileCursorForTransaction indices.transactionNr indices.fileCursor
      (index.withEntry indices) with ⟨exception | result, next⟩
    · rfl
    · rfl
  unfold addIndicesForTransaction
  dsimp only
  rw [if_neg count, monthList_alterMonth_id]
  split
  · rename_i back isLast
    have notBehind : ¬ back.transactionNr ≥ (entryOf indices).transactionNr :=
      not_le_of_gt (behind back isLast)
    rw [if_neg notBehind]
    exact pushed
  · exact pushed

/-- A first file cursor that is not refused is recorded. -/
theorem addFileCursorForTransaction_eq {transactionNr : UInt64} {fileCursor : Int32}
    {index : BlockIndex} (nonnegative : ¬ fileCursor < 0)
    (accepted : ¬ (fileCursor = 0 ∧ transactionNr > index.minTransactionNr))
    (fresh : index.transactionNrsFileCursors.find? transactionNr = none) :
    addFileCursorForTransaction transactionNr fileCursor index =
      (.ok true, index.withFileCursor transactionNr fileCursor) := by
  unfold addFileCursorForTransaction
  simp only [nonnegative, accepted, fresh, ↓reduceIte]
  rfl

/-- The file cursor of a transaction that has one is recorded a second time without effect. -/
theorem addFileCursorForTransaction_again {transactionNr : UInt64} {fileCursor : Int32}
    {index : BlockIndex} (nonnegative : ¬ fileCursor < 0)
    (accepted : ¬ (fileCursor = 0 ∧ transactionNr > index.minTransactionNr))
    (dirty : index.dirty = true)
    (present : index.transactionNrsFileCursors.find? transactionNr = some fileCursor) :
    ∃ result, addFileCursorForTransaction transactionNr fileCursor index = (.ok result, index) := by
  have same : { index with dirty := true } = index := by
    cases index
    cases dirty
    rfl
  have sameCursors := OrderedMap.set_of_find? present
  unfold addFileCursorForTransaction
  simp only [nonnegative, accepted, present, same, ↓reduceIte]
  by_cases zero : fileCursor = 0
  · rw [if_pos zero, sameCursors, same]
    exact ⟨true, rfl⟩
  · rw [if_neg zero]
    exact ⟨false, rfl⟩

/-- The index after accepted indices with a file cursor. -/
def received (index : BlockIndex) (indices : TransactionIndices) : BlockIndex :=
  (index.withEntry indices).withFileCursor indices.transactionNr indices.fileCursor

/-- All entries and all file cursors are those of smaller numbers. -/
structure Below (index : BlockIndex) (transactionNr : UInt64) : Prop where
  entries : ∀ entry ∈ index.allEntries, entry.transactionNr < transactionNr
  fileCursors : ∀ other, index.transactionNrsFileCursors.find? other ≠ none →
    other < transactionNr

theorem below_new (transactionNr : UInt64) : new.Below transactionNr where
  entries := nofun
  fileCursors _ present := absurd rfl present

theorem Below.behindMonth {index : BlockIndex} {indices : TransactionIndices}
    (below : index.Below indices.transactionNr) : index.BehindMonth indices := by
  intro back isLast
  exact below.entries back (mem_allEntries_of_mem_monthList (List.mem_of_getLast? isLast))

theorem Below.received {index : BlockIndex} {indices : TransactionIndices}
    {transactionNr : UInt64} (below : index.Below indices.transactionNr)
    (less : indices.transactionNr < transactionNr) :
    (index.received indices).Below transactionNr where
  entries entry member := by
    have inMonth : entry ∈ (index.alterMonth indices.year indices.month
        (· ++ [entryOf indices])).allEntries := member
    rcases mem_allEntries_alterMonth inMonth with old | changed
    · exact lt_trans (below.entries entry old) less
    · rcases List.mem_append.mp changed with old | new
      · exact lt_trans (below.entries entry (mem_allEntries_of_mem_monthList old)) less
      · rw [List.mem_singleton.mp new]
        exact less
  fileCursors other present := by
    by_cases same : other = indices.transactionNr
    · rw [same]
      exact less
    · apply lt_trans (below.fileCursors other ?_) less
      rwa [← OrderedMap.find?_alter_of_ne index.transactionNrsFileCursors same]

/-- The file cursor is one that the index accepts for the next transaction. -/
def AcceptsFileCursor (index : BlockIndex) (indices : TransactionIndices) : Prop :=
  ¬ indices.fileCursor < 0 ∧ ¬ (indices.fileCursor = 0 ∧
    indices.transactionNr > (index.widen indices.transactionNr).minTransactionNr)

theorem addIndicesForTransaction_received {indices : TransactionIndices} {index : BlockIndex}
    (count : ¬ indices.addressIndiceCount > 256) (below : index.Below indices.transactionNr)
    (accepts : index.AcceptsFileCursor indices) :
    addIndicesForTransaction indices index = (.ok (), index.received indices) := by
  have fresh : index.transactionNrsFileCursors.find? indices.transactionNr = none := by
    by_contra present
    exact lt_irrefl _ (below.fileCursors _ present)
  have recorded := @addFileCursorForTransaction_eq indices.transactionNr indices.fileCursor
    (index.withEntry indices) accepts.1 accepts.2 fresh
  rw [addIndicesForTransaction_eq count below.behindMonth, recorded]
  rfl

/-- Deliveries with ascending numbers are all received, if only the first one may have the
file cursor 0. -/
theorem deliver_eq_foldl {delivered : List TransactionIndices} {index : BlockIndex}
    (counts : ∀ indices ∈ delivered, ¬ indices.addressIndiceCount > 256)
    (nonnegative : ∀ indices ∈ delivered, ¬ indices.fileCursor < 0)
    (ascending : delivered.Pairwise fun first second =>
      first.transactionNr < second.transactionNr ∧ second.fileCursor ≠ 0)
    (below : ∀ indices ∈ delivered, index.Below indices.transactionNr)
    (first : ∀ indices ∈ delivered.head?, index.AcceptsFileCursor indices) :
    Files.deliver addIndicesForTransaction delivered index =
      (.ok (), delivered.foldl received index) := by
  induction delivered generalizing index with
  | nil => rfl
  | cons indices rest ih =>
      obtain ⟨headBefore, restAscending⟩ := List.pairwise_cons.mp ascending
      have headBelow := below indices (List.mem_cons_self ..)
      have headReceived := addIndicesForTransaction_received (counts indices (List.mem_cons_self ..))
        headBelow (first indices rfl)
      unfold Files.deliver
      rw [headReceived]
      dsimp only
      rw [List.foldl_cons]
      apply ih
      · exact fun other member => counts other (List.mem_cons_of_mem _ member)
      · exact fun other member => nonnegative other (List.mem_cons_of_mem _ member)
      · exact restAscending
      · exact fun other member => headBelow.received (headBefore other member).1
      · intro next isNext
        have inRest := List.mem_of_head? isNext
        exact ⟨nonnegative next (List.mem_cons_of_mem _ inRest),
          fun refused => (headBefore next inRest).2 refused.1⟩

/-- Where an entry is placed. -/
def placed (indices : TransactionIndices) : Int16 × UInt8 × BlockIndexEntry :=
  (indices.year, indices.month, entryOf indices)

/-- Append an entry to a month of a year. -/
def appendToMonth (item : UInt8 × BlockIndexEntry) (months : MonthEntries) : MonthEntries :=
  months.alter item.1 fun entries => entries.getD [] ++ [item.2]

/-- The entries after deliveries are the placed ones, one after the other. -/
theorem entries_foldl_received (delivered : List TransactionIndices) (index : BlockIndex) :
    (delivered.foldl received index).yearMonthAddressIndexEntries =
      (delivered.map placed).foldl
        (fun years item => years.alter item.1 fun months => appendToMonth item.2 (months.getD ∅))
        index.yearMonthAddressIndexEntries := by
  induction delivered generalizing index with
  | nil => rfl
  | cons indices rest ih =>
      rw [List.foldl_cons, List.map_cons, List.foldl_cons, ih]
      rfl

theorem fileCursors_foldl_received (delivered : List TransactionIndices) (index : BlockIndex) :
    (delivered.foldl received index).transactionNrsFileCursors =
      (delivered.map fun indices => (indices.transactionNr, indices.fileCursor)).foldl
        (fun fileCursors entry => fileCursors.insertNew entry.1 entry.2)
        index.transactionNrsFileCursors := by
  induction delivered generalizing index with
  | nil => rfl
  | cons indices rest ih =>
      rw [List.foldl_cons, List.map_cons, List.foldl_cons, ih]
      rfl

/-- With ascending numbers, the greatest one is the last. -/
theorem maxTransactionNr_foldl_received {delivered : List TransactionIndices} {index : BlockIndex}
    (ascending : delivered.Pairwise fun first second => first.transactionNr < second.transactionNr)
    (above : ∀ indices ∈ delivered, index.maxTransactionNr ≤ indices.transactionNr) :
    (delivered.foldl received index).maxTransactionNr =
      ((delivered.map TransactionIndices.transactionNr).getLast?).getD index.maxTransactionNr := by
  induction delivered generalizing index with
  | nil => rfl
  | cons indices rest ih =>
      obtain ⟨headBefore, restAscending⟩ := List.pairwise_cons.mp ascending
      have here : (index.received indices).maxTransactionNr = indices.transactionNr := by
        change (if indices.transactionNr > index.maxTransactionNr then indices.transactionNr
          else index.maxTransactionNr) = indices.transactionNr
        have atLeast := above indices (List.mem_cons_self ..)
        split
        · rfl
        · rename_i notAbove
          exact le_antisymm atLeast (not_lt.mp notAbove)
      have later := @ih (index.received indices) restAscending
        fun other member => here ▸ le_of_lt (headBefore other member)
      rw [List.foldl_cons, later, here, List.map_cons, List.getLast?_cons]
      rfl

/-- The lowest number stays once it is not 0. -/
theorem minTransactionNr_foldl_received_of_ne {delivered : List TransactionIndices}
    {index : BlockIndex} (nonzero : index.minTransactionNr ≠ 0)
    (above : ∀ indices ∈ delivered, index.minTransactionNr ≤ indices.transactionNr) :
    (delivered.foldl received index).minTransactionNr = index.minTransactionNr := by
  induction delivered generalizing index with
  | nil => rfl
  | cons indices rest ih =>
      have atLeast := above indices (List.mem_cons_self ..)
      have here : (index.received indices).minTransactionNr = index.minTransactionNr :=
        if_neg fun lower => lower.elim nonzero (not_lt_of_ge atLeast)
      rw [List.foldl_cons, ih (here.symm ▸ nonzero), here]
      exact fun other member => here.symm ▸ above other (List.mem_cons_of_mem _ member)

/-- From an empty index and ascending numbers, the lowest number is the first that is
not 0. -/
theorem minTransactionNr_foldl_received {delivered : List TransactionIndices} {index : BlockIndex}
    (ascending : delivered.Pairwise fun first second => first.transactionNr < second.transactionNr)
    (zero : index.minTransactionNr = 0) :
    (delivered.foldl received index).minTransactionNr =
      ((delivered.map TransactionIndices.transactionNr).find? (· ≠ 0)).getD 0 := by
  induction delivered generalizing index with
  | nil => exact zero
  | cons indices rest ih =>
      obtain ⟨headBefore, restAscending⟩ := List.pairwise_cons.mp ascending
      have here : (index.received indices).minTransactionNr = indices.transactionNr :=
        if_pos (Or.inl zero)
      rw [List.foldl_cons, List.map_cons, List.find?_cons]
      by_cases isZero : indices.transactionNr = 0
      · rw [ih restAscending (here.trans isZero), decide_eq_false (not_not.mpr isZero)]
      · rw [minTransactionNr_foldl_received_of_ne (here.symm ▸ isZero)
          fun other member => here.symm ▸ le_of_lt (headBefore other member), here,
          decide_eq_true isZero]
        rfl

end BlockIndex

end Cache

end GradidoNode

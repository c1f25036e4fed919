import GradidoNode.Cache.BlockIndexRoundTrip
import GradidoNode.Cache.BlockInitCorrect
import GradidoNode.Cache.FileCursors

/-!
# The index of a block, built in two ways

While a block is filled, its index gets an entry with every push and a file cursor with
every line written. Opening the block without an index file builds the index from the lines.
Both are the same folds over the same transactions.
-/

namespace GradidoNode

open Library Tasks

namespace Cache

namespace BlockIndex

section Transactions

variable (getCommunityIdIndex : String → Except Exception UInt32)

/-- The community index of a transaction whose community is known. -/
def communityIndexOf (transaction : NodeTransactionEntry) : UInt32 :=
  if transaction.coinCommunityId.isEmpty then 0
  else ((getCommunityIdIndex transaction.coinCommunityId).toOption).getD 0

/-- What the index gets for a transaction. -/
def indicesOfTransaction (transaction : NodeTransactionEntry) : TransactionIndices :=
  indicesOf transaction (communityIndexOf getCommunityIdIndex transaction)

/-- The community of the transaction is known, and it has at most 256 addresses, counted in
16 bits. -/
def Accepts (transaction : NodeTransactionEntry) : Prop :=
  (transaction.coinCommunityId.isEmpty = true ∨ ∃ coinCommunityIndex,
    getCommunityIdIndex transaction.coinCommunityId = .ok coinCommunityIndex) ∧
  ¬ UInt16.ofNat transaction.addressIndices.length > 256

variable {getCommunityIdIndex}

/-- An accepted transaction's coin community has its number. -/
theorem Accepts.looked {transaction : NodeTransactionEntry}
    (accepts : Accepts getCommunityIdIndex transaction) :
    (if transaction.coinCommunityId.isEmpty then Except.ok 0
      else getCommunityIdIndex transaction.coinCommunityId) =
        Except.ok (communityIndexOf getCommunityIdIndex transaction) := by
  unfold communityIndexOf
  by_cases own : transaction.coinCommunityId.isEmpty = true
  · rw [if_pos own, if_pos own]
  · obtain ⟨coinCommunityIndex, found⟩ := accepts.1.resolve_left own
    rw [if_neg own, if_neg own, found]
    rfl

/-- An entry widens the range itself. -/
theorem withEntry_widen (index : BlockIndex) (indices : TransactionIndices) :
    (index.widen indices.transactionNr).withEntry indices = index.withEntry indices := by
  unfold withEntry
  rw [widen_widen]
  rfl

/-- A transaction that has not been written yet enters with an entry alone. -/
theorem addIndicesForTransactionEntry_withEntry {transaction : NodeTransactionEntry}
    {index : BlockIndex} (accepts : Accepts getCommunityIdIndex transaction)
    (unwritten : transaction.fileCursor < 0)
    (behind : index.BehindMonth (indicesOfTransaction getCommunityIdIndex transaction)) :
    addIndicesForTransactionEntry getCommunityIdIndex transaction index =
      (.ok (), index.withEntry (indicesOfTransaction getCommunityIdIndex transaction)) := by
  have notWritten : ¬ transaction.fileCursor ≥ 0 := Int32.not_le.mpr unwritten
  have added := @addIndicesForTransaction_eq (indicesOfTransaction getCommunityIdIndex transaction)
    (index.widen transaction.transactionNr) accepts.2 behind
  have ignored : addFileCursorForTransaction transaction.transactionNr transaction.fileCursor
      (index.withEntry (indicesOfTransaction getCommunityIdIndex transaction)) =
        (.ok false, index.withEntry (indicesOfTransaction getCommunityIdIndex transaction)) :=
    if_pos unwritten
  unfold addIndicesForTransactionEntry
  dsimp only
  rw [if_neg notWritten, accepts.looked]
  refine added.trans ?_
  rw [show (index.widen transaction.transactionNr).withEntry
      (indicesOfTransaction getCommunityIdIndex transaction) = _ from withEntry_widen index _]
  exact congrArg ignoreResult ignored

/-- A transaction read back from the block file enters with an entry and its file cursor,
which is recorded twice. -/
theorem addIndicesForTransactionEntry_received {transaction : NodeTransactionEntry}
    {index : BlockIndex} (accepts : Accepts getCommunityIdIndex transaction)
    (below : index.Below transaction.transactionNr)
    (acceptsFileCursor : index.AcceptsFileCursor
      (indicesOfTransaction getCommunityIdIndex transaction)) :
    addIndicesForTransactionEntry getCommunityIdIndex transaction index =
      (.ok (), index.received (indicesOfTransaction getCommunityIdIndex transaction)) := by
  have nonnegative : ¬ transaction.fileCursor < 0 := acceptsFileCursor.1
  have accepted : ¬ (transaction.fileCursor = 0 ∧ transaction.transactionNr >
    (index.widen transaction.transactionNr).minTransactionNr) := acceptsFileCursor.2
  have fresh : index.transactionNrsFileCursors.find? transaction.transactionNr = none := by
    by_contra present
    exact lt_irrefl _ (below.fileCursors _ present)
  have recorded := @addFileCursorForTransaction_eq transaction.transactionNr transaction.fileCursor
    (index.widen transaction.transactionNr) nonnegative accepted fresh
  have behind : ((index.widen transaction.transactionNr).withFileCursor transaction.transactionNr
      transaction.fileCursor).BehindMonth (indicesOfTransaction getCommunityIdIndex transaction) := by
    intro back isLast
    have inMonth : back ∈ index.monthList transaction.year transaction.month :=
      List.mem_of_getLast? isLast
    exact below.entries back (mem_allEntries_of_mem_monthList inMonth)
  have added := @addIndicesForTransaction_eq (indicesOfTransaction getCommunityIdIndex transaction)
    _ accepts.2 behind
  have reached : ((index.widen transaction.transactionNr).withFileCursor transaction.transactionNr
      transaction.fileCursor).withEntry (indicesOfTransaction getCommunityIdIndex transaction) =
        index.received (indicesOfTransaction getCommunityIdIndex transaction) := by
    exact withEntry_widen
      (index.withFileCursor transaction.transactionNr transaction.fileCursor)
      (indicesOfTransaction getCommunityIdIndex transaction)
  have present : (index.received (indicesOfTransaction getCommunityIdIndex
      transaction)).transactionNrsFileCursors.find? transaction.transactionNr =
        some transaction.fileCursor := by
    change (index.transactionNrsFileCursors.insertNew transaction.transactionNr
      transaction.fileCursor).find? transaction.transactionNr = _
    rw [OrderedMap.insertNew, OrderedMap.find?_alter_self, fresh]
    rfl
  rw [reached] at added
  obtain ⟨result, again⟩ := @addFileCursorForTransaction_again transaction.transactionNr
    transaction.fileCursor (index.received (indicesOfTransaction getCommunityIdIndex transaction))
    nonnegative accepted rfl present
  unfold addIndicesForTransactionEntry
  dsimp only
  rw [if_pos (Int32.not_lt.mp nonnegative), recorded, accepts.looked]
  exact added.trans (congrArg ignoreResult again)

end Transactions

/-- The same entries and the same range of transaction numbers. -/
structure SameEntries (first second : BlockIndex) : Prop where
  entries : first.yearMonthAddressIndexEntries = second.yearMonthAddressIndexEntries
  maxTransactionNr : first.maxTransactionNr = second.maxTransactionNr
  minTransactionNr : first.minTransactionNr = second.minTransactionNr

/-- Nothing has to change. -/
theorem SameEntries.refl (index : BlockIndex) : SameEntries index index := ⟨rfl, rfl, rfl⟩

/-- Two changes in a row. -/
theorem SameEntries.trans {first second third : BlockIndex} (left : SameEntries first second)
    (right : SameEntries second third) : SameEntries first third :=
  ⟨left.entries.trans right.entries, left.maxTransactionNr.trans right.maxTransactionNr,
    left.minTransactionNr.trans right.minTransactionNr⟩

/-- The same months have the same entries. -/
theorem SameEntries.allEntries {first second : BlockIndex} (same : SameEntries first second) :
    first.allEntries = second.allEntries := by
  unfold BlockIndex.allEntries
  rw [same.entries]

/-- The file cursor that indices carry is not part of the entry. -/
theorem SameEntries.withEntry {first second : BlockIndex} {indices others : TransactionIndices}
    (same : SameEntries first second) (samePlace : placed indices = placed others) :
    SameEntries (first.withEntry indices) (second.withEntry others) := by
  have sameYear : indices.year = others.year := congrArg Prod.fst samePlace
  have sameMonth : indices.month = others.month := congrArg (fun item => item.2.1) samePlace
  have sameEntry : entryOf indices = entryOf others := congrArg (fun item => item.2.2) samePlace
  have sameNr : indices.transactionNr = others.transactionNr :=
    congrArg BlockIndexEntry.transactionNr sameEntry
  constructor
  · unfold BlockIndex.withEntry alterMonth
    dsimp only
    rw [same.entries, sameYear, sameMonth, sameEntry]
  · unfold BlockIndex.withEntry widen
    dsimp only
    rw [same.maxTransactionNr, sameNr]
  · unfold BlockIndex.withEntry widen
    dsimp only
    rw [same.minTransactionNr, sameNr]

/-- A file cursor adds no entry. -/
theorem sameEntries_withFileCursor (transactionNr : UInt64) (fileCursor : Int32)
    (index : BlockIndex) : SameEntries (index.withFileCursor transactionNr fileCursor) index :=
  ⟨rfl, rfl, rfl⟩

/-- Recording one adds none either. -/
theorem sameEntries_addFileCursorForTransaction {transactionNr : UInt64} {fileCursor : Int32}
    {index next : BlockIndex} {outcome : Except Exception Bool}
    (recorded : addFileCursorForTransaction transactionNr fileCursor index = (outcome, next)) :
    SameEntries next index := by
  have frame := addFileCursorForTransaction_frame transactionNr fileCursor index
  rw [recorded] at frame
  exact ⟨frame.1, frame.2.1, frame.2.2⟩

section Incremental

variable (getCommunityIdIndex : String → Except Exception UInt32)

/-- The index with an entry for every transaction, before anything is written. -/
def unwrittenIndex (pushed : List NodeTransactionEntry) : BlockIndex :=
  pushed.foldl (fun index transaction =>
    index.withEntry (indicesOfTransaction getCommunityIdIndex transaction)) new

/-- A further transaction adds its entry. -/
theorem unwrittenIndex_append (pushed : List NodeTransactionEntry)
    (transaction : NodeTransactionEntry) :
    unwrittenIndex getCommunityIdIndex (pushed ++ [transaction]) =
      (unwrittenIndex getCommunityIdIndex pushed).withEntry
        (indicesOfTransaction getCommunityIdIndex transaction) := by
  unfold unwrittenIndex
  rw [List.foldl_append]
  rfl

/-- An entry put into its month is one more entry of the index. -/
theorem allEntries_withEntry_perm (index : BlockIndex) (indices : TransactionIndices) :
    (index.withEntry indices).allEntries.Perm (index.allEntries ++ [entryOf indices]) :=
  @allEntries_alterMonth_perm index indices.year indices.month (· ++ [entryOf indices])
    [entryOf indices] fun _ => rfl

/-- The index holds the numbers of the transactions. -/
theorem numbers_unwrittenIndex_perm (pushed : List NodeTransactionEntry) :
    ((unwrittenIndex getCommunityIdIndex pushed).allEntries.map
      BlockIndexEntry.transactionNr).Perm (pushed.map NodeTransactionEntry.transactionNr) := by
  induction pushed using List.reverseRecOn with
  | nil => exact List.Perm.refl _
  | append_singleton before transaction ih =>
      rw [unwrittenIndex_append, List.map_append]
      refine ((allEntries_withEntry_perm _ _).map _).trans ?_
      rw [List.map_append]
      exact ih.append (List.Perm.refl _)

/-- With ascending numbers that are not 0, the lowest is the first. -/
theorem minTransactionNr_unwrittenIndex {first : NodeTransactionEntry}
    {rest : List NodeTransactionEntry} (positive : 0 < first.transactionNr)
    (ascending : (first :: rest).Pairwise fun first second =>
      first.transactionNr < second.transactionNr) :
    (unwrittenIndex getCommunityIdIndex (first :: rest)).minTransactionNr =
      first.transactionNr := by
  induction rest using List.reverseRecOn with
  | nil =>
      have unset : new.minTransactionNr = 0 ∨ first.transactionNr < new.minTransactionNr :=
        Or.inl rfl
      change (if new.minTransactionNr = 0 ∨ first.transactionNr < new.minTransactionNr then
        first.transactionNr else new.minTransactionNr) = first.transactionNr
      exact if_pos unset
  | append_singleton before transaction ih =>
      rw [← List.cons_append] at ascending
      have pairs := List.pairwise_append.mp ascending
      have least := ih pairs.1
      have above := pairs.2.2 first (List.mem_cons_self ..) transaction (List.mem_singleton_self _)
      have kept : ¬ ((unwrittenIndex getCommunityIdIndex (first :: before)).minTransactionNr = 0 ∨
          transaction.transactionNr <
            (unwrittenIndex getCommunityIdIndex (first :: before)).minTransactionNr) := by
        rw [least, not_or]
        exact ⟨ne_of_gt positive, not_lt_of_gt above⟩
      rw [← List.cons_append, unwrittenIndex_append]
      exact (if_neg kept).trans least

end Incremental

end BlockIndex

section Rebuilt

open BlockIndex

/-- Rebuilt entries with ascending numbers are all received, if only the first one may have
the file cursor 0. -/
theorem indexEntries_eq_foldl {getCommunityIdIndex : String → Except Exception UInt32}
    {rest : List NodeTransactionEntry} {index : BlockIndex} {prevId : UInt64}
    (accepts : ∀ entry ∈ rest, Accepts getCommunityIdIndex entry)
    (nonnegative : ∀ entry ∈ rest, ¬ entry.fileCursor < 0)
    (ascending : rest.Pairwise fun first second =>
      first.transactionNr < second.transactionNr ∧ second.fileCursor ≠ 0)
    (above : ∀ entry ∈ rest, prevId < entry.transactionNr)
    (below : ∀ entry ∈ rest, index.Below entry.transactionNr)
    (first : ∀ entry ∈ rest.head?,
      index.AcceptsFileCursor (indicesOfTransaction getCommunityIdIndex entry)) :
    indexEntries getCommunityIdIndex rest prevId index =
      (.ok (), rest.foldl (fun index entry =>
        index.received (indicesOfTransaction getCommunityIdIndex entry)) index) := by
  induction rest generalizing index prevId with
  | nil => rfl
  | cons entry rest ih =>
      obtain ⟨headBefore, restAscending⟩ := List.pairwise_cons.mp ascending
      have isHead : entry ∈ entry :: rest := List.mem_cons_self ..
      have headBelow := below entry isHead
      have added := addIndicesForTransactionEntry_received (accepts entry isHead) headBelow
        (first entry rfl)
      rw [indexEntries, if_neg (not_le_of_gt (above entry isHead)), added]
      dsimp only
      rw [List.foldl_cons]
      apply ih
      · exact fun other member => accepts other (List.mem_cons_of_mem _ member)
      · exact fun other member => nonnegative other (List.mem_cons_of_mem _ member)
      · exact restAscending
      · exact fun other member => (headBefore other member).1
      · exact fun other member => Below.received
          (show index.Below (indicesOfTransaction getCommunityIdIndex entry).transactionNr from
            headBelow) (headBefore other member).1
      · intro next isNext
        have inRest := List.mem_of_head? isNext
        exact ⟨nonnegative next (List.mem_cons_of_mem _ inRest),
          fun refused => (headBefore next inRest).2 refused.1⟩

/-- The file cursors make no difference to the entries. -/
theorem sameEntries_foldl_cursoredFrom (getCommunityIdIndex : String → Except Exception UInt32)
    {transactions : List NodeTransactionEntry} {first second : BlockIndex} (start : Nat)
    (same : SameEntries first second) :
    SameEntries
      ((cursoredFrom start transactions).foldl (fun index entry =>
        index.received (indicesOfTransaction getCommunityIdIndex entry)) first)
      (transactions.foldl (fun index transaction =>
        index.withEntry (indicesOfTransaction getCommunityIdIndex transaction)) second) := by
  induction transactions generalizing first second start with
  | nil => exact same
  | cons transaction rest ih =>
      rw [cursoredFrom_cons, List.foldl_cons, List.foldl_cons]
      apply ih
      exact (sameEntries_withFileCursor _ _ _).trans (same.withEntry rfl)

variable {environment : InitEnvironment}

/-- What `init` rebuilds has the entries of an index that was filled by pushing. -/
theorem sameEntries_rebuilt {blockFile : Files.Block} {transactions : List NodeTransactionEntry}
    {appended : Nat} {disk : Option (List UInt8)}
    (wellFormed : WellFormed environment blockFile transactions) (empty : disk.getD [] = [])
    (accepts : ∀ transaction ∈ transactions,
      Accepts environment.getCommunityIdIndex transaction)
    (inTime : transactions.length ≤ appended) :
    SameEntries (init environment blockFile appended ⟨BlockIndex.new, disk⟩).2.index
      (unwrittenIndex environment.getCommunityIdIndex transactions) := by
  have accepted := wellFormed.cursored_accepted
  have numbers := map_transactionNr_cursoredFrom 0 transactions
  have sameLength : (cursored transactions).length = transactions.length := by
    have lengths := congrArg List.length numbers
    rw [List.length_map, List.length_map] at lengths
    exact lengths
  have ascending : (cursored transactions).Pairwise fun first second =>
      first.transactionNr < second.transactionNr := by
    apply List.pairwise_map.mp
    rw [cursored, numbers]
    exact List.pairwise_map.mpr wellFormed.ascending
  have ascendingBehind : (cursored transactions).Pairwise fun first second =>
      first.transactionNr < second.transactionNr ∧ second.fileCursor ≠ 0 := by
    cases stored : cursored transactions with
    | nil => exact List.Pairwise.nil
    | cons head rest =>
        rw [stored] at ascending accepted
        refine List.Pairwise.and ascending (List.pairwise_cons.mpr ⟨accepted.2, ?_⟩)
        exact List.Pairwise.imp_mem.mpr (List.Pairwise.imp (fun _ _ member => accepted.2 _ member)
          (List.pairwise_of_forall fun _ _ => trivial))
  have positive (entry : NodeTransactionEntry) (member : entry ∈ cursored transactions) :
      0 < entry.transactionNr := by
    obtain ⟨transaction, isStored, _, _, rfl⟩ := mem_cursoredFrom member
    exact wellFormed.positive transaction isStored
  have entryAccepts (entry : NodeTransactionEntry) (member : entry ∈ cursored transactions) :
      Accepts environment.getCommunityIdIndex entry := by
    obtain ⟨transaction, isStored, _, _, rfl⟩ := mem_cursoredFrom member
    exact accepts transaction isStored
  have indexed := indexEntries_eq_foldl entryAccepts accepted.1 ascendingBehind positive
    (fun entry _ => below_new entry.transactionNr) fun entry isFirst =>
      acceptsFileCursor_new (accepted.1 entry (List.mem_of_head? isFirst))
  rw [init_of_empty wellFormed empty, List.take_of_length_le (sameLength.trans_le inTime)]
  dsimp only
  rw [indexed]
  exact sameEntries_foldl_cursoredFrom environment.getCommunityIdIndex 0 (SameEntries.refl _)

end Rebuilt

end Cache

end GradidoNode

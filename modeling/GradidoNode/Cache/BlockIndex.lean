import GradidoNode.Files.BlockIndex
import GradidoNode.Library.ExceptList
import GradidoNode.Library.OrderedMap
import GradidoNode.NodeTransactionEntry

/-!
# The block index in memory

Transactions by year and month, and the position of each in the block file. The
index is filled from three sides: by transactions about to be written, by the
write task that learns their positions, and by reading an index file.
-/

namespace GradidoNode

open Library

namespace Cache

/-- `addressIndiceCount` is one byte although up to 256 indices are accepted. -/
structure BlockIndexEntry where
  transactionNr : UInt64
  addressIndices : List UInt32
  coinCommunityIdIndex : UInt32
  transactionType : UInt8
  addressIndiceCount : UInt8
  deriving DecidableEq, Repr

abbrev MonthEntries := OrderedMap UInt8 (List BlockIndexEntry)

structure BlockIndex where
  maxTransactionNr : UInt64
  minTransactionNr : UInt64
  transactionNrsFileCursors : OrderedMap UInt64 Int32
  yearMonthAddressIndexEntries : OrderedMap Int16 MonthEntries
  dirty : Bool
  deriving DecidableEq

namespace BlockIndex

/-- The constructor. -/
def new : BlockIndex where
  maxTransactionNr := 0
  minTransactionNr := 0
  transactionNrsFileCursors := ∅
  yearMonthAddressIndexEntries := ∅
  dirty := false

/-- Both overloads of `addIndicesForTransaction` start by widening the range. -/
def widen (index : BlockIndex) (transactionNr : UInt64) : BlockIndex :=
  { index with
    maxTransactionNr :=
      if transactionNr > index.maxTransactionNr then transactionNr else index.maxTransactionNr
    minTransactionNr :=
      if index.minTransactionNr = 0 ∨ transactionNr < index.minTransactionNr then transactionNr
      else index.minTransactionNr }

def addFileCursorForTransaction (transactionNr : UInt64) (fileCursor : Int32) :
    Throwing BlockIndex Bool := fun index =>
  if fileCursor < 0 then (.ok false, index)
  else if fileCursor = 0 ∧ transactionNr > index.minTransactionNr then
    (.error (.blockIndexInvalidFileCursor "file curser is invalid" fileCursor transactionNr
      index.minTransactionNr), index)
  else
    let index := { index with dirty := true }
    match index.transactionNrsFileCursors.find? transactionNr with
    | none =>
        (.ok true, { index with
          transactionNrsFileCursors :=
            index.transactionNrsFileCursors.insertNew transactionNr fileCursor })
    | some cursor =>
        if cursor = 0 then
          (.ok true, { index with
            transactionNrsFileCursors :=
              index.transactionNrsFileCursors.set transactionNr fileCursor })
        else (.ok false, index)

/-- The file cursor a transaction has after one was recorded for it: 0 gives way. -/
def keptFileCursor (present : Option Int32) (fileCursor : Int32) : Int32 :=
  match present with
  | none => fileCursor
  | some cursor => if cursor = 0 then fileCursor else cursor

/-- Everything recording a file cursor can do: ignore a negative one, refuse 0 behind
the first transaction, or leave a cursor for the transaction and all others alone. -/
theorem addFileCursorForTransaction_cases (transactionNr : UInt64) (fileCursor : Int32)
    (index : BlockIndex) :
    (fileCursor < 0 ∧
      addFileCursorForTransaction transactionNr fileCursor index = (.ok false, index)) ∨
    (fileCursor = 0 ∧ transactionNr > index.minTransactionNr ∧ ∃ exception,
      addFileCursorForTransaction transactionNr fileCursor index = (.error exception, index)) ∨
    (¬ fileCursor < 0 ∧ ¬ (fileCursor = 0 ∧ transactionNr > index.minTransactionNr) ∧
      ∃ recorded fileCursors,
        addFileCursorForTransaction transactionNr fileCursor index =
          (.ok recorded, { index with dirty := true, transactionNrsFileCursors := fileCursors }) ∧
        fileCursors.find? transactionNr = some
          (keptFileCursor (index.transactionNrsFileCursors.find? transactionNr) fileCursor) ∧
        ∀ other, other ≠ transactionNr →
          fileCursors.find? other = index.transactionNrsFileCursors.find? other) := by
  unfold addFileCursorForTransaction
  by_cases negative : fileCursor < 0
  · exact Or.inl ⟨negative, by simp only [negative, ↓reduceIte]⟩
  · by_cases refused : fileCursor = 0 ∧ transactionNr > index.minTransactionNr
    · refine Or.inr (Or.inl ⟨refused.1, refused.2, ?_⟩)
      simp only [refused, and_self, ↓reduceIte]
      exact ⟨_, rfl⟩
    · refine Or.inr (Or.inr ⟨negative, refused, ?_⟩)
      simp only [negative, refused, ↓reduceIte]
      cases present : index.transactionNrsFileCursors.find? transactionNr with
      | none =>
          refine ⟨true, _, rfl, ?_, ?_⟩
          · rw [OrderedMap.insertNew, OrderedMap.find?_alter_self, present]
            rfl
          · intro other differ
            exact OrderedMap.find?_alter_of_ne _ differ _
      | some cursor =>
          by_cases zero : cursor = 0
          · refine ⟨true, _, by simp only [zero, ↓reduceIte]; rfl, ?_, ?_⟩
            · rw [keptFileCursor, if_pos zero]
              exact OrderedMap.find?_alter_self _ _ _
            · intro other differ
              exact OrderedMap.find?_alter_of_ne _ differ _
          · refine ⟨false, index.transactionNrsFileCursors, by simp only [zero, ↓reduceIte], ?_,
              fun _ _ => rfl⟩
            rw [present, keptFileCursor, if_neg zero]

/-- A file cursor that is there after recording one was there before, or is the new one. -/
theorem find?_addFileCursorForTransaction {transactionNr : UInt64} {fileCursor : Int32}
    {index next : BlockIndex} {outcome : Except Exception Bool}
    (recorded : addFileCursorForTransaction transactionNr fileCursor index = (outcome, next))
    {other : UInt64} {found : Int32} (isFound : next.transactionNrsFileCursors.find? other =
      some found) :
    index.transactionNrsFileCursors.find? other = some found ∨
      (other = transactionNr ∧ found = fileCursor) := by
  rcases addFileCursorForTransaction_cases transactionNr fileCursor index with
    ⟨_, ignored⟩ | ⟨_, _, _, refused⟩ | ⟨_, _, _, fileCursors, stored, kept, others⟩
  · cases recorded.symm.trans ignored
    exact Or.inl isFound
  · cases recorded.symm.trans refused
    exact Or.inl isFound
  · cases recorded.symm.trans stored
    by_cases same : other = transactionNr
    · subst same
      dsimp only at isFound
      rw [kept] at isFound
      cases present : index.transactionNrsFileCursors.find? other with
      | none =>
          rw [present] at isFound
          exact Or.inr ⟨rfl, (Option.some.inj isFound).symm⟩
      | some cursor =>
          rw [present, keptFileCursor] at isFound
          split at isFound
          · exact Or.inr ⟨rfl, (Option.some.inj isFound).symm⟩
          · exact Or.inl isFound
    · dsimp only at isFound
      rw [others other same] at isFound
      exact Or.inl isFound

/-- Recording a file cursor touches neither the entries nor the range of numbers. -/
theorem addFileCursorForTransaction_frame (transactionNr : UInt64) (fileCursor : Int32)
    (index : BlockIndex) :
    let next := (addFileCursorForTransaction transactionNr fileCursor index).2
    next.yearMonthAddressIndexEntries = index.yearMonthAddressIndexEntries ∧
      next.maxTransactionNr = index.maxTransactionNr ∧
      next.minTransactionNr = index.minTransactionNr := by
  rcases addFileCursorForTransaction_cases transactionNr fileCursor index with
    ⟨_, result⟩ | ⟨_, _, _, result⟩ | ⟨_, _, _, _, result, _⟩ <;> simp [result]

/-- Change the list of a month, creating the year and the month where they are missing. -/
def alterMonth (index : BlockIndex) (year : Int16) (month : UInt8)
    (change : List BlockIndexEntry → List BlockIndexEntry) : BlockIndex :=
  { index with
    yearMonthAddressIndexEntries :=
      index.yearMonthAddressIndexEntries.alter year fun months =>
        (months.getD ∅).alter month fun entries => change (entries.getD []) }

/-- The list of a month, empty where the year or the month is missing. -/
def monthList (index : BlockIndex) (year : Int16) (month : UInt8) : List BlockIndexEntry :=
  (((index.yearMonthAddressIndexEntries.find? year).getD ∅).find? month).getD []

/-- The entry `addIndicesForTransaction` appends to the month. -/
def entryOf (indices : TransactionIndices) : BlockIndexEntry where
  transactionNr := indices.transactionNr
  addressIndices := indices.addressIndices.take indices.addressIndiceCount.toNat
  coinCommunityIdIndex := indices.coinCommunityIdIndex
  transactionType := indices.transactionType
  addressIndiceCount := indices.addressIndiceCount.toUInt8

/-- The overload that implements `IBlockIndexReceiver`. The year and the month are
created before the checks that throw. -/
def addIndicesForTransaction : BlockIndexReceiver BlockIndex := fun indices index =>
  let index := { index with dirty := true }.widen indices.transactionNr
  let index := index.alterMonth indices.year indices.month id
  if indices.addressIndiceCount > 256 then
    (.error (.gradidoNodeInvalidData "addressIndiceCount is bigger than 256, that cannot be"),
      index)
  else
    let entry := entryOf indices
    match (index.monthList indices.year indices.month).getLast? with
    | some back =>
        if back.transactionNr ≥ entry.transactionNr then
          (.error (.blockIndexException
            "try to add new transaction to block index with same or lesser transaction nr!"),
            index)
        else pushEntry indices entry index
    | none => pushEntry indices entry index
where
  /-- Append the entry and record the file cursor. -/
  pushEntry (indices : TransactionIndices) (entry : BlockIndexEntry) : Throwing BlockIndex Unit :=
    fun index =>
      let index := index.alterMonth indices.year indices.month (· ++ [entry])
      match addFileCursorForTransaction indices.transactionNr indices.fileCursor index with
      | (.ok _, index) => (.ok (), index)
      | (.error exception, index) => (.error exception, index)

/-- What the overload for a transaction passes on; the count is cut to 16 bits. -/
def indicesOf (transactionEntry : NodeTransactionEntry) (coinCommunityIndex : UInt32) :
    TransactionIndices where
  transactionType := transactionEntry.transactionType
  coinCommunityIdIndex := coinCommunityIndex
  year := transactionEntry.year
  month := transactionEntry.month
  transactionNr := transactionEntry.transactionNr
  fileCursor := transactionEntry.fileCursor
  addressIndices := transactionEntry.addressIndices
  addressIndiceCount := UInt16.ofNat transactionEntry.addressIndices.length

/-- The overload for a transaction about to be written. `getCommunityIdIndex` is the
lookup of `FileBasedProvider`, which throws for an unknown community. -/
def addIndicesForTransactionEntry (getCommunityIdIndex : String → Except Exception UInt32)
    (transactionEntry : NodeTransactionEntry) : Throwing BlockIndex Unit := fun index =>
  let index := index.widen transactionEntry.transactionNr
  let recorded :=
    if transactionEntry.fileCursor ≥ 0 then
      addFileCursorForTransaction transactionEntry.transactionNr transactionEntry.fileCursor index
    else (.ok false, index)
  match recorded with
  | (.error exception, index) => (.error exception, index)
  | (.ok _, index) =>
      let coinCommunityIndex :=
        if transactionEntry.coinCommunityId.isEmpty then .ok 0
        else getCommunityIdIndex transactionEntry.coinCommunityId
      match coinCommunityIndex with
      | .error exception => (.error exception, index)
      | .ok coinCommunityIndex =>
          addIndicesForTransaction (indicesOf transactionEntry coinCommunityIndex) index

/-- The data block `serialize` adds for an entry. -/
def serializeEntry (index : BlockIndex) (entry : BlockIndexEntry) :
    Except Exception Files.IndexBlock :=
  match index.transactionNrsFileCursors.find? entry.transactionNr with
  | none => .error (.gradidoNodeInvalidData "missing file cursor for transaction")
  | some fileCursor =>
      .ok (.dataBlock (Files.DataBlock.ofVector entry.transactionNr fileCursor
        entry.transactionType entry.coinCommunityIdIndex
        (entry.addressIndices.take entry.addressIndiceCount.toNat)))

def serializeMonth (index : BlockIndex) (month : UInt8 × List BlockIndexEntry) :
    Except Exception (List Files.IndexBlock) := do
  let blocks ← month.2.mapM index.serializeEntry
  return .monthBlock month.1 :: blocks

def serializeYear (index : BlockIndex) (year : Int16 × MonthEntries) :
    Except Exception (List Files.IndexBlock) := do
  let blocks ← year.2.toList.mapM index.serializeMonth
  return .yearBlock year.1 :: blocks.flatten

/-- The blocks of the index file, or nothing where there is nothing to save. -/
def serialize (index : BlockIndex) : Except Exception (Option (List Files.IndexBlock)) :=
  if index.yearMonthAddressIndexEntries.isEmpty && index.transactionNrsFileCursors.isEmpty &&
      index.maxTransactionNr = 0 && index.minTransactionNr = 0 then
    .ok none
  else do
    let blocks ← index.yearMonthAddressIndexEntries.toList.mapM index.serializeYear
    return some blocks.flatten

/-- All entries in the order in which `serialize` visits them. -/
def allEntries (index : BlockIndex) : List BlockIndexEntry :=
  index.yearMonthAddressIndexEntries.toList.flatMap fun year =>
    year.2.toList.flatMap fun month => month.2

/-- An entry is serialized exactly if it has a file cursor. -/
theorem serializeEntry_ok_iff {index : BlockIndex} {entry : BlockIndexEntry} :
    (∃ block, index.serializeEntry entry = .ok block) ↔
      index.transactionNrsFileCursors.find? entry.transactionNr ≠ none := by
  unfold serializeEntry
  cases index.transactionNrsFileCursors.find? entry.transactionNr <;> simp

/-- A month is serialized exactly if all its entries have one. -/
theorem serializeMonth_ok_iff {index : BlockIndex} {month : UInt8 × List BlockIndexEntry} :
    (∃ blocks, index.serializeMonth month = .ok blocks) ↔
      ∀ entry ∈ month.2, index.transactionNrsFileCursors.find? entry.transactionNr ≠ none := by
  unfold serializeMonth
  rw [exists_bind_pure_ok_iff, exists_mapM_ok_iff]
  exact forall₂_congr fun entry _ => serializeEntry_ok_iff

/-- A year is serialized exactly if all its months are. -/
theorem serializeYear_ok_iff {index : BlockIndex} {year : Int16 × MonthEntries} :
    (∃ blocks, index.serializeYear year = .ok blocks) ↔
      ∀ month ∈ year.2.toList, ∀ entry ∈ month.2,
        index.transactionNrsFileCursors.find? entry.transactionNr ≠ none := by
  unfold serializeYear
  rw [exists_bind_pure_ok_iff, exists_mapM_ok_iff]
  exact forall₂_congr fun month _ => serializeMonth_ok_iff

/-- The entries of an index are those of its years' months. -/
theorem mem_allEntries {index : BlockIndex} {entry : BlockIndexEntry} :
    entry ∈ index.allEntries ↔ ∃ year ∈ index.yearMonthAddressIndexEntries.toList,
      ∃ month ∈ year.2.toList, entry ∈ month.2 := by
  simp only [allEntries, List.mem_flatMap]

/-- Recording a cursor adds no entry. -/
theorem allEntries_addFileCursorForTransaction {transactionNr : UInt64} {fileCursor : Int32}
    {index next : BlockIndex} {outcome : Except Exception Bool}
    (recorded : addFileCursorForTransaction transactionNr fileCursor index = (outcome, next)) :
    next.allEntries = index.allEntries := by
  have frame := (addFileCursorForTransaction_frame transactionNr fileCursor index).1
  rw [recorded] at frame
  unfold allEntries
  rw [show next.yearMonthAddressIndexEntries = _ from frame]

/-- Serializing succeeds exactly when every entry has a file cursor. -/
theorem serialize_ok_iff {index : BlockIndex} :
    (∃ blocks, index.serialize = .ok blocks) ↔
      ∀ entry ∈ index.allEntries,
        index.transactionNrsFileCursors.find? entry.transactionNr ≠ none := by
  have nested : (∀ entry ∈ index.allEntries,
      index.transactionNrsFileCursors.find? entry.transactionNr ≠ none) ↔
      ∀ year ∈ index.yearMonthAddressIndexEntries.toList,
        ∃ blocks, index.serializeYear year = .ok blocks := by
    simp only [serializeYear_ok_iff, mem_allEntries]
    constructor
    · intro all year yearMember month monthMember entry entryMember
      exact all entry ⟨year, yearMember, month, monthMember, entryMember⟩
    · rintro all entry ⟨year, yearMember, month, monthMember, entryMember⟩
      exact all year yearMember month monthMember entry entryMember
  rw [nested]
  unfold serialize
  split
  · rename_i nothing
    simp only [Bool.and_eq_true] at nothing
    have noYears : index.yearMonthAddressIndexEntries.toList = [] :=
      List.isEmpty_iff.mp nothing.1.1.1
    simp [noYears]
  · rw [exists_bind_pure_ok_iff, exists_mapM_ok_iff]

/-- Every data block of a serialized index is one of its entries. -/
theorem transactionNr_of_mem_serialize {index : BlockIndex} {blocks : List Files.IndexBlock}
    {data : Files.DataBlock} (success : index.serialize = .ok (some blocks))
    (member : .dataBlock data ∈ blocks) :
    ∃ entry ∈ index.allEntries, entry.transactionNr = data.transactionNr := by
  unfold serialize at success
  split at success
  · cases success
  · obtain ⟨years, yearsOk, flat⟩ := bind_pure_ok_iff.mp success
    cases flat
    obtain ⟨yearBlocks, inYears, inYear⟩ := List.mem_flatten.mp member
    obtain ⟨year, yearMember, yearOk⟩ := exists_of_mem_mapM_ok yearsOk inYears
    obtain ⟨months, monthsOk, rfl⟩ := bind_pure_ok_iff.mp yearOk
    rcases List.mem_cons.mp inYear with head | inYear
    · cases head
    · obtain ⟨monthBlocks, inMonths, inMonth⟩ := List.mem_flatten.mp inYear
      obtain ⟨month, monthMember, monthOk⟩ := exists_of_mem_mapM_ok monthsOk inMonths
      obtain ⟨entries, entriesOk, rfl⟩ := bind_pure_ok_iff.mp monthOk
      rcases List.mem_cons.mp inMonth with head | inMonth
      · cases head
      · obtain ⟨entry, entryMember, entryOk⟩ := exists_of_mem_mapM_ok entriesOk inMonth
        refine ⟨entry, mem_allEntries.mpr ⟨year, yearMember, month, monthMember, entryMember⟩, ?_⟩
        unfold serializeEntry at entryOk
        split at entryOk
        · cases entryOk
        · cases entryOk
          rfl

/-- The entries of a month are entries of the index. -/
theorem mem_allEntries_of_mem_monthList {index : BlockIndex} {year : Int16} {month : UInt8}
    {entry : BlockIndexEntry} (member : entry ∈ index.monthList year month) :
    entry ∈ index.allEntries := by
  unfold monthList at member
  cases foundYear : index.yearMonthAddressIndexEntries.find? year with
  | none =>
      rw [foundYear, Option.getD_none, OrderedMap.find?_empty] at member
      cases member
  | some months =>
      rw [foundYear, Option.getD_some] at member
      cases foundMonth : months.find? month with
      | none =>
          rw [foundMonth] at member
          cases member
      | some entries =>
          rw [foundMonth] at member
          exact mem_allEntries.mpr ⟨(year, months), OrderedMap.mem_toList_iff.mpr foundYear,
            (month, entries), OrderedMap.mem_toList_iff.mpr foundMonth, member⟩

/-- Changing the list of a month adds at most what the changed list holds. -/
theorem mem_allEntries_alterMonth {index : BlockIndex} {year : Int16} {month : UInt8}
    {change : List BlockIndexEntry → List BlockIndexEntry} {entry : BlockIndexEntry}
    (member : entry ∈ (index.alterMonth year month change).allEntries) :
    entry ∈ index.allEntries ∨ entry ∈ change (index.monthList year month) := by
  obtain ⟨yearEntry, yearMember, monthEntry, monthMember, entryMember⟩ :=
    mem_allEntries.mp member
  rcases OrderedMap.mem_toList_alter yearMember with oldYear | rfl
  · exact Or.inl (mem_allEntries.mpr ⟨yearEntry, oldYear, monthEntry, monthMember, entryMember⟩)
  · rcases OrderedMap.mem_toList_alter monthMember with oldMonth | rfl
    · apply Or.inl
      refine @mem_allEntries_of_mem_monthList index year monthEntry.1 entry ?_
      rw [monthList, OrderedMap.mem_toList_iff.mp oldMonth]
      exact entryMember
    · exact Or.inr entryMember

/-- What indexing a transaction may change: entries of that transaction come in, and no
transaction loses its file cursor. -/
structure Grows (transactionNr : UInt64) (index next : BlockIndex) : Prop where
  entries : ∀ entry ∈ next.allEntries,
    entry ∈ index.allEntries ∨ entry.transactionNr = transactionNr
  fileCursors : ∀ other, index.transactionNrsFileCursors.find? other ≠ none →
    next.transactionNrsFileCursors.find? other ≠ none

/-- Nothing has to change. -/
theorem Grows.refl (transactionNr : UInt64) (index : BlockIndex) : Grows transactionNr index index :=
  ⟨fun _ member => Or.inl member, fun _ present => present⟩

/-- Two changes in a row. -/
theorem Grows.trans {transactionNr : UInt64} {index middle next : BlockIndex}
    (first : Grows transactionNr index middle) (second : Grows transactionNr middle next) :
    Grows transactionNr index next where
  entries entry member := (second.entries entry member).elim (first.entries entry) Or.inr
  fileCursors other present := second.fileCursors other (first.fileCursors other present)

/-- Widening the range touches neither entries nor file cursors. -/
theorem grows_widen (transactionNr other : UInt64) (index : BlockIndex) (dirty : Bool) :
    Grows other index ({ index with dirty := dirty }.widen transactionNr) :=
  ⟨fun _ member => Or.inl member, fun _ present => present⟩

/-- Recording a cursor drops nothing. -/
theorem grows_addFileCursorForTransaction (transactionNr other : UInt64) (fileCursor : Int32)
    (index : BlockIndex) :
    Grows other index (addFileCursorForTransaction transactionNr fileCursor index).2 := by
  rcases addFileCursorForTransaction_cases transactionNr fileCursor index with
    ⟨_, result⟩ | ⟨_, _, _, result⟩ | ⟨_, _, _, _, result, found, others⟩
  · rw [result]
    exact Grows.refl other index
  · rw [result]
    exact Grows.refl other index
  · rw [result]
    refine ⟨fun _ member => Or.inl member, fun key present => ?_⟩
    by_cases same : key = transactionNr
    · rw [same, found]
      exact Option.some_ne_none _
    · rw [others key same]
      exact present

/-- Neither does indexing a transaction, even where it throws. -/
theorem grows_addIndicesForTransaction (indices : TransactionIndices) (index : BlockIndex) :
    Grows indices.transactionNr index (addIndicesForTransaction indices index).2 := by
  have monthCreated (index : BlockIndex) :
      Grows indices.transactionNr index (index.alterMonth indices.year indices.month id) :=
    ⟨fun _ member => (mem_allEntries_alterMonth member).elim Or.inl
      fun old => Or.inl (mem_allEntries_of_mem_monthList old), fun _ present => present⟩
  have widened : Grows indices.transactionNr index
      (({ index with dirty := true }.widen indices.transactionNr).alterMonth indices.year
        indices.month id) :=
    (grows_widen indices.transactionNr indices.transactionNr index true).trans (monthCreated _)
  have pushed (index : BlockIndex) : Grows indices.transactionNr index
      (addIndicesForTransaction.pushEntry indices (entryOf indices) index).2 := by
    have appended : Grows indices.transactionNr index
        (index.alterMonth indices.year indices.month (· ++ [entryOf indices])) := by
      refine ⟨fun entry member => ?_, fun _ present => present⟩
      rcases mem_allEntries_alterMonth member with old | changed
      · exact Or.inl old
      · rcases List.mem_append.mp changed with old | new
        · exact Or.inl (mem_allEntries_of_mem_monthList old)
        · rw [List.mem_singleton.mp new]
          exact Or.inr rfl
    have recorded := grows_addFileCursorForTransaction indices.transactionNr
      indices.transactionNr indices.fileCursor
      (index.alterMonth indices.year indices.month (· ++ [entryOf indices]))
    unfold addIndicesForTransaction.pushEntry
    dsimp only
    split <;> rename_i outcome <;> rw [outcome] at recorded <;> exact appended.trans recorded
  unfold addIndicesForTransaction
  dsimp only
  split
  · exact widened
  · split
    · split
      · exact widened
      · exact widened.trans (pushed _)
    · exact widened.trans (pushed _)

/-- Pushing a transaction into the index brings in entries of that transaction alone. -/
theorem grows_addIndicesForTransactionEntry
    (getCommunityIdIndex : String → Except Exception UInt32)
    (transactionEntry : NodeTransactionEntry) (index : BlockIndex) :
    Grows transactionEntry.transactionNr index
      (addIndicesForTransactionEntry getCommunityIdIndex transactionEntry index).2 := by
  have widened : Grows transactionEntry.transactionNr index
      (index.widen transactionEntry.transactionNr) := grows_widen _ _ index index.dirty
  have recorded := grows_addFileCursorForTransaction transactionEntry.transactionNr
    transactionEntry.transactionNr transactionEntry.fileCursor
    (index.widen transactionEntry.transactionNr)
  have first : Grows transactionEntry.transactionNr index
      (if transactionEntry.fileCursor ≥ 0 then
        addFileCursorForTransaction transactionEntry.transactionNr transactionEntry.fileCursor
          (index.widen transactionEntry.transactionNr)
      else (.ok false, index.widen transactionEntry.transactionNr)).2 := by
    split
    · exact widened.trans recorded
    · exact widened
  unfold addIndicesForTransactionEntry
  dsimp only
  split <;> rename_i outcome <;> rw [outcome] at first
  · exact first
  · split
    · exact first
    · rename_i coinCommunityIndex _
      exact first.trans
        (grows_addIndicesForTransaction (indicesOf transactionEntry coinCommunityIndex) _)

/-- Pushing an unwritten entry records no cursor. -/
theorem fileCursors_pushEntry {indices : TransactionIndices} (unwritten : indices.fileCursor < 0)
    (entry : BlockIndexEntry) (index : BlockIndex) :
    (addIndicesForTransaction.pushEntry indices entry index).2.transactionNrsFileCursors =
      index.transactionNrsFileCursors := by
  unfold addIndicesForTransaction.pushEntry addFileCursorForTransaction
  simp only [unwritten, ↓reduceIte]
  rfl

/-- Nor does indexing an unwritten transaction. -/
theorem fileCursors_addIndicesForTransaction {indices : TransactionIndices}
    (unwritten : indices.fileCursor < 0) (index : BlockIndex) :
    (addIndicesForTransaction indices index).2.transactionNrsFileCursors =
      index.transactionNrsFileCursors := by
  have prepared : ((({ index with dirty := true }.widen indices.transactionNr).alterMonth
      indices.year indices.month id).transactionNrsFileCursors) =
        index.transactionNrsFileCursors := rfl
  unfold addIndicesForTransaction
  dsimp only
  split
  · exact prepared
  · split
    · split
      · exact prepared
      · exact (fileCursors_pushEntry unwritten _ _).trans prepared
    · exact (fileCursors_pushEntry unwritten _ _).trans prepared

/-- Indexing a transaction that is not written yet changes no file cursor. -/
theorem fileCursors_addIndicesForTransactionEntry
    (getCommunityIdIndex : String → Except Exception UInt32)
    {transactionEntry : NodeTransactionEntry} (unwritten : transactionEntry.fileCursor < 0)
    (index : BlockIndex) :
    (addIndicesForTransactionEntry getCommunityIdIndex transactionEntry
      index).2.transactionNrsFileCursors = index.transactionNrsFileCursors := by
  have noCursor : ¬ transactionEntry.fileCursor ≥ 0 := Int32.not_le.mpr unwritten
  have widened : (index.widen transactionEntry.transactionNr).transactionNrsFileCursors =
      index.transactionNrsFileCursors := rfl
  unfold addIndicesForTransactionEntry
  dsimp only
  rw [if_neg noCursor]
  dsimp only
  split
  · exact widened
  · rename_i coinCommunityIndex _
    have negative : (indicesOf transactionEntry coinCommunityIndex).fileCursor < 0 := unwritten
    exact (fileCursors_addIndicesForTransaction negative _).trans widened

/-- Appending to a month appends to the entries of the index, up to order. -/
theorem allEntries_alterMonth_perm {index : BlockIndex} {year : Int16} {month : UInt8}
    {change : List BlockIndexEntry → List BlockIndexEntry} {added : List BlockIndexEntry}
    (appends : ∀ entries, change entries = entries ++ added) :
    (index.alterMonth year month change).allEntries.Perm (index.allEntries ++ added) := by
  have monthAppends (months : MonthEntries) :
      ((months.alter month fun entries => change (entries.getD [])).toList.flatMap
        fun entry => entry.2).Perm (months.toList.flatMap (fun entry => entry.2) ++ added) := by
    refine OrderedMap.flatMap_alterList_perm ?_ (fun entries => ?_) months.toList
    · simp [appends]
    · simp [appends]
  refine OrderedMap.flatMap_alterList_perm ?_ (fun months => ?_) _
  · simpa using monthAppends ∅
  · simpa using monthAppends months

/-- The lower end is widened once. -/
theorem widen_minTransactionNr_idem (index : BlockIndex) (transactionNr : UInt64) :
    ((index.widen transactionNr).widen transactionNr).minTransactionNr =
      (index.widen transactionNr).minTransactionNr := by
  simp only [widen]
  split
  · simp
  · rfl

/-- Widening twice is widening once. -/
theorem widen_widen (index : BlockIndex) (transactionNr : UInt64) :
    (index.widen transactionNr).widen transactionNr = index.widen transactionNr := by
  have greatest : ((index.widen transactionNr).widen transactionNr).maxTransactionNr =
      (index.widen transactionNr).maxTransactionNr := by
    simp only [widen]
    split
    · exact if_neg (lt_irrefl _)
    · rfl
  have least := widen_minTransactionNr_idem index transactionNr
  unfold widen at greatest least ⊢
  simp only at greatest least ⊢
  rw [greatest, least]

/-- Appending an entry whose file cursor is accepted. -/
theorem pushEntry_ok {indices : TransactionIndices} {entry : BlockIndexEntry} {index : BlockIndex}
    (nonnegative : ¬ indices.fileCursor < 0)
    (accepted : ¬ (indices.fileCursor = 0 ∧ indices.transactionNr > index.minTransactionNr)) :
    ∃ next, addIndicesForTransaction.pushEntry indices entry index = (.ok (), next) ∧
      next.allEntries.Perm (index.allEntries ++ [entry]) ∧
      next.transactionNrsFileCursors.find? indices.transactionNr = some (keptFileCursor
        (index.transactionNrsFileCursors.find? indices.transactionNr) indices.fileCursor) ∧
      (∀ other, other ≠ indices.transactionNr → next.transactionNrsFileCursors.find? other =
        index.transactionNrsFileCursors.find? other) ∧
      next.minTransactionNr = index.minTransactionNr := by
  have appended := @allEntries_alterMonth_perm index indices.year indices.month (· ++ [entry])
    [entry] fun _ => rfl
  rcases addFileCursorForTransaction_cases indices.transactionNr indices.fileCursor
      (index.alterMonth indices.year indices.month (· ++ [entry])) with
    ⟨negative, _⟩ | ⟨zero, behind, _⟩ | ⟨_, _, _, fileCursors, recorded, found, others⟩
  · exact absurd negative nonnegative
  · exact absurd ⟨zero, behind⟩ accepted
  · refine ⟨{ index.alterMonth indices.year indices.month (· ++ [entry]) with
      dirty := true
      transactionNrsFileCursors := fileCursors }, ?_, appended, found, others, rfl⟩
    unfold addIndicesForTransaction.pushEntry
    dsimp only
    rw [recorded]

/-- A transaction above all indexed ones with at most 256 addresses, and with a file cursor
that is not 0 unless it is the first, enters the index with exactly one entry. -/
theorem addIndicesForTransaction_ok {indices : TransactionIndices} {index : BlockIndex}
    (count : ¬ indices.addressIndiceCount > 256)
    (above : ∀ entry ∈ index.allEntries, entry.transactionNr < indices.transactionNr)
    (nonnegative : ¬ indices.fileCursor < 0)
    (accepted : ¬ (indices.fileCursor = 0 ∧
      indices.transactionNr > (index.widen indices.transactionNr).minTransactionNr)) :
    ∃ next, addIndicesForTransaction indices index = (.ok (), next) ∧
      next.allEntries.Perm (index.allEntries ++ [entryOf indices]) ∧
      next.transactionNrsFileCursors.find? indices.transactionNr = some (keptFileCursor
        (index.transactionNrsFileCursors.find? indices.transactionNr) indices.fileCursor) ∧
      (∀ other, other ≠ indices.transactionNr → next.transactionNrsFileCursors.find? other =
        index.transactionNrsFileCursors.find? other) ∧
      next.minTransactionNr = (index.widen indices.transactionNr).minTransactionNr := by
  have created := @allEntries_alterMonth_perm ({ index with dirty := true }.widen
    indices.transactionNr) indices.year indices.month id [] fun entries =>
      (List.append_nil entries).symm
  rw [List.append_nil] at created
  obtain ⟨next, pushed, entries, found, others, least⟩ := @pushEntry_ok indices (entryOf indices)
    (({ index with dirty := true }.widen indices.transactionNr).alterMonth indices.year
      indices.month id) nonnegative accepted
  refine ⟨next, ?_, entries.trans (created.append_right _), found, others, least⟩
  unfold addIndicesForTransaction
  dsimp only
  rw [if_neg count]
  split
  · rename_i back isLast
    have inMonth := mem_allEntries_of_mem_monthList (List.mem_of_getLast? isLast)
    have notBehind : ¬ back.transactionNr ≥ (entryOf indices).transactionNr :=
      not_le_of_gt (above back (created.mem_iff.mp inMonth))
    rw [if_neg notBehind]
    exact pushed
  · exact pushed

/-- The same for the overload that looks the community up first. -/
theorem addIndicesForTransactionEntry_ok
    {getCommunityIdIndex : String → Except Exception UInt32}
    {transactionEntry : NodeTransactionEntry} {index : BlockIndex}
    (known : transactionEntry.coinCommunityId.isEmpty = true ∨
      ∃ coinCommunityIndex,
        getCommunityIdIndex transactionEntry.coinCommunityId = .ok coinCommunityIndex)
    (count : ¬ UInt16.ofNat transactionEntry.addressIndices.length > 256)
    (above : ∀ entry ∈ index.allEntries, entry.transactionNr < transactionEntry.transactionNr)
    (nonnegative : ¬ transactionEntry.fileCursor < 0)
    (accepted : ¬ (transactionEntry.fileCursor = 0 ∧ transactionEntry.transactionNr >
      (index.widen transactionEntry.transactionNr).minTransactionNr))
    (fresh : index.transactionNrsFileCursors.find? transactionEntry.transactionNr = none) :
    ∃ next entry, addIndicesForTransactionEntry getCommunityIdIndex transactionEntry index =
        (.ok (), next) ∧
      entry.transactionNr = transactionEntry.transactionNr ∧
      next.allEntries.Perm (index.allEntries ++ [entry]) ∧
      next.transactionNrsFileCursors.find? transactionEntry.transactionNr =
        some transactionEntry.fileCursor ∧
      (∀ other, other ≠ transactionEntry.transactionNr →
        next.transactionNrsFileCursors.find? other =
          index.transactionNrsFileCursors.find? other) ∧
      next.minTransactionNr = (index.widen transactionEntry.transactionNr).minTransactionNr := by
  obtain ⟨coinCommunityIndex, looked⟩ : ∃ coinCommunityIndex,
      (if transactionEntry.coinCommunityId.isEmpty then Except.ok 0
        else getCommunityIdIndex transactionEntry.coinCommunityId) =
          Except.ok coinCommunityIndex := by
    split
    · exact ⟨0, rfl⟩
    · rename_i other
      exact known.resolve_left other
  have notNegative : transactionEntry.fileCursor ≥ 0 := Int32.not_lt.mp nonnegative
  rcases addFileCursorForTransaction_cases transactionEntry.transactionNr
      transactionEntry.fileCursor (index.widen transactionEntry.transactionNr) with
    ⟨negative, _⟩ | ⟨zero, behind, _⟩ | ⟨_, _, result, fileCursors, recorded, found, others⟩
  · exact absurd negative nonnegative
  · exact absurd ⟨zero, behind⟩ accepted
  · have stored : fileCursors.find? transactionEntry.transactionNr =
        some transactionEntry.fileCursor := by
      rw [found]
      change some (keptFileCursor (index.transactionNrsFileCursors.find?
        transactionEntry.transactionNr) transactionEntry.fileCursor) = _
      rw [fresh]
      rfl
    obtain ⟨next, added, entries, kept, others', least⟩ := @addIndicesForTransaction_ok
      (indicesOf transactionEntry coinCommunityIndex)
      { index.widen transactionEntry.transactionNr with
        dirty := true
        transactionNrsFileCursors := fileCursors } count above nonnegative
      (by
        change ¬ (transactionEntry.fileCursor = 0 ∧ transactionEntry.transactionNr >
          ((index.widen transactionEntry.transactionNr).widen
            transactionEntry.transactionNr).minTransactionNr)
        rwa [widen_minTransactionNr_idem])
    refine ⟨next, entryOf (indicesOf transactionEntry coinCommunityIndex), ?_, rfl, entries, ?_, ?_,
      least.trans (widen_minTransactionNr_idem index transactionEntry.transactionNr)⟩
    · unfold addIndicesForTransactionEntry
      dsimp only
      rw [if_pos notNegative, recorded, looked]
      exact added
    · refine kept.trans ?_
      change some (keptFileCursor (fileCursors.find? transactionEntry.transactionNr)
        transactionEntry.fileCursor) = _
      rw [stored, keptFileCursor, ite_self]
    · intro other differ
      exact (others' other differ).trans (others other differ)

end BlockIndex

end Cache

end GradidoNode

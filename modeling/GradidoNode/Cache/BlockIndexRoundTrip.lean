import GradidoNode.Cache.BlockIndexReceive

/-!
# The round trip of a block index through its file

Writing an index and reading the file into an empty index restores the entries in months
that have some, the file cursors of these entries, and the range of their numbers. That is
the index itself when it holds nothing else.
-/

namespace GradidoNode

open Library

namespace Cache

namespace BlockIndex

/-- Numbers ascend, every entry has a file cursor, 0 at most for the lowest number, and the
one-byte count of address indices is their number. -/
structure Writable (index : BlockIndex) : Prop where
  ascending : index.allEntries.Pairwise fun first second =>
    first.transactionNr < second.transactionNr
  counted : ∀ entry ∈ index.allEntries,
    entry.addressIndices.length = entry.addressIndiceCount.toNat
  fileCursors : ∀ entry ∈ index.allEntries,
    index.transactionNrsFileCursors.find? entry.transactionNr ≠ none
  zero : ∀ entry ∈ index.allEntries,
    index.transactionNrsFileCursors.find? entry.transactionNr = some 0 →
      ∀ other ∈ index.allEntries, entry.transactionNr ≤ other.transactionNr

/-- The negation of what `serialize` asks before there is anything to save. -/
def NonEmpty (index : BlockIndex) : Prop :=
  index.yearMonthAddressIndexEntries ≠ ∅ ∨ index.transactionNrsFileCursors ≠ ∅ ∨
    index.maxTransactionNr ≠ 0 ∨ index.minTransactionNr ≠ 0

/-- Writing the index and reading the file into an empty index succeeds and restores it. -/
def RoundTrips (genericHash : List UInt8 → Digest) (enumContains : UInt8 → Bool)
    (uninitialised : Digest) (disk : Option (List UInt8)) (index : BlockIndex) : Prop :=
  ∃ written restored,
    StoredIndex.writeIntoFile genericHash ⟨index, disk⟩ = (.ok true, written) ∧
    StoredIndex.loadFromFile genericHash enumContains uninitialised ⟨new, written.disk⟩ =
      (.ok true, restored) ∧
    SameContents restored.index index

/-- The index holds nothing but its entries: no empty months or years, no file cursor
without an entry, a range as wide as the entries. Types are known and positions are not
negative. -/
structure HoldsEntriesOnly (enumContains : UInt8 → Bool) (index : BlockIndex) : Prop where
  known : ∀ entry ∈ index.allEntries, enumContains entry.transactionType = true
  nonnegative : ∀ entry ∈ index.allEntries,
    ∀ fileCursor ∈ index.transactionNrsFileCursors.find? entry.transactionNr, ¬ fileCursor < 0
  years : ∀ year ∈ index.yearMonthAddressIndexEntries.toList,
    year.2 ≠ ∅ ∧ ∀ month ∈ year.2.toList, month.2 ≠ []
  fileCursors : ∀ transactionNr, index.transactionNrsFileCursors.find? transactionNr ≠ none →
    ∃ entry ∈ index.allEntries, entry.transactionNr = transactionNr
  maxTransactionNr : index.maxTransactionNr =
    (index.allEntries.getLast?.map BlockIndexEntry.transactionNr).getD 0
  minTransactionNr : index.minTransactionNr =
    ((index.allEntries.map BlockIndexEntry.transactionNr).find? (· ≠ 0)).getD 0

variable (index : BlockIndex)

/-- The file cursor that is written for an entry. -/
def cursorOf (entry : BlockIndexEntry) : Int32 :=
  (index.transactionNrsFileCursors.find? entry.transactionNr).getD 0

def dataBlockOf (entry : BlockIndexEntry) : Files.DataBlock :=
  Files.DataBlock.ofVector entry.transactionNr (index.cursorOf entry) entry.transactionType
    entry.coinCommunityIdIndex (entry.addressIndices.take entry.addressIndiceCount.toNat)

def monthBlocksOf (month : UInt8 × List BlockIndexEntry) : List Files.IndexBlock :=
  .monthBlock month.1 :: month.2.map fun entry => .dataBlock (index.dataBlockOf entry)

def yearBlocksOf (year : Int16 × MonthEntries) : List Files.IndexBlock :=
  .yearBlock year.1 :: year.2.toList.flatMap index.monthBlocksOf

/-- The blocks of the written file. -/
def blocksOf : List Files.IndexBlock :=
  index.yearMonthAddressIndexEntries.toList.flatMap index.yearBlocksOf

/-- What reading delivers for an entry. -/
def indicesOfEntry (year : Int16) (month : UInt8) (entry : BlockIndexEntry) :
    TransactionIndices where
  transactionType := entry.transactionType
  coinCommunityIdIndex := entry.coinCommunityIdIndex
  year := year
  month := month
  transactionNr := entry.transactionNr
  fileCursor := index.cursorOf entry
  addressIndices := entry.addressIndices
  addressIndiceCount := entry.addressIndiceCount.toUInt16

def monthDeliveries (year : Int16) (month : UInt8 × List BlockIndexEntry) :
    List TransactionIndices :=
  month.2.map (index.indicesOfEntry year month.1)

def yearDeliveries (year : Int16 × MonthEntries) : List TransactionIndices :=
  year.2.toList.flatMap (index.monthDeliveries year.1)

/-- What reading the written file delivers. -/
def deliveriesOf : List TransactionIndices :=
  index.yearMonthAddressIndexEntries.toList.flatMap index.yearDeliveries

variable {index}

/-- An entry of a month of a year is an entry of the index. -/
theorem mem_allEntries_of_mem {year : Int16 × MonthEntries} {month : UInt8 × List BlockIndexEntry}
    {entry : BlockIndexEntry} (yearMember : year ∈ index.yearMonthAddressIndexEntries.toList)
    (monthMember : month ∈ year.2.toList) (entryMember : entry ∈ month.2) :
    entry ∈ index.allEntries :=
  mem_allEntries.mpr ⟨year, yearMember, month, monthMember, entryMember⟩

/-- Where every entry has a file cursor, the written blocks are the ones of the entries. -/
theorem serialize_eq (nonempty : index.NonEmpty)
    (cursors : ∀ entry ∈ index.allEntries,
      index.transactionNrsFileCursors.find? entry.transactionNr ≠ none) :
    index.serialize = .ok (some index.blocksOf) := by
  have entryOk (entry : BlockIndexEntry) (member : entry ∈ index.allEntries) :
      index.serializeEntry entry = .ok (.dataBlock (index.dataBlockOf entry)) := by
    obtain ⟨fileCursor, found⟩ := Option.ne_none_iff_exists'.mp (cursors entry member)
    unfold serializeEntry dataBlockOf cursorOf
    rw [found]
    rfl
  have monthOk (year : Int16 × MonthEntries) (month : UInt8 × List BlockIndexEntry)
      (yearMember : year ∈ index.yearMonthAddressIndexEntries.toList)
      (monthMember : month ∈ year.2.toList) :
      index.serializeMonth month = .ok (index.monthBlocksOf month) := by
    unfold serializeMonth
    rw [mapM_eq_ok_map fun entry member =>
      entryOk entry (mem_allEntries_of_mem yearMember monthMember member)]
    rfl
  have yearOk (year : Int16 × MonthEntries)
      (yearMember : year ∈ index.yearMonthAddressIndexEntries.toList) :
      index.serializeYear year = .ok (index.yearBlocksOf year) := by
    unfold serializeYear yearBlocksOf
    rw [mapM_eq_ok_map fun month member => monthOk year month yearMember member, List.flatMap_def]
    rfl
  unfold serialize
  rw [if_neg, mapM_eq_ok_map yearOk]
  · unfold blocksOf
    rw [List.flatMap_def]
    rfl
  · intro nothing
    simp only [Bool.and_eq_true, decide_eq_true_eq] at nothing
    obtain ⟨⟨⟨noYears, noCursors⟩, noMax⟩, noMin⟩ := nothing
    rcases nonempty with years | fileCursors | max | min
    · exact years (OrderedMap.ext (List.isEmpty_iff.mp noYears))
    · exact fileCursors (OrderedMap.ext (List.isEmpty_iff.mp noCursors))
    · exact max noMax
    · exact min noMin

/-- The block of an entry is delivered with all its address indices. -/
theorem indices_dataBlockOf {entry : BlockIndexEntry}
    (counted : entry.addressIndices.length = entry.addressIndiceCount.toNat) (year : Int16)
    (month : UInt8) :
    (index.dataBlockOf entry).indices year month = index.indicesOfEntry year month entry := by
  have whole : entry.addressIndices.take entry.addressIndiceCount.toNat = entry.addressIndices :=
    List.take_of_length_le (le_of_eq counted)
  have count : UInt8.ofNat entry.addressIndices.length = entry.addressIndiceCount := by
    rw [counted, UInt8.ofNat_toNat]
  unfold dataBlockOf Files.DataBlock.indices indicesOfEntry
  simp only [Files.DataBlock.ofVector, Files.DataBlock.addressIndicesCount, whole, count]

/-- Data blocks in a row are delivered with the year and month read last. -/
theorem deliveries_map_dataBlock (year : Int16) (month : UInt8) (blocks : List Files.DataBlock)
    (rest : List Files.IndexBlock) :
    Files.deliveries year month (blocks.map Files.IndexBlock.dataBlock ++ rest) =
      blocks.map (Files.DataBlock.indices · year month) ++ Files.deliveries year month rest := by
  induction blocks with
  | nil => rfl
  | cons block blocks ih => exact congrArg (block.indices year month :: ·) ih

/-- Reading back the blocks of a year's months delivers their entries in order. -/
theorem deliveries_months {year : Int16} {months : List (UInt8 × List BlockIndexEntry)}
    (counted : ∀ month ∈ months, ∀ entry ∈ month.2,
      entry.addressIndices.length = entry.addressIndiceCount.toNat)
    (monthCursor : UInt8) (rest : List Files.IndexBlock) :
    ∃ last, Files.deliveries year monthCursor (months.flatMap index.monthBlocksOf ++ rest) =
      months.flatMap (index.monthDeliveries year) ++ Files.deliveries year last rest := by
  induction months generalizing monthCursor with
  | nil => exact ⟨monthCursor, rfl⟩
  | cons month months ih =>
      obtain ⟨last, later⟩ := ih (fun other member => counted other (List.mem_cons_of_mem _ member))
        month.1
      refine ⟨last, ?_⟩
      have here : month.2.map (fun entry => (index.dataBlockOf entry).indices year month.1) =
          index.monthDeliveries year month := by
        apply List.map_congr_left
        intro entry member
        exact indices_dataBlockOf (counted month (List.mem_cons_self ..) entry member) year month.1
      have blocks : month.2.map (fun entry => Files.IndexBlock.dataBlock (index.dataBlockOf entry)) =
          (month.2.map index.dataBlockOf).map Files.IndexBlock.dataBlock := List.map_map.symm
      rw [List.flatMap_cons, List.append_assoc, monthBlocksOf, List.cons_append, Files.deliveries,
        blocks, deliveries_map_dataBlock, later, List.flatMap_cons, List.append_assoc, List.map_map]
      exact congrArg (· ++ _) here

/-- The same of all the years of a file. -/
theorem deliveries_years {years : List (Int16 × MonthEntries)}
    (counted : ∀ year ∈ years, ∀ month ∈ year.2.toList, ∀ entry ∈ month.2,
      entry.addressIndices.length = entry.addressIndiceCount.toNat)
    (yearCursor : Int16) (monthCursor : UInt8) :
    Files.deliveries yearCursor monthCursor (years.flatMap index.yearBlocksOf) =
      years.flatMap index.yearDeliveries := by
  induction years generalizing yearCursor monthCursor with
  | nil => rfl
  | cons year years ih =>
      obtain ⟨last, here⟩ := @deliveries_months index year.1 year.2.toList
        (counted year (List.mem_cons_self ..)) monthCursor (years.flatMap index.yearBlocksOf)
      rw [List.flatMap_cons, yearBlocksOf, List.cons_append, Files.deliveries, here,
        ih fun other member => counted other (List.mem_cons_of_mem _ member), List.flatMap_cons]
      rfl

/-- Reading back the blocks of a writable index delivers its entries. -/
theorem Writable.deliveries_eq (writable : index.Writable) :
    Files.deliveries 0 0 index.blocksOf = index.deliveriesOf := by
  apply deliveries_years
  intro year yearMember month monthMember entry entryMember
  exact writable.counted entry (mem_allEntries_of_mem yearMember monthMember entryMember)

/-- What is delivered for the entries, without where they are, can be read off the entries. -/
theorem map_deliveriesOf {Target : Type} {ofIndices : TransactionIndices → Target}
    {ofEntry : BlockIndexEntry → Target}
    (same : ∀ year month entry, ofIndices (index.indicesOfEntry year month entry) = ofEntry entry) :
    index.deliveriesOf.map ofIndices = index.allEntries.map ofEntry := by
  unfold deliveriesOf yearDeliveries monthDeliveries allEntries
  simp only [List.map_flatMap, List.map_map]
  congr 1
  funext year
  congr 1
  funext month
  exact List.map_congr_left fun entry _ => same year.1 month.1 entry

/-- Every delivery is that of an entry of the index. -/
theorem exists_entry_of_mem_deliveriesOf {indices : TransactionIndices}
    (member : indices ∈ index.deliveriesOf) :
    ∃ entry ∈ index.allEntries, ∃ year month, indices = index.indicesOfEntry year month entry := by
  obtain ⟨year, yearMember, inYear⟩ := List.mem_flatMap.mp member
  obtain ⟨month, monthMember, inMonth⟩ := List.mem_flatMap.mp inYear
  obtain ⟨entry, entryMember, rfl⟩ := List.mem_map.mp inMonth
  exact ⟨entry, mem_allEntries_of_mem yearMember monthMember entryMember, year.1, month.1, rfl⟩

/-- A writable index has a file cursor for every entry. -/
theorem Writable.find?_eq_cursorOf (writable : index.Writable) {entry : BlockIndexEntry}
    (member : entry ∈ index.allEntries) :
    index.transactionNrsFileCursors.find? entry.transactionNr = some (index.cursorOf entry) := by
  obtain ⟨fileCursor, found⟩ := Option.ne_none_iff_exists'.mp (writable.fileCursors entry member)
  unfold cursorOf
  rw [found]
  rfl

/-- All entries can be read back. -/
structure EntriesReadable (enumContains : UInt8 → Bool) (index : BlockIndex) : Prop where
  known : ∀ entry ∈ index.allEntries, enumContains entry.transactionType = true
  nonnegative : ∀ entry ∈ index.allEntries, ¬ index.cursorOf entry < 0

/-- What is read back from a written index. -/
def restoredOf (index : BlockIndex) : BlockIndex := index.deliveriesOf.foldl received new

/-- A fresh index accepts every cursor that is not negative. -/
theorem acceptsFileCursor_new {indices : TransactionIndices} (nonnegative : ¬ indices.fileCursor < 0) :
    new.AcceptsFileCursor indices := by
  refine ⟨nonnegative, fun refused => ?_⟩
  have range : (new.widen indices.transactionNr).minTransactionNr = indices.transactionNr := by
    change (if (0 : UInt64) = 0 ∨ indices.transactionNr < 0 then indices.transactionNr else 0) = _
    exact if_pos (Or.inl rfl)
  rw [range] at refused
  exact lt_irrefl _ refused.2

/-- The deliveries of a writable index build its restored form. -/
theorem Writable.deliver_eq (writable : index.Writable) {enumContains : UInt8 → Bool}
    (readable : EntriesReadable enumContains index) :
    Files.deliver addIndicesForTransaction index.deliveriesOf new = (.ok (), index.restoredOf) := by
  have nonnegative : ∀ indices ∈ index.deliveriesOf, ¬ indices.fileCursor < 0 := by
    intro indices member
    obtain ⟨entry, inIndex, year, month, rfl⟩ := exists_entry_of_mem_deliveriesOf member
    exact readable.nonnegative entry inIndex
  have ascending : index.allEntries.Pairwise fun first second =>
      first.transactionNr < second.transactionNr ∧ index.cursorOf second ≠ 0 := by
    apply writable.ascending.imp_of_mem
    intro first second firstMember secondMember less
    refine ⟨less, fun zero => ?_⟩
    have found := writable.find?_eq_cursorOf secondMember
    rw [zero] at found
    exact absurd less (not_lt_of_ge (writable.zero second secondMember found first firstMember))
  have pairs := @map_deliveriesOf index (UInt64 × Int32)
    (fun indices => (indices.transactionNr, indices.fileCursor))
    (fun entry => (entry.transactionNr, index.cursorOf entry)) fun _ _ _ => rfl
  apply deliver_eq_foldl
  · intro indices member
    obtain ⟨entry, _, year, month, rfl⟩ := exists_entry_of_mem_deliveriesOf member
    have small : entry.addressIndiceCount.toUInt16.toNat < 256 := entry.addressIndiceCount.toNat_lt
    intro large
    have above : 256 < entry.addressIndiceCount.toUInt16.toNat := large
    omega
  · exact nonnegative
  · have onPairs : (index.allEntries.map fun entry =>
        (entry.transactionNr, index.cursorOf entry)).Pairwise fun first second =>
          first.1 < second.1 ∧ second.2 ≠ 0 := List.pairwise_map.mpr ascending
    rw [← pairs] at onPairs
    exact List.pairwise_map.mp onPairs
  · exact fun indices _ => below_new indices.transactionNr
  · intro indices isFirst
    exact acceptsFileCursor_new (nonnegative indices (List.mem_of_head? isFirst))

/-- The blocks written for readable entries are readable. -/
theorem readable_blocksOf {enumContains : UInt8 → Bool}
    (readable : EntriesReadable enumContains index) :
    ∀ block ∈ index.blocksOf, block.Readable enumContains := by
  intro block member
  obtain ⟨year, yearMember, inYear⟩ := List.mem_flatMap.mp member
  rcases List.mem_cons.mp inYear with rfl | inMonths
  · trivial
  · obtain ⟨month, monthMember, inMonth⟩ := List.mem_flatMap.mp inMonths
    rcases List.mem_cons.mp inMonth with rfl | inEntries
    · trivial
    · obtain ⟨entry, entryMember, rfl⟩ := List.mem_map.mp inEntries
      have inIndex := mem_allEntries_of_mem yearMember monthMember entryMember
      exact ⟨readable.known entry inIndex, readable.nonnegative entry inIndex⟩

/-- Every entry is written as a data block. -/
theorem mem_blocksOf {entry : BlockIndexEntry} (member : entry ∈ index.allEntries) :
    .dataBlock (index.dataBlockOf entry) ∈ index.blocksOf := by
  obtain ⟨year, yearMember, month, monthMember, entryMember⟩ := mem_allEntries.mp member
  apply List.mem_flatMap.mpr
  refine ⟨year, yearMember, List.mem_cons_of_mem _ (List.mem_flatMap.mpr ⟨month, monthMember, ?_⟩)⟩
  exact List.mem_cons_of_mem _ (List.mem_map_of_mem entryMember)

/-- An index file is never empty: it ends with the hash. -/
theorem fileContent_ne_nil (genericHash : List UInt8 → Digest) (blocks : List Files.IndexBlock) :
    Files.fileContent genericHash blocks ≠ [] :=
  List.append_ne_nil_of_right_ne_nil _ (List.cons_ne_nil _ _)

variable (genericHash : List UInt8 → Digest) {enumContains : UInt8 → Bool} (uninitialised : Digest)

/-- The written file of a readable index loads, and what it loads is known. -/
theorem Writable.loadFromFile_eq (writable : index.Writable)
    (readable : EntriesReadable enumContains index) :
    StoredIndex.loadFromFile genericHash enumContains uninitialised
        ⟨new, some (Files.fileContent genericHash index.blocksOf)⟩ =
      (.ok true, ⟨index.restoredOf, some (Files.fileContent genericHash index.blocksOf)⟩) := by
  have read := Files.readFromFile_eq_deliver genericHash enumContains addIndicesForTransaction
    uninitialised (fileContent_ne_nil genericHash index.blocksOf) new
  rw [Files.walkFile_fileContent genericHash (readable_blocksOf readable),
    writable.deliveries_eq, writable.deliver_eq readable] at read
  dsimp only at read
  rw [if_pos rfl] at read
  unfold StoredIndex.loadFromFile StoredIndex.openFile StoredIndex.content
  dsimp only [Option.getD_some]
  rw [read]

/-- Only files of readable entries load. -/
theorem entriesReadable_of_loadFromFile {restored : StoredIndex}
    (loaded : StoredIndex.loadFromFile genericHash enumContains uninitialised
      ⟨new, some (Files.fileContent genericHash index.blocksOf)⟩ = (.ok true, restored)) :
    EntriesReadable enumContains index := by
  have all : ∀ block ∈ index.blocksOf, block.Readable enumContains := by
    intro block member
    by_contra unreadable
    obtain ⟨exception, rejected⟩ := Files.walkFile_fileContent_unreadable genericHash member
      unreadable
    have success := @StoredIndex.hash_of_loadFromFile_true genericHash enumContains uninitialised
      ⟨new, some (Files.fileContent genericHash index.blocksOf)⟩
      (fileContent_ne_nil genericHash index.blocksOf) (congrArg Prod.fst loaded)
    simp only [StoredIndex.content, Option.getD_some, rejected] at success
  constructor
  · intro entry member
    exact (all _ (mem_blocksOf member)).1
  · intro entry member
    exact (all _ (mem_blocksOf member)).2

/-- The entries of a year with their months. -/
def monthItems (months : MonthEntries) : List (UInt8 × BlockIndexEntry) :=
  months.toList.flatMap fun month => month.2.map fun entry => (month.1, entry)

/-- The months that have entries. -/
def filledMonths (months : MonthEntries) : MonthEntries :=
  ⟨months.toList.filter fun month => !month.2.isEmpty, months.sorted.sublist List.filter_sublist⟩

/-- A year has no entries exactly if no month of it has one. -/
theorem isEmpty_monthItems (months : MonthEntries) :
    (monthItems months).isEmpty = (filledMonths months).toList.isEmpty := by
  rw [Bool.eq_iff_iff, List.isEmpty_iff, List.isEmpty_iff]
  unfold monthItems filledMonths
  rw [List.flatMap_eq_nil_iff, List.filter_eq_nil_iff]
  constructor
  · intro none month member filled
    have empty := List.map_eq_nil_iff.mp (none month member)
    rw [empty] at filled
    cases filled
  · intro none month member
    have empty := none month member
    rw [Bool.not_eq_true, Bool.not_eq_false', List.isEmpty_iff] at empty
    rw [empty]
    rfl

/-- Appending entries one by one appends the list. -/
theorem foldl_append_singleton (before entries : List BlockIndexEntry) :
    entries.foldl (fun before entry => before ++ [entry]) before = before ++ entries := by
  induction entries generalizing before with
  | nil => exact (List.append_nil before).symm
  | cons entry rest ih => rw [List.foldl_cons, ih, List.append_assoc, List.singleton_append]

/-- Placing the entries of a year one by one fills its months. -/
theorem foldl_appendToMonth (months : MonthEntries) :
    (monthItems months).foldl (fun months item => appendToMonth item months) ∅ =
      filledMonths months := by
  apply OrderedMap.ext
  have filled := @OrderedMap.toList_foldl_alter UInt8 (List BlockIndexEntry) _ BlockIndexEntry
    (fun entry entries => entries ++ [entry]) [] months.toList months.sorted ∅ nofun
  unfold monthItems appendToMonth
  refine filled.trans ?_
  rw [OrderedMap.toList_empty, List.nil_append]
  have same (month : UInt8 × List BlockIndexEntry) :
      (month.1, month.2.foldl (fun entries entry => entries ++ [entry]) []) = month := by
    rw [foldl_append_singleton, List.nil_append]
  simp only [same, List.map_id']
  rfl

/-- The deliveries are placed into the years and months they came from. -/
theorem Writable.map_placed_deliveriesOf (writable : index.Writable) :
    index.deliveriesOf.map placed = index.yearMonthAddressIndexEntries.toList.flatMap fun year =>
      (monthItems year.2).map fun item => (year.1, item) := by
  unfold deliveriesOf
  rw [List.map_flatMap]
  apply List.flatMap_congr
  intro year yearMember
  unfold yearDeliveries monthItems
  rw [List.map_flatMap, List.map_flatMap]
  apply List.flatMap_congr
  intro month monthMember
  unfold monthDeliveries
  rw [List.map_map, List.map_map]
  apply List.map_congr_left
  intro entry entryMember
  have counted := writable.counted entry (mem_allEntries_of_mem yearMember monthMember entryMember)
  have whole : entry.addressIndices.take entry.addressIndiceCount.toUInt16.toNat =
      entry.addressIndices := List.take_of_length_le (le_of_eq counted)
  have count : entry.addressIndiceCount.toUInt16.toUInt8 = entry.addressIndiceCount := by simp
  change (year.1, month.1, entryOf (index.indicesOfEntry year.1 month.1 entry)) =
    (year.1, month.1, entry)
  unfold entryOf indicesOfEntry
  simp only [whole, count]

/-- Read back are the years that have entries, with their filled months. -/
theorem Writable.entries_restoredOf (writable : index.Writable) :
    index.restoredOf.yearMonthAddressIndexEntries.toList =
      (index.yearMonthAddressIndexEntries.toList.filter fun year =>
        !(filledMonths year.2).toList.isEmpty).map fun year => (year.1, filledMonths year.2) := by
  have sorted : (index.yearMonthAddressIndexEntries.toList.map fun year =>
      (year.1, monthItems year.2)).Pairwise fun first second => first.1 < second.1 :=
    List.pairwise_map.mpr index.yearMonthAddressIndexEntries.sorted
  have filled := @OrderedMap.toList_foldl_alter Int16 MonthEntries _ _ appendToMonth ∅ _ sorted ∅
    nofun
  rw [List.flatMap_map, List.filter_map, List.map_map, OrderedMap.toList_empty,
    List.nil_append] at filled
  unfold restoredOf
  rw [entries_foldl_received, writable.map_placed_deliveriesOf]
  refine filled.trans ?_
  have sameFilter : ((fun batch : Int16 × List (UInt8 × BlockIndexEntry) => !batch.2.isEmpty) ∘
      fun year : Int16 × MonthEntries => (year.1, monthItems year.2)) =
        fun year => !(filledMonths year.2).toList.isEmpty :=
    funext fun year => congrArg (!·) (isEmpty_monthItems year.2)
  rw [sameFilter]
  apply List.map_congr_left
  intro year _
  exact congrArg (Prod.mk year.1) (foldl_appendToMonth year.2)

/-- The months are restored where none is empty. -/
theorem Writable.entries_restoredOf_iff (writable : index.Writable) :
    index.restoredOf.yearMonthAddressIndexEntries = index.yearMonthAddressIndexEntries ↔
      ∀ year ∈ index.yearMonthAddressIndexEntries.toList,
        year.2 ≠ ∅ ∧ ∀ month ∈ year.2.toList, month.2 ≠ [] := by
  have restored := writable.entries_restoredOf
  constructor
  · intro same
    rw [same] at restored
    have length := congrArg List.length restored
    rw [List.length_map, eq_comm, List.length_filter_eq_length_iff] at length
    rw [List.filter_eq_self.mpr length] at restored
    intro year member
    have sameYear : year = (year.1, filledMonths year.2) := by
      have sameMap := (List.map_id index.yearMonthAddressIndexEntries.toList).trans restored
      exact List.map_inj_left.mp sameMap year member
    have sameMonths : (filledMonths year.2).toList = year.2.toList :=
      congrArg OrderedMap.toList (Prod.mk.inj sameYear).2.symm
    refine ⟨fun empty => ?_, fun month monthMember => ?_⟩
    · have filled := length year member
      rw [sameMonths, empty] at filled
      cases filled
    · intro empty
      have filled := List.filter_eq_self.mp sameMonths month monthMember
      rw [empty] at filled
      cases filled
  · intro filled
    have sameMonths (year : Int16 × MonthEntries)
        (member : year ∈ index.yearMonthAddressIndexEntries.toList) :
        filledMonths year.2 = year.2 := by
      apply OrderedMap.ext
      apply List.filter_eq_self.mpr
      intro month monthMember
      rw [Bool.not_eq_true', List.isEmpty_eq_false_iff]
      exact (filled year member).2 month monthMember
    apply OrderedMap.ext
    rw [restored, List.filter_eq_self.mpr]
    · conv_rhs => rw [← List.map_id index.yearMonthAddressIndexEntries.toList]
      apply List.map_congr_left
      intro year member
      exact congrArg (Prod.mk year.1) (sameMonths year member)
    · intro year member
      rw [Bool.not_eq_true', List.isEmpty_eq_false_iff, sameMonths year member]
      exact fun empty => (filled year member).1 (OrderedMap.ext empty)

/-- The restored cursors are those of the entries. -/
theorem Writable.find?_restoredOf (writable : index.Writable) (transactionNr : UInt64)
    (fileCursor : Int32) :
    index.restoredOf.transactionNrsFileCursors.find? transactionNr = some fileCursor ↔
      ∃ entry ∈ index.allEntries, entry.transactionNr = transactionNr ∧
        index.cursorOf entry = fileCursor := by
  have pairs := @map_deliveriesOf index (UInt64 × Int32)
    (fun indices => (indices.transactionNr, indices.fileCursor))
    (fun entry => (entry.transactionNr, index.cursorOf entry)) fun _ _ _ => rfl
  have distinct : ((index.allEntries.map fun entry =>
      (entry.transactionNr, index.cursorOf entry)).map Prod.fst).Nodup := by
    rw [List.map_map]
    exact List.pairwise_map.mpr (writable.ascending.imp ne_of_lt)
  have filled := @OrderedMap.toList_foldl_insertNew_perm UInt64 Int32 _ _ new.transactionNrsFileCursors
    distinct fun _ _ => rfl
  unfold restoredOf
  rw [fileCursors_foldl_received, pairs, ← OrderedMap.mem_toList_iff, filled.mem_iff]
  change (transactionNr, fileCursor) ∈ [] ++ _ ↔ _
  rw [List.nil_append, List.mem_map]
  simp only [Prod.mk.injEq]

/-- The file cursors are restored where each belongs to an entry. -/
theorem Writable.fileCursors_restoredOf_iff (writable : index.Writable) :
    index.restoredOf.transactionNrsFileCursors = index.transactionNrsFileCursors ↔
      ∀ transactionNr, index.transactionNrsFileCursors.find? transactionNr ≠ none →
        ∃ entry ∈ index.allEntries, entry.transactionNr = transactionNr := by
  constructor
  · intro same transactionNr present
    obtain ⟨fileCursor, found⟩ := Option.ne_none_iff_exists'.mp present
    rw [← same] at found
    obtain ⟨entry, member, sameNr, _⟩ := (writable.find?_restoredOf _ _).mp found
    exact ⟨entry, member, sameNr⟩
  · intro belongs
    apply OrderedMap.eq_of_find?_eq
    intro transactionNr
    apply Option.ext
    intro fileCursor
    refine (writable.find?_restoredOf transactionNr fileCursor).trans ?_
    constructor
    · rintro ⟨entry, member, rfl, rfl⟩
      exact writable.find?_eq_cursorOf member
    · intro found
      obtain ⟨entry, member, rfl⟩ := belongs transactionNr (by rw [found]; exact Option.some_ne_none _)
      rw [writable.find?_eq_cursorOf member] at found
      exact ⟨entry, member, rfl, Option.some.inj found⟩

/-- The deliveries of a writable index come in ascending order. -/
theorem Writable.ascending_deliveriesOf (writable : index.Writable) :
    index.deliveriesOf.Pairwise fun first second =>
      first.transactionNr < second.transactionNr := by
  have numbers := @map_deliveriesOf index UInt64 TransactionIndices.transactionNr
    BlockIndexEntry.transactionNr fun _ _ _ => rfl
  have onNumbers : (index.allEntries.map BlockIndexEntry.transactionNr).Pairwise (· < ·) :=
    List.pairwise_map.mpr writable.ascending
  rw [← numbers] at onNumbers
  exact List.pairwise_map.mp onNumbers

/-- What is restored has the contents of the index exactly where the index holds nothing
but its entries. -/
theorem Writable.sameContents_restoredOf_iff (writable : index.Writable)
    (readable : EntriesReadable enumContains index) :
    SameContents index.restoredOf index ↔ HoldsEntriesOnly enumContains index := by
  have numbers := @map_deliveriesOf index UInt64 TransactionIndices.transactionNr
    BlockIndexEntry.transactionNr fun _ _ _ => rfl
  have greatest : index.restoredOf.maxTransactionNr =
      (index.allEntries.getLast?.map BlockIndexEntry.transactionNr).getD 0 := by
    unfold restoredOf
    rw [maxTransactionNr_foldl_received writable.ascending_deliveriesOf
      fun indices _ => UInt64.zero_le, numbers, List.getLast?_map]
    rfl
  have least : index.restoredOf.minTransactionNr =
      ((index.allEntries.map BlockIndexEntry.transactionNr).find? (· ≠ 0)).getD 0 := by
    unfold restoredOf
    rw [minTransactionNr_foldl_received writable.ascending_deliveriesOf rfl, numbers]
  constructor
  · intro same
    refine ⟨readable.known, fun entry member fileCursor found => ?_,
      writable.entries_restoredOf_iff.mp same.entries,
      writable.fileCursors_restoredOf_iff.mp same.fileCursors,
      same.maxTransactionNr.symm.trans greatest, same.minTransactionNr.symm.trans least⟩
    have kept := writable.find?_eq_cursorOf member
    rw [Option.mem_def.mp found] at kept
    rw [Option.some.inj kept]
    exact readable.nonnegative entry member
  · intro holds
    exact ⟨writable.entries_restoredOf_iff.mpr holds.years,
      writable.fileCursors_restoredOf_iff.mpr holds.fileCursors,
      greatest.trans holds.maxTransactionNr.symm, least.trans holds.minTransactionNr.symm⟩

/-- An index that holds entries only has readable ones. -/
theorem HoldsEntriesOnly.entriesReadable (holds : HoldsEntriesOnly enumContains index)
    (writable : index.Writable) : EntriesReadable enumContains index where
  known := holds.known
  nonnegative entry member := holds.nonnegative entry member _ (writable.find?_eq_cursorOf member)

/-- A non-empty writable index is written as its blocks and their hash. -/
theorem writeIntoFile_eq (disk : Option (List UInt8)) (nonempty : index.NonEmpty)
    (writable : index.Writable) :
    StoredIndex.writeIntoFile genericHash ⟨index, disk⟩ =
      (.ok true, ⟨index, some (Files.fileContent genericHash index.blocksOf)⟩) := by
  unfold StoredIndex.writeIntoFile
  dsimp only
  rw [serialize_eq nonempty writable.fileCursors]

/-- An index that comes back from its file held nothing but entries. -/
theorem holdsEntriesOnly_of_roundTrips {genericHash : List UInt8 → Digest} {uninitialised : Digest}
    {disk : Option (List UInt8)} (nonempty : index.NonEmpty) (writable : index.Writable)
    (roundTrips : RoundTrips genericHash enumContains uninitialised disk index) :
    HoldsEntriesOnly enumContains index := by
  obtain ⟨written, restored, wrote, loaded, same⟩ := roundTrips
  cases (writeIntoFile_eq genericHash disk nonempty writable).symm.trans wrote
  have readable := entriesReadable_of_loadFromFile genericHash uninitialised loaded
  cases (writable.loadFromFile_eq genericHash uninitialised readable).symm.trans loaded
  exact (writable.sameContents_restoredOf_iff readable).mp same

/-- A writable index makes the round trip through its file exactly when it holds nothing but
its entries. -/
theorem roundTrips_iff_holdsEntriesOnly (enumContains : UInt8 → Bool)
    (disk : Option (List UInt8)) (nonempty : index.NonEmpty) (writable : index.Writable) :
    RoundTrips genericHash enumContains uninitialised disk index ↔
      HoldsEntriesOnly enumContains index := by
  constructor
  · exact holdsEntriesOnly_of_roundTrips nonempty writable
  · intro holds
    have readable := holds.entriesReadable writable
    exact ⟨_, _, writeIntoFile_eq genericHash disk nonempty writable,
      writable.loadFromFile_eq genericHash uninitialised readable,
      (writable.sameContents_restoredOf_iff readable).mpr holds⟩

section Example

/-- Transaction 1 with address 1 in May 2024, at the start of the file. -/
def exampleIndices : TransactionIndices where
  transactionType := 1
  coinCommunityIdIndex := 0
  year := 2024
  month := 5
  transactionNr := 1
  fileCursor := 0
  addressIndices := [1]
  addressIndiceCount := 1

/-- Transaction 2 in June, with more addresses than the index takes. -/
def refusedIndices : TransactionIndices where
  transactionType := 1
  coinCommunityIdIndex := 0
  year := 2024
  month := 6
  transactionNr := 2
  fileCursor := 40
  addressIndices := List.replicate 257 1
  addressIndiceCount := 257

def exampleIndex : BlockIndex := new.received exampleIndices

/-- Transaction 2 in the next year. -/
def laterIndices : TransactionIndices where
  transactionType := 2
  coinCommunityIdIndex := 0
  year := 2025
  month := 1
  transactionNr := 2
  fileCursor := 40
  addressIndices := [1, 2]
  addressIndiceCount := 2

/-- An index of two years is read back as it was written. -/
theorem roundTrips_twoYears :
    RoundTrips (fun _ => ⟨List.replicate 32 0, rfl⟩) (fun type => type ≤ 8)
      ⟨List.replicate 32 0, rfl⟩ none (exampleIndex.received laterIndices) := by
  refine (roundTrips_iff_holdsEntriesOnly _ _ _ _ (Or.inr (Or.inr (Or.inl (by decide))))
    ⟨by decide, by decide, by decide, by decide⟩).mpr ?_
  exact {
    known := by decide
    nonnegative := fun entry member fileCursor found => by
      have entries : (exampleIndex.received laterIndices).allEntries =
          [entryOf exampleIndices, entryOf laterIndices] := rfl
      rw [entries] at member
      rcases List.mem_pair.mp member with rfl | rfl
      · cases found
        decide
      · cases found
        decide
    years := by decide
    fileCursors := fun transactionNr stored => by
      obtain ⟨fileCursor, found⟩ := Option.ne_none_iff_exists'.mp stored
      have listed : (transactionNr, fileCursor) ∈ [((1, 0) : UInt64 × Int32), (2, 40)] :=
        OrderedMap.mem_toList_iff.mpr found
      rcases List.mem_pair.mp listed with isFirst | isSecond
      · obtain ⟨rfl, -⟩ := Prod.mk.inj isFirst
        exact ⟨entryOf exampleIndices, by decide, rfl⟩
      · obtain ⟨rfl, -⟩ := Prod.mk.inj isSecond
        exact ⟨entryOf laterIndices, by decide, rfl⟩
    maxTransactionNr := by decide
    minTransactionNr := by decide }

/-- The index that refused transaction 2 has its month and its number all the same. -/
theorem not_roundTrips_refusedIndices :
    ∃ exception index,
      addIndicesForTransaction refusedIndices exampleIndex = (.error exception, index) ∧
      index.NonEmpty ∧ index.Writable ∧
      ¬ RoundTrips (fun _ => ⟨List.replicate 32 0, rfl⟩) (fun type => type ≤ 8)
        ⟨List.replicate 32 0, rfl⟩ none index := by
  have writable : (addIndicesForTransaction refusedIndices exampleIndex).2.Writable :=
    ⟨by decide, by decide, by decide, by decide⟩
  have nonempty : (addIndicesForTransaction refusedIndices exampleIndex).2.NonEmpty :=
    Or.inr (Or.inr (Or.inl (by decide)))
  refine ⟨_, _, rfl, nonempty, writable, fun roundTrips => ?_⟩
  have holds := holdsEntriesOnly_of_roundTrips nonempty writable roundTrips
  exact absurd holds.maxTransactionNr (by decide)

end Example

end BlockIndex

end Cache

end GradidoNode

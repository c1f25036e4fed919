import GradidoNode.Blockchain.CommunityFolder
import GradidoNode.Blockchain.DismissingSearch

/-!
# Loading the blocks of a community

In a valid folder whose addresses are all numbered every block can be loaded, with the index of
its transactions. Loading changes nothing but the cache of blocks, and creates the file of a block
that is new.
-/

namespace GradidoNode

open Library Cache Files

namespace Blockchain

variable {Octet TransactionId Duration : Type} [LinearOrder Octet]
  {library : CommunityLibrary Octet TransactionId Duration} {folder : CommunityFolder Duration}

namespace Community

variable [LinearOrder TransactionId] {community next : Community Octet TransactionId Duration}
  {strings : List (List UInt8)} {blockNr : UInt32}

/-- The block files and indices are those of the folder, and the dictionary numbers these
strings. -/
structure Loadable (library : CommunityLibrary Octet TransactionId Duration)
    (folder : CommunityFolder Duration) (strings : List (List UInt8))
    (community : Community Octet TransactionId Duration) : Prop where
  transactions : ∀ blockNr, community.transactionsOf blockNr = folder.transactionsOf blockNr
  indexFiles : ∀ blockNr index, community.indexFiles.find? blockNr = some index →
    index.IndexesNumbers (folder.numbersOf blockNr)
  cached : ∀ blockNr index, community.cachedBlocks.find? blockNr = some index →
    index.IndexesNumbers (folder.numbersOf blockNr)
  holds : community.publicKeysIndex.store.Holds library.signatureOctet strings

/-- From one state to the other blocks were loaded, and no block 0 was created. -/
def Loads (community next : Community Octet TransactionId Duration) : Prop :=
  ∃ files blocks, next = { community with blockFiles := files, cachedBlocks := blocks } ∧
    files.find? 0 = community.blockFiles.find? 0

/-- Loading nothing. -/
theorem Loads.refl (community : Community Octet TransactionId Duration) :
    Loads community community := ⟨_, _, rfl, rfl⟩

/-- Blocks that are loaded one after the other. -/
theorem Loads.trans {last : Community Octet TransactionId Duration}
    (first : Loads community next) (second : Loads next last) : Loads community last := by
  obtain ⟨files, blocks, rfl, same⟩ := first
  obtain ⟨moreFiles, moreBlocks, rfl, stillSame⟩ := second
  exact ⟨moreFiles, moreBlocks, rfl, stillSame.trans same⟩

/-- A loaded block can be cached. -/
theorem Loadable.cacheBlock (loadable : Loadable library folder strings community)
    {index : BlockIndex} (indexes : index.IndexesNumbers (folder.numbersOf blockNr)) :
    Loadable library folder strings (cacheBlock blockNr index community) where
  transactions := loadable.transactions
  indexFiles := loadable.indexFiles
  cached other found isFound := by
    by_cases same : other = blockNr
    · subst same
      have isIndex := (OrderedMap.find?_alter_self community.cachedBlocks other _).symm.trans isFound
      exact Option.some.inj isIndex ▸ indexes
    · refine loadable.cached other found ?_
      rw [← isFound]
      exact (OrderedMap.find?_alter_of_ne community.cachedBlocks same _).symm
  holds := loadable.holds

/-- The last block number of a state, as the loops over the blocks read it. -/
def lastBlockNrOf (community : Community Octet TransactionId Duration) : Int32 :=
  community.blockchainState.store.readInt32State .LAST_BLOCK_NR 1 true

/-- A block of the folder, as a search sees it. -/
structure IsBlock (folder : CommunityFolder Duration) (blockNr : UInt32)
    (block : StoredBlock (StoredTransaction Duration)) : Prop where
  indexes : block.index.IndexesNumbers (folder.numbersOf blockNr)
  reads : block.getTransaction = findTransaction (folder.transactionsOf blockNr)

omit [LinearOrder TransactionId] in
/-- The range of an index goes from the first transaction of the block to its last one. -/
theorem range_of_indexes (valid : folder.Valid library) {index : BlockIndex}
    (indexes : index.IndexesNumbers (folder.numbersOf blockNr))
    (some : folder.transactionsOf blockNr ≠ []) :
    ∃ first ∈ folder.transactionsOf blockNr, ∃ last ∈ folder.transactionsOf blockNr,
      index.minTransactionNr = first.id ∧ index.maxTransactionNr = last.id ∧
        ∀ transaction ∈ folder.transactionsOf blockNr,
          first.id ≤ transaction.id ∧ transaction.id ≤ last.id := by
  have ascending := valid.ascending.sublist (folder.transactionsOf_sublist blockNr)
  have least := indexes.least
  have greatest := indexes.greatest
  unfold CommunityFolder.numbersOf at least greatest
  obtain ⟨first, rest, fromFirst⟩ := List.exists_cons_of_ne_nil some
  obtain ⟨before, last, toLast⟩ := List.eq_nil_or_concat'
    (folder.transactionsOf blockNr) |>.resolve_left some
  refine ⟨first, ?_, last, ?_, ?_, ?_, fun transaction inBlock => ⟨?_, ?_⟩⟩
  · rw [fromFirst]
    exact List.mem_cons_self ..
  · rw [toLast]
    exact List.mem_append_right _ (List.mem_singleton_self last)
  · rw [least, fromFirst]
    rfl
  · rw [greatest, toLast, List.map_append, List.map_singleton, List.getLast?_append,
      List.getLast?_singleton]
    rfl
  · rw [fromFirst] at ascending inBlock
    rcases List.mem_cons.mp inBlock with rfl | later
    · exact le_refl _
    · exact le_of_lt ((List.pairwise_cons.mp ascending).1 transaction later)
  · rw [toLast] at ascending inBlock
    rcases List.mem_append.mp inBlock with earlier | isLast
    · exact le_of_lt ((List.pairwise_append.mp ascending).2.2 transaction earlier last
        (List.mem_singleton_self last))
    · rw [List.mem_singleton.mp isLast]

/-- The blocks of the folder, one for each number. -/
def AreBlocks (folder : CommunityFolder Duration)
    (blocks : List (StoredBlock (StoredTransaction Duration))) : Prop :=
  List.Forall₂ (IsBlock folder)
    ((List.range' 1 folder.blockFiles.size).map fun blockNr => UInt32.ofNat blockNr) blocks

end Community

/-! ## The chain in the blocks -/

/-- A transaction that stands for none. -/
instance : Inhabited (StoredTransaction Duration) where
  default :=
    { id := 0
      month := 0
      year := 0
      transactionType := 0
      coinCommunityId := ""
      serializedTransaction := []
      firstSignature := []
      messageId := []
      involvedAddresses := []
      confirmedAt := ⟨0, 0⟩
      body := .other
      fileCursor := 0 }

/-- A transaction is the first with its number, if the numbers ascend. -/
theorem find?_of_ascending {transactions : List (StoredTransaction Duration)}
    (ascending : transactions.Pairwise fun first second => first.id < second.id)
    {transaction : StoredTransaction Duration} (member : transaction ∈ transactions) :
    (transactions.find? fun other => other.id = transaction.id) = some transaction := by
  induction transactions with
  | nil => cases member
  | cons first rest ih =>
      obtain ⟨before, ascendingRest⟩ := List.pairwise_cons.mp ascending
      rcases List.mem_cons.mp member with rfl | later
      · rw [List.find?_cons, decide_eq_true rfl]
      · have differ : first.id ≠ transaction.id := ne_of_lt (before transaction later)
        rw [List.find?_cons, decide_eq_false differ]
        exact ih ascendingRest later

namespace CommunityFolder

/-- The transaction of the chain with a number. -/
def transactionOf (folder : CommunityFolder Duration) (transactionNr : UInt64) :
    StoredTransaction Duration :=
  (folder.chain.find? fun transaction => transaction.id = transactionNr).getD default

/-- A transaction of the chain has its own number. -/
theorem Valid.transactionOf_id (valid : folder.Valid library)
    {transaction : StoredTransaction Duration} (inChain : transaction ∈ folder.chain) :
    folder.transactionOf transaction.id = transaction := by
  unfold transactionOf
  rw [find?_of_ascending valid.ascending inChain, Option.getD_some]

end CommunityFolder

namespace Community

variable {blocks : List (StoredBlock (StoredTransaction Duration))}

/-- Each of the blocks is one of the folder. -/
theorem exists_of_forall₂ {blockNrs : List UInt32}
    (all : List.Forall₂ (IsBlock folder) blockNrs blocks)
    {block : StoredBlock (StoredTransaction Duration)} (member : block ∈ blocks) :
    ∃ blockNr ∈ blockNrs, IsBlock folder blockNr block := by
  induction all with
  | nil => cases member
  | cons isBlock _ ih =>
      rcases List.mem_cons.mp member with rfl | later
      · exact ⟨_, List.mem_cons_self .., isBlock⟩
      · obtain ⟨blockNr, inRest, isOther⟩ := ih later
        exact ⟨blockNr, List.mem_cons_of_mem _ inRest, isOther⟩

/-- The numbers in the indices of the blocks are those in the block files. -/
theorem numbers_of_forall₂ {blockNrs : List UInt32}
    (all : List.Forall₂ (IsBlock folder) blockNrs blocks) :
    (blocks.flatMap fun block => block.index.allEntries.map BlockIndexEntry.transactionNr) =
      blockNrs.flatMap folder.numbersOf := by
  induction all with
  | nil => rfl
  | cons isBlock _ ih => rw [List.flatMap_cons, List.flatMap_cons, isBlock.indexes.numbers, ih]

/-- An entry of a block is that of a transaction in it. -/
theorem IsBlock.exists_transaction {blockNr : UInt32}
    {block : StoredBlock (StoredTransaction Duration)} (isBlock : IsBlock folder blockNr block)
    {entry : BlockIndexEntry} (inIndex : entry ∈ block.index.allEntries) :
    ∃ transaction ∈ folder.transactionsOf blockNr, transaction.id = entry.transactionNr := by
  have isNumber : entry.transactionNr ∈ folder.numbersOf blockNr :=
    isBlock.indexes.numbers ▸ List.mem_map_of_mem inIndex
  exact List.mem_map.mp isNumber

/-- A transaction in a block has an entry in its index. -/
theorem IsBlock.exists_entry {blockNr : UInt32}
    {block : StoredBlock (StoredTransaction Duration)} (isBlock : IsBlock folder blockNr block)
    {transaction : StoredTransaction Duration}
    (inBlock : transaction ∈ folder.transactionsOf blockNr) :
    ∃ entry ∈ block.index.allEntries, entry.transactionNr = transaction.id := by
  have isNumber : transaction.id ∈ block.index.allEntries.map BlockIndexEntry.transactionNr :=
    isBlock.indexes.numbers ▸ List.mem_map_of_mem inBlock
  exact List.mem_map.mp isNumber

/-- Each of the blocks has transactions. -/
theorem AreBlocks.exists_blockNr (areBlocks : AreBlocks folder blocks)
    (valid : folder.Valid library) {block : StoredBlock (StoredTransaction Duration)}
    (member : block ∈ blocks) :
    ∃ blockNr, IsBlock folder blockNr block ∧ folder.transactionsOf blockNr ≠ [] := by
  have few := valid.few
  obtain ⟨blockNr, inRange, isBlock⟩ := exists_of_forall₂ areBlocks member
  obtain ⟨number, isNumber, rfl⟩ := List.mem_map.mp inRange
  rw [List.mem_range'_1] at isNumber
  refine ⟨_, isBlock, valid.transactionsOf_ne_nil_iff.mpr ?_⟩
  rw [UInt32.toNat_ofNat', Nat.mod_eq_of_lt (by omega)]
  omega

/-- The indices of the blocks have the numbers of the chain. -/
theorem AreBlocks.numbers (areBlocks : AreBlocks folder blocks) (valid : folder.Valid library) :
    (blocks.flatMap fun block => block.index.allEntries.map BlockIndexEntry.transactionNr) =
      folder.chain.map fun transaction => transaction.id := by
  rw [numbers_of_forall₂ areBlocks, valid.chain_eq, List.map_flatMap, List.flatMap_map]
  rfl

/-- The transaction that a number of a block is read as. -/
theorem IsBlock.getTransaction_eq (valid : folder.Valid library) {blockNr : UInt32}
    {block : StoredBlock (StoredTransaction Duration)} (isBlock : IsBlock folder blockNr block)
    {entry : BlockIndexEntry} (inIndex : entry ∈ block.index.allEntries) :
    block.getTransaction entry.transactionNr = .ok (folder.transactionOf entry.transactionNr) := by
  obtain ⟨transaction, inBlock, same⟩ := isBlock.exists_transaction inIndex
  have part := folder.transactionsOf_sublist blockNr
  rw [isBlock.reads, ← same, valid.transactionOf_id (part.subset inBlock)]
  unfold findTransaction
  rw [find?_of_ascending (valid.ascending.sublist part) inBlock]

/-- The blocks store the chain. -/
theorem AreBlocks.chainStored (areBlocks : AreBlocks folder blocks)
    (valid : folder.Valid library) : FileBased.ChainStored blocks folder.transactionOf where
  ascending := by
    have ascending := List.pairwise_map.mpr valid.ascending
    rw [← areBlocks.numbers valid, ← List.map_flatMap] at ascending
    exact List.pairwise_map.mp ascending
  nonempty block member none := by
    obtain ⟨blockNr, isBlock, some⟩ := areBlocks.exists_blockNr valid member
    have numbers := isBlock.indexes.numbers
    rw [none] at numbers
    exact some (List.map_eq_nil_iff.mp numbers.symm)
  positive block member := by
    obtain ⟨blockNr, isBlock, some⟩ := areBlocks.exists_blockNr valid member
    obtain ⟨first, inBlock, _, _, isFirst, _⟩ := range_of_indexes valid isBlock.indexes some
    rw [isFirst]
    exact UInt64.pos_iff_ne_zero.mpr
      (valid.positive first ((folder.transactionsOf_sublist blockNr).subset inBlock))
  ranged block member entry inIndex := by
    obtain ⟨blockNr, isBlock, some⟩ := areBlocks.exists_blockNr valid member
    obtain ⟨first, _, last, _, isFirst, isLast, between⟩ :=
      range_of_indexes valid isBlock.indexes some
    obtain ⟨transaction, inBlock, same⟩ := isBlock.exists_transaction inIndex
    rw [isFirst, isLast, ← same]
    exact between transaction inBlock
  calendar block member := by
    obtain ⟨_, isBlock, _⟩ := areBlocks.exists_blockNr valid member
    exact isBlock.indexes.calendar
  stored block member entry inIndex := by
    obtain ⟨_, isBlock, _⟩ := areBlocks.exists_blockNr valid member
    exact isBlock.getTransaction_eq valid inIndex

/-- The range of each block is that of its transactions. -/
theorem AreBlocks.rangesFilled (areBlocks : AreBlocks folder blocks)
    (valid : folder.Valid library) : FileBased.RangesFilled blocks where
  fromFirst block member := by
    obtain ⟨_, isBlock, some⟩ := areBlocks.exists_blockNr valid member
    obtain ⟨first, inBlock, _, _, isFirst, _⟩ := range_of_indexes valid isBlock.indexes some
    rw [isFirst]
    exact isBlock.exists_entry inBlock
  toLast block member := by
    obtain ⟨_, isBlock, some⟩ := areBlocks.exists_blockNr valid member
    obtain ⟨_, _, last, inBlock, _, isLast, _⟩ := range_of_indexes valid isBlock.indexes some
    rw [isLast]
    exact isBlock.exists_entry inBlock

/-- The transactions that the blocks store, one for each entry. -/
theorem AreBlocks.flatMap_entriesIn (areBlocks : AreBlocks folder blocks)
    (valid : folder.Valid library) :
    blocks.flatMap (FileBased.entriesIn folder.transactionOf) = folder.chain := by
  have asNumbers : blocks.flatMap (FileBased.entriesIn folder.transactionOf) =
      (blocks.flatMap fun block => block.index.allEntries.map
        BlockIndexEntry.transactionNr).map folder.transactionOf := by
    rw [List.map_flatMap]
    refine List.flatMap_congr fun block _ => ?_
    rw [List.map_map]
    rfl
  rw [asNumbers, areBlocks.numbers valid, List.map_map]
  exact (List.map_congr_left fun transaction inChain => valid.transactionOf_id inChain).trans
    (List.map_id _)

/-- A rescan goes through the chain. -/
theorem AreBlocks.chainOf_rescanned (areBlocks : AreBlocks folder blocks)
    (valid : folder.Valid library) :
    FileBased.chainOf (fun transactionNr => (folder.transactionOf transactionNr).transactionEntry)
        (blocks.map rescannedBlock) = folder.chain.map StoredTransaction.transactionEntry := by
  rw [← areBlocks.flatMap_entriesIn valid, List.map_flatMap]
  unfold FileBased.chainOf
  rw [List.flatMap_map]
  refine List.flatMap_congr fun block _ => ?_
  unfold FileBased.entriesIn
  rw [List.map_map]
  rfl

/-- A rescan sees the blocks with the same indices. -/
theorem AreBlocks.rescanned (areBlocks : AreBlocks folder blocks) (valid : folder.Valid library) :
    FileBased.ChainStored (blocks.map rescannedBlock)
      fun transactionNr => (folder.transactionOf transactionNr).transactionEntry := by
  have stored := areBlocks.chainStored valid
  refine ⟨?_, ?_, ?_, ?_, ?_, ?_⟩
  · rw [List.flatMap_map]
    exact stored.ascending
  · exact List.forall_mem_map.mpr stored.nonempty
  · exact List.forall_mem_map.mpr stored.positive
  · exact List.forall_mem_map.mpr stored.ranged
  · exact List.forall_mem_map.mpr stored.calendar
  · refine List.forall_mem_map.mpr fun block member entry inIndex => ?_
    change (block.getTransaction entry.transactionNr).map StoredTransaction.transactionEntry = _
    rw [stored.stored block member entry inIndex]
    rfl

/-- A rescan sees the chain with its transfers. -/
theorem AreBlocks.transfersStored (areBlocks : AreBlocks folder blocks)
    (valid : folder.Valid library) :
    FileBased.TransfersStored
      (fun transactionNr => (folder.transactionOf transactionNr).transactionEntry)
      (blocks.map rescannedBlock) := by
  have filled := areBlocks.rangesFilled valid
  refine ⟨areBlocks.rescanned valid, ?_, List.forall_mem_map.mpr filled.fromFirst,
    List.forall_mem_map.mpr filled.toLast, ?_⟩
  · refine List.forall_mem_map.mpr fun block member entry inIndex => ?_
    obtain ⟨blockNr, isBlock, _⟩ := areBlocks.exists_blockNr valid member
    obtain ⟨transaction, inBlock, same⟩ := isBlock.exists_transaction inIndex
    change (folder.transactionOf entry.transactionNr).id = entry.transactionNr
    rw [← same, valid.transactionOf_id ((folder.transactionsOf_sublist blockNr).subset inBlock)]
  · rw [areBlocks.chainOf_rescanned valid]
    exact valid.transfers

end Community

end Blockchain

end GradidoNode

import GradidoNode.Cache.BlockInit
import GradidoNode.Cache.WriteOrder

/-!
# When opening a block yields the index of its block file

Rebuilding gives exactly the index of the block file once every record has been worked
on. A damaged or stale index file never does.
-/

namespace GradidoNode

open Library

namespace Cache

section Rebuild

/-- The index of the first entries of a rebuild. -/
structure Indexed (index : BlockIndex) (done : List NodeTransactionEntry) : Prop
    extends IndexesExactly index done where
  positive : ∀ transaction ∈ done, 0 < transaction.transactionNr
  least : index.minTransactionNr = (done.head?.map NodeTransactionEntry.transactionNr).getD 0

theorem indexed_new : Indexed BlockIndex.new [] where
  entries := List.Perm.refl _
  fileCursors := nofun
  others _ _ := rfl
  positive := nofun
  least := rfl

variable {environment : InitEnvironment}

/-- The next entry of a rebuild enters the index. -/
theorem Indexed.next {index : BlockIndex} {done : List NodeTransactionEntry}
    {transactionEntry : NodeTransactionEntry} (indexed : Indexed index done)
    (positive : 0 < transactionEntry.transactionNr)
    (above : ∀ entry ∈ done, entry.transactionNr < transactionEntry.transactionNr)
    (indexable : Indexable environment transactionEntry)
    (nonnegative : ¬ transactionEntry.fileCursor < 0)
    (zero : transactionEntry.fileCursor = 0 → done = []) :
    ∃ next, BlockIndex.addIndicesForTransactionEntry environment.getCommunityIdIndex
        transactionEntry index = (.ok (), next) ∧ Indexed next (done ++ [transactionEntry]) := by
  have allBelow : ∀ entry ∈ index.allEntries,
      entry.transactionNr < transactionEntry.transactionNr := by
    intro entry member
    have isNumber := indexed.entries.mem_iff.mp (List.mem_map_of_mem member)
    obtain ⟨other, isDone, same⟩ := List.mem_map.mp isNumber
    rw [← same]
    exact above other isDone
  have isNew : transactionEntry.transactionNr ∉ done.map NodeTransactionEntry.transactionNr := by
    intro member
    obtain ⟨other, isDone, same⟩ := List.mem_map.mp member
    exact absurd same (ne_of_lt (above other isDone))
  have least : (index.widen transactionEntry.transactionNr).minTransactionNr =
      ((done ++ [transactionEntry]).head?.map NodeTransactionEntry.transactionNr).getD 0 := by
    cases done with
    | nil =>
        have noLeast := indexed.least
        simp only [List.head?_nil, Option.map_none, Option.getD_none] at noLeast
        simp [BlockIndex.widen, noLeast]
    | cons first rest =>
        have firstLeast := indexed.least
        simp only [List.head?_cons, Option.map_some, Option.getD_some] at firstLeast
        have notWidened : ¬ (index.minTransactionNr = 0 ∨
            transactionEntry.transactionNr < index.minTransactionNr) := by
          rw [firstLeast, not_or]
          exact ⟨ne_of_gt (indexed.positive first (List.mem_cons_self ..)),
            not_lt_of_gt (above first (List.mem_cons_self ..))⟩
        simp only [BlockIndex.widen, if_neg notWidened, List.cons_append, List.head?_cons,
          Option.map_some, Option.getD_some]
        exact firstLeast
  have accepted : ¬ (transactionEntry.fileCursor = 0 ∧ transactionEntry.transactionNr >
      (index.widen transactionEntry.transactionNr).minTransactionNr) := by
    rintro ⟨isZero, behind⟩
    rw [least, zero isZero] at behind
    exact lt_irrefl _ behind
  obtain ⟨next, entry, added, sameNr, entries, found, others, leastNext⟩ :=
    BlockIndex.addIndicesForTransactionEntry_ok indexable.1 indexable.2 allBelow nonnegative
      accepted (indexed.others _ isNew)
  refine ⟨next, added, ⟨?_, ?_, ?_⟩, ?_, leastNext.trans least⟩
  · refine (entries.map _).trans ?_
    rw [List.map_append, List.map_append, List.map_cons, List.map_nil, sameNr]
    exact indexed.entries.append_right _
  · intro other member
    rcases List.mem_append.mp member with isDone | isLast
    · rw [others _ (ne_of_lt (above other isDone))]
      exact indexed.fileCursors other isDone
    · rw [List.mem_singleton.mp isLast]
      exact found
  · intro transactionNr absent
    rw [List.map_append, List.mem_append, not_or] at absent
    have differ : transactionNr ≠ transactionEntry.transactionNr := fun same =>
      absent.2 (List.mem_singleton.mpr same)
    rw [others _ differ]
    exact indexed.others transactionNr absent.1
  · intro other member
    rcases List.mem_append.mp member with isDone | isLast
    · exact indexed.positive other isDone
    · rw [List.mem_singleton.mp isLast]
      exact positive

/-- Entries with ascending numbers, of which only the first has the file cursor 0, are
all indexed. -/
theorem Indexed.indexEntries {rest done : List NodeTransactionEntry} {index : BlockIndex}
    {prevId : UInt64} (indexed : Indexed index done)
    (ascending : (done ++ rest).Pairwise fun first second =>
      first.transactionNr < second.transactionNr)
    (above : ∀ entry ∈ rest, prevId < entry.transactionNr)
    (indexable : ∀ entry ∈ rest, Indexable environment entry)
    (nonnegative : ∀ entry ∈ rest, ¬ entry.fileCursor < 0)
    (positive : ∀ entry ∈ (done ++ rest).tail, entry.fileCursor ≠ 0) :
    ∃ next, indexEntries environment.getCommunityIdIndex rest prevId index = (.ok (), next) ∧
      Indexed next (done ++ rest) := by
  induction rest generalizing done index prevId with
  | nil => exact ⟨index, rfl, by rwa [List.append_nil]⟩
  | cons entry rest ih =>
      have regrouped : done ++ entry :: rest = (done ++ [entry]) ++ rest := by
        rw [List.append_assoc, List.singleton_append]
      have isHead : entry ∈ entry :: rest := List.mem_cons_self ..
      have later {other : NodeTransactionEntry} (member : other ∈ rest) : other ∈ entry :: rest :=
        List.mem_cons_of_mem _ member
      have pairs := List.pairwise_append.mp ascending
      have positiveNr : 0 < entry.transactionNr :=
        lt_of_le_of_lt UInt64.zero_le (above entry isHead)
      obtain ⟨next, added, indexedNext⟩ := indexed.next positiveNr
        (fun other isDone => pairs.2.2 other isDone entry isHead) (indexable entry isHead)
        (nonnegative entry isHead) (fun isZero => by
          cases done with
          | nil => rfl
          | cons first middle =>
              exact absurd isZero (positive entry (List.mem_append_right middle isHead)))
      rw [regrouped] at ascending positive
      obtain ⟨final, rest, indexedFinal⟩ := ih indexedNext ascending
        (fun other member => (List.pairwise_cons.mp pairs.2.1).1 other member)
        (fun other member => indexable other (later member))
        (fun other member => nonnegative other (later member)) positive
      refine ⟨final, ?_, by rwa [regrouped]⟩
      rw [Cache.indexEntries, if_neg (not_le_of_gt (above entry isHead)), added]
      exact rest

/-- What was indexed was indexable. -/
theorem indexable_of_addIndices {transactionEntry : NodeTransactionEntry} {index next : BlockIndex}
    (added : BlockIndex.addIndicesForTransactionEntry environment.getCommunityIdIndex
      transactionEntry index = (.ok (), next)) : Indexable environment transactionEntry := by
  unfold BlockIndex.addIndicesForTransactionEntry at added
  dsimp only at added
  split at added
  · cases added
  · split at added
    · cases added
    · rename_i coinCommunityIndex looked
      constructor
      · split at looked
        · rename_i own
          exact Or.inl own
        · exact Or.inr ⟨coinCommunityIndex, looked⟩
      · intro beyond
        have tooMany : (BlockIndex.indicesOf transactionEntry
            coinCommunityIndex).addressIndiceCount > 256 := beyond
        unfold BlockIndex.addIndicesForTransaction at added
        dsimp only at added
        rw [if_pos tooMany] at added
        cases added

theorem indexable_of_indexEntries {rest : List NodeTransactionEntry} {index next : BlockIndex}
    {prevId : UInt64}
    (success : indexEntries environment.getCommunityIdIndex rest prevId index = (.ok (), next)) :
    ∀ entry ∈ rest, Indexable environment entry := by
  induction rest generalizing index prevId with
  | nil => nofun
  | cons entry rest ih =>
      unfold indexEntries at success
      split at success
      · cases success
      · split at success
        · rename_i added
          intro other member
          rcases List.mem_cons.mp member with rfl | later
          · exact indexable_of_addIndices added
          · exact ih success other later
        · cases success

end Rebuild

section Cursored

variable {environment : InitEnvironment}

theorem cursoredFrom_cons (start : Nat) (transaction : NodeTransactionEntry)
    (rest : List NodeTransactionEntry) :
    cursoredFrom start (transaction :: rest) =
      { transaction with fileCursor := Files.fileCursorOf start } ::
        cursoredFrom (start + 2 + transaction.serializedTransaction.length) rest := rfl

/-- The file cursors leave the numbers alone. -/
theorem map_transactionNr_cursoredFrom (start : Nat) (transactions : List NodeTransactionEntry) :
    (cursoredFrom start transactions).map NodeTransactionEntry.transactionNr =
      transactions.map NodeTransactionEntry.transactionNr := by
  induction transactions generalizing start with
  | nil => rfl
  | cons transaction rest ih =>
      rw [cursoredFrom_cons, List.map_cons, List.map_cons, ih]

theorem mem_cursoredFrom {start : Nat} {transactions : List NodeTransactionEntry}
    {entry : NodeTransactionEntry} (member : entry ∈ cursoredFrom start transactions) :
    ∃ transaction ∈ transactions, ∃ position ∈ Files.positionsFrom start (linesOf transactions),
      entry = { transaction with fileCursor := Files.fileCursorOf position } := by
  obtain ⟨⟨transaction, position⟩, zipped, rfl⟩ := List.mem_map.mp member
  have parts := List.of_mem_zip zipped
  exact ⟨transaction, parts.1, position, parts.2, rfl⟩

theorem indexable_cursoredFrom (start : Nat) (transactions : List NodeTransactionEntry) :
    (∀ entry ∈ cursoredFrom start transactions, Indexable environment entry) ↔
      ∀ transaction ∈ transactions, Indexable environment transaction := by
  induction transactions generalizing start with
  | nil =>
      constructor
      · intro _ transaction member
        cases member
      · intro _ entry member
        cases member
  | cons transaction rest ih =>
      rw [cursoredFrom_cons, List.forall_mem_cons, List.forall_mem_cons, ih]
      exact Iff.rfl

/-- The rebuild task turns the lines it is handed into their transactions. -/
theorem rebuiltEntries_located {transactions : List NodeTransactionEntry}
    (deserialized : ∀ transaction ∈ transactions, ∀ fileCursor,
      environment.transactionEntry transaction.serializedTransaction fileCursor =
        .ok { transaction with fileCursor := fileCursor }) (start appended : Nat) :
    rebuiltEntries environment ((Files.located start (linesOf transactions)).take appended) =
      (cursoredFrom start transactions).take appended := by
  induction transactions generalizing start appended with
  | nil => cases appended <;> rfl
  | cons transaction rest ih =>
      cases appended with
      | zero => rfl
      | succ appended =>
          have first := deserialized transaction (List.mem_cons_self ..) (Files.fileCursorOf start)
          have later := ih (fun other member => deserialized other (List.mem_cons_of_mem _ member))
            (start + 2 + transaction.serializedTransaction.length) appended
          rw [cursoredFrom_cons, List.take_succ_cons, ← later]
          simp only [linesOf, List.map_cons, Files.located_cons, List.take_succ_cons,
            rebuiltEntries, first]

/-- The file cursors of a file below 2 GiB are its positions: not negative, and 0 for the
first line alone. -/
theorem WellFormed.cursored_accepted {blockFile : Files.Block}
    {transactions : List NodeTransactionEntry}
    (wellFormed : WellFormed environment blockFile transactions) :
    (∀ entry ∈ cursored transactions, ¬ entry.fileCursor < 0) ∧
      ∀ entry ∈ (cursored transactions).tail, entry.fileCursor ≠ 0 := by
  have below := wellFormed.readable.below
  constructor
  · intro entry member
    obtain ⟨transaction, _, position, isPosition, rfl⟩ := mem_cursoredFrom member
    have bounds := Files.lt_of_mem_positionsFrom isPosition
    exact toInt32_ofNat_nonnegative (by omega)
  · intro entry member isZero
    cases transactions with
    | nil => cases member
    | cons first rest =>
        rw [cursored, cursoredFrom_cons, List.tail_cons] at member
        obtain ⟨transaction, _, position, isPosition, rfl⟩ := mem_cursoredFrom member
        have positive := Files.positionsFrom_tail_pos isPosition
        have bounds := Files.lt_of_mem_positionsFrom isPosition
        have isPositionNr : (Files.fileCursorOf position).toInt = position := by
          apply toInt_toInt32_ofNat
          have length := Files.length_encodeLines_cons first.serializedTransaction (linesOf rest)
          simp only [linesOf, List.map_cons] at below bounds length
          omega
        have zero : (Files.fileCursorOf position).toInt = 0 := congrArg Int32.toInt isZero
        omega

end Cursored

section Load

variable {environment : InitEnvironment} {blockFile : Files.Block}
  {transactions : List NodeTransactionEntry} {appended : Nat} {stored : StoredIndex}

/-- With an index file that is not empty, `init` is right only where loading it is. -/
theorem InitCorrect.loaded (nonempty : stored.content ≠ [])
    (correct : InitCorrect environment blockFile transactions appended stored) :
    let read := StoredIndex.loadFromFile environment.genericHash environment.enumContains
      environment.hashFromFile stored
    read.1 = .ok true ∧ IndexesExactly read.2.index (cursored transactions) := by
  have notFalse := StoredIndex.loadFromFile_ne_false environment.genericHash
    environment.enumContains environment.hashFromFile nonempty
  unfold InitCorrect init at correct
  dsimp only
  cases read : StoredIndex.loadFromFile environment.genericHash environment.enumContains
      environment.hashFromFile stored with
  | mk outcome next =>
      rw [read] at notFalse correct
      cases outcome with
      | error exception => cases correct.1
      | ok result =>
          cases result with
          | false => exact absurd rfl notFalse
          | true => exact ⟨rfl, correct.2⟩

/-- A damaged index file makes `init` throw. -/
theorem not_initCorrect_of_damaged (damaged : Damaged environment stored.content) :
    ¬ InitCorrect environment blockFile transactions appended stored := by
  intro correct
  have hashed := StoredIndex.hash_of_loadFromFile_true environment.genericHash
    environment.enumContains damaged.1 (correct.loaded damaged.1).1
  have wrong := damaged.2
  dsimp only at hashed wrong
  cases ending : (Files.walkFile environment.enumContains stored.content).2 with
  | rejected exception => rwa [ending] at hashed
  | hashBlock hash =>
      rw [ending] at hashed wrong
      exact wrong hashed
  | noHash =>
      rw [ending] at hashed wrong
      exact wrong hashed

/-- A stale index file is taken as it is, or throws while it is read; either way a
transaction of the block file is missing. -/
theorem not_initCorrect_of_stale (fresh : stored.index = BlockIndex.new)
    (stale : Stale environment transactions stored.content) :
    ¬ InitCorrect environment blockFile transactions appended stored := by
  intro correct
  obtain ⟨old, blocks, serialized, readable, written, transaction, member, missing⟩ := stale
  have nonempty : stored.content ≠ [] := by
    rw [written, Files.fileContent]
    exact List.append_ne_nil_of_right_ne_nil _ (List.cons_ne_nil _ _)
  have entries := (correct.loaded nonempty).2.entries
  rw [cursored, map_transactionNr_cursoredFrom] at entries
  obtain ⟨entry, indexed, sameNr⟩ :=
    List.mem_map.mp (entries.mem_iff.mpr (List.mem_map_of_mem member))
  rw [StoredIndex.loadFromFile_index, Files.entriesOf, written,
    Files.walkFile_fileContent environment.genericHash readable, fresh] at indexed
  rcases BlockIndex.transactionNr_of_mem_deliver indexed with isNew | ⟨indices, delivered, isNr⟩
  · cases isNew
  · obtain ⟨data, inBlocks, isData⟩ := Files.exists_dataBlock_of_mem_deliveries delivered
    obtain ⟨oldEntry, isOld, isOldNr⟩ :=
      BlockIndex.transactionNr_of_mem_serialize serialized inBlocks
    apply missing
    rw [← sameNr, isNr, isData, ← isOldNr]
    exact List.mem_map_of_mem isOld

/-- With nothing to load, `init` indexes what the rebuild task has appended. -/
theorem init_of_empty (wellFormed : WellFormed environment blockFile transactions)
    {disk : Option (List UInt8)} (empty : disk.getD [] = []) :
    init environment blockFile appended ⟨BlockIndex.new, disk⟩ =
      let indexed := indexEntries environment.getCommunityIdIndex
        ((cursored transactions).take appended) 0 BlockIndex.new
      match indexed.1 with
      | .ok _ => (.ok true, ⟨indexed.2, none⟩)
      | .error exception => (.error exception, ⟨indexed.2, none⟩) := by
  have read : StoredIndex.loadFromFile environment.genericHash environment.enumContains
      environment.hashFromFile ⟨BlockIndex.new, disk⟩ = (.ok false, ⟨BlockIndex.new, some []⟩) := by
    simp only [StoredIndex.loadFromFile, StoredIndex.openFile, StoredIndex.content, empty,
      Option.getD_some]
    rfl
  have lines : linesOf transactions ≠ [] := fun none =>
    wellFormed.nonempty (List.map_eq_nil_iff.mp none)
  have size : blockFile.currentFileSize ≠ 0 := by
    intro zero
    have length := wellFormed.holds.size
    rw [zero] at length
    cases stored : linesOf transactions with
    | nil => exact lines stored
    | cons line rest =>
        rw [stored, Files.length_encodeLines_cons] at length
        exact absurd length.symm (by simp)
  have rebuilt := @Files.Block.rebuildBlockIndex_of_holds environment.genericHash blockFile
    environment.blockPath (linesOf transactions) environment.hash2 lines wellFormed.holds
    wellFormed.readable.walkable
  unfold init
  rw [read]
  dsimp only
  rw [if_neg size, rebuilt]
  dsimp only
  rw [rebuiltEntries_located wellFormed.deserialized]
  rfl

/-- With nothing to load, `init` is right exactly where the rebuild task is done in time and
the index accepts every transaction. -/
theorem initCorrect_of_empty {disk : Option (List UInt8)}
    (wellFormed : WellFormed environment blockFile transactions) (empty : disk.getD [] = []) :
    InitCorrect environment blockFile transactions appended ⟨BlockIndex.new, disk⟩ ↔
      transactions.length ≤ appended ∧
        ∀ transaction ∈ transactions, Indexable environment transaction := by
  have accepted := wellFormed.cursored_accepted
  have sameLength : (cursored transactions).length = transactions.length := by
    have numbers := congrArg List.length (map_transactionNr_cursoredFrom 0 transactions)
    rw [List.length_map, List.length_map] at numbers
    exact numbers
  have indexableIff : (∀ entry ∈ cursored transactions, Indexable environment entry) ↔
      ∀ transaction ∈ transactions, Indexable environment transaction :=
    indexable_cursoredFrom 0 transactions
  have ascending : (cursored transactions).Pairwise fun first second =>
      first.transactionNr < second.transactionNr := by
    apply List.pairwise_map.mp
    rw [cursored, map_transactionNr_cursoredFrom]
    exact List.pairwise_map.mpr wellFormed.ascending
  have positive (entry : NodeTransactionEntry) (member : entry ∈ cursored transactions) :
      0 < entry.transactionNr := by
    obtain ⟨transaction, isStored, _, _, rfl⟩ := mem_cursoredFrom member
    exact wellFormed.positive transaction isStored
  -- what indexing the first `appended` entries comes to
  have indexes (indexable : ∀ entry ∈ (cursored transactions).take appended,
      Indexable environment entry) :
      ∃ next, indexEntries environment.getCommunityIdIndex
          ((cursored transactions).take appended) 0 BlockIndex.new = (.ok (), next) ∧
        Indexed next ((cursored transactions).take appended) := by
    refine indexed_new.indexEntries (ascending.sublist (List.take_sublist _ _))
      (fun entry member => positive entry (List.mem_of_mem_take member)) indexable
      (fun entry member => accepted.1 entry (List.mem_of_mem_take member)) ?_
    intro entry member
    rw [List.nil_append] at member
    exact accepted.2 entry ((List.take_sublist _ _).tail.mem member)
  rw [InitCorrect, init_of_empty wellFormed empty]
  dsimp only
  constructor
  · rintro ⟨success, exactly⟩
    cases indexed : indexEntries environment.getCommunityIdIndex
        ((cursored transactions).take appended) 0 BlockIndex.new with
    | mk outcome next =>
        rw [indexed] at success exactly
        cases outcome with
        | error exception => cases success
        | ok _ =>
            have indexable := indexable_of_indexEntries indexed
            obtain ⟨same, indexedNext, holds⟩ := indexes indexable
            rw [indexed] at indexedNext
            cases indexedNext
            have lengths := (holds.entries.symm.trans exactly.entries).length_eq
            simp only [List.length_map, List.length_take, sameLength] at lengths
            have inTime : transactions.length ≤ appended := by omega
            rw [List.take_of_length_le (sameLength.trans_le inTime)] at indexable
            exact ⟨inTime, indexableIff.mp indexable⟩
  · rintro ⟨inTime, indexable⟩
    have all := List.take_of_length_le (sameLength.trans_le inTime)
    rw [all] at indexes ⊢
    obtain ⟨next, indexed, holds⟩ := indexes (indexableIff.mpr indexable)
    rw [indexed]
    exact ⟨rfl, holds.toIndexesExactly⟩

/-- For a well-formed block file next to an index file that is missing, empty, damaged or
stale, `init` is right exactly where there is no index to load, the rebuild task is done
in time, and the index accepts every transaction. -/
theorem initCorrect_iff {disk : Option (List UInt8)}
    (wellFormed : WellFormed environment blockFile transactions)
    (kind : disk.getD [] = [] ∨ Damaged environment (disk.getD []) ∨
      Stale environment transactions (disk.getD [])) :
    InitCorrect environment blockFile transactions appended ⟨BlockIndex.new, disk⟩ ↔
      disk.getD [] = [] ∧ transactions.length ≤ appended ∧
        ∀ transaction ∈ transactions, Indexable environment transaction := by
  rcases kind with empty | damaged | stale
  · rw [initCorrect_of_empty wellFormed empty]
    exact (and_iff_right empty).symm
  · constructor
    · intro correct
      exact absurd correct (not_initCorrect_of_damaged damaged)
    · rintro ⟨empty, _⟩
      exact absurd empty damaged.1
  · constructor
    · intro correct
      exact absurd correct (not_initCorrect_of_stale rfl stale)
    · rintro ⟨empty, _⟩
      obtain ⟨_, blocks, _, _, written, _⟩ := stale
      rw [empty] at written
      exact absurd written.symm (List.append_ne_nil_of_right_ne_nil _ (List.cons_ne_nil _ _))

end Load

section Example

/-- One transaction in the block file. -/
def oneTransaction : Files.Block where
  disk := Files.blockContent (fun _ => WriteSystem.firstHash)
    (linesOf [WriteSystem.exampleTransaction 1])
  currentFileSize := 32

def oneTransactionEnvironment : InitEnvironment where
  genericHash := fun _ => WriteSystem.firstHash
  enumContains := fun type => type ≤ 8
  hashFromFile := Digest.zero
  hash2 := Digest.zero
  blockPath := "blk00000001.dat"
  getCommunityIdIndex := WriteSystem.noCommunities
  transactionEntry := fun _ fileCursor =>
    .ok { WriteSystem.exampleTransaction 1 with fileCursor := fileCursor }

theorem wellFormed_oneTransaction : WellFormed oneTransactionEnvironment oneTransaction
    [WriteSystem.exampleTransaction 1] where
  nonempty := List.cons_ne_nil _ _
  holds := ⟨rfl, rfl⟩
  readable := {
    long := by decide
    short := by decide
    below := by decide }
  positive := by decide
  ascending := List.pairwise_singleton _ _
  deserialized transaction member fileCursor := by
    rw [List.mem_singleton.mp member]
    rfl

/-- Without an index file the index is rebuilt. -/
theorem initCorrect_iff_noIndexFile :
    InitCorrect oneTransactionEnvironment oneTransaction [WriteSystem.exampleTransaction 1] 1
      ⟨BlockIndex.new, none⟩ :=
  (initCorrect_iff wellFormed_oneTransaction (Or.inl rfl)).mpr
    ⟨rfl, by decide, fun transaction member => by
      rw [List.mem_singleton.mp member]
      exact ⟨Or.inl (by decide), by decide⟩⟩

/-- An index file that ends behind its first byte makes `init` throw. -/
theorem not_initCorrect_endsEarly :
    WellFormed oneTransactionEnvironment oneTransaction [WriteSystem.exampleTransaction 1] ∧
      Damaged oneTransactionEnvironment [0xad] ∧
      ¬ InitCorrect oneTransactionEnvironment oneTransaction [WriteSystem.exampleTransaction 1] 1
        ⟨BlockIndex.new, some [0xad]⟩ := by
  have damaged : Damaged oneTransactionEnvironment [0xad] := ⟨List.cons_ne_nil _ _, trivial⟩
  exact ⟨wellFormed_oneTransaction, damaged, not_initCorrect_of_damaged damaged⟩

end Example

end Cache

end GradidoNode

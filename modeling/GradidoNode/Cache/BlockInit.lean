import GradidoNode.Cache.BlockIndexFile
import GradidoNode.Files.RebuildBlockIndex

/-!
# Opening a block

`Block::init` loads the index file, and rebuilds the index from the block file where
there is nothing to load. A damaged index file makes it throw instead, and an index
file that is older than the block file is taken as it is.
-/

namespace GradidoNode

open Library

namespace Cache

/-- What `init` gets from outside: the blockchain library, the stack arrays before they are
read into, and the deserialization of a line together with the constructor of its entry. -/
structure InitEnvironment where
  genericHash : List UInt8 → Digest
  enumContains : UInt8 → Bool
  hashFromFile : Digest
  hash2 : Digest
  blockPath : String
  getCommunityIdIndex : String → Except Exception UInt32
  transactionEntry : List UInt8 → Int32 → Except Exception NodeTransactionEntry

/-- `RebuildBlockIndexTask::run`: the entries built before a line throws. -/
def rebuiltEntries (environment : InitEnvironment) :
    List (Int32 × List UInt8) → List NodeTransactionEntry
  | [] => []
  | (fileCursor, line) :: rest =>
      match environment.transactionEntry line fileCursor with
      | .ok transactionEntry => transactionEntry :: rebuiltEntries environment rest
      | .error _ => []

/-- The loop of `init` over the rebuilt entries. -/
def indexEntries (getCommunityIdIndex : String → Except Exception UInt32) :
    List NodeTransactionEntry → UInt64 → Throwing BlockIndex Unit
  | [], _, index => (.ok (), index)
  | transactionEntry :: rest, prevId, index =>
      if transactionEntry.transactionNr ≤ prevId then
        (.error (.blockchainOrder "transaction nrs aren't in ascending order"), index)
      else
        match BlockIndex.addIndicesForTransactionEntry getCommunityIdIndex transactionEntry
            index with
        | (.ok _, index) =>
            indexEntries getCommunityIdIndex rest transactionEntry.transactionNr index
        | (.error exception, index) => (.error exception, index)

/-- `Block::init`. `appended` is how many entries the rebuild task has appended when `init`
copies its list: the waiting ends when the queue of lines is empty, which it is while the
last line is still being worked on, and after a second in any case. -/
def init (environment : InitEnvironment) (blockFile : Files.Block) (appended : Nat) :
    Throwing StoredIndex Bool := fun stored =>
  match StoredIndex.loadFromFile environment.genericHash environment.enumContains
      environment.hashFromFile stored with
  | (.error exception, stored) => (.error exception, stored)
  | (.ok true, stored) => (.ok true, stored)
  | (.ok false, stored) =>
      if blockFile.currentFileSize = 0 then (.ok false, stored)
      else
        match blockFile.rebuildBlockIndex environment.genericHash environment.hash2
            environment.blockPath with
        | .error exception => (.error exception, stored)
        | .ok lines =>
            let transactionEntries := rebuiltEntries environment (lines.take appended)
            let stored := stored.reset
            let indexed := indexEntries environment.getCommunityIdIndex transactionEntries 0
              stored.index
            match indexed.1 with
            | .ok _ => (.ok true, { stored with index := indexed.2 })
            | .error exception => (.error exception, { stored with index := indexed.2 })

/-- The lines of transactions as the block file stores them. -/
def linesOf (transactions : List NodeTransactionEntry) : List (List UInt8) :=
  transactions.map NodeTransactionEntry.serializedTransaction

/-- Transactions with the file cursors they get when the first is stored at `start`. -/
def cursoredFrom (start : Nat) (transactions : List NodeTransactionEntry) :
    List NodeTransactionEntry :=
  (transactions.zip (Files.positionsFrom start (linesOf transactions))).map fun stored =>
    { stored.1 with fileCursor := Files.fileCursorOf stored.2 }

/-- Transactions with the file cursors at which a block file stores them. -/
def cursored (transactions : List NodeTransactionEntry) : List NodeTransactionEntry :=
  cursoredFrom 0 transactions

/-- A block file that stores transactions with ascending numbers under the right hash. Each
line is deserialized to its transaction. -/
structure WellFormed (environment : InitEnvironment) (blockFile : Files.Block)
    (transactions : List NodeTransactionEntry) : Prop where
  nonempty : transactions ≠ []
  holds : blockFile.Holds environment.genericHash (linesOf transactions)
  readable : Files.Readable (linesOf transactions)
  positive : ∀ transaction ∈ transactions, 0 < transaction.transactionNr
  ascending : transactions.Pairwise fun first second =>
    first.transactionNr < second.transactionNr
  deserialized : ∀ transaction ∈ transactions, ∀ fileCursor,
    environment.transactionEntry transaction.serializedTransaction fileCursor =
      .ok { transaction with fileCursor := fileCursor }

/-- One entry with the right file cursor for each transaction, and no other. -/
structure IndexesExactly (index : BlockIndex) (transactions : List NodeTransactionEntry) :
    Prop where
  entries : (index.allEntries.map BlockIndexEntry.transactionNr).Perm
    (transactions.map NodeTransactionEntry.transactionNr)
  fileCursors : ∀ transaction ∈ transactions,
    index.transactionNrsFileCursors.find? transaction.transactionNr = some transaction.fileCursor
  others : ∀ transactionNr, transactionNr ∉ transactions.map NodeTransactionEntry.transactionNr →
    index.transactionNrsFileCursors.find? transactionNr = none

/-- `init` returns true and leaves the index of the block file. -/
def InitCorrect (environment : InitEnvironment) (blockFile : Files.Block)
    (transactions : List NodeTransactionEntry) (appended : Nat) (stored : StoredIndex) : Prop :=
  (init environment blockFile appended stored).1 = .ok true ∧
    IndexesExactly (init environment blockFile appended stored).2.index (cursored transactions)

/-- An index file that fails its hash check or ends early. -/
def Damaged (environment : InitEnvironment) (content : List UInt8) : Prop :=
  content ≠ [] ∧
    let walked := Files.walkFile environment.enumContains content
    let calculated := environment.genericHash (walked.1.flatMap Files.IndexBlock.hashed)
    match walked.2 with
    | .rejected _ => True
    | .hashBlock hash => hash ≠ calculated
    | .noHash => environment.hashFromFile ≠ calculated

/-- An index file written before the last transactions of the block file were appended. -/
def Stale (environment : InitEnvironment) (transactions : List NodeTransactionEntry)
    (content : List UInt8) : Prop :=
  ∃ (old : BlockIndex) (blocks : List Files.IndexBlock), old.serialize = .ok (some blocks) ∧
    (∀ block ∈ blocks, block.Readable environment.enumContains) ∧
    content = Files.fileContent environment.genericHash blocks ∧
    ∃ transaction ∈ transactions,
      transaction.transactionNr ∉ old.allEntries.map BlockIndexEntry.transactionNr

/-- The index accepts a transaction: its community is known and it has at most 256
addresses, counted in 16 bits. -/
def Indexable (environment : InitEnvironment) (transaction : NodeTransactionEntry) : Prop :=
  (transaction.coinCommunityId.isEmpty = true ∨ ∃ coinCommunityIndex,
    environment.getCommunityIdIndex transaction.coinCommunityId = .ok coinCommunityIndex) ∧
  ¬ UInt16.ofNat transaction.addressIndices.length > 256

end Cache

end GradidoNode

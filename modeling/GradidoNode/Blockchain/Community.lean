import GradidoNode.Blockchain.FileBased
import GradidoNode.Blockchain.RescanTriggerEvents
import GradidoNode.Cache.BlockInit
import GradidoNode.Cache.Dictionary
import GradidoNode.Files.LevelDBWrapper

/-!
# Starting a community

`FileBased::init` opens the stores of a community one after the other. A store that cannot be
opened is started anew and filled from the block files, for which the blocks are loaded. Loading
a block without index file rebuilds the index, and numbers the addresses it finds.

A search of `init` dismisses every transaction and so comes to every block. Here the blocks are
loaded before they are searched. Which numbers of coin communities are left in the indices is said
by `CommunityWorld.initFileBased`.
-/

namespace GradidoNode

open Library Cache Files

namespace Blockchain

/-- A transaction in a block file, at its position. -/
structure StoredTransaction (Duration : Type) extends ConfirmedTransaction where
  involvedAddresses : List (List UInt8)
  confirmedAt : Data.Timestamp
  body : Data.TransactionBody Duration
  fileCursor : Int32

namespace StoredTransaction

variable {Duration : Type}

/-- The constructor of `NodeTransactionEntry` from a line, with the indices of the addresses. -/
def nodeEntry (transaction : StoredTransaction Duration) (addressIndices : List UInt32) :
    NodeTransactionEntry :=
  { transaction.toConfirmedTransaction.entry addressIndices with
    fileCursor := transaction.fileCursor }

/-- What a rescan reads of it. -/
def transactionEntry (transaction : StoredTransaction Duration) : TransactionEntry Duration where
  id := transaction.id
  confirmedAt := transaction.confirmedAt
  body := transaction.body

end StoredTransaction

/-- A store with its LevelDB. -/
structure StoreIn (Store : Type) where
  wrapper : LevelDBWrapper
  store : Store

/-- A LevelDB on disk. -/
structure LevelDBFolder where
  openable : Bool
  entries : LevelDB

/-- The folder of a community when the node starts. -/
structure CommunityFolder (Duration : Type) where
  path : String
  blockFiles : OrderedMap UInt32 (List (StoredTransaction Duration))
  indexFiles : OrderedMap UInt32 BlockIndex
  state : LevelDBFolder
  pubkeysCache : LevelDBFolder
  messageIdCache : LevelDBFolder
  transactionTriggerEventCache : LevelDBFolder

/-- `FileBased`, as far as `init` goes. The transactions of the cached blocks are read from the
block files; by then their addresses have indices. -/
structure Community (Octet TransactionId Duration : Type) [LinearOrder Octet]
    [LinearOrder TransactionId] where
  blockFiles : OrderedMap UInt32 (List (StoredTransaction Duration))
  indexFiles : OrderedMap UInt32 BlockIndex
  cachedBlocks : OrderedMap UInt32 BlockIndex
  publicKeysIndex : StoreIn (Dictionary Octet)
  blockchainState : StoreIn State
  messageIdsCache : StoreIn (HieroTransactionId TransactionId)
  transactionTriggerEventsCache : StoreIn Cache.TransactionTriggerEvent
  transactionHashCache : TransactionHash Octet

/-- What `init` uses of the blockchain library and of the provider. LevelDB stores what it is
asked to. -/
structure CommunityLibrary (Octet TransactionId Duration : Type) where
  signatureOctet : List UInt8 → Octet
  transactionIds : TransactionIdFormat TransactionId
  triggerEvents : EventFormat
  time : Data.TimeArithmetic Duration
  search : SearchEnvironment
  getCommunityIdIndex : String → Except Exception UInt32
  /-- How many entries the rebuild task of a block has appended when its list is copied. -/
  appended : UInt32 → Nat
  /-- The validating of a transaction, with the one before it. -/
  validate : Option (StoredTransaction Duration) → StoredTransaction Duration →
    Except Exception Unit
  nullDereference : Throwing Cache.TransactionTriggerEvent Unit

namespace Community

variable {Octet TransactionId Duration Value : Type} [LinearOrder Octet]
  [LinearOrder TransactionId] (library : CommunityLibrary Octet TransactionId Duration)

abbrev Entry (Duration : Type) := StoredTransaction Duration

/-- The constructor. -/
def new (folder : CommunityFolder Duration) : Community Octet TransactionId Duration where
  blockFiles := folder.blockFiles
  indexFiles := folder.indexFiles
  cachedBlocks := ∅
  publicKeysIndex :=
    ⟨.new folder.pubkeysCache.openable,
      Dictionary.new (folder.path ++ "/pubkeysCache") folder.pubkeysCache.entries⟩
  blockchainState := ⟨.new folder.state.openable, ⟨false, folder.state.entries⟩⟩
  messageIdsCache :=
    ⟨.new folder.messageIdCache.openable, ⟨false, folder.messageIdCache.entries, ∅⟩⟩
  transactionTriggerEventsCache :=
    ⟨.new folder.transactionTriggerEventCache.openable,
      .new folder.transactionTriggerEventCache.entries⟩
  transactionHashCache := ⟨∅⟩

/-- A step that cannot fail. -/
def modify (change : Community Octet TransactionId Duration → Community Octet TransactionId Duration) :
    Throwing (Community Octet TransactionId Duration) Unit :=
  fun community => (.ok (), change community)

/-! ## The stores -/

def onPublicKeysIndex (operation : Throwing (StoreIn (Dictionary Octet)) Value) :
    Throwing (Community Octet TransactionId Duration) Value :=
  Fallible.onPart publicKeysIndex (fun community part => { community with publicKeysIndex := part })
    operation

def onState (operation : Throwing (StoreIn State) Value) :
    Throwing (Community Octet TransactionId Duration) Value :=
  Fallible.onPart blockchainState (fun community part => { community with blockchainState := part })
    operation

def onMessageIds (operation : Throwing (StoreIn (HieroTransactionId TransactionId)) Value) :
    Throwing (Community Octet TransactionId Duration) Value :=
  Fallible.onPart messageIdsCache (fun community part => { community with messageIdsCache := part })
    operation

def onTriggerEvents (operation : Throwing (StoreIn Cache.TransactionTriggerEvent) Value) :
    Throwing (Community Octet TransactionId Duration) Value :=
  Fallible.onPart transactionTriggerEventsCache
    (fun community part => { community with transactionTriggerEventsCache := part }) operation

/-- An operation on a store that is open. -/
def inStore {Store : Type} (operation : Throwing Store Value) : Throwing (StoreIn Store) Value :=
  Fallible.onPart StoreIn.store (fun part store => { part with store := store }) operation

/-- `Dictionary::init`. -/
def initDictionary : Throwing (StoreIn (Dictionary Octet)) Bool := fun part =>
  let opened := part.wrapper.init
  (.ok opened.1, ⟨opened.2,
    if opened.1 then part.store.init library.signatureOctet else part.store⟩)

/-- `Dictionary::reset`. -/
def resetDictionary : Throwing (StoreIn (Dictionary Octet)) Unit := fun part =>
  (.ok (), ⟨part.wrapper.reset, part.store.reset⟩)

/-- `State::init`, which opens the LevelDB of a state that is not open. -/
def initState : Throwing (StoreIn State) Bool := fun part =>
  let opened := part.wrapper.init
  let initialised := State.init opened.1 part.store
  (initialised.1, ⟨if part.store.initalized then part.wrapper else opened.2, initialised.2⟩)

/-- `State::reset`, which leaves `mInitalized` as it is. -/
def resetState : Throwing (StoreIn State) Unit := fun part =>
  (.ok (), ⟨part.wrapper.reset, part.store.reset⟩)

/-- `HieroTransactionId::init`. -/
def initMessageIds : Throwing (StoreIn (HieroTransactionId TransactionId)) Bool := fun part =>
  let opened := part.wrapper.init
  let initialised := HieroTransactionId.init opened.1 part.store
  (initialised.1, ⟨if part.store.initalized then part.wrapper else opened.2, initialised.2⟩)

/-- `HieroTransactionId::reset`. -/
def resetMessageIds : Throwing (StoreIn (HieroTransactionId TransactionId)) Unit := fun part =>
  (.ok (), ⟨part.wrapper.reset, part.store.reset⟩)

/-- `TransactionTriggerEvent::init`. -/
def initTriggerEvents : Throwing (StoreIn Cache.TransactionTriggerEvent) Bool := fun part =>
  let opened := part.wrapper.init
  let initialised := TransactionTriggerEvent.init library.triggerEvents opened.1 part.store
  (initialised.1,
    ⟨if part.store.state.initalized then part.wrapper else opened.2, initialised.2⟩)

/-! ## Blocks -/

/-- The indices of addresses in the dictionary of public keys. -/
def addressIndices : List (List UInt8) → Throwing (Dictionary Octet) (List UInt32)
  | [] => Fallible.outcome (.ok [])
  | address :: rest =>
      (Dictionary.getOrAddIndexForString library.signatureOctet address true).andThen fun index =>
        (addressIndices rest).andThen fun indices => Fallible.outcome (.ok (index :: indices))

/-- `RebuildBlockIndexTask::run`: the entries built before a line throws. -/
def rebuiltEntries : List (Entry Duration) → Dictionary Octet →
    List NodeTransactionEntry × Dictionary Octet
  | [], dictionary => ([], dictionary)
  | transaction :: rest, dictionary =>
      match addressIndices library transaction.involvedAddresses dictionary with
      | (.ok indices, dictionary) =>
          let later := rebuiltEntries rest dictionary
          (transaction.nodeEntry indices :: later.1, later.2)
      | (.error _, dictionary) => ([], dictionary)

/-- The index of a block is rebuilt from its transactions; the task goes on to the last line,
whatever has been copied of its list by then. -/
def rebuildIndex (blockNr : UInt32) (transactions : List (Entry Duration)) :
    Throwing (Dictionary Octet) BlockIndex := fun dictionary =>
  let rebuilt := rebuiltEntries library transactions dictionary
  let indexed := indexEntries library.getCommunityIdIndex
    (rebuilt.1.take (library.appended blockNr)) 0 BlockIndex.new
  (indexed.1.map fun _ => indexed.2, rebuilt.2)

def transactionsOf (community : Community Octet TransactionId Duration) (blockNr : UInt32) :
    List (Entry Duration) :=
  (community.blockFiles.find? blockNr).getD []

/-- The transaction with a number, read from the block file. -/
def findTransaction (transactions : List (Entry Duration)) (transactionNr : UInt64) :
    Except Exception (Entry Duration) :=
  match transactions.find? fun transaction => transaction.id = transactionNr with
  | some transaction => .ok transaction
  | none => .error
      (.transactionNotFound "transaction not found in cache, in write task or file" transactionNr)

/-- A block as a search sees it. -/
def storedBlock (index : BlockIndex) (transactions : List (Entry Duration)) :
    StoredBlock (Entry Duration) where
  index := index
  getTransaction := findTransaction transactions

/-- What a block constructed anew does to the folder. -/
def createBlockFile (blockNr : UInt32) (community : Community Octet TransactionId Duration) :
    Community Octet TransactionId Duration :=
  { community with blockFiles := community.blockFiles.insertNew blockNr [] }

/-- `Block::init`: the index of the block, or none for a new block. -/
def initBlock (blockNr : UInt32) :
    Throwing (Community Octet TransactionId Duration) (Option BlockIndex) := fun community =>
  match community.indexFiles.find? blockNr with
  | some index => (.ok (some index), community)
  | none =>
      if (community.transactionsOf blockNr).isEmpty then (.ok none, community)
      else
        (onPublicKeysIndex (inStore
          (rebuildIndex library blockNr (community.transactionsOf blockNr)))).andThen
          (fun index => Fallible.outcome (.ok (some index))) community

def updateState (key : DefaultStateKeys) (number : Nat) :
    Throwing (Community Octet TransactionId Duration) Unit :=
  onState (inStore (State.updateState key (LevelDB.to_string number) true))

/-- A new block that is behind the last one becomes the last one. -/
def extendChain (blockNr : UInt32) : Throwing (Community Octet TransactionId Duration) Unit :=
  fun community =>
    if blockNr > (community.blockchainState.store.readInt32State .LAST_BLOCK_NR 1 true).toUInt32 then
      updateState .LAST_BLOCK_NR blockNr.toNat community
    else (.ok (), community)

def cacheBlock (blockNr : UInt32) (index : BlockIndex)
    (community : Community Octet TransactionId Duration) : Community Octet TransactionId Duration :=
  { community with cachedBlocks := community.cachedBlocks.set blockNr index }

/-- The part of `getBlock` for a block that is not cached. -/
def loadBlock (blockNr : UInt32) : Throwing (Community Octet TransactionId Duration) BlockIndex :=
  (modify (createBlockFile blockNr)).andThen fun _ =>
    (initBlock library blockNr).andThen fun initialised =>
      match initialised with
      | some index =>
          (modify (cacheBlock blockNr index)).andThen fun _ => Fallible.outcome (.ok index)
      | none =>
          (extendChain blockNr).andThen fun _ =>
            (modify (cacheBlock blockNr BlockIndex.new)).andThen fun _ =>
              Fallible.outcome (.ok BlockIndex.new)

/-- `getBlock`, up to the index of the block. -/
def getBlock (blockNr : UInt32) : Throwing (Community Octet TransactionId Duration) BlockIndex :=
  fun community =>
    match community.cachedBlocks.find? blockNr with
    | some index => (.ok index, community)
    | none => loadBlock library blockNr community

/-! ## Searching all blocks -/

/-- The numbers that `iterateBlocks` comes to, if no block is empty. The body of its loop runs at
least once. -/
def blockNrs (searchDirection : SearchDirection) (lastBlockNr : Int32) : List UInt32 :=
  if lastBlockNr < 1 then
    match searchDirection with
    | .ASC => [1]
    | .DESC => [lastBlockNr.toUInt32]
  else
    searchDirection.inOrder
      ((List.range' 1 lastBlockNr.toUInt32.toNat).map fun blockNr => UInt32.ofNat blockNr)

/-- `iterateBlocks` loads one block after the other, up to one that is empty. -/
def loadBlocks : List UInt32 →
    Throwing (Community Octet TransactionId Duration) (List (StoredBlock (Entry Duration)))
  | [] => Fallible.outcome (.ok [])
  | blockNr :: rest =>
      (getBlock library blockNr).andThen fun index community =>
        if index.getTransactionsCount = 0 then (.ok [], community)
        else
          (loadBlocks rest).andThen
            (fun blocks => Fallible.outcome
              (.ok (storedBlock index (community.transactionsOf blockNr) :: blocks))) community

/-- The blocks that a search comes to, in the order of their numbers. -/
def searchedBlocks (searchDirection : SearchDirection) :
    Throwing (Community Octet TransactionId Duration) (List (StoredBlock (Entry Duration))) :=
  fun community =>
    ((loadBlocks library (blockNrs searchDirection
      (community.blockchainState.store.readInt32State .LAST_BLOCK_NR 1 true))).andThen
      fun blocks => Fallible.outcome (.ok (searchDirection.inOrder blocks))) community

/-- A block as a rescan sees it. -/
def rescannedBlock (block : StoredBlock (Entry Duration)) :
    StoredBlock (TransactionEntry Duration) where
  index := block.index
  getTransaction := fun transactionNr =>
    (block.getTransaction transactionNr).map StoredTransaction.transactionEntry

/-! ## `init` -/

/-- The largest number of a block file, or 0. -/
def findLastBlockFileInFolder (community : Community Octet TransactionId Duration) : UInt32 :=
  community.blockFiles.keys.foldl max 0

/-- The last index of an address is written before the last block is loaded. -/
def loadStateFromBlockCache : Throwing (Community Octet TransactionId Duration) Unit :=
  fun community =>
    ((updateState .LAST_ADDRESS_INDEX community.publicKeysIndex.store.lastIndex.toNat).andThen
      fun _ community =>
        let lastBlockNr := community.findLastBlockFileInFolder
        ((updateState .LAST_BLOCK_NR lastBlockNr.toNat).andThen fun _ =>
          (getBlock library lastBlockNr).andThen fun index =>
            updateState .LAST_TRANSACTION_ID index.maxTransactionNr.toNat) community) community

def removeAllBlockIndexFiles (community : Community Octet TransactionId Duration) :
    Community Octet TransactionId Duration :=
  { community with indexFiles := ∅ }

/-- The first part of `init`; the result is the new value of `resetBlockIndices`. -/
def openPublicKeysIndex (resetBlockIndices : Bool) :
    Throwing (Community Octet TransactionId Duration) Bool :=
  (onPublicKeysIndex (initDictionary library)).andThen fun opened =>
    if opened then Fallible.outcome (.ok resetBlockIndices)
    else (onPublicKeysIndex resetDictionary).andThen fun _ => Fallible.outcome (.ok true)

/-- The state is loaded from the blocks where it cannot be opened, or the block indices are built
anew. -/
def openState (resetBlockIndices : Bool) : Throwing (Community Octet TransactionId Duration) Unit :=
  (onState initState).andThen fun opened =>
    if !opened || resetBlockIndices then
      (onState resetState).andThen fun _ => loadStateFromBlockCache library
    else Fallible.outcome (.ok ())

/-- The last 20 message ids are loaded into the cache. -/
def addLastMessageIds : Throwing (Community Octet TransactionId Duration) Unit :=
  (searchedBlocks library .DESC).andThen fun blocks =>
    (FileBased.findAll library.search { Filter.ALL_TRANSACTIONS .DESC with pagination := ⟨20, 1⟩ }
      (FileBased.pureFilter fun _ => FilterResult.USE) blocks).andThen fun transactions =>
        Fallible.forEach (fun transaction => onMessageIds (inStore
          (HieroTransactionId.add library.transactionIds transaction.messageId transaction.id true)))
          transactions

/-- Message ids that cannot be opened are opened a second time after `reset`. -/
def openMessageIds : Throwing (Community Octet TransactionId Duration) Unit :=
  (onMessageIds initMessageIds).andThen fun opened =>
    if opened then Fallible.outcome (.ok ())
    else
      (onMessageIds resetMessageIds).andThen fun _ =>
        (onMessageIds initMessageIds).andThen fun opened =>
          if opened then addLastMessageIds library
          else Fallible.outcome (.error
            (.classNotInitalized "cannot initalize message id cache" "cache::MessageId"))

/-- `rescanForTransactionTriggerEvents`, after `reset` of the LevelDB. -/
def rescanForTransactionTriggerEvents : Throwing (Community Octet TransactionId Duration) Unit :=
  (onTriggerEvents fun part => (.ok (), { part with wrapper := part.wrapper.reset })).andThen fun _ =>
    (searchedBlocks library .ASC).andThen fun blocks =>
      onTriggerEvents (inStore (FileBased.rescanForTransactionTriggerEvents library.time
        library.triggerEvents library.search library.nullDereference (fun _ => true)
        (blocks.map rescannedBlock)))

/-- Trigger events that cannot be opened are collected from the blocks. -/
def openTriggerEvents : Throwing (Community Octet TransactionId Duration) Unit :=
  (onTriggerEvents (initTriggerEvents library)).andThen fun opened =>
    if opened then Fallible.outcome (.ok ()) else rescanForTransactionTriggerEvents library

/-- What the filter function of the last search does before it dismisses the transaction. -/
def validateTransaction (blocks : List (StoredBlock (Entry Duration))) (entry : Entry Duration) :
    Throwing (TransactionHash Octet) Unit :=
  let previousTransactionNr := entry.id - 1
  (Fallible.outcome (if previousTransactionNr ≥ 1 then
    FileBased.getTransactionForId previousTransactionNr blocks else .ok none)).andThen fun previous =>
      (Fallible.outcome (library.validate previous entry)).andThen fun _ =>
        TransactionHash.push library.signatureOctet entry.firstSignature entry.id

/-- The last search, which validates the last 1500 transactions. -/
def lastFilter : Filter :=
  { Filter.ALL_TRANSACTIONS .DESC with pagination := ⟨1500, 1⟩ }

/-- The last search of `init`. -/
def loadLastTransactions : Throwing (Community Octet TransactionId Duration) Unit :=
  (searchedBlocks library .DESC).andThen fun blocks =>
    (Fallible.onPart transactionHashCache
      (fun community cache => { community with transactionHashCache := cache })
      (FileBased.findAll library.search lastFilter
        (FileBased.dismissing (validateTransaction library blocks)) blocks)).andThen fun _ =>
          Fallible.outcome (.ok ())

/-- `FileBased::init`. -/
def init (resetBlockIndices : Bool) : Throwing (Community Octet TransactionId Duration) Bool :=
  (openPublicKeysIndex library resetBlockIndices).andThen fun resetBlockIndices =>
    (modify fun community =>
      if resetBlockIndices then community.removeAllBlockIndexFiles else community).andThen fun _ =>
        (openState library resetBlockIndices).andThen fun _ =>
          (openMessageIds library).andThen fun _ =>
            (openTriggerEvents library).andThen fun _ =>
              (loadLastTransactions library).andThen fun _ => Fallible.outcome (.ok true)

end Community

end Blockchain

end GradidoNode

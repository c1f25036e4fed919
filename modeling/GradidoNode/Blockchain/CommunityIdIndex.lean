import GradidoNode.Blockchain.FileBasedProvider
import GradidoNode.Cache.BlockInit
import GradidoNode.Cache.Dictionary

/-!
# The numbers of coin communities

Block indices refer to coin communities by number. What a number stands for is in the dictionary
of the provider, which is opened or started anew before the communities are loaded, and numbers
the communities in the order in which `listCommunitiesIds` lists them, that of a hash map. Here the world of the provider is that
dictionary with the files and loaded blocks of the communities.
-/

namespace GradidoNode

open Library Cache Files

namespace Blockchain

/-- The blocks of a community by number: the transactions in the block files, what the index
files restore, and the block indices in memory. -/
structure CommunityStore where
  blockFiles : OrderedMap UInt32 (List NodeTransactionEntry)
  indexFiles : OrderedMap UInt32 BlockIndex
  cachedBlocks : OrderedMap UInt32 BlockIndex

structure CommunityWorld (Octet : Type) [LinearOrder Octet] where
  communityIdIndex : Dictionary Octet
  stores : String → CommunityStore

/-- What is on disk when the program starts. -/
structure Disk where
  folderName : String
  /-- The LevelDB of the dictionary. -/
  communityIds : LevelDB
  blockFiles : String → OrderedMap UInt32 (List NodeTransactionEntry)
  indexFiles : String → OrderedMap UInt32 BlockIndex

/-- What the loading of one community meets. -/
structure CommunityStart where
  topicId : Except Exception Unit
  create : Except Exception Unit
  updateListenerCommunity : Except Exception Unit
  initOnline : Except Exception Unit
  /-- The dictionary of public keys could be opened. -/
  publicKeysOpened : Bool
  /-- The numbers of the blocks that `FileBased::init` looks at. -/
  visits : List UInt32
  /-- How the rest of `FileBased::init` ends. -/
  rest : Except Exception Bool
  /-- The status LevelDB returns when the id of the community is put. -/
  putOk : Bool

/-- What `init` of the provider meets. The ids are the keys of an unordered map, in the order in
which `listCommunitiesIds` comes to them. -/
structure Startup where
  hieroClients : Nat
  hieroClientsPerCommunity : UInt8
  /-- The dictionary of community ids could be opened. -/
  opened : Bool
  communitiesIds : List String
  nodup : communitiesIds.Nodup
  starts : String → CommunityStart

/-- What the dictionary calls of the blockchain library. -/
structure DictionaryLibrary (Octet : Type) where
  signatureOctet : List UInt8 → Octet
  binToHex : List UInt8 → String

/-- The bytes of a community id. -/
def idBytes (communityId : String) : List UInt8 := communityId.toUTF8.data.toList

namespace CommunityWorld

variable {Octet : Type} [LinearOrder Octet] (library : DictionaryLibrary Octet)

def ofDisk (disk : Disk) : CommunityWorld Octet where
  communityIdIndex := Dictionary.new disk.folderName disk.communityIds
  stores := fun communityId => {
    blockFiles := disk.blockFiles communityId
    indexFiles := disk.indexFiles communityId
    cachedBlocks := ∅ }

def onDictionary {Value : Type} (operation : Throwing (Dictionary Octet) Value) :
    Throwing (CommunityWorld Octet) Value :=
  Fallible.onPart communityIdIndex
    (fun world communityIdIndex => { world with communityIdIndex := communityIdIndex }) operation

def setStore (world : CommunityWorld Octet) (communityId : String) (store : CommunityStore) :
    CommunityWorld Octet :=
  { world with stores := Function.update world.stores communityId store }

@[simp] theorem setStore_self (world : CommunityWorld Octet) (communityId : String)
    (store : CommunityStore) : (world.setStore communityId store).stores communityId = store :=
  Function.update_self ..

theorem setStore_of_ne (world : CommunityWorld Octet) {communityId other : String}
    (differ : other ≠ communityId) (store : CommunityStore) :
    (world.setStore communityId store).stores other = world.stores other :=
  Function.update_of_ne differ ..

/-- `FileBasedProvider::getCommunityIdIndex`. -/
def getCommunityIdIndex (dictionary : Dictionary Octet) (communityId : String) :
    Except Exception UInt32 :=
  dictionary.getIndexForString library.signatureOctet library.binToHex (idBytes communityId)

/-- The index of a block, from its index file, or else rebuilt from its transactions. -/
def openBlock (dictionary : Dictionary Octet) (indexFile : Option BlockIndex)
    (transactions : List NodeTransactionEntry) : Except Exception BlockIndex :=
  match indexFile with
  | some index => .ok index
  | none =>
      let indexed := indexEntries (getCommunityIdIndex library dictionary) transactions 0
        BlockIndex.new
      indexed.1.map fun _ => indexed.2

/-- `FileBased::getBlock`, as far as the block index goes. -/
def getBlock (communityId : String) (blockNr : UInt32) : Throwing (CommunityWorld Octet) Unit :=
  fun world =>
    let store := world.stores communityId
    if store.cachedBlocks.contains blockNr then (.ok (), world)
    else
      match openBlock library world.communityIdIndex (store.indexFiles.find? blockNr)
          ((store.blockFiles.find? blockNr).getD []) with
      | .error exception => (.error exception, world)
      | .ok index => (.ok (), world.setStore communityId
          { store with cachedBlocks := store.cachedBlocks.set blockNr index })

/-- `removeAllBlockIndexFiles`. -/
def removeAllBlockIndexFiles (communityId : String) (world : CommunityWorld Octet) :
    CommunityWorld Octet :=
  world.setStore communityId { world.stores communityId with indexFiles := ∅ }

/-- `FileBased::init`, as far as it goes to index files and blocks. -/
def initFileBased (start : CommunityStart) (communityId : String) (resetBlockIndices : Bool) :
    Throwing (CommunityWorld Octet) Bool := fun world =>
  ((Fallible.forEach (getBlock library communityId) start.visits).andThen fun _ =>
      Fallible.outcome start.rest)
    (if !start.publicKeysOpened || resetBlockIndices then
      world.removeAllBlockIndexFiles communityId else world)

def communityCalls (start : CommunityStart) (communityId : String) :
    CommunityCalls (CommunityWorld Octet) where
  topicId := start.topicId
  create := Fallible.outcome start.create
  init := initFileBased library start communityId
  getOrAddIndexForString := onDictionary
    (Dictionary.getOrAddIndexForString library.signatureOctet (idBytes communityId) start.putOk)
  updateListenerCommunity := Fallible.outcome start.updateListenerCommunity
  initOnline := Fallible.outcome start.initOnline

/-- `init` of the dictionary changes nothing where the LevelDB cannot be opened. -/
def communityIdIndexInit (opened : Bool) : Throwing (CommunityWorld Octet) Bool := fun world =>
  if opened then
    (.ok true, { world with
      communityIdIndex := world.communityIdIndex.init library.signatureOctet })
  else (.ok false, world)

def communityIdIndexReset : Throwing (CommunityWorld Octet) Unit := fun world =>
  (.ok (), { world with communityIdIndex := world.communityIdIndex.reset })

def initCalls (startup : Startup) : InitCalls String (CommunityWorld Octet) where
  communitiesIds := .ok startup.communitiesIds
  communities := fun communityId => communityCalls library (startup.starts communityId) communityId
  hieroClients := startup.hieroClients
  hieroClientsPerCommunity := startup.hieroClientsPerCommunity
  communityIdIndexInit := communityIdIndexInit library startup.opened
  communityIdIndexReset := communityIdIndexReset

/-! ## What the numbers mean -/

/-- A number in a block index stands for the coin community of its transaction; 0 stands for
none. -/
def MeansCoinCommunity (dictionary : Dictionary Octet) (coinCommunityIdIndex : UInt32)
    (coinCommunityId : String) : Prop :=
  if coinCommunityId = "" then coinCommunityIdIndex = 0
  else coinCommunityIdIndex ≠ 0 ∧
    dictionary.getStringForIndex coinCommunityIdIndex = .ok (idBytes coinCommunityId)

/-- The entries of a block index mean the coin communities of their transactions. -/
def IndexMeaningful (dictionary : Dictionary Octet) (index : BlockIndex)
    (transactions : List NodeTransactionEntry) : Prop :=
  ∀ entry ∈ index.allEntries, ∀ transaction ∈ transactions,
    transaction.transactionNr = entry.transactionNr →
      MeansCoinCommunity dictionary entry.coinCommunityIdIndex transaction.coinCommunityId

/-- Every block index in memory is meaningful. -/
def IndicesMeaningful (world : CommunityWorld Octet) : Prop :=
  ∀ communityId blockNr index,
    (world.stores communityId).cachedBlocks.find? blockNr = some index →
      IndexMeaningful world.communityIdIndex index
        (((world.stores communityId).blockFiles.find? blockNr).getD [])

/-! ## What becomes of the numbers -/

/-- The dictionary that the communities are added to. -/
def startDictionary (startup : Startup) (disk : Disk) : Dictionary Octet :=
  if startup.opened then
    (Dictionary.new disk.folderName disk.communityIds).init library.signatureOctet
  else (Dictionary.new disk.folderName disk.communityIds).reset

/-- The dictionary with a community. -/
def withCommunity (dictionary : Dictionary Octet) (communityId : String) : Dictionary Octet :=
  (dictionary.getOrAddIndexForString library.signatureOctet (idBytes communityId) true).2

/-- The community is not found in the dictionary. -/
def isUnknown (dictionary : Dictionary Octet) (communityId : String) : Bool :=
  match dictionary.findIndexForString library.signatureOctet (idBytes communityId) with
  | .error _ => false
  | .ok index => index = 0

/-- Those of a list of communities that are not found in the dictionary when it is their turn. -/
def newcomers : List String → Dictionary Octet → List String
  | [], _ => []
  | communityId :: rest, dictionary =>
      (if isUnknown library dictionary communityId then [communityId] else []) ++
        newcomers rest (withCommunity library dictionary communityId)

/-- Whom a number is given to when communities are numbered one after the other; a later one
takes it from an earlier one. -/
def numberGiven (number : UInt32) : List String → UInt32 → Option String
  | [], _ => none
  | communityId :: rest, lastIndex =>
      (numberGiven number rest (lastIndex + 1)).or
        (if lastIndex + 1 = number then some communityId else none)

/-- A number goes to the coin community, or to no one by a dictionary that was opened and in which
it stands for the coin community already. -/
def NumberKept (startup : Startup) (disk : Disk) (number : UInt32) (coinCommunityId : String) :
    Prop :=
  let dictionary := startDictionary library startup disk
  match numberGiven number (newcomers library startup.communitiesIds dictionary)
      dictionary.lastIndex with
  | some communityId => communityId = coinCommunityId
  | none => startup.opened = true ∧
      disk.communityIds.find? (Dictionary.to_string number) = some (idBytes coinCommunityId)

/-- The number in an index file is 0 for none, and else one that keeps its meaning. -/
def EntryKept (startup : Startup) (disk : Disk) (coinCommunityIdIndex : UInt32)
    (coinCommunityId : String) : Prop :=
  if coinCommunityId = "" then coinCommunityIdIndex = 0
  else coinCommunityIdIndex ≠ 0 ∧ NumberKept library startup disk coinCommunityIdIndex
    coinCommunityId

/-- The dictionary when it is the turn of a community. -/
def dictionaryBefore (startup : Startup) (disk : Disk) (communityId : String) : Dictionary Octet :=
  (startup.communitiesIds.takeWhile fun other => other ≠ communityId).foldl (withCommunity library)
    (startDictionary library startup disk)

/-- The index file that is there when a block is looked at. -/
def indexFileFor (startup : Startup) (disk : Disk) (communityId : String) (blockNr : UInt32) :
    Option BlockIndex :=
  if (startup.starts communityId).publicKeysOpened then
    (disk.indexFiles communityId).find? blockNr
  else none

/-- The numbers of one block are kept: those in its index file, or those that its coin
communities have when the index is rebuilt. -/
def BlockKept (startup : Startup) (disk : Disk) (communityId : String) (blockNr : UInt32)
    (transactions : List NodeTransactionEntry) : Prop :=
  match indexFileFor startup disk communityId blockNr with
  | some index => ∀ entry ∈ index.allEntries, ∀ transaction ∈ transactions,
      transaction.transactionNr = entry.transactionNr →
        EntryKept library startup disk entry.coinCommunityIdIndex transaction.coinCommunityId
  | none => ∀ transaction ∈ transactions, transaction.coinCommunityId ≠ "" → ∀ number,
      getCommunityIdIndex library (dictionaryBefore library startup disk communityId)
        transaction.coinCommunityId = .ok number →
        NumberKept library startup disk number transaction.coinCommunityId

/-- The numbers of all blocks that are looked at are kept. -/
def NumbersKept (startup : Startup) (disk : Disk) : Prop :=
  ∀ communityId ∈ startup.communitiesIds, ∀ blockNr ∈ (startup.starts communityId).visits,
    BlockKept library startup disk communityId blockNr
      (((disk.blockFiles communityId).find? blockNr).getD [])

end CommunityWorld

end Blockchain

end GradidoNode

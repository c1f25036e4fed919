import GradidoNode.Cache.Block
import GradidoNode.Cache.HieroTransactionId
import GradidoNode.Cache.State
import GradidoNode.Cache.TransactionHash

/-!
# Adding a transaction to a blockchain

A confirmed transaction goes into the open write task, the index and the cache of the last
block, and then into one store after the other.
-/

namespace GradidoNode

open Library Files Cache

namespace Blockchain

/-- What adding reads of a `ConfirmedTransaction`; year and month are those of its date. -/
structure ConfirmedTransaction where
  id : UInt64
  month : UInt8
  year : Int16
  transactionType : UInt8
  coinCommunityId : String
  serializedTransaction : List UInt8
  firstSignature : List UInt8
  messageId : List UInt8
  deriving DecidableEq

/-- The constructor of `NodeTransactionEntry` from a confirmed transaction, with the indices of
its public keys. -/
def ConfirmedTransaction.entry (confirmed : ConfirmedTransaction) (addressIndices : List UInt32) :
    NodeTransactionEntry where
  transactionNr := confirmed.id
  month := confirmed.month
  year := confirmed.year
  transactionType := confirmed.transactionType
  coinCommunityId := confirmed.coinCommunityId
  serializedTransaction := confirmed.serializedTransaction
  addressIndices := addressIndices
  fileCursor := -10

/-- What the blockchain library, the provider and LevelDB answer while a transaction is
added. -/
structure AddEnvironment (Transaction : Type) where
  /-- `createRole` and `run` of the confirming; nothing where the transaction exists. -/
  confirm : Transaction → List UInt8 → Except Exception (Option ConfirmedTransaction)
  /-- Loading a block may throw. -/
  getBlock : UInt32 → Except Exception Unit
  /-- `getOrAddIndexForPublicKey` of the involved addresses. -/
  addressIndices : Except Exception (List UInt32)
  getCommunityIdIndex : String → Except Exception UInt32
  runPastAddToBlockchain : Except Exception Unit
  /-- `getLastIndex` of the public key index. -/
  lastAddressIndex : UInt32
  putTransactionId : Bool
  putAddressIndex : Bool
  putMessageId : Bool
  /-- `getOrAddIndexForString` of the involved addresses, once more. -/
  publicKeysAdded : Except Exception Unit

/-- `FileBased`. The blocks are those that `getBlock` finds or loads. -/
structure FileBased (Octet TransactionId : Type) [LinearOrder Octet]
    [LinearOrder TransactionId] where
  exitCalled : Bool
  blockchainState : State
  blocks : OrderedMap UInt32 Cache.Block
  transactionHashCache : TransactionHash Octet
  messageIdsCache : HieroTransactionId TransactionId
  deriving DecidableEq

namespace FileBased

variable {Octet TransactionId Transaction : Type} [LinearOrder Octet]
  [LinearOrder TransactionId]

abbrev Chain (Octet TransactionId : Type) [LinearOrder Octet] [LinearOrder TransactionId] :=
  FileBased Octet TransactionId

def lastBlockNr (chain : Chain Octet TransactionId) : UInt32 :=
  (chain.blockchainState.readInt32State .LAST_BLOCK_NR 1 true).toUInt32

/-- `getBlock`: a block without files is a new one. -/
def getBlock (chain : Chain Octet TransactionId) (blockNr : UInt32) : Cache.Block :=
  (chain.blocks.find? blockNr).getD (.new .new)

def setBlock (blockNr : UInt32) (chain : Chain Octet TransactionId) (block : Cache.Block) :
    Chain Octet TransactionId :=
  { chain with blocks := chain.blocks.set blockNr block }

/-- The block that transactions are added to. -/
def lastBlock (chain : Chain Octet TransactionId) : Cache.Block := chain.getBlock chain.lastBlockNr

def pushTransaction (getCommunityIdIndex : String → Except Exception UInt32) (blockNr : UInt32)
    (transaction : NodeTransactionEntry) : Throwing (Chain Octet TransactionId) Bool :=
  Fallible.onPart (getBlock · blockNr) (setBlock blockNr)
    fun block => block.pushTransaction getCommunityIdIndex transaction

def updateState (key : DefaultStateKeys) (value : List UInt8) (putOk : Bool) :
    Throwing (Chain Octet TransactionId) Unit :=
  Fallible.onPart blockchainState (fun chain state => { chain with blockchainState := state })
    (State.updateState key value putOk)

section

variable (signatureOctet : List UInt8 → Octet) (format : TransactionIdFormat TransactionId)

def pushHash (confirmed : ConfirmedTransaction) : Throwing (Chain Octet TransactionId) Unit :=
  Fallible.onPart transactionHashCache
    (fun chain cache => { chain with transactionHashCache := cache })
    (TransactionHash.push signatureOctet confirmed.firstSignature confirmed.id)

def addMessageId (confirmed : ConfirmedTransaction) (putOk : Bool) :
    Throwing (Chain Octet TransactionId) Unit :=
  Fallible.onPart messageIdsCache (fun chain ids => { chain with messageIdsCache := ids })
    (HieroTransactionId.add format confirmed.messageId confirmed.id putOk)

/-- What `createAndAddConfirmedTransaction` does after the block has taken the transaction. -/
def addPastBlock (environment : AddEnvironment Transaction) (confirmed : ConfirmedTransaction) :
    Throwing (Chain Octet TransactionId) Bool :=
  (Fallible.outcome environment.runPastAddToBlockchain).andThen fun _ =>
  (updateState .LAST_TRANSACTION_ID (LevelDB.to_string confirmed.id.toNat)
    environment.putTransactionId).andThen fun _ =>
  (updateState .LAST_ADDRESS_INDEX (LevelDB.to_string environment.lastAddressIndex.toNat)
    environment.putAddressIndex).andThen fun _ =>
  (pushHash signatureOctet confirmed).andThen fun _ =>
  (addMessageId format confirmed environment.putMessageId).andThen fun _ =>
  (Fallible.outcome environment.publicKeysAdded).andThen fun _ => Fallible.outcome (.ok true)

/-- `createAndAddConfirmedTransaction`; both arguments are pointers. -/
def createAndAddConfirmedTransaction (environment : AddEnvironment Transaction)
    (gradidoTransaction : Option Transaction) (messageId : Option (List UInt8)) :
    Throwing (Chain Octet TransactionId) Bool := fun chain =>
  match gradidoTransaction, messageId with
  | none, _ =>
      (.error (.gradidoNullPointer "missing transaction" "GradidoTransactionPtr"
        "createAndAddConfirmedTransaction"), chain)
  | some _, none =>
      (.error (.gradidoNullPointer "missing messageId" "memory::ConstBlockPtr"
        "createAndAddConfirmedTransaction"), chain)
  | some gradidoTransaction, some messageId =>
      if chain.exitCalled then (.ok false, chain)
      else
        match environment.confirm gradidoTransaction messageId with
        | .error exception => (.error exception, chain)
        | .ok none => (.ok false, chain)
        | .ok (some confirmed) =>
            match environment.getBlock chain.lastBlockNr with
            | .error exception => (.error exception, chain)
            | .ok _ =>
                match environment.addressIndices with
                | .error exception => (.error exception, chain)
                | .ok addressIndices =>
                    (pushTransaction environment.getCommunityIdIndex chain.lastBlockNr
                      (confirmed.entry addressIndices)).andThen
                      (fun pushed =>
                        if pushed then addPastBlock signatureOctet format environment confirmed
                        else Fallible.outcome (.ok false)) chain

end

/-- What a call may be asked with. -/
structure AddCall (Transaction : Type) where
  environment : AddEnvironment Transaction
  gradidoTransaction : Option Transaction
  messageId : Option (List UInt8)

/-- What changes the stores of a blockchain. -/
inductive ChainEvent (Octet TransactionId Transaction : Type)
  | add (call : AddCall Transaction)
  | updateLastKnownSequenceNumber (newSequenceNumber : UInt64) (putOk : Bool)
  /-- A block hands its open task over. -/
  | timer (blockNr : UInt32)
  /-- A write task records where a transaction stands. -/
  | recordFileCursor (blockNr : UInt32) (transactionNr : UInt64) (fileCursor : Int32)
  | expireTransaction (blockNr : UInt32) (transactionNr : UInt64)
  | expireSignature (octet : Octet)
  | expireMessageId (transactionId : TransactionId)
  | exit

section

variable (signatureOctet : List UInt8 → Octet) (format : TransactionIdFormat TransactionId)

def AddCall.run (call : AddCall Transaction) : Throwing (Chain Octet TransactionId) Bool :=
  createAndAddConfirmedTransaction signatureOctet format call.environment call.gradidoTransaction
    call.messageId

def step (chain : Chain Octet TransactionId) :
    ChainEvent Octet TransactionId Transaction → Option (Chain Octet TransactionId)
  | .add call => some (call.run signatureOctet format chain).2
  | .updateLastKnownSequenceNumber newSequenceNumber putOk =>
      some (updateState .LAST_HIERO_TOPIC_SEQUENCE_NUMBER
        (LevelDB.to_string newSequenceNumber.toNat) putOk chain).2
  | .timer blockNr => some (chain.setBlock blockNr (chain.getBlock blockNr).callFromTimer.2)
  | .recordFileCursor blockNr transactionNr fileCursor =>
      let block := chain.getBlock blockNr
      some (chain.setBlock blockNr { block with blockIndex :=
        (BlockIndex.addFileCursorForTransaction transactionNr fileCursor block.blockIndex).2 })
  | .expireTransaction blockNr transactionNr =>
      let block := chain.getBlock blockNr
      some (chain.setBlock blockNr { block with
        serializedTransactions := block.serializedTransactions.erase transactionNr })
  | .expireSignature octet => some { chain with transactionHashCache :=
      ⟨chain.transactionHashCache.signaturePartTransactionNrs.erase octet⟩ }
  | .expireMessageId transactionId => some { chain with messageIdsCache :=
      { chain.messageIdsCache with hieroTransactionIdTransactionNrs :=
          chain.messageIdsCache.hieroTransactionIdTransactionNrs.erase transactionId } }
  | .exit => some { chain with
      exitCalled := true
      blockchainState := { chain.blockchainState with initalized := false }
      messageIdsCache := { chain.messageIdsCache with initalized := false } }

end

end FileBased

end Blockchain

end GradidoNode

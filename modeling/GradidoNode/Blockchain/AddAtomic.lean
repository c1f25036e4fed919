import GradidoNode.Blockchain.FileBased
import GradidoNode.Cache.IndexRepresentation

/-!
# Adding a transaction is not atomic

The stores of a blockchain are changed one after the other, and nothing is taken back where
one of them refuses the transaction. A call is atomic exactly if it stops before the block
takes the transaction, or if none of the stores refuses it.
-/

namespace GradidoNode

open Library Files Cache

namespace Cache

namespace BlockIndex

variable {getCommunityIdIndex : String → Except Exception UInt32}

/-- A changed month holds the changed list. -/
theorem monthList_alterMonth (index : BlockIndex) (year : Int16) (month : UInt8)
    (change : List BlockIndexEntry → List BlockIndexEntry) :
    (index.alterMonth year month change).monthList year month =
      change (index.monthList year month) := by
  unfold monthList alterMonth
  dsimp only
  rw [OrderedMap.find?_alter_self, Option.getD_some, OrderedMap.find?_alter_self,
    Option.getD_some]

/-- What the index accepts of a transaction that is not written yet. -/
structure Indexable (getCommunityIdIndex : String → Except Exception UInt32)
    (transactionEntry : NodeTransactionEntry) (index : BlockIndex) : Prop where
  community : transactionEntry.coinCommunityId.isEmpty = false → ∃ coinCommunityIndex,
    getCommunityIdIndex transactionEntry.coinCommunityId = .ok coinCommunityIndex
  addresses : ¬ UInt16.ofNat transactionEntry.addressIndices.length > 256
  ascending : ∀ back,
    (index.monthList transactionEntry.year transactionEntry.month).getLast? = some back →
      back.transactionNr < transactionEntry.transactionNr

/-- Without a file cursor an entry is only appended to its month. -/
theorem addIndicesForTransaction_unwritten {indices : TransactionIndices}
    (unwritten : indices.fileCursor < 0) (index : BlockIndex) :
    (∃ exception next, addIndicesForTransaction indices index = (.error exception, next) ∧
      ¬ (¬ indices.addressIndiceCount > 256 ∧
        ∀ back, (index.monthList indices.year indices.month).getLast? = some back →
          back.transactionNr < indices.transactionNr)) ∨
    (∃ next, addIndicesForTransaction indices index = (.ok (), next) ∧
      next.monthList indices.year indices.month =
        index.monthList indices.year indices.month ++ [entryOf indices] ∧
      ¬ indices.addressIndiceCount > 256 ∧
        ∀ back, (index.monthList indices.year indices.month).getLast? = some back →
          back.transactionNr < indices.transactionNr) := by
  have pushed (index : BlockIndex) : ∃ next,
      addIndicesForTransaction.pushEntry indices (entryOf indices) index = (.ok (), next) ∧
      next.monthList indices.year indices.month =
        index.monthList indices.year indices.month ++ [entryOf indices] := by
    refine ⟨_, ?_, monthList_alterMonth index indices.year indices.month (· ++ [entryOf indices])⟩
    unfold addIndicesForTransaction.pushEntry addFileCursorForTransaction
    simp only [unwritten, ↓reduceIte]
  have created : ((({ index with dirty := true }.widen indices.transactionNr).alterMonth
      indices.year indices.month id).monthList indices.year indices.month) =
        index.monthList indices.year indices.month :=
    monthList_alterMonth _ _ _ _
  unfold addIndicesForTransaction
  dsimp only
  by_cases tooMany : indices.addressIndiceCount > 256
  · rw [if_pos tooMany]
    exact Or.inl ⟨_, _, rfl, fun accepted => accepted.1 tooMany⟩
  · rw [if_neg tooMany, created]
    cases last : (index.monthList indices.year indices.month).getLast? with
    | none =>
        obtain ⟨next, added, appended⟩ := pushed _
        exact Or.inr ⟨next, added, appended.trans (congrArg (· ++ [_]) created), tooMany, nofun⟩
    | some back =>
        dsimp only
        by_cases behind : back.transactionNr ≥ (entryOf indices).transactionNr
        · rw [if_pos behind]
          exact Or.inl ⟨_, _, rfl, fun accepted => not_lt.mpr behind (accepted.2 back rfl)⟩
        · rw [if_neg behind]
          obtain ⟨next, added, appended⟩ := pushed _
          refine Or.inr ⟨next, added, appended.trans (congrArg (· ++ [_]) created), tooMany, ?_⟩
          rintro _ ⟨⟩
          exact not_le.mp behind

/-- Indexing an unwritten entry throws where it is not indexable, and else adds its indices. -/
theorem addIndicesForTransactionEntry_unwritten {transactionEntry : NodeTransactionEntry}
    (unwritten : transactionEntry.fileCursor < 0) (index : BlockIndex) :
    (∃ exception next, addIndicesForTransactionEntry getCommunityIdIndex transactionEntry index =
        (.error exception, next) ∧ ¬ Indexable getCommunityIdIndex transactionEntry index) ∨
    (∃ next coinCommunityIndex,
      addIndicesForTransactionEntry getCommunityIdIndex transactionEntry index = (.ok (), next) ∧
      next.monthList transactionEntry.year transactionEntry.month =
        index.monthList transactionEntry.year transactionEntry.month ++
          [entryOf (indicesOf transactionEntry coinCommunityIndex)] ∧
      Indexable getCommunityIdIndex transactionEntry index) := by
  have noCursor : ¬ transactionEntry.fileCursor ≥ 0 := Int32.not_le.mpr unwritten
  unfold addIndicesForTransactionEntry
  dsimp only
  rw [if_neg noCursor]
  cases looked : (if transactionEntry.coinCommunityId.isEmpty then Except.ok 0
      else getCommunityIdIndex transactionEntry.coinCommunityId) with
  | error exception =>
      refine Or.inl ⟨exception, _, rfl, fun indexable => ?_⟩
      by_cases empty : transactionEntry.coinCommunityId.isEmpty = true
      · rw [if_pos empty] at looked
        cases looked
      · rw [if_neg empty] at looked
        obtain ⟨_, known⟩ := indexable.community (Bool.eq_false_of_not_eq_true empty)
        cases looked.symm.trans known
  | ok coinCommunityIndex =>
      have community : transactionEntry.coinCommunityId.isEmpty = false → ∃ coinCommunityIndex,
          getCommunityIdIndex transactionEntry.coinCommunityId = .ok coinCommunityIndex := by
        intro nonempty
        rw [if_neg (by rw [nonempty]; nofun)] at looked
        exact ⟨coinCommunityIndex, looked⟩
      rcases @addIndicesForTransaction_unwritten (indicesOf transactionEntry coinCommunityIndex)
          unwritten (index.widen transactionEntry.transactionNr) with
        ⟨exception, next, failed, refused⟩ | ⟨next, added, appended, tooMany, ascending⟩
      · exact Or.inl ⟨exception, next, failed,
          fun indexable => refused ⟨indexable.addresses, indexable.ascending⟩⟩
      · exact Or.inr ⟨next, coinCommunityIndex, added, appended, community, tooMany, ascending⟩

/-- The index refuses a transaction that is not written yet, and has done before all that it does
until then. -/
def RefusedAgain (getCommunityIdIndex : String → Except Exception UInt32)
    (transactionEntry : NodeTransactionEntry) (index : BlockIndex) : Prop :=
  ¬ Indexable getCommunityIdIndex transactionEntry index ∧
    (index.hasTransactionNr transactionEntry.transactionNr = true ∧
      (index.minTransactionNr = 0 → transactionEntry.transactionNr = 0)) ∧
    ((∃ exception, coinCommunityIndexOf getCommunityIdIndex transactionEntry = .error exception) ∨
      index.findMonth transactionEntry.year transactionEntry.month ≠ none ∧ index.dirty = true)

/-- A transaction of an unknown coin community has only widened the range. -/
theorem addIndicesForTransactionEntry_of_unknown {transactionEntry : NodeTransactionEntry}
    (unwritten : transactionEntry.fileCursor < 0) {exception : Exception}
    (unknown : coinCommunityIndexOf getCommunityIdIndex transactionEntry = .error exception)
    (index : BlockIndex) :
    addIndicesForTransactionEntry getCommunityIdIndex transactionEntry index =
      (.error exception, index.widen transactionEntry.transactionNr) := by
  unfold coinCommunityIndexOf at unknown
  unfold addIndicesForTransactionEntry
  dsimp only
  rw [if_neg (Int32.not_le.mpr unwritten)]
  dsimp only
  rw [unknown]

/-- With its coin community known an entry's indices are added. -/
theorem addIndicesForTransactionEntry_of_known {transactionEntry : NodeTransactionEntry}
    (unwritten : transactionEntry.fileCursor < 0) {coinCommunityIndex : UInt32}
    (known : coinCommunityIndexOf getCommunityIdIndex transactionEntry = .ok coinCommunityIndex)
    (index : BlockIndex) :
    addIndicesForTransactionEntry getCommunityIdIndex transactionEntry index =
      addIndicesForTransaction (indicesOf transactionEntry coinCommunityIndex)
        (index.widen transactionEntry.transactionNr) := by
  unfold coinCommunityIndexOf at known
  unfold addIndicesForTransactionEntry
  dsimp only
  rw [if_neg (Int32.not_le.mpr unwritten)]
  dsimp only
  rw [known]

/-- What a refused call leaves is the index before exactly if there was nothing left to do. -/
theorem refusedAgain_iff {transactionEntry : NodeTransactionEntry}
    (unwritten : transactionEntry.fileCursor < 0) {index next : BlockIndex} {exception : Exception}
    (refused : addIndicesForTransactionEntry getCommunityIdIndex transactionEntry index =
      (.error exception, next))
    (notIndexable : ¬ Indexable getCommunityIdIndex transactionEntry index) :
    next = index ↔ RefusedAgain getCommunityIdIndex transactionEntry index := by
  unfold RefusedAgain
  rw [and_iff_right notIndexable, ← widen_eq_self_iff]
  cases looked : coinCommunityIndexOf getCommunityIdIndex transactionEntry with
  | error unknown =>
      rw [addIndicesForTransactionEntry_of_unknown unwritten looked] at refused
      obtain ⟨-, rfl⟩ := Prod.mk.inj refused
      exact (and_iff_left (Or.inl ⟨unknown, rfl⟩)).symm
  | ok coinCommunityIndex =>
      have found : ¬ ∃ exception, (.ok coinCommunityIndex : Except Exception UInt32) =
          .error exception := by
        rintro ⟨_, ⟨⟩⟩
      have noCursor : transactionEntry.fileCursor ≠ 0 := by
        intro zero
        rw [zero] at unwritten
        exact absurd unwritten (by decide)
      rw [addIndicesForTransactionEntry_of_known unwritten looked] at refused
      rw [or_iff_right found]
      rcases addIndicesForTransaction_cases (indicesOf transactionEntry coinCommunityIndex)
          (index.widen transactionEntry.transactionNr) with
        ⟨-, _, failed⟩ | ⟨-, _, -, ⟨cursor, -⟩ | ⟨-, success⟩⟩
      · obtain ⟨-, rfl⟩ := Prod.mk.inj (refused.symm.trans failed)
        have twice := widen_widen index transactionEntry.transactionNr
        have greatest := congrArg maxTransactionNr twice
        have least := congrArg minTransactionNr twice
        rw [AddCall.eq_iff, AddCall.widen_eq_self_iff_fields]
        refine and_congr ?_ ?_
        · exact Iff.of_eq (congrArg₂ (fun greatest least =>
            greatest = index.maxTransactionNr ∧ least = index.minTransactionNr) greatest least)
        · exact (and_iff_right rfl).trans (and_congr years_alterMonth_id_iff eq_comm)
      · exact absurd cursor.1 noCursor
      · cases refused.symm.trans success

end BlockIndex

end Cache

namespace Blockchain

namespace FileBased

variable {Octet TransactionId Transaction : Type} [LinearOrder Octet]
  [LinearOrder TransactionId]

/-- The stores show what they showed before. -/
structure SameStores (before after : Chain Octet TransactionId) : Prop where
  openTask : after.lastBlock.transactionWriteTask = before.lastBlock.transactionWriteTask
  blockIndex : after.lastBlock.blockIndex = before.lastBlock.blockIndex
  transactionCache :
    after.lastBlock.serializedTransactions = before.lastBlock.serializedTransactions
  lastTransactionId : after.blockchainState.value? .LAST_TRANSACTION_ID =
    before.blockchainState.value? .LAST_TRANSACTION_ID
  signatures : after.transactionHashCache = before.transactionHashCache
  messageIds : after.messageIdsCache = before.messageIdsCache

/-- Nothing has to change. -/
theorem SameStores.refl (chain : Chain Octet TransactionId) : SameStores chain chain :=
  ⟨rfl, rfl, rfl, rfl, rfl, rfl⟩

section

variable (signatureOctet : List UInt8 → Octet) (format : TransactionIdFormat TransactionId)

/-- Every store has the transaction. -/
structure InAllStores (confirmed : ConfirmedTransaction) (addressIndices : List UInt32)
    (chain : Chain Octet TransactionId) : Prop where
  openTask : ∃ task, chain.lastBlock.transactionWriteTask = some task ∧
    task.transactions.find? confirmed.id = some (confirmed.entry addressIndices)
  blockIndex : ∃ coinCommunityIndex,
    BlockIndex.entryOf (BlockIndex.indicesOf (confirmed.entry addressIndices)
      coinCommunityIndex) ∈ chain.lastBlock.blockIndex.monthList confirmed.year confirmed.month
  transactionCache : chain.lastBlock.serializedTransactions.find? confirmed.id =
    some (confirmed.entry addressIndices)
  lastTransactionId : chain.blockchainState.value? .LAST_TRANSACTION_ID =
    some (LevelDB.to_string confirmed.id.toNat)
  signatures : chain.transactionHashCache.signaturePartTransactionNrs.find?
    (signatureOctet confirmed.firstSignature) = some confirmed.id
  messageIds : chain.messageIdsCache.Knows format confirmed.messageId confirmed.id

/-- The call comes as far as the last block, with a confirmed transaction and the indices of
its addresses. -/
structure AddCall.ReachesBlock (call : AddCall Transaction) (chain : Chain Octet TransactionId)
    (confirmed : ConfirmedTransaction) (addressIndices : List UInt32) : Prop where
  running : chain.exitCalled = false
  confirmed : ∃ gradidoTransaction messageId, call.gradidoTransaction = some gradidoTransaction ∧
    call.messageId = some messageId ∧
    call.environment.confirm gradidoTransaction messageId = .ok (some confirmed)
  loaded : call.environment.getBlock chain.lastBlockNr = .ok ()
  addressIndices : call.environment.addressIndices = .ok addressIndices
  taking : chain.lastBlock.exitCalled = false

/-- All stores have the transaction where the call returns true, else none has changed. -/
def Atomic (call : AddCall Transaction) (chain : Chain Octet TransactionId) : Prop :=
  match (call.run signatureOctet format chain).1 with
  | .ok true => ∃ confirmed addressIndices, call.ReachesBlock chain confirmed addressIndices ∧
      InAllStores signatureOctet format confirmed addressIndices
        (call.run signatureOctet format chain).2
  | _ => SameStores chain (call.run signatureOctet format chain).2

/-- None of the stores behind the block refuses the transaction. -/
structure Storable (environment : AddEnvironment Transaction) (confirmed : ConfirmedTransaction)
    (chain : Chain Octet TransactionId) : Prop where
  past : environment.runPastAddToBlockchain = .ok ()
  state : chain.blockchainState.initalized = true
  transactionId : environment.putTransactionId = true
  addressIndex : environment.putAddressIndex = true
  signature : chain.transactionHashCache.signaturePartTransactionNrs.find?
    (signatureOctet confirmed.firstSignature) = none
  messageId : ∃ hieroTransactionId, chain.messageIdsCache.Addable format confirmed.messageId
    environment.putMessageId hieroTransactionId
  publicKeys : environment.publicKeysAdded = .ok ()

/-- No store refuses the transaction, and no other one is in the open task under its number. Or
a transaction of that number is in the open task already, and the index refuses it with nothing
left to do. -/
def Accepted (call : AddCall Transaction) (chain : Chain Octet TransactionId) : Prop :=
  ∀ confirmed addressIndices, call.ReachesBlock chain confirmed addressIndices →
    (BlockIndex.Indexable call.environment.getCommunityIdIndex (confirmed.entry addressIndices)
        chain.lastBlock.blockIndex ∧
      Storable signatureOctet format call.environment confirmed chain ∧
      ∀ present, (chain.lastBlock.transactionWriteTask.getD .new).transactions.find?
        confirmed.id = some present → present = confirmed.entry addressIndices) ∨
    ((∃ present, (chain.lastBlock.transactionWriteTask.getD .new).transactions.find?
        confirmed.id = some present) ∧
      BlockIndex.RefusedAgain call.environment.getCommunityIdIndex
        (confirmed.entry addressIndices) chain.lastBlock.blockIndex)

/-- What a run may not meet. -/
def AcceptedEvent (chain : Chain Octet TransactionId) :
    ChainEvent Octet TransactionId Transaction → Prop
  | .add call => Accepted signatureOctet format call chain
  | _ => True

end

section

variable {signatureOctet : List UInt8 → Octet} {format : TransactionIdFormat TransactionId}
  {chain : Chain Octet TransactionId} {environment : AddEnvironment Transaction}
  {confirmed : ConfirmedTransaction} {addressIndices : List UInt32} {call : AddCall Transaction}

/-- A block with the transaction in its open task, as the index leaves it. -/
def withTransaction (block : Cache.Block) (transaction : NodeTransactionEntry)
    (index : BlockIndex) : Cache.Block where
  transactionWriteTask := some ((block.transactionWriteTask.getD .new).insert transaction)
  blockIndex := index
  serializedTransactions := block.serializedTransactions
  exitCalled := block.exitCalled

/-- The same with the transaction in its cache. -/
def withCached (block : Cache.Block) (transaction : NodeTransactionEntry)
    (index : BlockIndex) : Cache.Block where
  transactionWriteTask := some ((block.transactionWriteTask.getD .new).insert transaction)
  blockIndex := index
  serializedTransactions :=
    block.serializedTransactions.set transaction.transactionNr transaction
  exitCalled := block.exitCalled

@[simp] theorem lastBlock_setBlock (chain : Chain Octet TransactionId) (block : Cache.Block) :
    (chain.setBlock chain.lastBlockNr block).lastBlock = block := by
  change ((chain.blocks.set chain.lastBlockNr block).find? chain.lastBlockNr).getD _ = block
  rw [OrderedMap.set, OrderedMap.find?_alter_self, Option.getD_some]

/-- Only its own key changes the number of the last block. -/
theorem keeps_lastBlockNr_updateState {key : DefaultStateKeys} (other : .LAST_BLOCK_NR ≠ key)
    (value : List UInt8) (putOk : Bool) :
    Fallible.Keeps lastBlockNr (updateState key value putOk :
      Throwing (Chain Octet TransactionId) Unit) := by
  intro chain
  have kept : (State.updateState key value putOk chain.blockchainState).2.readInt32State
      .LAST_BLOCK_NR 1 true = chain.blockchainState.readInt32State .LAST_BLOCK_NR 1 true := by
    unfold State.updateState
    by_cases closed : (!chain.blockchainState.initalized) = true
    · rw [if_pos closed]
    · rw [if_neg closed]
      cases putOk with
      | false => rfl
      | true =>
          apply State.readInt32State_congr
          · rfl
          · exact State.value?_set_of_ne chain.blockchainState other value
  exact congrArg Int32.toUInt32 kept

/-- What neither the state apart from the last block nor the caches decide is as it was before
the stores behind the block were asked. -/
theorem keeps_addPastBlock {View : Type} {view : Chain Octet TransactionId → View}
    (state : ∀ key value putOk, .LAST_BLOCK_NR ≠ key →
      Fallible.Keeps view (updateState key value putOk :
        Throwing (Chain Octet TransactionId) Unit))
    (hashes : ∀ chain cache, view { chain with transactionHashCache := cache } = view chain)
    (messageIds : ∀ chain ids, view { chain with messageIdsCache := ids } = view chain)
    (environment : AddEnvironment Transaction) (confirmed : ConfirmedTransaction) :
    Fallible.Keeps view (addPastBlock signatureOctet format environment confirmed :
      Throwing (Chain Octet TransactionId) Bool) := by
  have hash : Fallible.Keeps view (pushHash signatureOctet confirmed :
      Throwing (Chain Octet TransactionId) Unit) := by
    unfold pushHash
    exact Fallible.keeps_onPart hashes _
  have messageId : Fallible.Keeps view (addMessageId format confirmed
      environment.putMessageId : Throwing (Chain Octet TransactionId) Unit) := by
    unfold addMessageId
    exact Fallible.keeps_onPart messageIds _
  unfold addPastBlock
  refine (Fallible.keeps_outcome _ _).andThen fun _ => ?_
  refine (state _ _ _ (by decide)).andThen fun _ => (state _ _ _ (by decide)).andThen fun _ => ?_
  refine hash.andThen fun _ => messageId.andThen fun _ => ?_
  exact (Fallible.keeps_outcome _ _).andThen fun _ => Fallible.keeps_outcome _ _

/-- Behind the block the last block's number stays. -/
theorem keeps_lastBlockNr_addPastBlock (environment : AddEnvironment Transaction)
    (confirmed : ConfirmedTransaction) :
    Fallible.Keeps lastBlockNr (addPastBlock signatureOctet format environment confirmed :
      Throwing (Chain Octet TransactionId) Bool) :=
  keeps_addPastBlock (fun _ value putOk other => keeps_lastBlockNr_updateState other value putOk)
    (fun _ _ => rfl) (fun _ _ => rfl) environment confirmed

/-- And so do the blocks. -/
theorem keeps_blocks_addPastBlock (environment : AddEnvironment Transaction)
    (confirmed : ConfirmedTransaction) :
    Fallible.Keeps blocks (addPastBlock signatureOctet format environment confirmed :
      Throwing (Chain Octet TransactionId) Bool) := by
  refine keeps_addPastBlock (fun key value putOk _ => ?_) (fun _ _ => rfl) (fun _ _ => rfl)
    environment confirmed
  unfold updateState
  apply Fallible.keeps_onPart
  exact fun _ _ => rfl

/-- And so does the last block. -/
theorem keeps_lastBlock_addPastBlock (environment : AddEnvironment Transaction)
    (confirmed : ConfirmedTransaction) :
    Fallible.Keeps lastBlock (addPastBlock signatureOctet format environment confirmed :
      Throwing (Chain Octet TransactionId) Bool) := by
  intro chain
  unfold lastBlock getBlock
  rw [keeps_lastBlockNr_addPastBlock environment confirmed chain,
    keeps_blocks_addPastBlock environment confirmed chain]

/-- A state is written on an open store that takes it. -/
theorem updateState_ok_iff {key : DefaultStateKeys} {value : List UInt8} {putOk : Bool}
    {next : Chain Octet TransactionId} :
    updateState key value putOk chain = (.ok (), next) ↔
      chain.blockchainState.initalized = true ∧ putOk = true ∧
        next = { chain with blockchainState := { chain.blockchainState with
          stateFile := chain.blockchainState.stateFile.set key.enum_name.toList value } } := by
  unfold updateState
  rw [Fallible.onPart_ok_iff]
  constructor
  · rintro ⟨state, updated, rfl⟩
    obtain ⟨initalized, put, rfl⟩ := State.updateState_ok_iff.mp updated
    exact ⟨initalized, put, rfl⟩
  · rintro ⟨initalized, put, rfl⟩
    exact ⟨_, State.updateState_ok_iff.mpr ⟨initalized, put, rfl⟩, rfl⟩

/-- A hash is pushed where no transaction has these octets yet. -/
theorem pushHash_ok_iff {next : Chain Octet TransactionId} :
    pushHash signatureOctet confirmed chain = (.ok (), next) ↔
      chain.transactionHashCache.signaturePartTransactionNrs.find?
        (signatureOctet confirmed.firstSignature) = none ∧
      next = { chain with transactionHashCache := { chain.transactionHashCache with
        signaturePartTransactionNrs := chain.transactionHashCache.signaturePartTransactionNrs.set
          (signatureOctet confirmed.firstSignature) confirmed.id } } := by
  unfold pushHash
  rw [Fallible.onPart_ok_iff]
  constructor
  · rintro ⟨cache, pushed, rfl⟩
    obtain ⟨absent, rfl⟩ := TransactionHash.push_ok_iff.mp pushed
    exact ⟨absent, rfl⟩
  · rintro ⟨absent, rfl⟩
    exact ⟨_, TransactionHash.push_ok_iff.mpr ⟨absent, rfl⟩, rfl⟩

/-- What the stores behind the block do to a transaction that they accept. -/
theorem addPastBlock_ok_iff {result : Bool} {next : Chain Octet TransactionId} :
    addPastBlock signatureOctet format environment confirmed chain = (.ok result, next) ↔
      result = true ∧ Storable signatureOctet format environment confirmed chain ∧
      ∃ ids, HieroTransactionId.add format confirmed.messageId confirmed.id
          environment.putMessageId chain.messageIdsCache = (.ok (), ids) ∧
        next = { chain with
          blockchainState := { chain.blockchainState with
            stateFile := (chain.blockchainState.stateFile.set
                DefaultStateKeys.LAST_TRANSACTION_ID.enum_name.toList
                (LevelDB.to_string confirmed.id.toNat)).set
              DefaultStateKeys.LAST_ADDRESS_INDEX.enum_name.toList
              (LevelDB.to_string environment.lastAddressIndex.toNat) }
          transactionHashCache := { chain.transactionHashCache with
            signaturePartTransactionNrs :=
              chain.transactionHashCache.signaturePartTransactionNrs.set
                (signatureOctet confirmed.firstSignature) confirmed.id }
          messageIdsCache := ids } := by
  unfold addPastBlock
  constructor
  · intro success
    obtain ⟨_, _, past, success⟩ := Fallible.andThen_ok_iff.mp success
    obtain ⟨pastOk, rfl⟩ := Prod.mk.inj past
    obtain ⟨_, _, stored, success⟩ := Fallible.andThen_ok_iff.mp success
    obtain ⟨initalized, transactionId, rfl⟩ := updateState_ok_iff.mp stored
    obtain ⟨_, _, stored, success⟩ := Fallible.andThen_ok_iff.mp success
    obtain ⟨_, addressIndex, rfl⟩ := updateState_ok_iff.mp stored
    obtain ⟨_, _, pushed, success⟩ := Fallible.andThen_ok_iff.mp success
    obtain ⟨absent, rfl⟩ := pushHash_ok_iff.mp pushed
    obtain ⟨_, _, added, success⟩ := Fallible.andThen_ok_iff.mp success
    obtain ⟨ids, addedId, rfl⟩ := Fallible.onPart_ok_iff.mp added
    obtain ⟨_, _, keys, success⟩ := Fallible.andThen_ok_iff.mp success
    obtain ⟨keysOk, rfl⟩ := Prod.mk.inj keys
    obtain ⟨isTrue, rfl⟩ := Prod.mk.inj success
    exact ⟨(Except.ok.inj isTrue).symm, ⟨pastOk, initalized, transactionId, addressIndex, absent,
      HieroTransactionId.add_ok_iff.mp ⟨ids, addedId⟩, keysOk⟩, ids, addedId, rfl⟩
  · rintro ⟨rfl, storable, ids, addedId, rfl⟩
    refine Fallible.andThen_ok_iff.mpr ⟨(), _, Prod.ext storable.past rfl, ?_⟩
    refine Fallible.andThen_ok_iff.mpr ⟨(), _, updateState_ok_iff.mpr
      ⟨storable.state, storable.transactionId, rfl⟩, ?_⟩
    refine Fallible.andThen_ok_iff.mpr ⟨(), _, updateState_ok_iff.mpr
      ⟨storable.state, storable.addressIndex, rfl⟩, ?_⟩
    refine Fallible.andThen_ok_iff.mpr ⟨(), _, pushHash_ok_iff.mpr ⟨storable.signature, rfl⟩, ?_⟩
    refine Fallible.andThen_ok_iff.mpr ⟨(), _, Fallible.onPart_ok_iff.mpr ⟨ids, addedId, rfl⟩, ?_⟩
    exact Fallible.andThen_ok_iff.mpr ⟨(), _, Prod.ext storable.publicKeys rfl, rfl⟩

/-- A call that does not reach the last block returns false or throws, and changes no store. -/
theorem run_unreached
    (unreached : ∀ confirmed addressIndices, ¬ call.ReachesBlock chain confirmed addressIndices) :
    SameStores chain (call.run signatureOctet format chain).2 ∧
      (call.run signatureOctet format chain).1 ≠ .ok true := by
  unfold AddCall.run createAndAddConfirmedTransaction
  split
  · exact ⟨SameStores.refl chain, nofun⟩
  · exact ⟨SameStores.refl chain, nofun⟩
  · rename_i gradidoTransaction messageId isTransaction isMessageId
    split
    · exact ⟨SameStores.refl chain, nofun⟩
    · rename_i running
      split
      · exact ⟨SameStores.refl chain, nofun⟩
      · exact ⟨SameStores.refl chain, nofun⟩
      · rename_i confirmed isConfirmed
        split
        · exact ⟨SameStores.refl chain, nofun⟩
        · rename_i loaded
          split
          · exact ⟨SameStores.refl chain, nofun⟩
          · rename_i addressIndices indexed
            by_cases taking : chain.lastBlock.exitCalled = false
            · exact absurd ⟨Bool.eq_false_of_not_eq_true running,
                ⟨gradidoTransaction, messageId, isTransaction, isMessageId, isConfirmed⟩, loaded,
                indexed, taking⟩ (unreached confirmed addressIndices)
            · have stopped : pushTransaction call.environment.getCommunityIdIndex
                  chain.lastBlockNr (confirmed.entry addressIndices) chain =
                    (.ok false, chain.setBlock chain.lastBlockNr chain.lastBlock) := by
                unfold pushTransaction Fallible.onPart
                change ((chain.lastBlock.pushTransaction _ _).1, chain.setBlock _
                  (chain.lastBlock.pushTransaction _ _).2) = _
                rw [Cache.Block.pushTransaction_of_exitCalled _ _ _
                  (Bool.eq_true_of_not_eq_false taking)]
              rw [Fallible.andThen_of_ok stopped]
              refine ⟨?_, nofun⟩
              have same := lastBlock_setBlock chain chain.lastBlock
              refine ⟨?_, ?_, ?_, rfl, rfl, rfl⟩
              · exact congrArg Cache.Block.transactionWriteTask same
              · exact congrArg Cache.Block.blockIndex same
              · exact congrArg Cache.Block.serializedTransactions same

/-- A call that reaches the block pushes its entry, and goes on behind the block if it was taken. -/
theorem run_of_reaches (reaches : call.ReachesBlock chain confirmed addressIndices) :
    call.run signatureOctet format chain =
      (pushTransaction call.environment.getCommunityIdIndex chain.lastBlockNr
        (confirmed.entry addressIndices)).andThen (fun pushed =>
          if pushed then addPastBlock signatureOctet format call.environment confirmed
          else Fallible.outcome (.ok false)) chain := by
  obtain ⟨running, ⟨gradidoTransaction, messageId, isTransaction, isMessageId, isConfirmed⟩,
    loaded, indexed, taking⟩ := reaches
  unfold AddCall.run createAndAddConfirmedTransaction
  simp only [isTransaction, isMessageId, running, Bool.false_eq_true, ↓reduceIte, isConfirmed,
    loaded, indexed]

/-- The index refuses the transaction, which is in the open task by then. -/
theorem run_refused (reaches : call.ReachesBlock chain confirmed addressIndices)
    {exception : Exception} {index : BlockIndex}
    (refused : BlockIndex.addIndicesForTransactionEntry call.environment.getCommunityIdIndex
      (confirmed.entry addressIndices) chain.lastBlock.blockIndex = (.error exception, index)) :
    call.run signatureOctet format chain = (.error exception,
      chain.setBlock chain.lastBlockNr
        (withTransaction chain.lastBlock (confirmed.entry addressIndices) index)) := by
  have pushed : pushTransaction call.environment.getCommunityIdIndex chain.lastBlockNr
      (confirmed.entry addressIndices) chain = (.error exception,
        chain.setBlock chain.lastBlockNr
          (withTransaction chain.lastBlock (confirmed.entry addressIndices) index)) := by
    unfold pushTransaction Fallible.onPart
    change ((chain.lastBlock.pushTransaction _ _).1, chain.setBlock _
      (chain.lastBlock.pushTransaction _ _).2) = _
    unfold Cache.Block.pushTransaction Tasks.WriteTransactionsToBlockTask.addSerializedTransaction
    simp only [reaches.taking, Bool.false_eq_true, ↓reduceIte, refused, withTransaction]
  rw [run_of_reaches reaches, Fallible.andThen_of_error pushed]

/-- The index takes the transaction, and the other stores are asked. -/
theorem run_indexed (reaches : call.ReachesBlock chain confirmed addressIndices)
    {index : BlockIndex}
    (added : BlockIndex.addIndicesForTransactionEntry call.environment.getCommunityIdIndex
      (confirmed.entry addressIndices) chain.lastBlock.blockIndex = (.ok (), index)) :
    call.run signatureOctet format chain =
      addPastBlock signatureOctet format call.environment confirmed
        (chain.setBlock chain.lastBlockNr
          (withCached chain.lastBlock (confirmed.entry addressIndices) index)) := by
  have pushed : pushTransaction call.environment.getCommunityIdIndex chain.lastBlockNr
      (confirmed.entry addressIndices) chain = (.ok true,
        chain.setBlock chain.lastBlockNr
          (withCached chain.lastBlock (confirmed.entry addressIndices) index)) := by
    unfold pushTransaction Fallible.onPart
    change ((chain.lastBlock.pushTransaction _ _).1, chain.setBlock _
      (chain.lastBlock.pushTransaction _ _).2) = _
    unfold Cache.Block.pushTransaction Tasks.WriteTransactionsToBlockTask.addSerializedTransaction
    simp only [reaches.taking, Bool.false_eq_true, ↓reduceIte, added, withCached]
  rw [run_of_reaches reaches, Fallible.andThen_of_ok pushed, if_pos rfl]

/-- A call reaches the block with one entry. -/
theorem AddCall.ReachesBlock.unique {otherConfirmed : ConfirmedTransaction}
    {otherIndices : List UInt32} (reaches : call.ReachesBlock chain confirmed addressIndices)
    (other : call.ReachesBlock chain otherConfirmed otherIndices) :
    otherConfirmed = confirmed ∧ otherIndices = addressIndices := by
  obtain ⟨transaction, messageId, isTransaction, isMessageId, isConfirmed⟩ := reaches.confirmed
  obtain ⟨_, _, isTransaction', isMessageId', isOther⟩ := other.confirmed
  cases isTransaction.symm.trans isTransaction'
  cases isMessageId.symm.trans isMessageId'
  cases isConfirmed.symm.trans isOther
  cases reaches.addressIndices.symm.trans other.addressIndices
  exact ⟨rfl, rfl⟩

/-- Inserting under a number that is taken changes nothing. -/
theorem insert_of_present {task : Tasks.WriteTransactionsToBlockTask}
    {transaction other : NodeTransactionEntry}
    (taken : task.transactions.find? transaction.transactionNr = some other) :
    task.insert transaction = task := by
  have present : task.transactions.find? transaction.transactionNr ≠ none := by
    rw [taken]
    exact Option.some_ne_none _
  have same := OrderedMap.insertNew_of_present transaction present
  cases task
  unfold Tasks.WriteTransactionsToBlockTask.insert
  congr

/-- An inserted transaction is found under its number, unless one was there. -/
theorem find?_insert (task : Tasks.WriteTransactionsToBlockTask)
    (transaction : NodeTransactionEntry) :
    (task.insert transaction).transactions.find? transaction.transactionNr =
      some ((task.transactions.find? transaction.transactionNr).getD transaction) :=
  OrderedMap.find?_alter_self _ _ _

/-- Where the index refuses the transaction, the call is atomic only if all of it was there. -/
theorem atomic_iff_of_refused (reaches : call.ReachesBlock chain confirmed addressIndices)
    {exception : Exception} {index : BlockIndex}
    (refused : BlockIndex.addIndicesForTransactionEntry call.environment.getCommunityIdIndex
      (confirmed.entry addressIndices) chain.lastBlock.blockIndex = (.error exception, index)) :
    Atomic signatureOctet format call chain ↔
      (∃ present, (chain.lastBlock.transactionWriteTask.getD .new).transactions.find?
        confirmed.id = some present) ∧ index = chain.lastBlock.blockIndex := by
  have block := lastBlock_setBlock chain
    (withTransaction chain.lastBlock (confirmed.entry addressIndices) index)
  unfold Atomic
  rw [run_refused reaches refused]
  constructor
  · rintro ⟨openTask, blockIndex, -, -, -, -⟩
    rw [block] at openTask blockIndex
    have holds := find?_insert (chain.lastBlock.transactionWriteTask.getD .new)
      (confirmed.entry addressIndices)
    have isTask := congrArg (fun task => task.getD .new) openTask.symm
    exact ⟨⟨_, (congrArg (fun task => task.transactions.find? confirmed.id) isTask).trans holds⟩,
      blockIndex⟩
  · rintro ⟨⟨present, taken⟩, rfl⟩
    have opened : chain.lastBlock.transactionWriteTask =
        some (chain.lastBlock.transactionWriteTask.getD .new) := by
      cases isTask : chain.lastBlock.transactionWriteTask with
      | none =>
          rw [isTask] at taken
          cases taken
      | some task => rfl
    refine ⟨?_, ?_, ?_, rfl, rfl, rfl⟩
    · rw [block, withTransaction, insert_of_present taken]
      exact opened.symm
    · rw [block, withTransaction]
    · rw [block, withTransaction]

/-- Where the index takes the transaction, the call is atomic exactly if the other stores take
it too, and it is the one that is in the open task. -/
theorem atomic_iff_of_indexed (reaches : call.ReachesBlock chain confirmed addressIndices)
    {index : BlockIndex} {coinCommunityIndex : UInt32}
    (added : BlockIndex.addIndicesForTransactionEntry call.environment.getCommunityIdIndex
      (confirmed.entry addressIndices) chain.lastBlock.blockIndex = (.ok (), index))
    (appended : index.monthList confirmed.year confirmed.month =
      chain.lastBlock.blockIndex.monthList confirmed.year confirmed.month ++
        [BlockIndex.entryOf (BlockIndex.indicesOf (confirmed.entry addressIndices)
          coinCommunityIndex)]) :
    Atomic signatureOctet format call chain ↔
      Storable signatureOctet format call.environment confirmed chain ∧
      ∀ present, (chain.lastBlock.transactionWriteTask.getD .new).transactions.find?
        confirmed.id = some present → present = confirmed.entry addressIndices := by
  have block := lastBlock_setBlock chain
    (withCached chain.lastBlock (confirmed.entry addressIndices) index)
  have kept := @keeps_lastBlock_addPastBlock _ _ _ _ _ signatureOctet format call.environment
    confirmed (chain.setBlock chain.lastBlockNr
      (withCached chain.lastBlock (confirmed.entry addressIndices) index))
  rw [block] at kept
  unfold Atomic
  rw [run_indexed reaches added]
  rcases outcome : addPastBlock signatureOctet format call.environment confirmed
    (chain.setBlock chain.lastBlockNr
      (withCached chain.lastBlock (confirmed.entry addressIndices) index)) with
    ⟨exception | result, next⟩
  · rw [outcome] at kept
    refine iff_of_false (fun same => ?_) (fun accepted => ?_)
    · have unchanged := same.blockIndex
      rw [kept] at unchanged
      change index = chain.lastBlock.blockIndex at unchanged
      rw [unchanged] at appended
      have grown := congrArg List.length appended
      rw [List.length_append, List.length_singleton] at grown
      omega
    · obtain ⟨ids, addedId⟩ := HieroTransactionId.add_ok_iff.mpr accepted.1.messageId
      have storable : Storable signatureOctet format call.environment confirmed
          (chain.setBlock chain.lastBlockNr
            (withCached chain.lastBlock (confirmed.entry addressIndices) index)) :=
        ⟨accepted.1.past, accepted.1.state, accepted.1.transactionId, accepted.1.addressIndex,
          accepted.1.signature, accepted.1.messageId, accepted.1.publicKeys⟩
      have success := addPastBlock_ok_iff.mpr ⟨rfl, storable, ids, addedId, rfl⟩
      cases outcome.symm.trans success
  · rw [outcome] at kept
    obtain ⟨rfl, storable, ids, addedId, rfl⟩ := addPastBlock_ok_iff.mp outcome
    have found := find?_insert (chain.lastBlock.transactionWriteTask.getD .new)
      (confirmed.entry addressIndices)
    constructor
    · rintro ⟨_, _, other, stores⟩
      obtain ⟨isConfirmed, areIndices⟩ := reaches.unique other
      rw [isConfirmed, areIndices] at stores
      refine ⟨⟨storable.past, storable.state, storable.transactionId, storable.addressIndex,
        storable.signature, storable.messageId, storable.publicKeys⟩, fun present taken => ?_⟩
      obtain ⟨task, isTask, holds⟩ := stores.openTask
      rw [kept] at isTask
      cases isTask
      have same := Option.some.inj (found.symm.trans holds)
      have isTaken : (chain.lastBlock.transactionWriteTask.getD .new).transactions.find?
          (confirmed.entry addressIndices).transactionNr = some present := taken
      rw [isTaken] at same
      exact same
    · rintro ⟨-, own⟩
      refine ⟨confirmed, addressIndices, reaches, ?_, ?_, ?_, ?_, ?_, ?_⟩
      · refine ⟨_, congrArg Cache.Block.transactionWriteTask kept, found.trans ?_⟩
        cases taken : (chain.lastBlock.transactionWriteTask.getD .new).transactions.find?
            (confirmed.entry addressIndices).transactionNr with
        | none => rfl
        | some present => exact congrArg some (own present taken)
      · refine ⟨coinCommunityIndex, ?_⟩
        rw [kept]
        change _ ∈ index.monthList confirmed.year confirmed.month
        rw [appended]
        exact List.mem_append_right _ (List.mem_singleton_self _)
      · rw [kept]
        exact OrderedMap.find?_alter_self _ _ _
      · refine (State.value?_set_of_ne { chain.blockchainState with
          stateFile := chain.blockchainState.stateFile.set
            DefaultStateKeys.LAST_TRANSACTION_ID.enum_name.toList
            (LevelDB.to_string confirmed.id.toNat) } (by decide) _).trans ?_
        exact State.value?_set _ _ _
      · exact OrderedMap.find?_alter_self _ _ _
      · exact HieroTransactionId.knows_of_add addedId

/-- A call is atomic exactly if it does not reach the last block, or if no store refuses the
transaction. -/
theorem atomic_iff (call : AddCall Transaction) (chain : Chain Octet TransactionId) :
    Atomic signatureOctet format call chain ↔ Accepted signatureOctet format call chain := by
  by_cases reached : ∃ confirmed addressIndices, call.ReachesBlock chain confirmed addressIndices
  · obtain ⟨confirmed, addressIndices, reaches⟩ := reached
    have only : Accepted signatureOctet format call chain ↔
        (BlockIndex.Indexable call.environment.getCommunityIdIndex
            (confirmed.entry addressIndices) chain.lastBlock.blockIndex ∧
          Storable signatureOctet format call.environment confirmed chain ∧
          ∀ present, (chain.lastBlock.transactionWriteTask.getD .new).transactions.find?
            confirmed.id = some present → present = confirmed.entry addressIndices) ∨
        ((∃ present, (chain.lastBlock.transactionWriteTask.getD .new).transactions.find?
            confirmed.id = some present) ∧
          BlockIndex.RefusedAgain call.environment.getCommunityIdIndex
            (confirmed.entry addressIndices) chain.lastBlock.blockIndex) := by
      refine ⟨fun accepted => accepted confirmed addressIndices reaches, ?_⟩
      intro accepted otherConfirmed otherIndices other
      obtain ⟨rfl, rfl⟩ := reaches.unique other
      exact accepted
    rw [only]
    have unwritten : (confirmed.entry addressIndices).fileCursor < 0 :=
      show (-10 : Int32) < 0 by decide
    rcases BlockIndex.addIndicesForTransactionEntry_unwritten unwritten
        chain.lastBlock.blockIndex with
      ⟨exception, index, refused, notIndexable⟩ |
      ⟨index, coinCommunityIndex, added, appended, indexable⟩
    · rw [atomic_iff_of_refused reaches refused,
        or_iff_right fun accepted => notIndexable accepted.1]
      exact and_congr_right fun _ => BlockIndex.refusedAgain_iff unwritten refused notIndexable
    · rw [atomic_iff_of_indexed reaches added appended]
      constructor
      · exact fun accepted => Or.inl ⟨indexable, accepted⟩
      · rintro (⟨-, accepted⟩ | ⟨-, refused⟩)
        · exact accepted
        · exact absurd indexable refused.1
  · have unreached : ∀ confirmed addressIndices,
        ¬ call.ReachesBlock chain confirmed addressIndices :=
      fun confirmed addressIndices reaches => reached ⟨confirmed, addressIndices, reaches⟩
    obtain ⟨same, notTrue⟩ := @run_unreached _ _ _ _ _ signatureOctet format chain call unreached
    refine iff_of_true ?_ fun confirmed addressIndices reaches =>
      absurd reaches (unreached confirmed addressIndices)
    unfold Atomic
    split
    · rename_i isTrue
      exact absurd isTrue notTrue
    · exact same

/-- In every run all calls are atomic exactly if none of them meets a store that refuses its
transaction. -/
theorem atomic_iff_of_run {events : List (ChainEvent Octet TransactionId Transaction)} :
    (∀ first call rest reached, events = first ++ .add call :: rest →
      runEvents (step signatureOctet format) first chain = some reached →
        Atomic signatureOctet format call reached) ↔
    StepsMeet (step signatureOctet format) (AcceptedEvent signatureOctet format) events chain := by
  rw [stepsMeet_iff]
  constructor
  · intro all first event rest reached isEvents isReached
    cases event with
    | add call => exact (atomic_iff call reached).mp (all first call rest reached isEvents isReached)
    | _ => trivial
  · intro meets first call rest reached isEvents isReached
    exact (atomic_iff call reached).mpr (meets first (.add call) rest reached isEvents isReached)

end

/-- A running blockchain without transactions. -/
def emptyChain : FileBased Nat Nat where
  exitCalled := false
  blockchainState := { initalized := true, stateFile := ∅ }
  blocks := ∅
  transactionHashCache := ⟨∅⟩
  messageIdsCache := {
    initalized := true
    levelDBFile := ∅
    hieroTransactionIdTransactionNrs := ∅ }

/-- The first eight bytes. -/
def firstBytes (signature : List UInt8) : Nat := ofBytesLE (signature.take 8)

def numberFormat : TransactionIdFormat Nat where
  deserialize bytes := .ok (some (ofBytesLE bytes))
  convertToBase64 bytes := bytes.map fun byte => Char.ofNat byte.toNat

/-- A transaction whose signature starts like those of all others. -/
def addNumber (number : UInt8) : AddCall Unit where
  environment := {
    confirm _ messageId := .ok (some {
      id := number.toUInt64
      month := 5
      year := 2025
      transactionType := 1
      coinCommunityId := ""
      serializedTransaction := [number]
      firstSignature := [1, 2, 3, 4, 5, 6, 7, 8, number]
      messageId := messageId })
    getBlock _ := .ok ()
    addressIndices := .ok [1]
    getCommunityIdIndex _ := .ok 1
    runPastAddToBlockchain := .ok ()
    lastAddressIndex := 1
    putTransactionId := true
    putAddressIndex := true
    putMessageId := true
    publicKeysAdded := .ok () }
  gradidoTransaction := some ()
  messageId := some [number]

/-- Two signatures that start with the same eight bytes: the second transaction is refused when
it is in the block already. -/
theorem not_atomic_sameOctet :
    ¬ ∀ first call rest reached,
      [.add (addNumber 1), .add (addNumber 2)] = first ++ .add call :: rest →
      runEvents (step firstBytes numberFormat) first emptyChain = some reached →
        Atomic firstBytes numberFormat call reached := by
  intro all
  have atomic := all [.add (addNumber 1)] (addNumber 2) [] _ rfl rfl
  have same := SameStores.openTask atomic
  have counted := congrArg (Option.map fun task : Tasks.WriteTransactionsToBlockTask =>
    task.entries.length) same
  change some 2 = some 1 at counted
  cases counted

end FileBased

end Blockchain

end GradidoNode

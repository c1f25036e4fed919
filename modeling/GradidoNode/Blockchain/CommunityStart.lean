import GradidoNode.Blockchain.CommunityBlocks
import GradidoNode.Cache.StoredValues

/-!
# Starting a community in a valid folder

The searches with which a community starts succeed: the last transactions are those that were
validated before, and the trigger events are collected anew where they can be stored, or where
there are none.
-/

namespace GradidoNode

open Library Cache Files

namespace Blockchain

variable {Octet TransactionId Duration : Type} [LinearOrder Octet] [LinearOrder TransactionId]
  {library : CommunityLibrary Octet TransactionId Duration} {folder : CommunityFolder Duration}

namespace Community

variable {community next : Community Octet TransactionId Duration} {strings : List (List UInt8)}
  {blocks : List (StoredBlock (StoredTransaction Duration))}

/-! ## The last transactions -/

section Validate

omit [LinearOrder TransactionId]

variable {cache : TransactionHash Octet} {transaction : StoredTransaction Duration}

end Validate

/-- The community whose LevelDB of trigger events is started anew. -/
def withTriggerEventsReset (community : Community Octet TransactionId Duration) :
    Community Octet TransactionId Duration :=
  { community with transactionTriggerEventsCache :=
      { community.transactionTriggerEventsCache with
        wrapper := community.transactionTriggerEventsCache.wrapper.reset } }

/-- The rescan of blocks that were loaded. -/
theorem rescan_eq {loaded : Community Octet TransactionId Duration}
    (searched : searchedBlocks library .ASC community.withTriggerEventsReset = (.ok blocks, loaded)) :
    rescanForTransactionTriggerEvents library community =
      onTriggerEvents (inStore (FileBased.rescanForTransactionTriggerEvents library.time
        library.triggerEvents library.search library.nullDereference (fun _ => true)
        (blocks.map rescannedBlock))) loaded := by
  have begun : onTriggerEvents (fun part => (.ok (), { part with wrapper := part.wrapper.reset }))
      community = (.ok (), community.withTriggerEventsReset) := rfl
  unfold rescanForTransactionTriggerEvents
  rw [Fallible.andThen_of_ok begun, Fallible.andThen_of_ok searched]

/-- Otherwise it throws. -/
theorem AreBlocks.ready_of_rescan (areBlocks : AreBlocks folder blocks)
    (valid : folder.Valid library)
    (months : BlockIndex.MonthsInOrder library.search.monthsInRange)
    {loaded : Community Octet TransactionId Duration}
    (searched : searchedBlocks library .ASC community.withTriggerEventsReset = (.ok blocks, loaded))
    (success : rescanForTransactionTriggerEvents library community = (.ok (), next)) :
    FileBased.Ready loaded.transactionTriggerEventsCache.store
      (folder.chain.map StoredTransaction.transactionEntry) := by
  rw [rescan_eq searched] at success
  obtain ⟨_, onStore, _⟩ := Fallible.onPart_ok_iff.mp success
  obtain ⟨_, rescanned, _⟩ := Fallible.onPart_ok_iff.mp onStore
  have ready := (areBlocks.transfersStored valid).ready_of_rescan months rescanned
  rwa [areBlocks.chainOf_rescanned valid] at ready

/-! ## The stores that are opened last -/

/-- The caches of trigger events and of signatures have not been opened yet. -/
structure FreshEvents (folder : CommunityFolder Duration)
    (community : Community Octet TransactionId Duration) : Prop where
  triggerEvents : community.transactionTriggerEventsCache =
    ⟨.new folder.transactionTriggerEventCache.openable,
      .new folder.transactionTriggerEventCache.entries⟩
  hashes : community.transactionHashCache = ⟨∅⟩

/-- Neither has the one of message ids. -/
structure Fresh (folder : CommunityFolder Duration)
    (community : Community Octet TransactionId Duration) : Prop
    extends FreshEvents folder community where
  messageIds : community.messageIdsCache =
    ⟨.new folder.messageIdCache.openable, ⟨false, folder.messageIdCache.entries, ∅⟩⟩

/-- The state, the dictionary and a block 0 are as before. -/
structure SameChain (community next : Community Octet TransactionId Duration) : Prop where
  state : next.blockchainState = community.blockchainState
  dictionary : next.publicKeysIndex = community.publicKeysIndex
  noBlock : next.blockFiles.find? 0 = community.blockFiles.find? 0

/-- One change after the other. -/
theorem SameChain.trans {last : Community Octet TransactionId Duration}
    (first : SameChain community next) (second : SameChain next last) :
    SameChain community last :=
  ⟨second.state.trans first.state, second.dictionary.trans first.dictionary,
    second.noBlock.trans first.noBlock⟩

/-- The community whose message ids are open. -/
def withMessageIds (folder : CommunityFolder Duration)
    (community : Community Octet TransactionId Duration) : Community Octet TransactionId Duration :=
  { community with
    messageIdsCache := ⟨⟨true, true, true⟩, ⟨true, folder.messageIdCache.entries, ∅⟩⟩ }

/-- Message ids that can be opened are open then. -/
theorem openMessageIds_opened (fresh : Fresh folder community)
    (openable : folder.messageIdCache.openable = true) :
    openMessageIds library community = (.ok (), withMessageIds folder community) := by
  have opened : onMessageIds initMessageIds community =
      (.ok true, withMessageIds folder community) := by
    unfold onMessageIds Fallible.onPart initMessageIds
    rw [fresh.messageIds, openable]
    rfl
  unfold openMessageIds
  rw [Fallible.andThen_of_ok opened]
  rfl

/-- Trigger events that can be opened are read. -/
theorem openTriggerEvents_opened (valid : folder.Valid library)
    (fresh : FreshEvents folder community)
    (openable : folder.transactionTriggerEventCache.openable = true) :
    ∃ part, openTriggerEvents library community =
      (.ok (), { community with transactionTriggerEventsCache := part }) := by
  have read := valid.triggerEvents openable
  have opened : onTriggerEvents (initTriggerEvents library) community = (.ok true, { community with
      transactionTriggerEventsCache := ⟨⟨true, true, true⟩,
        (TransactionTriggerEvent.init library.triggerEvents true
          (.new folder.transactionTriggerEventCache.entries)).2⟩ }) := by
    unfold onTriggerEvents Fallible.onPart initTriggerEvents
    rw [fresh.triggerEvents, openable, LevelDBWrapper.init_new]
    dsimp only
    rw [read]
    rfl
  refine ⟨⟨⟨true, true, true⟩, (TransactionTriggerEvent.init library.triggerEvents true
    (.new folder.transactionTriggerEventCache.entries)).2⟩, ?_⟩
  unfold openTriggerEvents
  rw [Fallible.andThen_of_ok opened]
  rfl

/-- The community whose trigger events could not be opened. -/
def withoutTriggerEvents (folder : CommunityFolder Duration)
    (community : Community Octet TransactionId Duration) : Community Octet TransactionId Duration :=
  { community with transactionTriggerEventsCache :=
      ⟨⟨false, false, false⟩, .new folder.transactionTriggerEventCache.entries⟩ }

/-- Trigger events that cannot be opened are collected anew. -/
theorem openTriggerEvents_closed (fresh : FreshEvents folder community)
    (closed : folder.transactionTriggerEventCache.openable = false) :
    openTriggerEvents library community =
      rescanForTransactionTriggerEvents library (withoutTriggerEvents folder community) := by
  have notOpened : onTriggerEvents (initTriggerEvents library) community =
      (.ok false, withoutTriggerEvents folder community) := by
    unfold onTriggerEvents Fallible.onPart initTriggerEvents
    rw [fresh.triggerEvents, closed, LevelDBWrapper.init_new]
    rfl
  unfold openTriggerEvents
  rw [Fallible.andThen_of_ok notOpened]
  rfl

/-- What `init` does behind the state. -/
def openCaches (library : CommunityLibrary Octet TransactionId Duration) :
    Throwing (Community Octet TransactionId Duration) Bool :=
  (openMessageIds library).andThen fun _ => (openTriggerEvents library).andThen fun _ =>
    (loadLastTransactions library).andThen fun _ => Fallible.outcome (.ok true)

end Community

end Blockchain

end GradidoNode

import GradidoNode.Blockchain.CommunityRecovery

/-!
# What starting a community maintains

A property that the four steps of loading a block maintain is maintained by every search. One that
does not look at the caches is maintained until `init` is done.
-/

namespace GradidoNode

open Library Cache Files

namespace Blockchain

variable {Octet TransactionId Duration : Type} [LinearOrder Octet] [LinearOrder TransactionId]
  {library : CommunityLibrary Octet TransactionId Duration} {folder : CommunityFolder Duration}

namespace Community

variable {community next last : Community Octet TransactionId Duration} {blockNr : UInt32}

/-- The community behind the rebuild task of a block. -/
def withRebuilt (library : CommunityLibrary Octet TransactionId Duration) (blockNr : UInt32)
    (community : Community Octet TransactionId Duration) : Community Octet TransactionId Duration :=
  { community with publicKeysIndex := { community.publicKeysIndex with
      store := (rebuildIndex library blockNr (community.transactionsOf blockNr)
        community.publicKeysIndex.store).2 } }

/-- Where a block has transactions and no index file its index is rebuilt. -/
theorem initBlock_rebuilds (noIndex : community.indexFiles.find? blockNr = none)
    (some : community.transactionsOf blockNr ≠ []) :
    ∃ result : Except Exception BlockIndex, initBlock library blockNr community =
      (result.map Option.some, withRebuilt library blockNr community) := by
  refine ⟨(rebuildIndex library blockNr (community.transactionsOf blockNr)
    community.publicKeysIndex.store).1, ?_⟩
  unfold initBlock
  rw [noIndex]
  dsimp only
  rw [if_neg (fun empty => some (List.isEmpty_iff.mp empty))]
  unfold Fallible.andThen onPublicKeysIndex inStore Fallible.onPart withRebuilt
  dsimp only
  cases (rebuildIndex library blockNr (community.transactionsOf blockNr)
    community.publicKeysIndex.store).1 with
  | error _ => rfl
  | ok _ => rfl

/-- `Block::init` changes the community only by rebuilding an index, and not where it finds no
transactions. -/
theorem initBlock_cases (library : CommunityLibrary Octet TransactionId Duration)
    (blockNr : UInt32) (community : Community Octet TransactionId Duration) :
    (∃ index, initBlock library blockNr community = (.ok (some index), community)) ∨
      initBlock library blockNr community = (.ok none, community) ∧
        community.transactionsOf blockNr = [] ∨
      ∃ result : Except Exception BlockIndex, initBlock library blockNr community =
        (result.map some, withRebuilt library blockNr community) := by
  cases isFile : community.indexFiles.find? blockNr with
  | some index =>
      refine Or.inl ⟨index, ?_⟩
      unfold initBlock
      rw [isFile]
  | none =>
      by_cases empty : community.transactionsOf blockNr = []
      · refine Or.inr (Or.inl ⟨?_, empty⟩)
        unfold initBlock
        rw [isFile, empty]
        rfl
      · exact Or.inr (Or.inr (initBlock_rebuilds isFile empty))

/-- The steps of loading one of these blocks maintain a property. -/
structure LoadingMaintains (library : CommunityLibrary Octet TransactionId Duration)
    (allowed : UInt32 → Prop) (holds : Community Octet TransactionId Duration → Prop) : Prop where
  createBlockFile : ∀ blockNr community, holds community → holds (createBlockFile blockNr community)
  rebuildIndex : ∀ blockNr community, holds community →
    holds (withRebuilt library blockNr community)
  extendChain : ∀ blockNr community, allowed blockNr → community.transactionsOf blockNr = [] →
    holds community → holds (extendChain blockNr community).2
  cacheBlock : ∀ blockNr index community, holds community →
    holds (cacheBlock blockNr index community)

variable {allowed : UInt32 → Prop} {holds : Community Octet TransactionId Duration → Prop}

/-- Once its file is there, loading a block maintains the property. -/
theorem LoadingMaintains.loadBlock (maintains : LoadingMaintains library allowed holds)
    (isAllowed : allowed blockNr) (held : holds (Community.createBlockFile blockNr community)) :
    holds (loadBlock library blockNr community).2 := by
  have created : modify (Community.createBlockFile blockNr) community =
      (.ok (), Community.createBlockFile blockNr community) := rfl
  unfold Community.loadBlock
  rw [Fallible.andThen_of_ok created]
  rcases initBlock_cases library blockNr (Community.createBlockFile blockNr community) with
    ⟨index, initialised⟩ | ⟨initialised, none⟩ | ⟨result, initialised⟩
  · rw [Fallible.andThen_of_ok initialised]
    exact maintains.cacheBlock blockNr index _ held
  · rw [Fallible.andThen_of_ok initialised]
    have extended := maintains.extendChain blockNr _ isAllowed none held
    have cached : Fallible.Maintains holds (modify (Community.cacheBlock blockNr BlockIndex.new)) :=
      fun community => maintains.cacheBlock blockNr BlockIndex.new community
    dsimp only
    rcases taken : Community.extendChain blockNr (Community.createBlockFile blockNr community) with
      ⟨error | _, next⟩
    · rw [Fallible.andThen_of_error taken]
      rw [taken] at extended
      exact extended
    · rw [Fallible.andThen_of_ok taken]
      rw [taken] at extended
      exact cached.andThen (fun _ => Fallible.maintains_outcome holds _) next extended
  · have rebuilt := maintains.rebuildIndex blockNr _ held
    cases result with
    | error error =>
        have failed : initBlock library blockNr (Community.createBlockFile blockNr community) =
          (.error error, _) := initialised
        rw [Fallible.andThen_of_error failed]
        exact rebuilt
    | ok index =>
        have found : initBlock library blockNr (Community.createBlockFile blockNr community) =
          (.ok (some index), _) := initialised
        rw [Fallible.andThen_of_ok found]
        exact maintains.cacheBlock blockNr index _ rebuilt

/-- So does `getBlock`. -/
theorem LoadingMaintains.getBlock (maintains : LoadingMaintains library allowed holds)
    (isAllowed : allowed blockNr) : Fallible.Maintains holds (getBlock library blockNr) := by
  intro community held
  unfold Community.getBlock
  cases community.cachedBlocks.find? blockNr with
  | some index => exact held
  | none => exact maintains.loadBlock isAllowed (maintains.createBlockFile blockNr community held)

/-- So does loading one block after the other. -/
theorem LoadingMaintains.loadBlocks (maintains : LoadingMaintains library allowed holds)
    {blockNrs : List UInt32} (areAllowed : ∀ blockNr ∈ blockNrs, allowed blockNr) :
    Fallible.Maintains holds (loadBlocks library blockNrs) := by
  induction blockNrs with
  | nil => exact Fallible.maintains_outcome holds _
  | cons blockNr rest ih =>
      have loadRest := ih fun other member => areAllowed other (List.mem_cons_of_mem _ member)
      unfold Community.loadBlocks
      refine (maintains.getBlock (areAllowed blockNr (List.mem_cons_self ..))).andThen
        fun index community held => ?_
      split
      · exact held
      · exact loadRest.andThen (fun _ => Fallible.maintains_outcome holds _) community held

/-- So does a search that comes to such blocks only. -/
theorem LoadingMaintains.searchedBlocks (maintains : LoadingMaintains library allowed holds)
    {searchDirection : SearchDirection}
    (areAllowed : ∀ community, holds community →
      ∀ blockNr ∈ blockNrs searchDirection community.lastBlockNrOf, allowed blockNr) :
    Fallible.Maintains holds (searchedBlocks library searchDirection) := by
  intro community held
  exact (maintains.loadBlocks (areAllowed community held)).andThen
    (fun _ => Fallible.maintains_outcome holds _) community held

/-- So does building the state anew, if writing a number does. -/
theorem LoadingMaintains.loadStateFromBlockCache (maintains : LoadingMaintains library allowed holds)
    (all : ∀ blockNr, allowed blockNr)
    (written : ∀ key number, Fallible.Maintains holds (updateState key number)) :
    Fallible.Maintains holds (loadStateFromBlockCache library) := by
  intro community held
  refine (written _ _).andThen (fun _ community held => ?_) community held
  exact ((written _ _).andThen fun _ => (maintains.getBlock (all _)).andThen
    fun _ => written _ _) community held

/-- A property does not look at the caches that are opened last. -/
def CachesApart (holds : Community Octet TransactionId Duration → Prop) : Prop :=
  ∀ community messageIds triggerEvents hashes, holds community → holds { community with
    messageIdsCache := messageIds
    transactionTriggerEventsCache := triggerEvents
    transactionHashCache := hashes }

/-- Opening the caches maintains it. -/
theorem LoadingMaintains.openCaches (maintains : LoadingMaintains library allowed holds)
    (valid : folder.Valid library) (apart : CachesApart holds)
    (descending : ∀ community, holds community →
      ∀ blockNr ∈ blockNrs .DESC community.lastBlockNrOf, allowed blockNr)
    (ascending : folder.transactionTriggerEventCache.openable = false →
      ∀ community, holds community →
        ∀ blockNr ∈ blockNrs .ASC community.lastBlockNrOf, allowed blockNr)
    (fresh : Fresh folder community) (messageIds : folder.messageIdCache.openable = true)
    (held : holds community) : holds (openCaches library community).2 := by
  have onEvents {Value : Type} (operation : Throwing (StoreIn Cache.TransactionTriggerEvent) Value) :
      Fallible.Maintains holds (onTriggerEvents operation) := fun community held =>
    apart community community.messageIdsCache _ community.transactionHashCache held
  have lastLoaded : Fallible.Maintains holds (loadLastTransactions library) :=
    (maintains.searchedBlocks descending).andThen fun blocks =>
      Fallible.Maintains.andThen
        (fun community held => apart community community.messageIdsCache
          community.transactionTriggerEventsCache _ held)
        fun _ => Fallible.maintains_outcome holds _
  have heldIds : holds (withMessageIds folder community) :=
    apart community _ community.transactionTriggerEventsCache community.transactionHashCache held
  have freshEvents : FreshEvents folder (withMessageIds folder community) :=
    ⟨fresh.triggerEvents, fresh.hashes⟩
  have eventsOpened : holds (openTriggerEvents library (withMessageIds folder community)).2 := by
    cases openable : folder.transactionTriggerEventCache.openable with
    | true =>
        obtain ⟨part, opened⟩ := openTriggerEvents_opened valid freshEvents openable
        rw [opened]
        exact apart _ _ part community.transactionHashCache heldIds
    | false =>
        rw [openTriggerEvents_closed freshEvents openable]
        exact ((onEvents _).andThen fun _ => (maintains.searchedBlocks (ascending openable)).andThen
          fun _ => onEvents _) _ (apart _ _ _ community.transactionHashCache heldIds)
  unfold Community.openCaches
  rw [Fallible.andThen_of_ok (openMessageIds_opened fresh messageIds)]
  rcases taken : openTriggerEvents library (withMessageIds folder community) with ⟨error | _, next⟩
  · rw [Fallible.andThen_of_error taken]
    rw [taken] at eventsOpened
    exact eventsOpened
  · rw [Fallible.andThen_of_ok taken]
    rw [taken] at eventsOpened
    exact lastLoaded.andThen (fun _ => Fallible.maintains_outcome holds _) next eventsOpened

/-! ## What is maintained -/

/-- There is a block 0. -/
def HasBlockZero (community : Community Octet TransactionId Duration) : Prop :=
  community.blockFiles.find? 0 ≠ none

/-- A file is created only where there is none. -/
theorem HasBlockZero.createBlockFile (has : HasBlockZero community) (blockNr : UInt32) :
    HasBlockZero (createBlockFile blockNr community) := by
  unfold HasBlockZero Community.createBlockFile OrderedMap.insertNew
  by_cases isZero : 0 = blockNr
  · rw [isZero, OrderedMap.find?_alter_self]
    exact Option.some_ne_none _
  · rw [OrderedMap.find?_alter_of_ne _ isZero]
    exact has

end Community

end Blockchain

end GradidoNode

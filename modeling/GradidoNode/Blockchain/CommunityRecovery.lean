import GradidoNode.Blockchain.CommunityStart

/-!
# When a community recovers

A community starts, and its state is that of its block files and its dictionary, exactly if all
stores but the one of the trigger events can be opened, and nothing has to be stored in that one;
and if the state that is opened was right before. If the block indices are to be built anew, there
must be blocks.
-/

namespace GradidoNode

open Library Cache Files

namespace Blockchain

variable {Octet TransactionId Duration : Type} [LinearOrder Octet] [LinearOrder TransactionId]
  (library : CommunityLibrary Octet TransactionId Duration) (resetBlockIndices : Bool)
  (folder : CommunityFolder Duration)

namespace CommunityFolder

/-- The highest transaction number in the last block file. -/
def lastTransactionNr : UInt64 :=
  (folder.numbersOf (UInt32.ofNat folder.blockFiles.size)).foldl max 0

end CommunityFolder

namespace Community

variable {library resetBlockIndices folder}
  {community next last : Community Octet TransactionId Duration} {strings : List (List UInt8)}

/-! ## Opening the dictionary and the state -/

/-- `init` opens the dictionary, the state and then the caches. -/
theorem init_eq : init library resetBlockIndices =
    (openPublicKeysIndex library resetBlockIndices).andThen fun resetBlockIndices =>
      (modify fun community : Community Octet TransactionId Duration =>
        if resetBlockIndices then community.removeAllBlockIndexFiles else community).andThen fun _ =>
          (openState library resetBlockIndices).andThen fun _ => openCaches library := rfl

/-- The community whose dictionary could be opened. -/
def withDictionary (library : CommunityLibrary Octet TransactionId Duration)
    (folder : CommunityFolder Duration) : Community Octet TransactionId Duration :=
  { new folder with publicKeysIndex := ⟨⟨true, true, true⟩, folder.openedDictionary library⟩ }

/-- A dictionary that can be opened is read. -/
theorem openPublicKeysIndex_opened (openable : folder.pubkeysCache.openable = true) :
    openPublicKeysIndex library resetBlockIndices (new folder) =
      (.ok resetBlockIndices, withDictionary library folder) := by
  have opened : onPublicKeysIndex (initDictionary library) (new folder) =
      (.ok true, withDictionary library folder) := by
    unfold onPublicKeysIndex Fallible.onPart initDictionary new
    dsimp only
    rw [openable]
    rfl
  unfold openPublicKeysIndex
  rw [Fallible.andThen_of_ok opened]
  rfl

/-- The community whose dictionary is started anew. -/
def withNewDictionary (folder : CommunityFolder Duration) :
    Community Octet TransactionId Duration :=
  { new folder with publicKeysIndex :=
      ⟨⟨true, true, true⟩, Dictionary.new (folder.path ++ "/pubkeysCache") ∅⟩ }

/-- One that cannot be opened is started anew, and the indices of the blocks with it. -/
theorem openPublicKeysIndex_closed (closed : folder.pubkeysCache.openable = false) :
    openPublicKeysIndex library resetBlockIndices (new folder) =
      (.ok true, withNewDictionary folder) := by
  have notOpened : onPublicKeysIndex (initDictionary library)
      (new folder : Community Octet TransactionId Duration) =
      (.ok false, { new folder with publicKeysIndex := ⟨⟨false, false, false⟩,
        Dictionary.new (folder.path ++ "/pubkeysCache") folder.pubkeysCache.entries⟩ }) := by
    unfold onPublicKeysIndex Fallible.onPart initDictionary new
    dsimp only
    rw [closed]
    rfl
  unfold openPublicKeysIndex
  rw [Fallible.andThen_of_ok notOpened]
  rfl

/-- The community with a state. -/
def withState (state : State) (community : Community Octet TransactionId Duration) :
    Community Octet TransactionId Duration :=
  { community with blockchainState := ⟨⟨true, true, true⟩, state⟩ }

/-- The block indices are built anew if that is asked for, or the dictionary is started anew. -/
def indicesReset (resetBlockIndices : Bool) (folder : CommunityFolder Duration) : Bool :=
  resetBlockIndices || !folder.pubkeysCache.openable

/-- The dictionary with which the state is opened. -/
def preparedDictionary (library : CommunityLibrary Octet TransactionId Duration)
    (folder : CommunityFolder Duration) : Dictionary Octet :=
  if folder.pubkeysCache.openable then folder.openedDictionary library
  else Dictionary.new (folder.path ++ "/pubkeysCache") ∅

/-- The community of which the state is opened. -/
def prepared (library : CommunityLibrary Octet TransactionId Duration) (resetBlockIndices : Bool)
    (folder : CommunityFolder Duration) : Community Octet TransactionId Duration :=
  { new folder with
    publicKeysIndex := ⟨⟨true, true, true⟩, preparedDictionary library folder⟩
    indexFiles := if indicesReset resetBlockIndices folder then ∅ else folder.indexFiles }

/-- `init` opens the dictionary, then the state, and then the caches. -/
theorem init_new : init library resetBlockIndices (new folder) =
    ((openState library (indicesReset resetBlockIndices folder)).andThen fun _ =>
      openCaches library) (prepared library resetBlockIndices folder) := by
  rw [init_eq]
  unfold prepared indicesReset preparedDictionary
  cases openable : folder.pubkeysCache.openable with
  | true =>
      rw [Fallible.andThen_of_ok (openPublicKeysIndex_opened openable)]
      cases resetBlockIndices with
      | true => rfl
      | false => rfl
  | false =>
      rw [Fallible.andThen_of_ok (openPublicKeysIndex_closed openable)]
      cases resetBlockIndices with
      | true => rfl
      | false => rfl

/-- The community with another state in its LevelDB. -/
def withStore (state : State) (community : Community Octet TransactionId Duration) :
    Community Octet TransactionId Duration :=
  { community with blockchainState := ⟨community.blockchainState.wrapper, state⟩ }

/-- An open state is updated. -/
theorem updateState_ok (initalized : community.blockchainState.store.initalized = true)
    (key : DefaultStateKeys) (number : Nat) :
    updateState key number community =
      (.ok (), community.withStore (community.blockchainState.store.withNumber key number)) := by
  unfold updateState onState inStore Fallible.onPart
  dsimp only
  rw [Cache.State.updateState_ok_iff.mpr ⟨initalized, rfl, rfl⟩]
  rfl

omit [LinearOrder TransactionId] in
/-- No block file has the number 0. -/
theorem noBlock (valid : folder.Valid library) : folder.blockFiles.find? 0 = none := by
  cases found : folder.blockFiles.find? 0 with
  | none => rfl
  | some transactions =>
      have some : folder.transactionsOf 0 ≠ [] := by
        unfold CommunityFolder.transactionsOf
        rw [found, Option.getD_some]
        exact valid.nonempty transactions
          (List.mem_map_of_mem (OrderedMap.mem_toList_iff.mpr found))
      have inRange := valid.transactionsOf_ne_nil_iff.mp some
      exact absurd inRange.1 (by decide)

end Community

end Blockchain

end GradidoNode

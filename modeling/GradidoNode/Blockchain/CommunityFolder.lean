import GradidoNode.Blockchain.Community
import GradidoNode.Cache.DictionaryBijection
import GradidoNode.Cache.RebuiltIndex

/-!
# The folder of a community

A valid folder has block files with the numbers from 1 on, which store a chain of transactions,
and index files that fit them. Its dictionary of public keys, where it can be opened, numbers all
addresses of the chain.
-/

namespace GradidoNode

open Library Cache Files

namespace Blockchain

variable {Octet TransactionId Duration : Type} [LinearOrder Octet]

namespace CommunityFolder

/-- The transactions in a block file; none where there is no such file. -/
def transactionsOf (folder : CommunityFolder Duration) (blockNr : UInt32) :
    List (StoredTransaction Duration) := (folder.blockFiles.find? blockNr).getD []

/-- The numbers of the transactions in a block file. -/
def numbersOf (folder : CommunityFolder Duration) (blockNr : UInt32) : List UInt64 :=
  (folder.transactionsOf blockNr).map fun transaction => transaction.id

/-- The transactions of all block files, in the order of the files. -/
def chain (folder : CommunityFolder Duration) : List (StoredTransaction Duration) :=
  folder.blockFiles.values.flatten

/-- The addresses of the chain. -/
def addresses (folder : CommunityFolder Duration) : List (List UInt8) :=
  folder.chain.flatMap StoredTransaction.involvedAddresses

/-- The dictionary of public keys that `init` reads where it can be opened. -/
def openedDictionary (library : CommunityLibrary Octet TransactionId Duration)
    (folder : CommunityFolder Duration) : Dictionary Octet :=
  (Dictionary.new (folder.path ++ "/pubkeysCache") folder.pubkeysCache.entries).init
    library.signatureOctet

/-- The block files have the numbers from 1 on and store a chain, without gaps in its numbers, of
transactions that the node has accepted one after the other. The index files, the numbered
addresses and the trigger events are those of the chain, where they are there and can be opened. -/
structure Valid (library : CommunityLibrary Octet TransactionId Duration)
    (folder : CommunityFolder Duration) : Prop where
  few : folder.blockFiles.size < 2 ^ 31
  numbered : folder.blockFiles.keys = (List.range' 1 folder.blockFiles.size).map UInt32.ofNat
  nonempty : ∀ transactions ∈ folder.blockFiles.values, transactions ≠ []
  transfers : FileBased.TransferChain (folder.chain.map StoredTransaction.transactionEntry)
  positive : ∀ transaction ∈ folder.chain, transaction.id ≠ 0
  gapless : ∀ transaction ∈ folder.chain, 1 ≤ transaction.id - 1 →
    ∃ previous ∈ folder.chain, previous.id = transaction.id - 1
  dates : folder.chain.Pairwise fun first second =>
    toLex (first.year, first.month) ≤ toLex (second.year, second.month)
  calendar : ∀ transaction ∈ folder.chain, 1 ≤ transaction.month ∧ transaction.month ≤ 12
  communities : ∀ transaction ∈ folder.chain, transaction.coinCommunityId.isEmpty = true ∨
    ∃ index, library.getCommunityIdIndex transaction.coinCommunityId = .ok index
  fileCursors : ∀ transactions ∈ folder.blockFiles.values,
    (∀ transaction ∈ transactions, ¬ transaction.fileCursor < 0) ∧
      transactions.Pairwise fun _ second => second.fileCursor ≠ 0
  involves : ∀ transaction ∈ folder.chain, transaction.involvedAddresses ≠ [] ∧
    transaction.involvedAddresses.length ≤ 256
  addressed : ∀ address ∈ folder.addresses, address ≠ []
  fewAddresses : folder.addresses.length < 2 ^ 32
  addressesApart : ∀ first ∈ folder.addresses, ∀ second ∈ folder.addresses,
    library.signatureOctet first = library.signatureOctet second → first = second
  signaturesApart : folder.chain.Pairwise fun first second =>
    library.signatureOctet first.firstSignature ≠ library.signatureOctet second.firstSignature
  validated : ∀ transaction ∈ folder.chain, library.validate
    (folder.chain.find? fun previous => previous.id = transaction.id - 1) transaction = .ok ()
  indexFiles : ∀ blockNr index, folder.indexFiles.find? blockNr = some index →
    folder.transactionsOf blockNr ≠ [] ∧ index.IndexesNumbers (folder.numbersOf blockNr)
  complete : folder.pubkeysCache.openable = true → ∃ strings,
    (folder.openedDictionary library).Holds library.signatureOctet strings ∧
      folder.addresses ⊆ strings
  triggerEvents : folder.transactionTriggerEventCache.openable = true →
    (TransactionTriggerEvent.init library.triggerEvents true
      (.new folder.transactionTriggerEventCache.entries)).1 = .ok true

variable {library : CommunityLibrary Octet TransactionId Duration}
  {folder : CommunityFolder Duration}

/-- The chain, block by block. -/
theorem Valid.chain_eq (valid : folder.Valid library) :
    folder.chain = (List.range' 1 folder.blockFiles.size).flatMap fun blockNr =>
      folder.transactionsOf (UInt32.ofNat blockNr) := by
  unfold chain
  rw [OrderedMap.values_eq_map_keys folder.blockFiles [], valid.numbered, List.map_map,
    ← List.flatMap_def]
  rfl

/-- A block has transactions exactly if it is one of those counted from 1. -/
theorem Valid.transactionsOf_ne_nil_iff (valid : folder.Valid library) {blockNr : UInt32} :
    folder.transactionsOf blockNr ≠ [] ↔
      1 ≤ blockNr.toNat ∧ blockNr.toNat ≤ folder.blockFiles.size := by
  have few := valid.few
  have isKey : blockNr ∈ folder.blockFiles.keys ↔
      1 ≤ blockNr.toNat ∧ blockNr.toNat ≤ folder.blockFiles.size := by
    rw [valid.numbered, List.mem_map]
    constructor
    · rintro ⟨number, inRange, rfl⟩
      rw [List.mem_range'_1] at inRange
      rw [UInt32.toNat_ofNat', Nat.mod_eq_of_lt (by omega)]
      omega
    · intro inRange
      exact ⟨blockNr.toNat, List.mem_range'_1.mpr (by omega), UInt32.ofNat_toNat⟩
  rw [← isKey]
  unfold transactionsOf OrderedMap.keys
  constructor
  · intro some
    cases found : folder.blockFiles.find? blockNr with
    | none => exact absurd (by rw [found]; rfl) some
    | some transactions =>
        exact List.mem_map.mpr ⟨_, OrderedMap.mem_toList_iff.mpr found, rfl⟩
  · intro member
    obtain ⟨⟨_, transactions⟩, isEntry, rfl⟩ := List.mem_map.mp member
    rw [OrderedMap.mem_toList_iff.mp isEntry, Option.getD_some]
    exact valid.nonempty transactions (List.mem_map_of_mem isEntry)

/-- A block file that is there is one of the values. -/
theorem transactionsOf_cases (blockNr : UInt32) :
    folder.transactionsOf blockNr = [] ∨
      folder.transactionsOf blockNr ∈ folder.blockFiles.values := by
  unfold transactionsOf
  cases found : folder.blockFiles.find? blockNr with
  | none => exact Or.inl rfl
  | some transactions =>
      exact Or.inr (List.mem_map_of_mem (OrderedMap.mem_toList_iff.mpr found))

/-- The transactions of a block are a part of the chain. -/
theorem transactionsOf_sublist (blockNr : UInt32) :
    (folder.transactionsOf blockNr).Sublist folder.chain := by
  rcases folder.transactionsOf_cases blockNr with none | member
  · rw [none]
    exact List.nil_sublist _
  · exact List.sublist_flatten_of_mem member

/-- The numbers of the chain ascend. -/
theorem Valid.ascending (valid : folder.Valid library) :
    folder.chain.Pairwise fun first second => first.id < second.id := by
  have ascending := List.pairwise_map.mp valid.transfers.ascending
  exact ascending

end CommunityFolder

namespace Community

variable {library : CommunityLibrary Octet TransactionId Duration}
  {folder : CommunityFolder Duration} {dictionary : Dictionary Octet}

/-! ## Rebuilding an index -/

section Known

variable {strings : List (List UInt8)}

end Known

/-! ## Numbering addresses while an index is rebuilt -/

section Numbering

variable {least : Nat}

end Numbering

end Community

end Blockchain

end GradidoNode

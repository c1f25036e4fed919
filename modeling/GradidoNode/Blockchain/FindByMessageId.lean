import GradidoNode.Blockchain.GetTransactionForId
import GradidoNode.Cache.HieroTransactionId

/-!
# Transactions by message id

The look-up asks the cache whether it has the message id, and takes the answer for a number.
-/

namespace GradidoNode

open Library Cache

namespace Blockchain

namespace FileBased

variable {TransactionId Entry : Type} [LinearOrder TransactionId]

section Definitions

variable (format : TransactionIdFormat TransactionId) (blocks : List (StoredBlock Entry))
  (findInChain : List UInt8 → Except Exception (Option Entry))

/-- `findByMessageId`; `findInChain` is `Abstract::findByMessageId` of the blockchain library. -/
def findByMessageId (messageId : List UInt8) :
    Throwing (HieroTransactionId TransactionId) (Option Entry) :=
  (HieroTransactionId.has format messageId).andThen fun transactionNr =>
    if transactionNr then
      -- the bool becomes the number 1
      Fallible.outcome (getTransactionForId transactionNr.toUInt64 blocks)
    else Fallible.outcome (findInChain messageId)

variable (transactionOf : UInt64 → Entry) (messageIdOf : Entry → List UInt8)

/-- The confirmed transactions. -/
def transactions : List Entry := (numbersOf blocks).map transactionOf

/-- The right answer: a transaction with the message id, or none where there is none. -/
def IsAnswer (messageId : List UInt8) : Option Entry → Prop
  | some entry => entry ∈ transactions blocks transactionOf ∧ messageIdOf entry = messageId
  | none => ∀ entry ∈ transactions blocks transactionOf, messageIdOf entry ≠ messageId

/-- The scan of the library answers rightly. -/
def ScansRightly : Prop :=
  ∀ messageId, ∃ result, findInChain messageId = .ok result ∧
    IsAnswer blocks transactionOf messageIdOf messageId result

/-- The transaction with number 1. -/
def firstTransaction : Option Entry :=
  ((numbersOf blocks).find? fun number => number = 1).map transactionOf

/-- The message id is neither in the cache nor in LevelDB, or it is the one of transaction 1. -/
def FoundRightly (ids : HieroTransactionId TransactionId) (messageId : List UInt8) : Prop :=
  ids.Unknown format messageId ∨
    ids.Known format messageId ∧
      IsAnswer blocks transactionOf messageIdOf messageId (firstTransaction blocks transactionOf)

end Definitions

variable {format : TransactionIdFormat TransactionId} {blocks : List (StoredBlock Entry)}
  {findInChain : List UInt8 → Except Exception (Option Entry)} {transactionOf : UInt64 → Entry}
  {messageIdOf : Entry → List UInt8} {ids : HieroTransactionId TransactionId}
  {messageId : List UInt8}

theorem getTransactionForId_one (stored : ChainStored blocks transactionOf)
    (filled : RangesFilled blocks) :
    getTransactionForId 1 blocks = .ok (firstTransaction blocks transactionOf) := by
  unfold firstTransaction
  cases found : (numbersOf blocks).find? fun number => number = 1 with
  | some number =>
      have isOne : number = 1 := by simpa using List.find?_some found
      rw [isOne] at found
      rw [Option.map_some, isOne]
      exact getTransactionForId_of_mem stored filled (List.mem_of_find?_eq_some found)
  | none =>
      exact getTransactionForId_one_of_not_mem stored filled fun member =>
        List.find?_eq_none.mp found 1 member (decide_eq_true rfl)

/-- A known message id is answered with transaction 1, whichever id that has. -/
theorem findByMessageId_of_known (stored : ChainStored blocks transactionOf)
    (filled : RangesFilled blocks) (known : ids.Known format messageId) :
    (findByMessageId format blocks findInChain messageId ids).1 =
      .ok (firstTransaction blocks transactionOf) := by
  have taken : HieroTransactionId.has format messageId ids =
      (.ok true, (HieroTransactionId.has format messageId ids).2) :=
    Prod.ext (HieroTransactionId.has_true_iff.mpr known) rfl
  unfold findByMessageId
  rw [Fallible.andThen_of_ok taken, if_pos rfl]
  exact getTransactionForId_one stored filled

theorem findByMessageId_of_unknown (unknown : ids.Unknown format messageId) :
    (findByMessageId format blocks findInChain messageId ids).1 = findInChain messageId := by
  have taken : HieroTransactionId.has format messageId ids =
      (.ok false, (HieroTransactionId.has format messageId ids).2) :=
    Prod.ext (HieroTransactionId.has_false_iff.mpr unknown) rfl
  unfold findByMessageId
  rw [Fallible.andThen_of_ok taken, if_neg Bool.false_ne_true]
  rfl

/-- An answer is only given for an id that is known or unknown. -/
theorem known_or_unknown_of_ok {result : Option Entry}
    (success : (findByMessageId format blocks findInChain messageId ids).1 = .ok result) :
    ids.Known format messageId ∨ ids.Unknown format messageId := by
  rcases taken : HieroTransactionId.has format messageId ids with ⟨exception | has, next⟩
  · unfold findByMessageId at success
    rw [Fallible.andThen_of_error taken] at success
    cases success
  · have outcome : (HieroTransactionId.has format messageId ids).1 = .ok has := by rw [taken]
    cases has with
    | true => exact .inl (HieroTransactionId.has_true_iff.mp outcome)
    | false => exact .inr (HieroTransactionId.has_false_iff.mp outcome)

/-- Whatever is found is confirmed. -/
theorem mem_transactions_of_found (stored : ChainStored blocks transactionOf)
    (filled : RangesFilled blocks)
    (scans : ScansRightly blocks findInChain transactionOf messageIdOf) {entry : Entry}
    (found : (findByMessageId format blocks findInChain messageId ids).1 = .ok (some entry)) :
    entry ∈ transactions blocks transactionOf := by
  rcases known_or_unknown_of_ok found with known | unknown
  · rw [findByMessageId_of_known stored filled known] at found
    obtain ⟨number, first, rfl⟩ := Option.map_eq_some_iff.mp (Except.ok.inj found)
    exact List.mem_map_of_mem (List.mem_of_find?_eq_some first)
  · rw [findByMessageId_of_unknown unknown] at found
    obtain ⟨result, scanned, right⟩ := scans messageId
    cases scanned.symm.trans found
    exact right.1

/-- Where the answer is right, and the right one is given. -/
theorem findByMessageId_right_iff (stored : ChainStored blocks transactionOf)
    (filled : RangesFilled blocks)
    (scans : ScansRightly blocks findInChain transactionOf messageIdOf) :
    (∃ result, (findByMessageId format blocks findInChain messageId ids).1 = .ok result ∧
      IsAnswer blocks transactionOf messageIdOf messageId result) ↔
    FoundRightly format blocks transactionOf messageIdOf ids messageId := by
  constructor
  · rintro ⟨result, success, right⟩
    rcases known_or_unknown_of_ok success with known | unknown
    · rw [findByMessageId_of_known stored filled known] at success
      cases success
      exact .inr ⟨known, right⟩
    · exact .inl unknown
  · rintro (unknown | ⟨known, right⟩)
    · rw [findByMessageId_of_unknown unknown]
      exact scans messageId
    · exact ⟨_, findByMessageId_of_known stored filled known, right⟩

end FileBased

end Blockchain

end GradidoNode

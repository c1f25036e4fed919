import GradidoNode.Exceptions
import Mathlib.Data.List.Basic

/-!
# Entries of a wallet

An entry is made of a confirmed transaction, or stands for the decay since the last one. It is
copied field by field.
-/

namespace GradidoNode

namespace Apollo

/-- An amount, counted in its smallest part. -/
abbrev GradidoUnit := Int

/-- A point in time, counted from the epoch. -/
abbrev Timepoint := Int

inductive MemoKeyType
  | SHARED_SECRET
  | COMMUNITY_SECRET
  | PLAIN
  deriving DecidableEq

structure Memo where
  keyType : MemoKeyType
  memo : String
  deriving DecidableEq

structure AccountBalance where
  publicKey : List UInt8
  balance : GradidoUnit
  communityId : String
  deriving DecidableEq

structure TransferAmount where
  publicKey : List UInt8
  amount : GradidoUnit
  communityId : String
  deriving DecidableEq

/-- The kinds of transaction, with what a wallet reads of them. -/
inductive TransactionBody
  | creation (recipient : TransferAmount)
  | transfer (sender : TransferAmount) (recipient : List UInt8)
  | deferredTransfer (sender : TransferAmount) (recipient : List UInt8)
  | redeemDeferredTransfer (deferredTransferTransactionNr : UInt64) (sender : TransferAmount)
      (recipient : List UInt8)
  | timeoutDeferredTransfer (deferredTransferTransactionNr : UInt64)
  | communityRoot
  | registerAddress
  | other (enumName : String)
  deriving DecidableEq

/-- What a wallet reads of a confirmed transaction. -/
structure WalletTransaction where
  id : UInt64
  confirmedAt : Timepoint
  accountBalances : List AccountBalance
  memos : List Memo
  /-- The public keys of the signature pairs. -/
  signers : List (List UInt8)
  body : TransactionBody
  deriving DecidableEq

/-- The transaction that a deferred transfer was confirmed with. -/
structure DeferredTransferEntry where
  transferAmount : TransferAmount
  confirmedAt : Timepoint

/-- What entries need of the blockchain and of the blockchain library. -/
structure WalletLibrary where
  convertToHex : List UInt8 → String
  calculateDecay : GradidoUnit → Timepoint → Timepoint → GradidoUnit
  /-- The balance of `getAccountBalance`. -/
  getAccountBalance : List AccountBalance → List UInt8 → String → GradidoUnit
  /-- A deferred transfer, if the number leads to a transaction. -/
  getTransactionForId : UInt64 → Except Exception (Option DeferredTransferEntry)

inductive TransactionType
  | NONE
  | CREATE
  | SEND
  | RECEIVE
  | DECAY
  | LINK_SEND
  | LINK_RECEIVE
  | LINK_CHARGE
  | LINK_DELETE
  | LINK_CHANGE
  | LINK_TIMEOUT
  deriving DecidableEq

structure Decay where
  decayStart : Timepoint
  decayEnd : Timepoint
  decayAmount : GradidoUnit
  deriving DecidableEq

structure Transaction where
  type : TransactionType
  amount : GradidoUnit
  balance : GradidoUnit
  previousBalance : GradidoUnit
  pubkey : String
  firstName : String
  lastName : String
  memo : String
  id : Int64
  date : Timepoint
  decay : Option Decay
  hasChange : Bool
  changeAmount : GradidoUnit
  changePubkey : String
  deriving DecidableEq

namespace Decay

def new (library : WalletLibrary) (decayStart decayEnd : Timepoint) (startBalance : GradidoUnit) :
    Decay where
  decayStart := decayStart
  decayEnd := decayEnd
  decayAmount := library.calculateDecay startBalance decayStart decayEnd - startBalance

/-- The constructor from a pointer. -/
def copy (parent : Decay) : Decay where
  decayStart := parent.decayStart
  decayEnd := parent.decayEnd
  decayAmount := parent.decayAmount

end Decay

namespace Transaction

/-- The members before the body of the first constructor. -/
def initial : Transaction where
  type := .NONE
  amount := 0
  balance := 0
  previousBalance := 0
  pubkey := ""
  firstName := ""
  lastName := ""
  memo := ""
  id := 0
  date := 0
  decay := none
  hasChange := false
  changeAmount := 0
  changePubkey := ""

/-- The constructor from a confirmed transaction. It returns at the first plain memo. -/
def new (library : WalletLibrary) (confirmedTransaction : WalletTransaction)
    (pubkey : List UInt8) : Transaction :=
  match confirmedTransaction.memos.find? fun memo => memo.keyType = .PLAIN with
  | some memo => { initial with memo := memo.memo }
  | none => { initial with
      memo := if confirmedTransaction.memos ≠ [] then "memo is encrypted" else ""
      id := confirmedTransaction.id.toInt64
      date := confirmedTransaction.confirmedAt
      balance := library.getAccountBalance confirmedTransaction.accountBalances pubkey "" }

/-- The constructor of the last decay, which leaves `mHasChange` as the memory has it. -/
def ofDecay (library : WalletLibrary) (decayStart decayEnd : Timepoint)
    (startBalance : GradidoUnit) (uninitialised : Bool) : Transaction :=
  let decay := Decay.new library decayStart decayEnd startBalance
  { initial with
    type := .DECAY
    id := -1
    date := decayEnd
    decay := some decay
    amount := decay.decayAmount
    balance := startBalance + decay.decayAmount
    previousBalance := startBalance
    hasChange := uninitialised }

/-- The move constructor. -/
def move (parent : Transaction) : Transaction where
  type := parent.type
  amount := parent.amount
  balance := parent.balance
  previousBalance := parent.previousBalance
  pubkey := parent.pubkey
  firstName := parent.firstName
  lastName := parent.lastName
  memo := parent.memo
  id := parent.id
  date := parent.date
  decay := parent.decay
  hasChange := parent.hasChange
  changeAmount := parent.changeAmount
  changePubkey := parent.changePubkey

/-- The copy constructor. -/
def copy (parent : Transaction) : Transaction where
  type := parent.type
  amount := parent.amount
  balance := parent.balance
  previousBalance := parent.previousBalance
  pubkey := parent.pubkey
  firstName := parent.firstName
  lastName := parent.lastName
  memo := parent.memo
  id := parent.id
  date := parent.date
  decay := parent.decay.map Decay.copy
  hasChange := parent.hasChange
  changeAmount := parent.changeAmount
  changePubkey := parent.changePubkey

/-- `operator=`, which copies the decay with its implicit copy constructor. -/
def assign (other : Transaction) : Transaction where
  type := other.type
  amount := other.amount
  balance := other.balance
  previousBalance := other.previousBalance
  pubkey := other.pubkey
  firstName := other.firstName
  lastName := other.lastName
  memo := other.memo
  id := other.id
  date := other.date
  decay := other.decay
  hasChange := other.hasChange
  changeAmount := other.changeAmount
  changePubkey := other.changePubkey

def calculateDecay (library : WalletLibrary) (decayStart decayEnd : Timepoint)
    (startBalance : GradidoUnit) (transaction : Transaction) : Transaction :=
  { transaction with decay := some (Decay.new library decayStart decayEnd startBalance) }

def setPreviousBalance (previousBalance : GradidoUnit) (transaction : Transaction) : Transaction :=
  { transaction with previousBalance := previousBalance }

def setChange (library : WalletLibrary) (changeAmount : GradidoUnit) (changePubkey : List UInt8)
    (transaction : Transaction) : Transaction :=
  { transaction with
    hasChange := true
    changeAmount := changeAmount
    changePubkey := library.convertToHex changePubkey }

def setType (type : TransactionType) (transaction : Transaction) : Transaction :=
  { transaction with type := type }

def setAmount (amount : GradidoUnit) (transaction : Transaction) : Transaction :=
  { transaction with amount := amount }

def setPubkey (library : WalletLibrary) (publicKey : List UInt8) (transaction : Transaction) :
    Transaction :=
  { transaction with pubkey := library.convertToHex publicKey }

def setFirstName (firstName : String) (transaction : Transaction) : Transaction :=
  { transaction with firstName := firstName }

/-- It sets `mFirstName`. -/
def setLastName (lastName : String) (transaction : Transaction) : Transaction :=
  { transaction with firstName := lastName }

@[simp] theorem move_eq (parent : Transaction) : parent.move = parent := rfl

@[simp] theorem copy_eq (parent : Transaction) : parent.copy = parent := by
  unfold copy
  cases decay : parent.decay with
  | none => rw [Option.map_none, ← decay]
  | some decayed =>
      have same : (some decayed).map Decay.copy = parent.decay := decay.symm
      rw [same]

end Transaction

end Apollo

end GradidoNode

import GradidoNode.Apollo.Transaction
import GradidoNode.Blockchain.Filter

/-!
# Making the entries of a wallet

A role for each kind of transaction makes the entry, and the list of entries is filled with the
previous balances and the decays between them.
-/

namespace GradidoNode

open Blockchain

namespace Apollo

/-- What comes instead of a result. -/
inductive Failure
  | thrown (exception : Exception)
  /-- A null pointer is dereferenced, or the front of an empty list is taken. -/
  | undefined

namespace CreateTransaction

variable (library : WalletLibrary)

section Roles

variable (confirmedTransaction : WalletTransaction) (pubkey : List UInt8)

/-- `CreationTransactionRole::createTransaction`. -/
def creation (recipient : TransferAmount) : Except Failure Transaction :=
  match confirmedTransaction.signers with
  | [] => .error .undefined
  | signer :: _ => .ok <| ((((((Transaction.new library confirmedTransaction pubkey).setType
      .CREATE).setAmount recipient.amount).setFirstName "Gradido").setLastName
      "Akademie").setPubkey library signer)

/-- `TransferTransactionRole::createTransaction` and
`DeferredTransferTransactionRole::createTransaction`, which differ in the types and in the text
of the exception. -/
def transferRole (received sent : TransactionType) (what : String) (sender : TransferAmount)
    (recipient : List UInt8) : Except Failure Transaction :=
  let result := Transaction.new library confirmedTransaction pubkey
  if recipient = pubkey then
    .ok <| ((result.setType received).setPubkey library sender.publicKey).setAmount sender.amount
  else if sender.publicKey = pubkey then
    .ok <| ((result.setType sent).setPubkey library recipient).setAmount (-sender.amount)
  else .error (.thrown (.gradidoNodeInvalidData what))

def transfer (sender : TransferAmount) (recipient : List UInt8) : Except Failure Transaction :=
  transferRole library confirmedTransaction pubkey .RECEIVE .SEND
    "unhandled case in model::Apollo::createTransaction::TransferTransactionRole if pubkey is neither sender or recipient"
    sender recipient

def deferredTransfer (sender : TransferAmount) (recipient : List UInt8) :
    Except Failure Transaction :=
  transferRole library confirmedTransaction pubkey .LINK_CHARGE .LINK_SEND
    "unhandled case in model::Apollo::createTransaction::DeferredTransferTransactionRole if pubkey is neither sender or recipient"
    sender recipient

def calculateDecayedDeferredTransferAmount (transactionNr : UInt64) (targetDate : Timepoint) :
    Except Failure AccountBalance :=
  if transactionNr = 0 then
    .error (.thrown (.gradidoNullPointer "transactionNr is zero" "transactionNr"
      "calculateDecayedDeferredTransferAmount"))
  else
    match library.getTransactionForId transactionNr with
    | .error exception => .error (.thrown exception)
    | .ok none => .error .undefined
    | .ok (some entry) => .ok {
        publicKey := entry.transferAmount.publicKey
        balance := library.calculateDecay entry.transferAmount.amount entry.confirmedAt targetDate
        communityId := entry.transferAmount.communityId }

def calculateChange (deferredTransferTransactionNr : UInt64) (targetDate : Timepoint)
    (transferAmount : TransferAmount) : Except Failure AccountBalance := do
  let decayed ←
    calculateDecayedDeferredTransferAmount library deferredTransferTransactionNr targetDate
  return { decayed with balance := decayed.balance - transferAmount.amount }

/-- The part of `RedeemDeferredTransferTransactionRole::createTransaction` that looks whose entry
it is: the entry, and its amount. -/
def redeemedFor (deferredTransferTransactionNr : UInt64) (sender : TransferAmount)
    (recipient : List UInt8) : Except Failure (Transaction × GradidoUnit) :=
  let result := Transaction.new library confirmedTransaction pubkey
  if recipient = pubkey then
    .ok ((result.setType .LINK_RECEIVE).setPubkey library sender.publicKey, sender.amount)
  else if sender.publicKey = pubkey then
    .ok ((result.setType .SEND).setPubkey library recipient, -sender.amount)
  else do
    let change ← calculateChange library deferredTransferTransactionNr
      confirmedTransaction.confirmedAt sender
    return ((result.setType .LINK_CHANGE).setPubkey library sender.publicKey, change.balance)

/-- `RedeemDeferredTransferTransactionRole::createTransaction`. -/
def redeemDeferredTransfer (deferredTransferAddress : Bool)
    (deferredTransferTransactionNr : UInt64) (sender : TransferAmount) (recipient : List UInt8) :
    Except Failure Transaction := do
  let redeemed ← redeemedFor library confirmedTransaction pubkey deferredTransferTransactionNr
    sender recipient
  if deferredTransferAddress then
    let change ← calculateChange library deferredTransferTransactionNr
      confirmedTransaction.confirmedAt sender
    return (redeemed.1.setChange library (-change.balance) change.publicKey).setAmount redeemed.2
  else return redeemed.1.setAmount redeemed.2

/-- `TimeoutDeferredTransferTransactionRole::createTransaction`. -/
def timeoutDeferredTransfer (deferredTransferTransactionNr : UInt64) :
    Except Failure Transaction := do
  let changeAccountBalance ← calculateDecayedDeferredTransferAmount library
    deferredTransferTransactionNr confirmedTransaction.confirmedAt
  return (((Transaction.new library confirmedTransaction pubkey).setType .LINK_TIMEOUT).setAmount
    changeAccountBalance.balance).setPubkey library changeAccountBalance.publicKey

end Roles

/-- `Context::run`. `deferredTransferAddress` is whether the address of the wallet is one of a
deferred transfer. -/
def run (deferredTransferAddress : Bool) (confirmedTransaction : WalletTransaction)
    (pubkey : List UInt8) : Except Failure (List Transaction) :=
  let created : Except Failure Transaction → Except Failure (List Transaction) :=
    Except.map fun transaction => [transaction.move]
  match confirmedTransaction.body with
  | .creation recipient => created (creation library confirmedTransaction pubkey recipient)
  | .transfer sender recipient =>
      created (transfer library confirmedTransaction pubkey sender recipient)
  | .deferredTransfer sender recipient =>
      created (deferredTransfer library confirmedTransaction pubkey sender recipient)
  | .redeemDeferredTransfer transactionNr sender recipient =>
      created (redeemDeferredTransfer library confirmedTransaction pubkey deferredTransferAddress
        transactionNr sender recipient)
  | .timeoutDeferredTransfer transactionNr =>
      created (timeoutDeferredTransfer library confirmedTransaction pubkey transactionNr)
  | .communityRoot => .ok []
  | .registerAddress => .ok []
  | .other enumName => .error (.thrown (.gradidoUnhandledEnum
      "unhandles transaction type in model::Apollo::createTransaction::Context" "TransactionType"
      enumName))

/-! ## The list -/

/-- The locals of the loop in `generateList`. -/
structure ListState where
  transactionsVector : List Transaction
  previousBalance : GradidoUnit
  previousDate : Timepoint

/-- `push_back`. What is in the vector is moved where the vector has to grow. -/
def pushBack (vector : List Transaction) (transaction : Transaction) : List Transaction :=
  vector.map Transaction.move ++ [transaction]

/-- One round of the inner loop. -/
def appendEntry (pubkey : List UInt8) (confirmedTransaction : WalletTransaction)
    (state : ListState) (transaction : Transaction) : ListState :=
  let entry := transaction.copy.setPreviousBalance state.previousBalance
  { transactionsVector := pushBack state.transactionsVector
      (if state.previousBalance > 0 then
        entry.calculateDecay library state.previousDate confirmedTransaction.confirmedAt
          state.previousBalance
      else entry)
    previousBalance := ((confirmedTransaction.accountBalances.filter fun balance =>
      balance.publicKey = pubkey).map AccountBalance.balance).sum
    previousDate := confirmedTransaction.confirmedAt }

/-- The loop of `generateList`. -/
def appendEntries (deferredTransferAddress : Bool) (pubkey : List UInt8) :
    List WalletTransaction → ListState → Except Failure ListState
  | [], state => .ok state
  | confirmedTransaction :: rest, state =>
      match run library deferredTransferAddress confirmedTransaction pubkey with
      | .error failure => .error failure
      | .ok transactions =>
          appendEntries deferredTransferAddress pubkey rest
            (transactions.foldl (appendEntry library pubkey confirmedTransaction) state)

/-- Whether the page ends with the last transaction. -/
def hasLastDecay (searchDirection : SearchDirection) (page : Pagination)
    (countTransactions : Nat) : Bool :=
  countTransactions ≤ page.size ||
    (searchDirection = .ASC && page.skipEntriesCount + page.size ≥ countTransactions) ||
    (searchDirection = .DESC && page.page ≤ 1)

/-- `std::reverse`, which swaps by moving and assigning. -/
def reverse (vector : List Transaction) : List Transaction :=
  vector.reverse.map fun transaction => transaction.move.assign

/-- The vector that `generateList` makes of the transactions of a page, in the order in which they
were searched. -/
def generateVector (deferredTransferAddress : Bool) (pubkey : List UInt8)
    (searchDirection : SearchDirection) (page : Pagination) (countTransactions : Nat)
    (startDate now : Timepoint) (uninitialised : Bool)
    (allTransactions : List WalletTransaction) : Except Failure (List Transaction) := do
  let state ← appendEntries library deferredTransferAddress pubkey
    (searchDirection.inOrder allTransactions) ⟨[], 0, startDate⟩
  match state.transactionsVector.getLast? with
  | none => return []
  | some lastTransaction =>
      let vector := if hasLastDecay searchDirection page countTransactions then
          pushBack state.transactionsVector (Transaction.ofDecay library lastTransaction.date now
            lastTransaction.balance uninitialised)
        else state.transactionsVector
      return match searchDirection with
        | .ASC => vector
        | .DESC => reverse vector

end CreateTransaction

end Apollo

end GradidoNode

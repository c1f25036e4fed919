import GradidoNode.Apollo.CreateTransaction
import GradidoNode.Library.ExceptList

/-!
# Entries that tell of their transaction

What the list of a wallet is to tell of each transaction, and the transactions of which it does.
The constructor of an entry returns at the first plain memo, before it has read anything else,
and the last name is written over the first one.
-/

namespace GradidoNode

open Library Blockchain

namespace Apollo

/-- The first plain memo. -/
def WalletTransaction.plainMemo (confirmedTransaction : WalletTransaction) : Option String :=
  (confirmedTransaction.memos.find? fun memo => memo.keyType = .PLAIN).map Memo.memo

/-- The kinds of transaction that have entries. -/
def TransactionBody.hasEntry : TransactionBody → Bool
  | .creation _ => true
  | .transfer _ _ => true
  | .deferredTransfer _ _ => true
  | .redeemDeferredTransfer _ _ _ => true
  | .timeoutDeferredTransfer _ => true
  | .communityRoot => false
  | .registerAddress => false
  | .other _ => false

/-- The first and the last name that the role sets. -/
def TransactionBody.roleNames : TransactionBody → String × String
  | .creation _ => ("Gradido", "Akademie")
  | _ => ("", "")

/-- The entry tells what the transaction was. -/
structure Faithful (library : WalletLibrary) (pubkey : List UInt8)
    (confirmedTransaction : WalletTransaction) (entry : Transaction) : Prop where
  id : entry.id.toInt = confirmedTransaction.id.toNat
  date : entry.date = confirmedTransaction.confirmedAt
  balance : entry.balance =
    library.getAccountBalance confirmedTransaction.accountBalances pubkey ""
  memo : ∀ memo, confirmedTransaction.plainMemo = some memo → entry.memo = memo
  firstName : entry.firstName = confirmedTransaction.body.roleNames.1
  lastName : entry.lastName = confirmedTransaction.body.roleNames.2

/-- Neither a creation nor one with a plain memo, but for one that has nothing to tell: the id 0,
the date of the epoch and no balance. The id is one that an `int64_t` can count. -/
structure Legible (library : WalletLibrary) (pubkey : List UInt8)
    (confirmedTransaction : WalletTransaction) : Prop where
  notCreation : ∀ recipient, confirmedTransaction.body ≠ .creation recipient
  id : confirmedTransaction.id.toNat < 2 ^ 63
  hidden : confirmedTransaction.plainMemo = none ∨
    confirmedTransaction.id = 0 ∧ confirmedTransaction.confirmedAt = 0 ∧
      library.getAccountBalance confirmedTransaction.accountBalances pubkey "" = 0

/-- What the roles leave of an entry as the constructor has made it, and the names they set. -/
structure Assembled (library : WalletLibrary) (pubkey : List UInt8)
    (confirmedTransaction : WalletTransaction) (entry : Transaction) : Prop where
  id : entry.id = (Transaction.new library confirmedTransaction pubkey).id
  date : entry.date = (Transaction.new library confirmedTransaction pubkey).date
  balance : entry.balance = (Transaction.new library confirmedTransaction pubkey).balance
  memo : entry.memo = (Transaction.new library confirmedTransaction pubkey).memo
  firstName : entry.firstName = confirmedTransaction.body.roleNames.2
  lastName : entry.lastName = ""
  notDecay : entry.type ≠ .DECAY

section Entry

variable {library : WalletLibrary} {pubkey : List UInt8}
  {confirmedTransaction : WalletTransaction} {entry : Transaction}

/-- A transaction number fits the signed id exactly below 2 ^ 63. -/
theorem toInt_toInt64_eq_iff (number : UInt64) :
    number.toInt64.toInt = number.toNat ↔ number.toNat < 2 ^ 63 := by
  have bits : number.toInt64.toInt = number.toBitVec.toInt := rfl
  have width : number.toBitVec.toNat = number.toNat := rfl
  rw [bits, BitVec.toInt_eq_toNat_cond, width]
  split <;> omega

/-- An entry tells of its transaction in exactly these cases. -/
theorem Assembled.faithful_iff (assembled : Assembled library pubkey confirmedTransaction entry) :
    Faithful library pubkey confirmedTransaction entry ↔
      Legible library pubkey confirmedTransaction := by
  have names : (entry.firstName = confirmedTransaction.body.roleNames.1 ∧
      entry.lastName = confirmedTransaction.body.roleNames.2) ↔
        ∀ recipient, confirmedTransaction.body ≠ .creation recipient := by
    rw [assembled.firstName, assembled.lastName]
    cases confirmedTransaction.body <;> simp [TransactionBody.roleNames]
  cases plain : confirmedTransaction.memos.find? fun memo => memo.keyType = .PLAIN with
  | some memo =>
      have isPlain : confirmedTransaction.plainMemo = some memo.memo := by
        unfold WalletTransaction.plainMemo
        rw [plain, Option.map_some]
      have constructed : Transaction.new library confirmedTransaction pubkey =
          { Transaction.initial with memo := memo.memo } := by
        unfold Transaction.new
        rw [plain]
      have zero : entry.id.toInt = confirmedTransaction.id.toNat ↔
          confirmedTransaction.id = 0 := by
        rw [assembled.id, constructed, ← UInt64.toNat_inj]
        exact Int.natCast_inj.trans eq_comm
      have date : entry.date = 0 := by rw [assembled.date, constructed]; rfl
      have balance : entry.balance = 0 := by rw [assembled.balance, constructed]; rfl
      constructor
      · intro faithful
        have isZero := zero.mp faithful.id
        refine ⟨names.mp ⟨faithful.firstName, faithful.lastName⟩, ?_, Or.inr ⟨isZero, ?_, ?_⟩⟩
        · rw [isZero]
          decide
        · exact faithful.date.symm.trans date
        · exact faithful.balance.symm.trans balance
      · rintro ⟨notCreation, _, hidden⟩
        rcases hidden with absent | ⟨isZero, epoch, noBalance⟩
        · rw [isPlain] at absent
          cases absent
        · obtain ⟨firstName, lastName⟩ := names.mpr notCreation
          refine ⟨zero.mpr isZero, date.trans epoch.symm, balance.trans noBalance.symm, ?_,
            firstName, lastName⟩
          intro found isFound
          rw [assembled.memo, constructed]
          exact Option.some.inj (isPlain.symm.trans isFound)
  | none =>
      have notPlain : confirmedTransaction.plainMemo = none := by
        unfold WalletTransaction.plainMemo
        rw [plain, Option.map_none]
      have constructed : (Transaction.new library confirmedTransaction pubkey).id =
            confirmedTransaction.id.toInt64 ∧
          (Transaction.new library confirmedTransaction pubkey).date =
            confirmedTransaction.confirmedAt ∧
          (Transaction.new library confirmedTransaction pubkey).balance =
            library.getAccountBalance confirmedTransaction.accountBalances pubkey "" := by
        unfold Transaction.new
        rw [plain]
        exact ⟨rfl, rfl, rfl⟩
      obtain ⟨id, date, balance⟩ := constructed
      constructor
      · intro faithful
        refine ⟨names.mp ⟨faithful.firstName, faithful.lastName⟩, ?_, Or.inl notPlain⟩
        have same := faithful.id
        rw [assembled.id, id] at same
        exact (toInt_toInt64_eq_iff _).mp same
      · intro legible
        obtain ⟨firstName, lastName⟩ := names.mpr legible.notCreation
        refine ⟨?_, assembled.date.trans date, assembled.balance.trans balance, ?_, firstName,
          lastName⟩
        · rw [assembled.id, id]
          exact (toInt_toInt64_eq_iff _).mpr legible.id
        · intro memo isPlain
          rw [notPlain] at isPlain
          cases isPlain

/-! ## The roles -/

/-- An entry to which a role has not yet given names. -/
structure Unnamed (library : WalletLibrary) (pubkey : List UInt8)
    (confirmedTransaction : WalletTransaction) (entry : Transaction) : Prop where
  id : entry.id = (Transaction.new library confirmedTransaction pubkey).id
  date : entry.date = (Transaction.new library confirmedTransaction pubkey).date
  balance : entry.balance = (Transaction.new library confirmedTransaction pubkey).balance
  memo : entry.memo = (Transaction.new library confirmedTransaction pubkey).memo
  firstName : entry.firstName = ""
  lastName : entry.lastName = ""

/-- A fresh entry has no names. -/
theorem unnamed_new (library : WalletLibrary) (pubkey : List UInt8)
    (confirmedTransaction : WalletTransaction) :
    Unnamed library pubkey confirmedTransaction
      (Transaction.new library confirmedTransaction pubkey) := by
  refine ⟨rfl, rfl, rfl, rfl, ?_, ?_⟩
  · unfold Transaction.new
    split <;> rfl
  · unfold Transaction.new
    split <;> rfl

/-- An entry without names is assembled right where the roles have none. -/
theorem Unnamed.assembled (unnamed : Unnamed library pubkey confirmedTransaction entry)
    (noNames : confirmedTransaction.body.roleNames = ("", "")) (notDecay : entry.type ≠ .DECAY) :
    Assembled library pubkey confirmedTransaction entry where
  id := unnamed.id
  date := unnamed.date
  balance := unnamed.balance
  memo := unnamed.memo
  firstName := by rw [noNames]; exact unnamed.firstName
  lastName := unnamed.lastName
  notDecay := notDecay

namespace CreateTransaction

/-- A creation's entry is assembled right. -/
theorem creation_ok {recipient : TransferAmount}
    (isCreation : confirmedTransaction.body = .creation recipient)
    (success : creation library confirmedTransaction pubkey recipient = .ok entry) :
    Assembled library pubkey confirmedTransaction entry := by
  have unnamed := unnamed_new library pubkey confirmedTransaction
  unfold creation at success
  split at success
  · cases success
  · cases success
    refine ⟨rfl, rfl, rfl, rfl, ?_, unnamed.lastName, nofun⟩
    rw [isCreation]
    rfl

/-- A transfer's entry has the type of the account's role. -/
theorem transferRole_ok {received sent : TransactionType} {what : String}
    {sender : TransferAmount} {recipient : List UInt8}
    (success : transferRole library confirmedTransaction pubkey received sent what sender recipient =
      .ok entry) :
    Unnamed library pubkey confirmedTransaction entry ∧
      (entry.type = received ∨ entry.type = sent) := by
  have unnamed := unnamed_new library pubkey confirmedTransaction
  unfold transferRole at success
  dsimp only at success
  split at success
  · cases success
    exact ⟨⟨rfl, rfl, rfl, rfl, unnamed.firstName, unnamed.lastName⟩, Or.inl rfl⟩
  · split at success
    · cases success
      exact ⟨⟨rfl, rfl, rfl, rfl, unnamed.firstName, unnamed.lastName⟩, Or.inr rfl⟩
    · cases success

/-- The entry made for a redeem has no names yet and is no decay. -/
theorem redeemedFor_ok {transactionNr : UInt64} {sender : TransferAmount}
    {recipient : List UInt8} {amount : GradidoUnit}
    (success : redeemedFor library confirmedTransaction pubkey transactionNr sender recipient =
      .ok (entry, amount)) :
    Unnamed library pubkey confirmedTransaction entry ∧ entry.type ≠ .DECAY := by
  have unnamed := unnamed_new library pubkey confirmedTransaction
  unfold redeemedFor at success
  dsimp only at success
  split at success
  · cases success
    exact ⟨⟨rfl, rfl, rfl, rfl, unnamed.firstName, unnamed.lastName⟩, nofun⟩
  · split at success
    · cases success
      exact ⟨⟨rfl, rfl, rfl, rfl, unnamed.firstName, unnamed.lastName⟩, nofun⟩
    · obtain ⟨change, _, isEntry⟩ := bind_ok_iff.mp success
      cases isEntry
      exact ⟨⟨rfl, rfl, rfl, rfl, unnamed.firstName, unnamed.lastName⟩, nofun⟩

/-- Nor has the one that is returned for it. -/
theorem redeemDeferredTransfer_ok {deferredTransferAddress : Bool} {transactionNr : UInt64}
    {sender : TransferAmount} {recipient : List UInt8}
    (success : redeemDeferredTransfer library confirmedTransaction pubkey deferredTransferAddress
      transactionNr sender recipient = .ok entry) :
    Unnamed library pubkey confirmedTransaction entry ∧ entry.type ≠ .DECAY := by
  obtain ⟨⟨redeemed, amount⟩, isRedeemed, success⟩ := bind_ok_iff.mp success
  obtain ⟨unnamed, notDecay⟩ := redeemedFor_ok isRedeemed
  dsimp only at success
  split at success
  · obtain ⟨change, _, isEntry⟩ := bind_ok_iff.mp success
    cases isEntry
    exact ⟨⟨unnamed.id, unnamed.date, unnamed.balance, unnamed.memo, unnamed.firstName,
      unnamed.lastName⟩, notDecay⟩
  · cases success
    exact ⟨⟨unnamed.id, unnamed.date, unnamed.balance, unnamed.memo, unnamed.firstName,
      unnamed.lastName⟩, notDecay⟩

/-- Nor has that of a timeout. -/
theorem timeoutDeferredTransfer_ok {transactionNr : UInt64}
    (success : timeoutDeferredTransfer library confirmedTransaction pubkey transactionNr =
      .ok entry) :
    Unnamed library pubkey confirmedTransaction entry ∧ entry.type ≠ .DECAY := by
  have unnamed := unnamed_new library pubkey confirmedTransaction
  obtain ⟨changeAccountBalance, _, isEntry⟩ := bind_ok_iff.mp success
  cases isEntry
  exact ⟨⟨rfl, rfl, rfl, rfl, unnamed.firstName, unnamed.lastName⟩, nofun⟩

/-- A single entry created is the list of it. -/
theorem map_move_ok {created : Except Failure Transaction} {transactions : List Transaction}
    (success : created.map (fun transaction => [transaction.move]) = .ok transactions) :
    ∃ entry, created = .ok entry ∧ transactions = [entry] := by
  cases created with
  | error failure => cases success
  | ok entry =>
      cases success
      exact ⟨entry, rfl, rfl⟩

/-- What `run` makes of a transaction, if it succeeds. -/
theorem run_ok {deferredTransferAddress : Bool} {transactions : List Transaction}
    (success : run library deferredTransferAddress confirmedTransaction pubkey =
      .ok transactions) :
    (confirmedTransaction.body.hasEntry = true ∧ ∃ entry, transactions = [entry] ∧
      Assembled library pubkey confirmedTransaction entry) ∨
    (confirmedTransaction.body.hasEntry = false ∧ transactions = []) := by
  unfold run at success
  cases body : confirmedTransaction.body with
  | creation recipient =>
      rw [body] at success
      obtain ⟨entry, created, isEntry⟩ := map_move_ok success
      exact Or.inl ⟨rfl, entry, isEntry, creation_ok body created⟩
  | transfer sender recipient =>
      rw [body] at success
      obtain ⟨entry, created, isEntry⟩ := map_move_ok success
      obtain ⟨unnamed, type⟩ := transferRole_ok created
      refine Or.inl ⟨rfl, entry, isEntry, unnamed.assembled (by rw [body]; rfl) ?_⟩
      rcases type with type | type <;> simp [type]
  | deferredTransfer sender recipient =>
      rw [body] at success
      obtain ⟨entry, created, isEntry⟩ := map_move_ok success
      obtain ⟨unnamed, type⟩ := transferRole_ok created
      refine Or.inl ⟨rfl, entry, isEntry, unnamed.assembled (by rw [body]; rfl) ?_⟩
      rcases type with type | type <;> simp [type]
  | redeemDeferredTransfer transactionNr sender recipient =>
      rw [body] at success
      obtain ⟨entry, created, isEntry⟩ := map_move_ok success
      obtain ⟨unnamed, notDecay⟩ := redeemDeferredTransfer_ok created
      exact Or.inl ⟨rfl, entry, isEntry, unnamed.assembled (by rw [body]; rfl) notDecay⟩
  | timeoutDeferredTransfer transactionNr =>
      rw [body] at success
      obtain ⟨entry, created, isEntry⟩ := map_move_ok success
      obtain ⟨unnamed, notDecay⟩ := timeoutDeferredTransfer_ok created
      exact Or.inl ⟨rfl, entry, isEntry, unnamed.assembled (by rw [body]; rfl) notDecay⟩
  | communityRoot =>
      rw [body] at success
      cases success
      exact Or.inr ⟨rfl, rfl⟩
  | registerAddress =>
      rw [body] at success
      cases success
      exact Or.inr ⟨rfl, rfl⟩
  | other enumName =>
      rw [body] at success
      cases success

/-! ## The list -/

/-- `push_back` appends. -/
theorem pushBack_eq (vector : List Transaction) (transaction : Transaction) :
    pushBack vector transaction = vector ++ [transaction] := by
  unfold pushBack
  rw [List.map_congr_left fun other _ => Transaction.move_eq other, List.map_id']

/-- `std::reverse` reverses. -/
theorem reverse_eq (vector : List Transaction) : reverse vector = vector.reverse :=
  (List.map_congr_left fun _ _ => rfl).trans (List.map_id _)

/-- Copying an entry into the list changes neither what it tells nor its names. -/
theorem appendEntry_vector (assembled : Assembled library pubkey confirmedTransaction entry)
    (state : ListState) :
    ∃ appended, (appendEntry library pubkey confirmedTransaction state entry).transactionsVector =
        state.transactionsVector ++ [appended] ∧
      Assembled library pubkey confirmedTransaction appended := by
  unfold appendEntry
  dsimp only
  rw [Transaction.copy_eq, pushBack_eq]
  refine ⟨_, rfl, ?_⟩
  split
  · exact ⟨assembled.id, assembled.date, assembled.balance, assembled.memo, assembled.firstName,
      assembled.lastName, assembled.notDecay⟩
  · exact ⟨assembled.id, assembled.date, assembled.balance, assembled.memo, assembled.firstName,
      assembled.lastName, assembled.notDecay⟩

/-- The entries that the loop appends are those of the transactions, one after the other. -/
theorem appendEntries_ok {deferredTransferAddress : Bool} {transactions : List WalletTransaction}
    {state final : ListState}
    (success : appendEntries library deferredTransferAddress pubkey transactions state =
      .ok final) :
    ∃ entries, final.transactionsVector = state.transactionsVector ++ entries ∧
      List.Forall₂ (Assembled library pubkey)
        (transactions.filter fun transaction => transaction.body.hasEntry) entries := by
  induction transactions generalizing state with
  | nil =>
      cases success
      exact ⟨[], (List.append_nil _).symm, List.Forall₂.nil⟩
  | cons transaction rest ih =>
      unfold appendEntries at success
      split at success
      · cases success
      · rename_i created isCreated
        rcases run_ok isCreated with ⟨hasEntry, entry, rfl, assembled⟩ | ⟨noEntry, rfl⟩
        · obtain ⟨entries, isFinal, all⟩ := ih success
          obtain ⟨appended, isAppended, stillAssembled⟩ := appendEntry_vector assembled state
          rw [List.foldl_cons, List.foldl_nil, isAppended, List.append_assoc] at isFinal
          rw [List.filter_cons, if_pos hasEntry]
          exact ⟨appended :: entries, isFinal, List.Forall₂.cons stillAssembled all⟩
        · obtain ⟨entries, isFinal, all⟩ := ih success
          rw [List.filter_cons, if_neg (by simp [noEntry])]
          exact ⟨entries, isFinal, all⟩

/-- The entries of transactions among those of a list, which may have a last decay. -/
def ofTransactions (vector : List Transaction) : List Transaction :=
  vector.filter fun entry => entry.type ≠ .DECAY

/-- Assembled entries keep their order and names in the list. -/
theorem ofTransactions_assembled {transactions : List WalletTransaction}
    {entries : List Transaction}
    (all : List.Forall₂ (Assembled library pubkey) transactions entries) :
    ofTransactions entries = entries := by
  induction all with
  | nil => rfl
  | cons assembled _ ih =>
      unfold ofTransactions at ih ⊢
      rw [List.filter_cons, if_pos (by simp [assembled.notDecay]), ih]

/-- The decay entry at the end is left out of the list's own entries. -/
theorem ofTransactions_lastDecay (entries : List Transaction) (decayStart decayEnd : Timepoint)
    (startBalance : GradidoUnit) (uninitialised hasLast : Bool) :
    ofTransactions (if hasLast then
        pushBack entries (Transaction.ofDecay library decayStart decayEnd startBalance uninitialised)
      else entries) = ofTransactions entries := by
  cases hasLast with
  | false => rfl
  | true =>
      rw [if_pos rfl, pushBack_eq]
      unfold ofTransactions
      rw [List.filter_append]
      exact List.append_nil _

/-- The list that is returned has the entries of the transactions, in the order in which these
were searched. -/
theorem generateVector_ok {deferredTransferAddress : Bool} {searchDirection : SearchDirection}
    {page : Pagination} {countTransactions : Nat} {startDate now : Timepoint}
    {uninitialised : Bool} {allTransactions : List WalletTransaction}
    {vector : List Transaction}
    (success : generateVector library deferredTransferAddress pubkey searchDirection page
      countTransactions startDate now uninitialised allTransactions = .ok vector) :
    List.Forall₂ (Assembled library pubkey)
      (allTransactions.filter fun transaction => transaction.body.hasEntry)
      (ofTransactions vector) := by
  obtain ⟨state, appended, success⟩ := bind_ok_iff.mp success
  obtain ⟨entries, isState, all⟩ := appendEntries_ok appended
  rw [List.nil_append] at isState
  rw [isState] at success
  have inOrder : List.Forall₂ (Assembled library pubkey)
      (allTransactions.filter fun transaction => transaction.body.hasEntry)
      (searchDirection.inOrder entries) := by
    cases searchDirection with
    | ASC => exact all
    | DESC =>
        have reversed := List.forall₂_reverse_iff.mpr all
        simp only [SearchDirection.inOrder, List.filter_reverse, List.reverse_reverse] at reversed ⊢
        exact reversed
  have kept : ofTransactions vector = searchDirection.inOrder entries := by
    have unchanged := ofTransactions_assembled inOrder
    cases last : entries.getLast? with
    | none =>
        rw [last] at success
        cases success
        rw [List.getLast?_eq_none_iff.mp last]
        cases searchDirection with
        | ASC => rfl
        | DESC => rfl
    | some lastTransaction =>
        rw [last] at success
        cases searchDirection with
        | ASC =>
            cases success
            exact (ofTransactions_lastDecay entries _ _ _ _ _).trans unchanged
        | DESC =>
            cases success
            rw [reverse_eq, ofTransactions, List.filter_reverse]
            rw [SearchDirection.inOrder, ofTransactions, List.filter_reverse] at unchanged
            exact (congrArg List.reverse (ofTransactions_lastDecay entries _ _ _ _ _)).trans
              unchanged
  rw [kept]
  exact inOrder

end CreateTransaction

/-- Assembled entries are faithful exactly if their transactions are legible. -/
theorem forall₂_faithful_iff {transactions : List WalletTransaction} {entries : List Transaction}
    (all : List.Forall₂ (Assembled library pubkey) transactions entries) :
    List.Forall₂ (Faithful library pubkey) transactions entries ↔
      ∀ transaction ∈ transactions, Legible library pubkey transaction := by
  induction all with
  | nil => simp
  | cons assembled _ ih =>
      rw [List.forall₂_cons, assembled.faithful_iff, ih, List.forall_mem_cons]

/-- The list of a wallet tells of every transaction if and only if each is legible. -/
theorem faithful_iff_legible {deferredTransferAddress : Bool} {searchDirection : SearchDirection}
    {page : Pagination} {countTransactions : Nat} {startDate now : Timepoint}
    {uninitialised : Bool} {allTransactions : List WalletTransaction}
    {vector : List Transaction}
    (success : CreateTransaction.generateVector library deferredTransferAddress pubkey
      searchDirection page countTransactions startDate now uninitialised allTransactions =
        .ok vector) :
    List.Forall₂ (Faithful library pubkey)
        (allTransactions.filter fun transaction => transaction.body.hasEntry)
        (CreateTransaction.ofTransactions vector) ↔
      ∀ transaction ∈ allTransactions, transaction.body.hasEntry = true →
        Legible library pubkey transaction := by
  rw [forall₂_faithful_iff (CreateTransaction.generateVector_ok success)]
  simp only [List.mem_filter, and_imp]

end Entry

section Example

/-- A library for two accounts and no time that passes. -/
def twoAccounts : WalletLibrary where
  convertToHex := fun publicKey => if publicKey = [1] then "01" else "02"
  calculateDecay := fun amount _ _ => amount
  getAccountBalance := fun balances publicKey communityId =>
    ((balances.find? fun balance =>
      balance.publicKey = publicKey ∧ balance.communityId = communityId).map
        AccountBalance.balance).getD 0
  getTransactionForId := fun _ => .ok none

/-- The account 1 sends to the account 2. -/
def sentWith (memos : List Memo) : WalletTransaction where
  id := 7
  confirmedAt := 100
  accountBalances := [⟨[1], 50, ""⟩, ⟨[2], 10, ""⟩]
  memos := memos
  signers := [[1]]
  body := .transfer ⟨[1], 10, ""⟩ [2]

/-- The account 2 sends half of it back. -/
def sentBackWith (memos : List Memo) : WalletTransaction where
  id := 8
  confirmedAt := 200
  accountBalances := [⟨[2], 5, ""⟩, ⟨[1], 55, ""⟩]
  memos := memos
  signers := [[2]]
  body := .transfer ⟨[2], 5, ""⟩ [1]

/-- Two transfers with encrypted memos. -/
def encryptedTransfers : List WalletTransaction :=
  [sentWith [⟨.SHARED_SECRET, "xyz"⟩], sentBackWith [⟨.SHARED_SECRET, "abc"⟩]]

/-- The list tells of both. -/
theorem faithful_iff_legible_encrypted :
    ∃ vector, CreateTransaction.generateVector twoAccounts false [1] .ASC ⟨10, 1⟩ 2 0 300 false
        encryptedTransfers = .ok vector ∧
      List.Forall₂ (Faithful twoAccounts [1])
        (encryptedTransfers.filter fun transaction => transaction.body.hasEntry)
        (CreateTransaction.ofTransactions vector) := by
  have generated : CreateTransaction.generateVector twoAccounts false [1] .ASC ⟨10, 1⟩ 2 0 300
      false encryptedTransfers = .ok _ := rfl
  refine ⟨_, generated, (faithful_iff_legible generated).mpr fun transaction member _ => ?_⟩
  rcases List.mem_pair.mp member with rfl | rfl
  · exact ⟨nofun, by decide, Or.inl rfl⟩
  · exact ⟨nofun, by decide, Or.inl rfl⟩

/-- Of a transfer with a plain memo the entry tells neither the id nor the date nor the balance. -/
theorem not_faithful_plainMemo :
    ∃ vector, CreateTransaction.generateVector twoAccounts false [1] .ASC ⟨10, 1⟩ 1 0 100 false
        [sentWith [⟨.PLAIN, "thanks"⟩]] = .ok vector ∧
      (CreateTransaction.ofTransactions vector).map (fun entry =>
        (entry.id, entry.date, entry.balance)) = [(0, 0, 0)] ∧
      ¬ List.Forall₂ (Faithful twoAccounts [1])
        ([sentWith [⟨.PLAIN, "thanks"⟩]].filter fun transaction => transaction.body.hasEntry)
        (CreateTransaction.ofTransactions vector) := by
  refine ⟨_, rfl, rfl, fun all => ?_⟩
  cases all with
  | cons faithful _ => cases faithful.date

end Example

end Apollo

end GradidoNode

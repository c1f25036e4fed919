import GradidoNode.Blockchain.FindAllPages
import GradidoNode.Library.ExceptList

/-!
# The transaction list of a wallet

The list has the number of all transactions of an account that a wallet shows, and those of one
page. Both are searched in the blockchain with a filter function that hides what no wallet shows.
-/

namespace GradidoNode

open Library Cache Blockchain Blockchain.FileBased

namespace Apollo

/-- What the filter function of the list looks at in a transaction. -/
structure WalletView (Entry : Type) where
  isCreation : Entry → Bool
  /-- The recipient of a creation. -/
  recipient : Entry → List UInt8
  isRegisterAddress : Entry → Bool

namespace TransactionList

variable {Entry : Type}

def filterOutNotForWallet (view : WalletView Entry) (involvedPublicKey : List UInt8)
    (entry : Entry) : FilterResult :=
  -- creations which this user has signed as moderator, and isn't the benefitor
  if view.isCreation entry ∧ view.recipient entry ≠ involvedPublicKey then FilterResult.DISMISS
  else if view.isRegisterAddress entry then FilterResult.DISMISS
  else FilterResult.USE

/-- The filter that the list is generated for; a transaction type of 0 stands for all. -/
def listFilter (involvedPublicKey : List UInt8) (searchDirection : SearchDirection)
    (transactionType : UInt8) (pagination : Pagination) : Filter where
  minTransactionNr := 0
  maxTransactionNr := 0
  involvedPublicKey := some involvedPublicKey
  searchDirection := searchDirection
  pagination := pagination
  coinCommunityId := ""
  timepointInterval := none
  transactionType := transactionType

/-- The filter function of `countFilter`. -/
def countForWallet (view : WalletView Entry) (involvedPublicKey : List UInt8) (entry : Entry) :
    Throwing Nat FilterResult := fun countTransactions =>
  if (filterOutNotForWallet view involvedPublicKey entry).use then
    (.ok FilterResult.DISMISS, countTransactions + 1)
  else (.ok (filterOutNotForWallet view involvedPublicKey entry), countTransactions)

variable (environment : SearchEnvironment) (view : WalletView Entry)
  (involvedPublicKey : List UInt8) (searchDirection : SearchDirection) (transactionType : UInt8)

/-- The member `count` of the list. -/
def countTransactions (blocks : List (StoredBlock Entry)) : Except Exception Nat :=
  let counted := findAll environment
    (listFilter involvedPublicKey searchDirection transactionType ⟨0, 0⟩)
    (countForWallet view involvedPublicKey) blocks 0
  counted.1.map fun _ => counted.2

/-- The transactions selected for a page. -/
def allTransactions (pagination : Pagination) (blocks : List (StoredBlock Entry)) :
    Except Exception (List Entry) :=
  (findAll environment (listFilter involvedPublicKey searchDirection transactionType pagination)
    (pureFilter (filterOutNotForWallet view involvedPublicKey)) blocks ()).1

/-- `generateList`, up to the transactions that the list is made of. -/
def generateList (pagination : Pagination) (blocks : List (StoredBlock Entry)) :
    Except Exception (Nat × List Entry) := do
  let count ← countTransactions environment view involvedPublicKey searchDirection
    transactionType blocks
  let transactions ← allTransactions environment view involvedPublicKey searchDirection
    transactionType pagination blocks
  return (count, transactions)

/-- The number of pages of a size that a count fills. -/
def pageCount (size count : Nat) : Nat := (count + size - 1) / size

/-- What of the chain a wallet shows, in search direction. -/
def walletTransactions (transactionOf : UInt64 → Entry) (blocks : List (StoredBlock Entry)) :
    List Entry :=
  (matchedInChain environment
      (listFilter involvedPublicKey searchDirection transactionType ⟨0, 0⟩) transactionOf
      blocks).filter
    fun transaction => (filterOutNotForWallet view involvedPublicKey transaction).use

/-- The pages that the count stands for, one after the other, are what a wallet shows. -/
def PagesComplete (size : Nat) (transactionOf : UInt64 → Entry)
    (blocks : List (StoredBlock Entry)) : Prop :=
  ∃ count, countTransactions environment view involvedPublicKey searchDirection transactionType
      blocks = .ok count ∧
    ∃ selected : Nat → List Entry,
      (∀ page, 1 ≤ page → page ≤ pageCount size count →
        generateList environment view involvedPublicKey searchDirection transactionType ⟨size, page⟩
          blocks = .ok (count, selected page)) ∧
      (List.range (pageCount size count)).flatMap (fun page => selected (page + 1)) =
        walletTransactions environment view involvedPublicKey searchDirection transactionType
          transactionOf blocks

/-- The blocks do not tear any page apart that the count stands for. -/
def PagesRight (size : Nat) (transactionOf : UInt64 → Entry) (blocks : List (StoredBlock Entry)) :
    Prop :=
  ∀ page, 1 ≤ page →
    page ≤ pageCount size (walletTransactions environment view involvedPublicKey searchDirection
      transactionType transactionOf blocks).length →
    PageRight environment
      (listFilter involvedPublicKey searchDirection transactionType ⟨size, page⟩)
      (filterOutNotForWallet view involvedPublicKey) transactionOf ((page - 1) * size) size
      (searchDirection.inOrder blocks)

/-! ## The count -/

section Count

variable {view involvedPublicKey}

theorem filterOutNotForWallet_runs (entry : Entry) :
    (filterOutNotForWallet view involvedPublicKey entry).stop = false := by
  unfold filterOutNotForWallet
  split
  · rfl
  · split <;> rfl

/-- Count a transaction that a wallet shows. -/
def countShown (view : WalletView Entry) (involvedPublicKey : List UInt8) (entry : Entry) :
    Throwing Nat Unit := fun count =>
  (.ok (), if (filterOutNotForWallet view involvedPublicKey entry).use then count + 1 else count)

theorem countForWallet_eq :
    countForWallet view involvedPublicKey = dismissing (countShown view involvedPublicKey) := by
  funext entry count
  unfold countForWallet dismissing countShown Fallible.andThen Fallible.outcome
  dsimp only
  by_cases shown : (filterOutNotForWallet view involvedPublicKey entry).use = true
  · rw [if_pos shown, if_pos shown]
  · have hidden : filterOutNotForWallet view involvedPublicKey entry = FilterResult.DISMISS := by
      unfold filterOutNotForWallet at shown ⊢
      split
      · rfl
      · rename_i notForeign
        rw [if_neg notForeign] at shown
        split
        · rfl
        · rename_i notRegister
          rw [if_neg notRegister] at shown
          exact absurd rfl shown
    rw [if_neg shown, if_neg shown, hidden]

theorem forEach_countShown (transactions : List Entry) (count : Nat) :
    Fallible.forEach (countShown view involvedPublicKey) transactions count =
      (.ok (), count + (transactions.filter fun transaction =>
        (filterOutNotForWallet view involvedPublicKey transaction).use).length) := by
  induction transactions generalizing count with
  | nil => rfl
  | cons entry rest ih =>
      have counted : countShown view involvedPublicKey entry count = (.ok (),
          if (filterOutNotForWallet view involvedPublicKey entry).use then count + 1
          else count) := rfl
      rw [Fallible.forEach_cons, Fallible.andThen_of_ok counted, ih, List.filter_cons]
      split
      · rw [List.length_cons, Nat.add_assoc, Nat.add_comm 1]
      · rfl

variable {environment searchDirection transactionType} {transactionOf : UInt64 → Entry}
  {blocks : List (StoredBlock Entry)}

/-- The count is the number of the transactions that a wallet shows. -/
theorem countTransactions_eq (months : BlockIndex.MonthsInOrder environment.monthsInRange)
    (stored : ChainStored blocks transactionOf) :
    countTransactions environment view involvedPublicKey searchDirection transactionType blocks =
      .ok (walletTransactions environment view involvedPublicKey searchDirection transactionType
        transactionOf blocks).length := by
  unfold countTransactions
  rw [countForWallet_eq, findAll_dismissing months stored (Or.inl rfl)
    (fun _ _ => BlockIndex.intervalRight_of_none rfl) rfl, forEach_countShown, Nat.zero_add]
  rfl

end Count

/-! ## The pages -/

/-- The first windows of a list, one after the other, are its start. -/
theorem flatMap_windows {Item : Type} (size : Nat) (items : List Item) (windows : Nat) :
    (List.range windows).flatMap (fun window => (items.drop (window * size)).take size) =
      items.take (windows * size) := by
  induction windows with
  | zero => simp
  | succ windows ih =>
      rw [List.range_succ, List.flatMap_append, ih, List.flatMap_singleton, Nat.succ_mul,
        ← List.take_add]

theorem le_pageCount_mul {size : Nat} (positive : 0 < size) (count : Nat) :
    count ≤ pageCount size count * size := by
  unfold pageCount
  have divided := Nat.div_add_mod (count + size - 1) size
  have rest := Nat.mod_lt (count + size - 1) positive
  rw [Nat.mul_comm] at divided
  omega

section Pages

variable {environment view involvedPublicKey searchDirection transactionType}
  {transactionOf : UInt64 → Entry} {blocks : List (StoredBlock Entry)}

/-- A page that is not torn apart has the transactions on it that a wallet shows there. -/
theorem allTransactions_eq (months : BlockIndex.MonthsInOrder environment.monthsInRange)
    (stored : ChainStored blocks transactionOf) {size page : Nat}
    (right : PageRight environment
      (listFilter involvedPublicKey searchDirection transactionType ⟨size, page⟩)
      (filterOutNotForWallet view involvedPublicKey) transactionOf ((page - 1) * size) size
      (searchDirection.inOrder blocks)) :
    allTransactions environment view involvedPublicKey searchDirection transactionType ⟨size, page⟩
        blocks =
      .ok (pageOf ⟨size, page⟩ (walletTransactions environment view involvedPublicKey
        searchDirection transactionType transactionOf blocks)) := by
  have skipped : Pagination.skipEntriesCount ⟨size, page⟩ = (page - 1) * size := by
    unfold Pagination.skipEntriesCount
    dsimp only
    by_cases later : page > 1
    · exact if_pos later
    · rw [if_neg later, Nat.sub_eq_zero_of_le (Nat.not_lt.mp later), Nat.zero_mul]
  rw [← skipped] at right
  have found := @findAll_of_pageRight _ Unit environment
    (listFilter involvedPublicKey searchDirection transactionType ⟨size, page⟩)
    (filterOutNotForWallet view involvedPublicKey) transactionOf blocks months stored right ()
  unfold allTransactions
  rw [found, usedUntilStop_eq_filter fun entry _ => filterOutNotForWallet_runs entry]
  rfl

/-- **Wallet paging** is complete where each page is cut rightly out of the blocks. -/
theorem pagesComplete_of_pagesRight
    (months : BlockIndex.MonthsInOrder environment.monthsInRange)
    (stored : ChainStored blocks transactionOf) {size : Nat} (positive : 0 < size)
    (right : PagesRight environment view involvedPublicKey searchDirection transactionType size
      transactionOf blocks) :
    PagesComplete environment view involvedPublicKey searchDirection transactionType size
      transactionOf blocks := by
  have counted : countTransactions environment view involvedPublicKey searchDirection
      transactionType blocks = .ok (walletTransactions environment view involvedPublicKey
        searchDirection transactionType transactionOf blocks).length :=
    countTransactions_eq months stored
  refine ⟨_, counted, fun page => pageOf ⟨size, page⟩ (walletTransactions environment view
    involvedPublicKey searchDirection transactionType transactionOf blocks), ?_, ?_⟩
  · intro page first last
    refine bind_ok_iff.mpr ⟨_, counted, bind_ok_iff.mpr ⟨_, ?_, rfl⟩⟩
    exact allTransactions_eq months stored (right page first last)
  · have windows (page : Nat) : pageOf ⟨size, page + 1⟩ (walletTransactions environment view
        involvedPublicKey searchDirection transactionType transactionOf blocks) =
          ((walletTransactions environment view involvedPublicKey searchDirection transactionType
            transactionOf blocks).drop (page * size)).take size := by
      unfold pageOf
      rw [if_neg (Nat.ne_of_gt positive)]
      rfl
    simp only [windows]
    rw [flatMap_windows, List.take_of_length_le (le_pageCount_mul positive _)]

end Pages

/-! ## A block of two transactions -/

section Example

/-- The account with the index 1. -/
def exampleKey : List UInt8 := [1]

def exampleAccounts : SearchEnvironment where
  findIndexForString := fun publicKey => if publicKey = exampleKey then 1 else 0
  getCommunityIdIndex := fun _ => .error (.runtimeError "not looked up")
  monthsInRange := monthsBetween

def exampleIndices (transactionNr : UInt64) : TransactionIndices where
  transactionType := 1
  coinCommunityIdIndex := 0
  year := 2024
  month := 5
  transactionNr := transactionNr
  fileCursor := 0
  addressIndices := [1]
  addressIndiceCount := 1

/-- The block of transactions of May 2024, which all involve the account. -/
def accountBlock (transactionNrs : List UInt64) : StoredBlock UInt64 where
  index := transactionNrs.foldl (fun index transactionNr =>
    (BlockIndex.addIndicesForTransaction (exampleIndices transactionNr) index).2) BlockIndex.new
  getTransaction := .ok

def exampleAccountBlock : StoredBlock UInt64 := accountBlock [1, 2]

/-- A block of one transaction, and one of three. -/
def accountBlocks : List (StoredBlock UInt64) := [accountBlock [1], accountBlock [2, 3, 4]]

/-- A wallet view in which transactions of some numbers are address registrations. -/
def registrations (numbers : List UInt64) : WalletView UInt64 where
  isCreation := fun _ => false
  recipient := fun _ => []
  isRegisterAddress := fun transactionNr => transactionNr ∈ numbers

theorem chainStored_exampleAccountBlock : ChainStored [exampleAccountBlock] id where
  ascending := by decide
  nonempty := by decide
  positive := by decide
  ranged := by
    unfold BlockIndex.Ranged
    decide
  calendar := by
    unfold BlockIndex.CalendarMonths
    decide
  stored block member entry _ := by
    rw [List.mem_singleton.mp member]
    rfl

theorem chainStored_accountBlocks : ChainStored accountBlocks id where
  ascending := by decide
  nonempty := by decide
  positive := by decide
  ranged := by
    unfold BlockIndex.Ranged
    decide
  calendar := by
    unfold BlockIndex.CalendarMonths
    decide
  stored block member entry _ := by
    rcases List.mem_cons.mp member with rfl | later
    · rfl
    · rw [List.mem_singleton.mp later]
      rfl

/-- Both pages of two of the three visible transactions are complete, with the hidden one in a
block of its own. -/
theorem pagesComplete_hiddenFirstBlock :
    PagesComplete exampleAccounts (registrations [1]) exampleKey .ASC 0 2 id accountBlocks := by
  refine pagesComplete_of_pagesRight monthsInOrder_monthsBetween chainStored_accountBlocks
    Nat.two_pos ?_
  intro page first last
  have twoPages : pageCount 2 (walletTransactions exampleAccounts (registrations [1]) exampleKey
      .ASC 0 id accountBlocks).length = 2 := by decide
  rw [twoPages] at last
  have hits (page : Nat) : ¬ BlockIndex.Missed (listFilter exampleKey .ASC 0 ⟨2, page⟩)
      (accountBlock [2, 3, 4]).index := by
    rintro ⟨_, none, _⟩
    cases none
  have isPage : page = 1 ∨ page = 2 := by omega
  rcases isPage with rfl | rfl
  · -- the first block has nothing to show, and the second one fills the page
    refine Or.inr ⟨Or.inl (Or.inl rfl), Or.inl ⟨?_, ?_⟩⟩
    · unfold BlockSkipped
      decide
    · have behind : behindIn exampleAccounts (listFilter exampleKey .ASC 0 ⟨2, 1⟩) id 2
          (accountBlock [2, 3, 4]) = [2, 3, 4] := by decide
      refine Or.inr ⟨Or.inl (Or.inl rfl), Or.inr ⟨⟨hits 1, by decide, by decide⟩, Or.inl ?_⟩⟩
      rw [behind]
      refine Or.inr ⟨two_ne_zero, rfl, fun transaction member ↦ ?_⟩
      rcases List.mem_pair.mp member with rfl | rfl
      · rfl
      · rfl
  · -- the second block passes over the two transactions of the first page
    refine Or.inr ⟨Or.inl (Or.inl rfl), Or.inl ⟨?_, ?_⟩⟩
    · unfold BlockSkipped
      decide
    · refine Or.inr ⟨Or.inl (Or.inl rfl), Or.inr ⟨⟨hits 2, by decide, by decide⟩, Or.inr ?_⟩⟩
      refine ⟨⟨by decide, by decide⟩, Or.inr ⟨by decide, trivial⟩⟩

/-- The only page is empty where the hidden transaction comes first, although the count is 1. -/
theorem not_pagesComplete_hiddenFirst :
    BlockIndex.MonthsInOrder exampleAccounts.monthsInRange ∧
      ChainStored [exampleAccountBlock] id ∧
      ¬ PagesComplete exampleAccounts (registrations [1]) exampleKey .ASC 0 1 id
        [exampleAccountBlock] := by
  refine ⟨monthsInOrder_monthsBetween, chainStored_exampleAccountBlock, ?_⟩
  rintro ⟨count, counted, selected, generated, complete⟩
  have isOne : (1 : Nat) = count := Except.ok.inj counted
  subst isOne
  have onPage : (1, []) = (1, selected 1) :=
    Except.ok.inj (generated 1 (Nat.le_refl 1) (Nat.le_refl 1))
  have shown : selected 1 ++ [] = [2] := complete
  rw [← (Prod.mk.inj onPage).2] at shown
  exact absurd shown (by decide)

end Example

end TransactionList

end Apollo

end GradidoNode

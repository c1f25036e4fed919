import GradidoNode.Cache.SearchPages

/-!
# Searching with the index only

`findAllFast` trusts what the indexes of the blocks return, `findAll` cuts it off at the end of
the page. They agree if and only if no index returns more than there is room for. The count
of the index always agrees with a search for all pages.
-/

namespace GradidoNode

open Library Blockchain

namespace Cache

namespace BlockIndex

/-- The callback of `countTransactions` for the entries of a month. -/
def countInMonth (matching : BlockIndexEntry → Except Exception FilterResult) :
    List BlockIndexEntry → Nat → Except Exception Nat
  | [], count => .ok count
  | entry :: rest, count =>
      match matching entry with
      | .error exception => .error exception
      | .ok filterResult =>
          countInMonth matching rest (if filterResult.use then count + 1 else count)

def countInMonths (matching : BlockIndexEntry → Except Exception FilterResult) :
    List (List BlockIndexEntry) → Nat → Except Exception Nat
  | [], count => .ok count
  | entries :: rest, count =>
      match countInMonth matching entries count with
      | .error exception => .error exception
      | .ok count => countInMonths matching rest count

/-- The months are visited in search direction, their entries always in ascending order. -/
def countTransactions (environment : SearchEnvironment) (filter : Filter) (index : BlockIndex) :
    Except Exception Nat :=
  if filter.minTransactionNr ≠ 0 ∧ filter.minTransactionNr > index.maxTransactionNr ∨
      filter.maxTransactionNr ≠ 0 ∧ filter.maxTransactionNr < index.minTransactionNr then
    .ok 0
  else
    match publicKeyIndexOf environment filter with
    | none => .ok 0
    | some publicKeyIndex =>
        let interval := index.filteredTimepointInterval filter
        let months := filter.searchDirection.inOrder
          (environment.monthsInRange interval.startDate interval.endDate)
        countInMonths (isMatchingFilter environment filter publicKeyIndex)
          (months.map fun timepoint => index.monthList (ofLex timepoint).1 (ofLex timepoint).2) 0

section Count

variable {environment : SearchEnvironment} {filter : Filter} {index : BlockIndex}
  {matching : BlockIndexEntry → Except Exception FilterResult}

/-- Counting two lists of entries, one behind the other. -/
theorem countInMonth_append (first second : List BlockIndexEntry) (count : Nat) :
    countInMonth matching (first ++ second) count =
      match countInMonth matching first count with
      | .error exception => .error exception
      | .ok count => countInMonth matching second count := by
  induction first generalizing count with
  | nil => rfl
  | cons entry rest ih =>
      rw [List.cons_append, countInMonth, countInMonth]
      cases matching entry with
      | error exception => rfl
      | ok filterResult => exact ih _

/-- Counting month by month is counting all entries. -/
theorem countInMonths_eq (months : List (List BlockIndexEntry)) (count : Nat) :
    countInMonths matching months count = countInMonth matching months.flatten count := by
  induction months generalizing count with
  | nil => rfl
  | cons entries rest ih =>
      rw [countInMonths, List.flatten_cons, countInMonth_append]
      cases countInMonth matching entries count with
      | error exception => rfl
      | ok counted => exact ih counted

/-- Entries that are decided are counted if they are wanted. -/
theorem countInMonth_of_decides {wanted : BlockIndexEntry → Bool} {entries : List BlockIndexEntry}
    (decides : Decides matching wanted entries) (count : Nat) :
    countInMonth matching entries count = .ok (count + (entries.filter wanted).length) := by
  induction entries generalizing count with
  | nil => rfl
  | cons entry rest ih =>
      rw [countInMonth, decides entry (List.mem_cons_self ..)]
      dsimp only
      rw [ih decides.tail]
      cases isWanted : wanted entry with
      | false => simp [isWanted]
      | true =>
          rw [List.filter_cons_of_pos isWanted, List.length_cons, if_pos rfl]
          exact congrArg Except.ok (by omega)

/-- With an unknown coin community the count passes over the entries or throws. -/
theorem countInMonth_of_throws {exception : Exception} (throws : Throws filter exception matching)
    (entries : List BlockIndexEntry) (count : Nat) :
    ((∀ entry ∈ entries, ¬ OfType filter entry) ∧
        countInMonth matching entries count = .ok count) ∨
      (∃ entry ∈ entries, OfType filter entry) ∧
        countInMonth matching entries count = .error exception := by
  induction entries with
  | nil => exact Or.inl ⟨fun entry member => absurd member List.not_mem_nil, rfl⟩
  | cons entry rest ih =>
      by_cases ofType : OfType filter entry
      · right
        refine ⟨⟨entry, List.mem_cons_self .., ofType⟩, ?_⟩
        rw [countInMonth, (throws entry).1 ofType]
      · have dismissed : countInMonth matching (entry :: rest) count =
            countInMonth matching rest count := by
          rw [countInMonth, (throws entry).2 ofType]
          rfl
        rw [dismissed]
        rcases ih with ⟨none, success⟩ | ⟨⟨other, member, isOfType⟩, failed⟩
        · left
          refine ⟨fun other member => ?_, success⟩
          rcases List.mem_cons.mp member with rfl | later
          · exact ofType
          · exact none other later
        · exact Or.inr ⟨⟨other, List.mem_cons_of_mem _ member, isOfType⟩, failed⟩

/-- The count goes through the entries of a search, in another order. -/
theorem exists_countTransactions_eq (environment : SearchEnvironment) (filter : Filter)
    (index : BlockIndex) :
    ∃ entries : List BlockIndexEntry,
      entries.Perm (searchedMonths environment filter index).flatten ∧
      countTransactions environment filter index = countInMonth
        (isMatchingFilter environment filter ((publicKeyIndexOf environment filter).getD 0))
        entries 0 := by
  unfold countTransactions searchedMonths
  by_cases outside : filter.minTransactionNr ≠ 0 ∧ filter.minTransactionNr > index.maxTransactionNr ∨
      filter.maxTransactionNr ≠ 0 ∧ filter.maxTransactionNr < index.minTransactionNr
  · rw [if_pos outside, if_pos (outside.imp_right Or.inl)]
    exact ⟨[], List.Perm.refl _, rfl⟩
  · rw [if_neg outside]
    cases isIndex : publicKeyIndexOf environment filter with
    | none =>
        rw [if_pos (Or.inr (Or.inr rfl))]
        exact ⟨[], List.Perm.refl _, rfl⟩
    | some publicKeyIndex =>
        rw [if_neg (searches_of_some outside)]
        refine ⟨_, ?_, countInMonths_eq _ 0⟩
        rw [← List.flatMap_def, ← List.flatMap_def]
        apply List.Perm.flatMap_left
        intro timepoint _
        cases filter.searchDirection with
        | ASC => exact List.Perm.refl _
        | DESC => exact (List.reverse_perm _).symm

/-- The count is the number of the transactions that a search for all pages finds. -/
theorem countTransactions_eq (reliable : environment.Reliable) :
    countTransactions environment filter index =
      (findTransactions environment (FileBased.filterCopy filter 0) index).map List.length := by
  obtain ⟨entries, same, counted⟩ := exists_countTransactions_eq environment filter index
  rw [counted]
  by_cases known : CommunityKnown environment filter
  · have decides : Decides (isMatchingFilter environment filter
        ((publicKeyIndexOf environment filter).getD 0)) (Satisfies environment filter) entries := by
      intro entry member
      obtain ⟨month, inMonths, inMonth⟩ := List.mem_flatten.mp (same.subset member)
      exact decides_searched known month inMonths entry inMonth
    have found : findTransactions environment (FileBased.filterCopy filter 0) index =
        .ok (numbersOf (Satisfies environment filter)
          (searchedMonths environment filter index).flatten) :=
      findTransactions_of_unpaged known rfl
    rw [countInMonth_of_decides decides, found, Nat.zero_add, (same.filter _).length_eq,
      ← length_numbersOf]
    rfl
  · obtain ⟨exception, _, throws⟩ := exists_throws_of_unknown reliable known
    have searched : findTransactions environment (FileBased.filterCopy filter 0) index =
        (findInMonths ⟨0, filter.pagination.page⟩ (isMatchingFilter environment filter
          ((publicKeyIndexOf environment filter).getD 0))
          (searchedMonths environment filter index) ⟨[], 0⟩).map Found.result :=
      findTransactions_eq_searched
    rw [searched]
    rcases @findInMonths_of_throws _ _ _ (throws _) ⟨0, filter.pagination.page⟩ ⟨[], 0⟩ rfl
        (searchedMonths environment filter index) with
      ⟨none, success⟩ | ⟨⟨entry, member, ofType⟩, failed⟩
    · have dismissed : Decides (isMatchingFilter environment filter
          ((publicKeyIndexOf environment filter).getD 0)) (fun _ => false) entries :=
        fun entry member => (throws _ entry).2 (none entry (same.subset member))
      rw [countInMonth_of_decides dismissed, success]
      simp [Except.map]
    · rcases countInMonth_of_throws (throws _) entries 0 with ⟨none, _⟩ | ⟨_, countFailed⟩
      · exact absurd ofType (none entry (same.symm.subset member))
      · rw [countFailed, failed]
        rfl

end Count

end BlockIndex

end Cache

namespace Blockchain

open Cache

namespace FileBased

variable {Entry : Type}

/-- What the callback of `findAllFast` works on: the result, and the size left in the copy of
the filter. -/
structure FastSearch where
  result : List UInt64
  size : Nat
  deriving DecidableEq, Repr

/-- `filter.pagination.size - result.size()`; the unsigned number of 32 bits wraps around. -/
def sizeLeft (size found : Nat) : Nat :=
  if found ≤ size then size - found
  else (4294967296 - (found - size) % 4294967296) % 4294967296

section

variable (environment : SearchEnvironment) (filter : Filter)

/-- The callback of `findAllFast`. -/
def visitFast (block : StoredBlock Entry) : Throwing FastSearch Bool := fun search =>
  match BlockIndex.findTransactions environment (filterCopy filter search.size) block.index with
  | .error exception => (.error exception, search)
  | .ok transactionNrs =>
      let result := search.result ++ transactionNrs
      if filter.pagination.size ≠ 0 then
        let size := sizeLeft filter.pagination.size result.length
        (.ok (size ≠ 0), ⟨result, size⟩)
      else (.ok true, ⟨result, search.size⟩)

def findAllFast (blocks : List (StoredBlock Entry)) : Except Exception (List UInt64) :=
  let search := iterateBlocks (visitFast environment filter)
    (filter.searchDirection.inOrder blocks) ⟨[], filter.pagination.size⟩
  search.1.map fun _ => search.2.result

/-- The callback of `findAllResultCount`. -/
def countBlock (block : StoredBlock Entry) : Throwing Nat Bool := fun count =>
  match BlockIndex.countTransactions environment filter block.index with
  | .error exception => (.error exception, count)
  | .ok more => (.ok true, count + more)

def findAllResultCount (blocks : List (StoredBlock Entry)) : Except Exception Nat :=
  let search := iterateBlocks (countBlock environment filter)
    (filter.searchDirection.inOrder blocks) 0
  search.1.map fun _ => search.2

/-- `findAll` for a filter without filter function. -/
def findAllUnfiltered (blocks : List (StoredBlock Entry)) : Except Exception (List Entry) :=
  (findAll environment filter (pureFilter fun _ => FilterResult.USE) blocks ()).1

/-- The two searches of the indexes agree with the full search. -/
structure SearchesAgree (numberOf : Entry → UInt64) (blocks : List (StoredBlock Entry)) : Prop where
  fast : findAllFast environment filter blocks =
    (findAllUnfiltered environment filter blocks).map (List.map numberOf)
  count : findAllResultCount environment filter blocks =
    (findAllUnfiltered environment (filterCopy filter 0) blocks).map List.length

/-- As long as there is room on the page, no index leaves it. -/
def PagesStay : Nat → List (StoredBlock Entry) → Prop
  | _, [] => True
  | room, block :: rest =>
      block.index.getTransactionsCount = 0 ∨
      BlockIndex.StaysInPage environment (filterCopy filter room) block.index ∧
        (BlockIndex.pageLength environment (filterCopy filter room) block.index < room →
          PagesStay (room -
            BlockIndex.pageLength environment (filterCopy filter room) block.index) rest)

end

/-- Each block reads a transaction under the number that its index has for it. -/
def ReadsNumbers (numberOf : Entry → UInt64) (blocks : List (StoredBlock Entry)) : Prop :=
  ∀ block ∈ blocks, ∀ entry ∈ block.index.allEntries, ∃ transaction,
    block.getTransaction entry.transactionNr = .ok transaction ∧
    numberOf transaction = entry.transactionNr

section

variable {environment : SearchEnvironment} {filter : Filter} {numberOf : Entry → UInt64}
  {block : StoredBlock Entry} {transactionNrs : List UInt64}

/-- What an index finds can be read. -/
theorem exists_read (reads : ∀ transactionNr ∈ transactionNrs, ∃ transaction,
    block.getTransaction transactionNr = .ok transaction ∧ numberOf transaction = transactionNr) :
    ∃ transactions : List Entry, transactionNrs.map block.getTransaction = read transactions ∧
      transactions.map numberOf = transactionNrs := by
  induction transactionNrs with
  | nil => exact ⟨[], rfl, rfl⟩
  | cons transactionNr rest ih =>
      obtain ⟨transaction, isRead, isNumber⟩ := reads transactionNr (List.mem_cons_self ..)
      obtain ⟨transactions, areRead, areNumbers⟩ :=
        ih fun other member => reads other (List.mem_cons_of_mem _ member)
      refine ⟨transaction :: transactions, ?_, ?_⟩
      · rw [List.map_cons, isRead, areRead]
        rfl
      · rw [List.map_cons, isNumber, areNumbers]

/-- The numbers found in a block of the chain are read. -/
theorem exists_read_of_found {blocks : List (StoredBlock Entry)}
    (reads : ReadsNumbers numberOf blocks) (inChain : block ∈ blocks)
    (found : BlockIndex.findTransactions environment filter block.index = .ok transactionNrs) :
    ∃ transactions : List Entry, transactionNrs.map block.getTransaction = read transactions ∧
      transactions.map numberOf = transactionNrs := by
  apply exists_read
  intro transactionNr member
  obtain ⟨entry, isEntry, rfl⟩ := BlockIndex.exists_entry_of_found found member
  exact reads block inChain entry isEntry

/-- A filter that uses everything uses all transactions. -/
theorem usedUntilStop_use (transactions : List Entry) :
    usedUntilStop (fun _ => FilterResult.USE) transactions = transactions := by
  rw [usedUntilStop_eq_filter fun _ _ => rfl]
  exact List.filter_eq_self.mpr fun _ _ => rfl

/-- Transactions for which there is room are all taken. -/
theorem lookAt_use {first second : List Entry} {search : Search Entry Unit}
    (running : search.stopped = false)
    (room : filter.pagination.size = 0 ∨
      search.result.length + first.length ≤ filter.pagination.size) :
    lookAt filter (pureFilter fun _ => FilterResult.USE) (read (first ++ second)) search =
      lookAt filter (pureFilter fun _ => FilterResult.USE) (read second)
        ⟨search.result ++ first, search.size, false, search.state⟩ := by
  have goesOn : ¬ ∃ transaction ∈ first, FilterResult.USE.stop = true := by
    rintro ⟨_, _, stops⟩
    cases stops
  have looked := @lookAt_append _ _ filter (fun _ => FilterResult.USE) first second search running room
  rw [if_neg goesOn, usedUntilStop_use] at looked
  exact looked

/-- The outcome of `findAll` from a search on. -/
def allFrom (environment : SearchEnvironment) (filter : Filter) (blocks : List (StoredBlock Entry))
    (search : Search Entry Unit) : Except Exception (List Entry) :=
  let final := iterateBlocks
    (visitBlock environment filter (pureFilter fun _ => FilterResult.USE)) blocks search
  final.1.map fun _ => final.2.result

def fastFrom (environment : SearchEnvironment) (filter : Filter) (blocks : List (StoredBlock Entry))
    (search : FastSearch) : Except Exception (List UInt64) :=
  let final := iterateBlocks (visitFast environment filter) blocks search
  final.1.map fun _ => final.2.result

/-- A block that throws ends the loop. -/
theorem iterateBlocks_error {State : Type} {callback : StoredBlock Entry → Throwing State Bool}
    {rest : List (StoredBlock Entry)} (counted : block.index.getTransactionsCount ≠ 0)
    {state next : State} {exception : Exception}
    (visited : callback block state = (.error exception, next)) :
    iterateBlocks callback (block :: rest) state = (.error exception, next) := by
  rw [iterateBlocks, if_neg counted, Fallible.andThen_of_error visited]

/-- A block whose transactions fit into the room is used as a whole. -/
theorem visitBlock_of_fits {transactions : List Entry} {search : Search Entry Unit}
    (running : search.stopped = false) (paged : filter.pagination.size ≠ 0)
    (room : search.result.length + search.size = filter.pagination.size)
    (found : BlockIndex.findTransactions environment (filterCopy filter search.size) block.index =
      .ok transactionNrs)
    (isRead : transactionNrs.map block.getTransaction = read transactions)
    (fits : transactions.length ≤ search.size) :
    visitBlock environment filter (pureFilter fun _ => FilterResult.USE) block search =
      (.ok (search.size - transactions.length ≠ 0),
        ⟨search.result ++ transactions, search.size - transactions.length, false, search.state⟩) := by
  have looked := @lookAt_use _ filter transactions [] search running (Or.inr (by omega))
  have ended : lookAt filter (pureFilter fun _ => FilterResult.USE) (read ([] : List Entry))
      (⟨search.result ++ transactions, search.size, false, search.state⟩ : Search Entry Unit) =
      (.ok true, ⟨search.result ++ transactions, search.size, false, search.state⟩) := rfl
  have left : filter.pagination.size - (search.result ++ transactions).length =
      search.size - transactions.length := by
    rw [List.length_append]
    omega
  rw [List.append_nil, ended] at looked
  unfold visitBlock
  rw [found]
  dsimp only
  rw [isRead, Fallible.andThen_of_ok looked, finishBlock_paged paged, left, Bool.not_false,
    Bool.and_true]

/-- Without pages a block is used as a whole. -/
theorem visitBlock_of_unpaged {transactions : List Entry} {search : Search Entry Unit}
    (running : search.stopped = false) (unpaged : filter.pagination.size = 0)
    (found : BlockIndex.findTransactions environment (filterCopy filter search.size) block.index =
      .ok transactionNrs)
    (isRead : transactionNrs.map block.getTransaction = read transactions) :
    visitBlock environment filter (pureFilter fun _ => FilterResult.USE) block search =
      (.ok true, ⟨search.result ++ transactions, search.size, false, search.state⟩) := by
  have looked := @lookAt_use _ filter transactions [] search running (Or.inl unpaged)
  have ended : lookAt filter (pureFilter fun _ => FilterResult.USE) (read ([] : List Entry))
      (⟨search.result ++ transactions, search.size, false, search.state⟩ : Search Entry Unit) =
      (.ok true, ⟨search.result ++ transactions, search.size, false, search.state⟩) := rfl
  rw [List.append_nil, ended] at looked
  unfold visitBlock
  rw [found]
  dsimp only
  rw [isRead, Fallible.andThen_of_ok looked]
  unfold finishBlock
  rw [Bool.not_true, if_neg Bool.false_ne_true, if_neg (not_not_intro unpaged)]
  rfl

/-- A block with more transactions than there is room for ends the search with a full page. -/
theorem visitBlock_of_overflow {transactions : List Entry} {search : Search Entry Unit}
    (running : search.stopped = false) (paged : filter.pagination.size ≠ 0)
    (room : search.result.length + search.size = filter.pagination.size)
    (found : BlockIndex.findTransactions environment (filterCopy filter search.size) block.index =
      .ok transactionNrs)
    (isRead : transactionNrs.map block.getTransaction = read transactions)
    (overflows : search.size < transactions.length) :
    ∃ next, visitBlock environment filter (pureFilter fun _ => FilterResult.USE) block search =
        (.ok false, next) ∧ next.result.length = filter.pagination.size := by
  have taken : (transactions.take search.size).length = search.size := by
    rw [List.length_take]
    omega
  have length : (search.result ++ transactions.take search.size).length =
      filter.pagination.size := by
    rw [List.length_append, taken, room]
  have full : filter.pagination.hasCapacityLeft
      (search.result ++ transactions.take search.size).length = false := by
    rw [Bool.eq_false_iff, Ne, Pagination.hasCapacityLeft_iff, length]
    omega
  have looked := @lookAt_use _ filter (transactions.take search.size)
    (transactions.drop search.size) search running (Or.inr (by omega))
  obtain ⟨transaction, rest, behind⟩ :=
    List.exists_cons_of_ne_nil (List.ne_nil_of_length_pos (by
      rw [List.length_drop]
      omega : 0 < (transactions.drop search.size).length))
  have ended : lookAt filter (pureFilter fun _ => FilterResult.USE)
      (read (transactions.drop search.size))
      (⟨search.result ++ transactions.take search.size, search.size, false, search.state⟩ :
        Search Entry Unit) =
      (.ok false, ⟨search.result ++ transactions.take search.size, search.size, false,
        search.state⟩) := by
    rw [behind, read, List.map_cons, lookAt]
    dsimp only
    rw [full]
    rfl
  rw [ended, List.take_append_drop] at looked
  refine ⟨⟨search.result ++ transactions.take search.size, search.size, false, search.state⟩, ?_,
    length⟩
  unfold visitBlock
  rw [found]
  dsimp only
  rw [isRead, Fallible.andThen_of_ok looked]
  rfl

/-- One turn of `findAll`'s loop over the blocks. -/
theorem allFrom_cons {rest : List (StoredBlock Entry)}
    (counted : block.index.getTransactionsCount ≠ 0) {search next : Search Entry Unit} {goOn : Bool}
    (visited : visitBlock environment filter (pureFilter fun _ => FilterResult.USE) block search =
      (.ok goOn, next)) :
    allFrom environment filter (block :: rest) search =
      if goOn then allFrom environment filter rest next else .ok next.result := by
  unfold allFrom
  rw [iterateBlocks_cons counted visited]
  cases goOn with
  | true => rfl
  | false => rfl

/-- One turn of `findAllFast`'s loop over the blocks. -/
theorem fastFrom_cons {rest : List (StoredBlock Entry)}
    (counted : block.index.getTransactionsCount ≠ 0) {search next : FastSearch} {goOn : Bool}
    (visited : visitFast environment filter block search = (.ok goOn, next)) :
    fastFrom environment filter (block :: rest) search =
      if goOn then fastFrom environment filter rest next else .ok next.result := by
  unfold fastFrom
  rw [iterateBlocks_cons counted visited]
  cases goOn with
  | true => rfl
  | false => rfl

/-- An exception of an index ends both searches. -/
theorem from_cons_of_error {rest : List (StoredBlock Entry)}
    (counted : block.index.getTransactionsCount ≠ 0) {search : Search Entry Unit}
    {fast : FastSearch} (sameSize : fast.size = search.size) {exception : Exception}
    (failed : BlockIndex.findTransactions environment (filterCopy filter search.size) block.index =
      .error exception) :
    allFrom environment filter (block :: rest) search = .error exception ∧
      fastFrom environment filter (block :: rest) fast = .error exception := by
  have visited : visitBlock environment filter (pureFilter fun _ => FilterResult.USE) block search =
      (.error exception, search) := by
    unfold visitBlock
    rw [failed]
  have visitedFast : visitFast environment filter block fast = (.error exception, fast) := by
    unfold visitFast
    rw [sameSize, failed]
  unfold allFrom fastFrom
  rw [iterateBlocks_error counted visited, iterateBlocks_error counted visitedFast]
  exact ⟨rfl, rfl⟩

/-- A block without transactions ends both searches. -/
theorem from_cons_of_empty {rest : List (StoredBlock Entry)}
    (empty : block.index.getTransactionsCount = 0) (search : Search Entry Unit)
    (fast : FastSearch) :
    allFrom environment filter (block :: rest) search = .ok search.result ∧
      fastFrom environment filter (block :: rest) fast = .ok fast.result := by
  unfold allFrom fastFrom
  rw [iterateBlocks, iterateBlocks, if_pos empty, if_pos empty]
  exact ⟨rfl, rfl⟩

/-- What `findAllFast` has it keeps. -/
theorem length_le_fastFrom {blocks : List (StoredBlock Entry)} {search : FastSearch}
    {result : List UInt64} (success : fastFrom environment filter blocks search = .ok result) :
    search.result.length ≤ result.length := by
  induction blocks generalizing search with
  | nil =>
      cases success
      exact Nat.le_refl _
  | cons block rest ih =>
      by_cases counted : block.index.getTransactionsCount = 0
      · have ended := (@from_cons_of_empty _ environment filter block rest counted
          ⟨[], 0, false, ()⟩ search).2
        cases ended.symm.trans success
        exact Nat.le_refl _
      · cases found : BlockIndex.findTransactions environment (filterCopy filter search.size)
            block.index with
        | error exception =>
            have failed := (@from_cons_of_error _ environment filter block rest counted
              ⟨[], search.size, false, ()⟩ search rfl exception found).2
            cases failed.symm.trans success
        | ok transactionNrs =>
            obtain ⟨goOn, next, visited, grows⟩ : ∃ goOn next,
                visitFast environment filter block search = (.ok goOn, next) ∧
                search.result.length ≤ next.result.length := by
              unfold visitFast
              rw [found]
              dsimp only
              split
              · exact ⟨_, _, rfl, by simp⟩
              · exact ⟨_, _, rfl, by simp⟩
            rw [fastFrom_cons counted visited] at success
            cases goOn with
            | true => exact Nat.le_trans grows (ih success)
            | false =>
                cases success
                exact grows

/-- The numbers of a block are appended, and the search goes on while there are some to find. -/
theorem visitFast_eq {fast : FastSearch} (paged : filter.pagination.size ≠ 0)
    (found : BlockIndex.findTransactions environment (filterCopy filter fast.size) block.index =
      .ok transactionNrs) :
    visitFast environment filter block fast =
      (.ok (sizeLeft filter.pagination.size (fast.result ++ transactionNrs).length ≠ 0),
        ⟨fast.result ++ transactionNrs,
          sizeLeft filter.pagination.size (fast.result ++ transactionNrs).length⟩) := by
  unfold visitFast
  rw [found]
  dsimp only
  rw [if_pos paged]

/-- With an unknown coin community no block fills a page. -/
theorem pagesStay_of_unknown (reliable : environment.Reliable)
    (unknown : ¬ BlockIndex.CommunityKnown environment filter) (room : Nat)
    (blocks : List (StoredBlock Entry)) : PagesStay environment filter room blocks := by
  induction blocks generalizing room with
  | nil => trivial
  | cons block rest ih =>
      exact Or.inr ⟨(@BlockIndex.staysInPage_of_unknown environment (filterCopy filter room)
        block.index reliable unknown).1, fun _ => ih _⟩

/-- With a page to fill, the searches agree from one state on if and only if no index leaves
the page. -/
theorem fastFrom_eq_iff_pagesStay (reliable : environment.Reliable)
    (paged : filter.pagination.size ≠ 0) {blocks : List (StoredBlock Entry)}
    (reads : ReadsNumbers numberOf blocks) {search : Search Entry Unit} {fast : FastSearch}
    (sameResult : fast.result = search.result.map numberOf) (sameSize : fast.size = search.size)
    (running : search.stopped = false) (some : search.size ≠ 0)
    (room : search.result.length + search.size = filter.pagination.size) :
    fastFrom environment filter blocks fast =
        (allFrom environment filter blocks search).map (List.map numberOf) ↔
      PagesStay environment filter search.size blocks := by
  induction blocks generalizing search fast with
  | nil =>
      refine iff_of_true ?_ trivial
      exact congrArg Except.ok sameResult
  | cons block rest ih =>
      rw [PagesStay]
      by_cases counted : block.index.getTransactionsCount = 0
      · obtain ⟨all, few⟩ := @from_cons_of_empty _ environment filter block rest counted search fast
        rw [all, few, sameResult]
        exact iff_of_true rfl (Or.inl counted)
      · cases found : BlockIndex.findTransactions environment (filterCopy filter search.size)
            block.index with
        | error exception =>
            obtain ⟨all, few⟩ := @from_cons_of_error _ environment filter block rest counted search
              fast sameSize exception found
            rw [all, few]
            refine iff_of_true rfl ?_
            have unknown : ¬ BlockIndex.CommunityKnown environment filter := by
              intro known
              have searched := @BlockIndex.findTransactions_of_known environment
                (filterCopy filter search.size) block.index known
              cases found.symm.trans searched
            exact pagesStay_of_unknown reliable unknown search.size (block :: rest)
        | ok transactionNrs =>
            have sameLength : fast.result.length = search.result.length := by
              rw [sameResult, List.length_map]
            obtain ⟨transactions, isRead, isNumber⟩ :=
              exists_read_of_found reads (List.mem_cons_self ..) found
            have count : transactions.length = transactionNrs.length := by
              rw [← isNumber, List.length_map]
            have visitedFast := visitFast_eq paged (sameSize ▸ found)
            rw [List.length_append, sameLength] at visitedFast
            by_cases stays : BlockIndex.StaysInPage environment (filterCopy filter search.size)
                block.index
            · have onPage := BlockIndex.length_of_stays reliable stays found
              have atMost := @BlockIndex.pageLength_le environment (filterCopy filter search.size)
                block.index some
              rw [← onPage] at atMost
              change transactionNrs.length ≤ search.size at atMost
              have visited := visitBlock_of_fits running paged room found isRead (count ▸ atMost)
              rw [count] at visited
              have left : sizeLeft filter.pagination.size
                  (search.result.length + transactionNrs.length) =
                    search.size - transactionNrs.length := by
                unfold sizeLeft
                rw [if_pos (by omega)]
                omega
              rw [left] at visitedFast
              rw [allFrom_cons counted visited, fastFrom_cons counted visitedFast, ← onPage,
                or_iff_right counted, and_iff_right stays]
              have sameNext : (⟨fast.result ++ transactionNrs,
                  search.size - transactionNrs.length⟩ : FastSearch).result =
                    (search.result ++ transactions).map numberOf := by
                rw [List.map_append, isNumber, sameResult]
              by_cases full : search.size - transactionNrs.length = 0
              · have noRoom : ¬ transactionNrs.length < search.size := by omega
                rw [if_neg (by simp [full]), if_neg (by simp [full])]
                refine iff_of_true (congrArg Except.ok sameNext) fun more => absurd more noRoom
              · have more : transactionNrs.length < search.size := by omega
                rw [if_pos (by simp [full]), if_pos (by simp [full]), forall_prop_of_true more]
                apply ih (fun other member => reads other (List.mem_cons_of_mem _ member)) sameNext
                  rfl rfl full
                rw [List.length_append, count]
                change _ + (search.size - transactionNrs.length) = _
                omega
            · obtain ⟨same, success, more⟩ := BlockIndex.exists_of_not_stays reliable stays
              cases found.symm.trans success
              change search.size < transactionNrs.length at more
              obtain ⟨next, visited, length⟩ :=
                visitBlock_of_overflow running paged room found isRead (count ▸ more)
              rw [allFrom_cons counted visited, if_neg Bool.false_ne_true]
              refine iff_of_false (fun agree => ?_) fun pages =>
                stays (pages.resolve_left counted).1
              have overfull : filter.pagination.size <
                  (fast.result ++ transactionNrs).length := by
                rw [List.length_append, sameLength]
                omega
              rw [fastFrom_cons counted visitedFast] at agree
              have final : (next.result.map numberOf).length = filter.pagination.size := by
                rw [List.length_map, length]
              split at agree
              · have atMost := length_le_fastFrom agree
                change (fast.result ++ transactionNrs).length ≤ _ at atMost
                rw [final] at atMost
                omega
              · rw [← Except.ok.inj agree] at final
                change (fast.result ++ transactionNrs).length = _ at final
                omega

/-- Without pages the search of the indexes finds what is read. -/
theorem fastFrom_eq_of_unpaged (unpaged : filter.pagination.size = 0)
    {blocks : List (StoredBlock Entry)} (reads : ReadsNumbers numberOf blocks)
    {search : Search Entry Unit} {fast : FastSearch}
    (sameResult : fast.result = search.result.map numberOf) (sameSize : fast.size = search.size)
    (running : search.stopped = false) :
    fastFrom environment filter blocks fast =
      (allFrom environment filter blocks search).map (List.map numberOf) := by
  induction blocks generalizing search fast with
  | nil => exact congrArg Except.ok sameResult
  | cons block rest ih =>
      by_cases counted : block.index.getTransactionsCount = 0
      · obtain ⟨all, few⟩ := @from_cons_of_empty _ environment filter block rest counted search fast
        rw [all, few, sameResult]
        rfl
      · cases found : BlockIndex.findTransactions environment (filterCopy filter search.size)
            block.index with
        | error exception =>
            obtain ⟨all, few⟩ := @from_cons_of_error _ environment filter block rest counted search
              fast sameSize exception found
            rw [all, few]
            rfl
        | ok transactionNrs =>
            obtain ⟨transactions, isRead, isNumber⟩ :=
              exists_read_of_found reads (List.mem_cons_self ..) found
            have visited := visitBlock_of_unpaged running unpaged found isRead
            have visitedFast : visitFast environment filter block fast =
                (.ok true, ⟨fast.result ++ transactionNrs, fast.size⟩) := by
              unfold visitFast
              rw [sameSize, found]
              dsimp only
              rw [if_neg (not_not_intro unpaged)]
            rw [allFrom_cons counted visited, fastFrom_cons counted visitedFast, if_pos rfl,
              if_pos rfl]
            refine @ih (fun other member => reads other (List.mem_cons_of_mem _ member))
              ⟨search.result ++ transactions, search.size, false, search.state⟩
              ⟨fast.result ++ transactionNrs, fast.size⟩ ?_ sameSize rfl
            change fast.result ++ transactionNrs = (search.result ++ transactions).map numberOf
            rw [List.map_append, isNumber, sameResult]

/-- What is counted from a number of counted transactions on. -/
def countFrom (environment : SearchEnvironment) (filter : Filter) (blocks : List (StoredBlock Entry))
    (count : Nat) : Except Exception Nat :=
  let final := iterateBlocks (countBlock environment filter) blocks count
  final.1.map fun _ => final.2

/-- The indexes count what a search for all pages reads. -/
theorem countFrom_eq (reliable : environment.Reliable) {blocks : List (StoredBlock Entry)}
    (reads : ReadsNumbers numberOf blocks) {search : Search Entry Unit} (size : search.size = 0)
    (running : search.stopped = false) :
    countFrom environment filter blocks search.result.length =
      (allFrom environment (filterCopy filter 0) blocks search).map List.length := by
  induction blocks generalizing search with
  | nil => rfl
  | cons block rest ih =>
      by_cases counted : block.index.getTransactionsCount = 0
      · rw [(@from_cons_of_empty _ environment (filterCopy filter 0) block rest counted search
          ⟨[], 0⟩).1]
        unfold countFrom
        rw [iterateBlocks, if_pos counted]
        rfl
      · have sameFilter : filterCopy (filterCopy filter 0) search.size = filterCopy filter 0 := by
          rw [size]
          rfl
        have isCount := @BlockIndex.countTransactions_eq environment filter block.index reliable
        cases found : BlockIndex.findTransactions environment (filterCopy filter 0)
            block.index with
        | error exception =>
            rw [found] at isCount
            have visited : countBlock environment filter block search.result.length =
                (.error exception, search.result.length) := by
              unfold countBlock
              rw [isCount]
              rfl
            rw [(@from_cons_of_error _ environment (filterCopy filter 0) block rest counted search
              ⟨[], search.size⟩ rfl exception (sameFilter ▸ found)).1]
            unfold countFrom
            rw [iterateBlocks_error counted visited]
            rfl
        | ok transactionNrs =>
            rw [found] at isCount
            obtain ⟨transactions, isRead, isNumber⟩ :=
              exists_read_of_found reads (List.mem_cons_self ..) found
            have visited := @visitBlock_of_unpaged _ environment (filterCopy filter 0) block
              transactionNrs transactions search running rfl (sameFilter ▸ found) isRead
            have visitedCount : countBlock environment filter block search.result.length =
                (.ok true, (search.result ++ transactions).length) := by
              unfold countBlock
              rw [isCount, List.length_append, ← @List.length_map _ _ transactions numberOf,
                isNumber]
              rfl
            rw [allFrom_cons counted visited, if_pos rfl]
            refine Eq.trans ?_ (ih (fun other member => reads other
              (List.mem_cons_of_mem _ member)) size rfl)
            unfold countFrom
            rw [iterateBlocks_cons counted visitedCount]
            rfl

/-- The two searches of the indexes agree with the full search if and only if there is no page
to fill or, as long as there is room on it, no index leaves it. -/
theorem searchesAgree_iff_pagesStay (reliable : environment.Reliable)
    {blocks : List (StoredBlock Entry)} (reads : ReadsNumbers numberOf blocks) :
    SearchesAgree environment filter numberOf blocks ↔
      (filter.pagination.size ≠ 0 →
        PagesStay environment filter filter.pagination.size
          (filter.searchDirection.inOrder blocks)) := by
  have readsInOrder : ReadsNumbers numberOf (filter.searchDirection.inOrder blocks) :=
    fun block member => reads block (mem_inOrder.mp member)
  have all (other : Filter) : findAllUnfiltered environment other blocks =
      allFrom environment other (other.searchDirection.inOrder blocks)
        ⟨[], other.pagination.size, false, ()⟩ := rfl
  have fast : findAllFast environment filter blocks =
      fastFrom environment filter (filter.searchDirection.inOrder blocks)
        ⟨[], filter.pagination.size⟩ := rfl
  have count : findAllResultCount environment filter blocks =
      (findAllUnfiltered environment (filterCopy filter 0) blocks).map List.length :=
    @countFrom_eq _ environment filter numberOf reliable _ readsInOrder ⟨[], 0, false, ()⟩ rfl rfl
  have both : SearchesAgree environment filter numberOf blocks ↔
      fastFrom environment filter (filter.searchDirection.inOrder blocks)
          ⟨[], filter.pagination.size⟩ =
        (allFrom environment filter (filter.searchDirection.inOrder blocks)
          ⟨[], filter.pagination.size, false, ()⟩).map (List.map numberOf) := by
    rw [← fast, ← all]
    exact ⟨SearchesAgree.fast, fun agree => ⟨agree, count⟩⟩
  rw [both]
  by_cases unpaged : filter.pagination.size = 0
  · exact iff_of_true (fastFrom_eq_of_unpaged unpaged readsInOrder rfl rfl rfl)
      fun paged => absurd unpaged paged
  · rw [forall_prop_of_true unpaged]
    exact fastFrom_eq_iff_pagesStay reliable unpaged readsInOrder rfl rfl rfl unpaged
      (Nat.zero_add _)

end

section Example

/-- A block with transactions of these months. -/
def blockOfMonths (months : List UInt8) : StoredBlock UInt64 where
  index := BlockIndex.indexOfMonths months
  getTransaction := .ok

/-- The example block reads its numbers. -/
theorem readsNumbers_blockOfMonths (months : List UInt8) :
    ReadsNumbers id [blockOfMonths months] := by
  intro block member entry _
  rw [List.mem_singleton.mp member]
  exact ⟨entry.transactionNr, rfl, rfl⟩

/-- Two transactions of May: the index stays on the page. -/
theorem pagesStay_oneMonth :
    PagesStay exampleSearch (examplePage 1 1) 1 [blockOfMonths [5, 5]] := by
  have agree : SearchesAgree exampleSearch (examplePage 1 1) id [blockOfMonths [5, 5]] :=
    ⟨rfl, rfl⟩
  exact (searchesAgree_iff_pagesStay BlockIndex.reliable_exampleSearch
    (readsNumbers_blockOfMonths [5, 5])).mp agree Nat.one_ne_zero

/-- A page of one transaction, and one transaction each of May and of June. -/
theorem not_searchesAgree_twoMonths :
    exampleSearch.Reliable ∧ ReadsNumbers id [blockOfMonths [5, 6]] ∧
      ¬ SearchesAgree exampleSearch (examplePage 1 1) id [blockOfMonths [5, 6]] := by
  refine ⟨BlockIndex.reliable_exampleSearch, readsNumbers_blockOfMonths [5, 6], fun agree => ?_⟩
  have fast : findAllFast exampleSearch (examplePage 1 1) [blockOfMonths [5, 6]] =
      .ok [1, 2] := rfl
  have all : findAllUnfiltered exampleSearch (examplePage 1 1) [blockOfMonths [5, 6]] =
      .ok [1] := rfl
  have same := agree.fast
  rw [fast, all] at same
  exact absurd (Except.ok.inj same) (by decide)

end Example

end FileBased

end Blockchain

end GradidoNode

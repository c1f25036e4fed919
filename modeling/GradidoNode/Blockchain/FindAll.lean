import GradidoNode.Cache.FindTransactions
import GradidoNode.Exceptions
import GradidoNode.Library.Fallible

/-!
# Searching a blockchain

The search goes through the blocks in the search direction and shows the filter function what
the index of each block matches. The page is applied by the index, once more in every block.
-/

namespace GradidoNode

open Library Cache

namespace Blockchain

/-- A block as a search sees it. -/
structure StoredBlock (Entry : Type) where
  index : BlockIndex
  getTransaction : UInt64 → Except Exception Entry

/-- What the callback of `findAll` works on: the result, the size left in the copy of the
filter, whether the filter function has stopped the search, and what the filter function
itself works on. -/
structure Search (Entry State : Type) where
  result : List Entry
  size : Nat
  stopped : Bool
  state : State

namespace FileBased

variable {Entry State : Type}

/-- `iterateBlocks`, on the blocks in search direction. -/
def iterateBlocks (callback : StoredBlock Entry → Throwing State Bool) :
    List (StoredBlock Entry) → Throwing State Unit
  | [] => Fallible.outcome (.ok ())
  | block :: rest =>
      if block.index.getTransactionsCount = 0 then Fallible.outcome (.ok ())
      else (callback block).andThen fun goOn =>
        if goOn then iterateBlocks callback rest else Fallible.outcome (.ok ())

variable (environment : SearchEnvironment) (filter : Filter)
  (filterFunction : Entry → Throwing State FilterResult)

/-- The filter function, within a search. -/
def filterWithin (transaction : Entry) : Throwing (Search Entry State) FilterResult :=
  Fallible.onPart Search.state (fun search state => { search with state := state })
    (filterFunction transaction)

/-- What a filter result does to a search. -/
def takeResult (transaction : Entry) (filterResult : FilterResult)
    (search : Search Entry State) : Search Entry State where
  result := if filterResult.use then search.result ++ [transaction] else search.result
  size := search.size
  stopped := search.stopped || filterResult.stop
  state := search.state

/-- The loop over the transactions found in a block. It yields false when the page is full. -/
def lookAt : List (Except Exception Entry) → Throwing (Search Entry State) Bool
  | [] => Fallible.outcome (.ok true)
  | transaction :: rest => fun search =>
      if !filter.pagination.hasCapacityLeft search.result.length then (.ok false, search)
      else
        match transaction with
        | .error exception => (.error exception, search)
        | .ok transaction =>
            (filterWithin filterFunction transaction).andThen (fun filterResult search =>
              if filterResult.stop then (.ok true, takeResult transaction filterResult search)
              else lookAt rest (takeResult transaction filterResult search)) search

/-- The copy of the filter with the number of transactions still to find. -/
def filterCopy (size : Nat) : Filter :=
  { filter with pagination := ⟨size, filter.pagination.page⟩ }

/-- The size left, and whether to go on with the next block. -/
def finishBlock (capacityLeft : Bool) : Throwing (Search Entry State) Bool := fun search =>
  if !capacityLeft then (.ok false, search)
  else if filter.pagination.size ≠ 0 then
    let size := filter.pagination.size - search.result.length
    (.ok (size ≠ 0 && !search.stopped), { search with size := size })
  else (.ok (!search.stopped), search)

/-- The callback of `findAll`. -/
def visitBlock (block : StoredBlock Entry) : Throwing (Search Entry State) Bool := fun search =>
  match BlockIndex.findTransactions environment (filterCopy filter search.size) block.index with
  | .error exception => (.error exception, search)
  | .ok transactionNrs =>
      (lookAt filter filterFunction (transactionNrs.map block.getTransaction)).andThen
        (finishBlock filter) search

def findAll (blocks : List (StoredBlock Entry)) : Throwing State (List Entry) := fun state =>
  let search := iterateBlocks (visitBlock environment filter filterFunction)
    (filter.searchDirection.inOrder blocks) ⟨[], filter.pagination.size, false, state⟩
  (search.1.map fun _ => search.2.result, search.2.state)

/-- The transactions of a list for which the filter function says USE, up to its first STOP. -/
def usedUntilStop (result : Entry → FilterResult) : List Entry → List Entry
  | [] => []
  | transaction :: rest =>
      (if (result transaction).use then [transaction] else []) ++
        if (result transaction).stop then [] else usedUntilStop result rest

/-- The page of a list. -/
def pageOf (pagination : Pagination) (transactions : List Entry) : List Entry :=
  if pagination.size = 0 then transactions
  else (transactions.drop ((pagination.page - 1) * pagination.size)).take pagination.size

/-- A filter function without effects. -/
def pureFilter (result : Entry → FilterResult) (transaction : Entry) : Throwing State FilterResult :=
  Fallible.outcome (.ok (result transaction))

/-- Blocks that are not empty and store transactions with ascending numbers. -/
structure ChainStored (blocks : List (StoredBlock Entry)) (transactionOf : UInt64 → Entry) :
    Prop where
  ascending : (blocks.flatMap fun block => block.index.allEntries).Pairwise fun first second =>
    first.transactionNr < second.transactionNr
  nonempty : ∀ block ∈ blocks, block.index.allEntries ≠ []
  positive : ∀ block ∈ blocks, 0 < block.index.minTransactionNr
  ranged : ∀ block ∈ blocks, block.index.Ranged
  calendar : ∀ block ∈ blocks, block.index.CalendarMonths
  stored : ∀ block ∈ blocks, ∀ entry ∈ block.index.allEntries,
    block.getTransaction entry.transactionNr = .ok (transactionOf entry.transactionNr)

/-- The transactions of a block that satisfy the index criteria, in search direction. -/
def matchedIn (transactionOf : UInt64 → Entry) (block : StoredBlock Entry) : List Entry :=
  (BlockIndex.matchesInOrder environment filter block.index).map transactionOf

/-- The transactions of the chain that satisfy the index criteria, in search direction. -/
def matchedInChain (transactionOf : UInt64 → Entry) (blocks : List (StoredBlock Entry)) :
    List Entry :=
  filter.searchDirection.inOrder (blocks.flatMap fun block =>
    (BlockIndex.matchesOf environment filter block.index).map fun entry =>
      transactionOf entry.transactionNr)

section LookAt

variable {filter} {result : Entry → FilterResult}

/-- The filter's answer about the first transaction, then the rest unless it stops. -/
theorem usedUntilStop_cons (transaction : Entry) (rest : List Entry) :
    usedUntilStop result (transaction :: rest) =
      (if (result transaction).use then [transaction] else []) ++
        if (result transaction).stop then [] else usedUntilStop result rest := rfl

/-- Behind a stop nothing is used. -/
theorem usedUntilStop_append_of_stop {first : List Entry} (second : List Entry)
    (stops : ∃ transaction ∈ first, (result transaction).stop = true) :
    usedUntilStop result (first ++ second) = usedUntilStop result first := by
  induction first with
  | nil =>
      obtain ⟨_, member, _⟩ := stops
      cases member
  | cons transaction rest ih =>
      rw [List.cons_append, usedUntilStop_cons, usedUntilStop_cons]
      cases here : (result transaction).stop with
      | true => rfl
      | false =>
          obtain ⟨other, member, stopsAt⟩ := stops
          rcases List.mem_cons.mp member with rfl | later
          · rw [here] at stopsAt
            cases stopsAt
          · rw [if_neg Bool.false_ne_true, if_neg Bool.false_ne_true, ih ⟨other, later, stopsAt⟩]

/-- Without a stop both lists are used. -/
theorem usedUntilStop_append_of_not {first : List Entry} (second : List Entry)
    (runs : ∀ transaction ∈ first, (result transaction).stop = false) :
    usedUntilStop result (first ++ second) =
      usedUntilStop result first ++ usedUntilStop result second := by
  induction first with
  | nil => rfl
  | cons transaction rest ih =>
      have here := runs transaction (List.mem_cons_self ..)
      rw [List.cons_append, usedUntilStop_cons, usedUntilStop_cons, here, if_neg Bool.false_ne_true, if_neg Bool.false_ne_true,
        ih fun other member => runs other (List.mem_cons_of_mem _ member), List.append_assoc]

/-- Without a stop all transactions that the filter uses are there. -/
theorem usedUntilStop_eq_filter {transactions : List Entry}
    (runs : ∀ transaction ∈ transactions, (result transaction).stop = false) :
    usedUntilStop result transactions =
      transactions.filter fun transaction => (result transaction).use := by
  induction transactions with
  | nil => rfl
  | cons transaction rest ih =>
      rw [usedUntilStop_cons, runs transaction (List.mem_cons_self ..), List.filter_cons,
        ih fun other member => runs other (List.mem_cons_of_mem _ member)]
      cases (result transaction).use with
      | true => rfl
      | false => rfl

/-- What is used is a part of the transactions. -/
theorem usedUntilStop_sublist (transactions : List Entry) :
    (usedUntilStop result transactions).Sublist transactions := by
  induction transactions with
  | nil => exact List.Sublist.slnil
  | cons transaction rest ih =>
      have restKept : (if (result transaction).stop then []
          else usedUntilStop result rest).Sublist rest := by
        split
        · exact List.nil_sublist _
        · exact ih
      rw [usedUntilStop_cons]
      cases (result transaction).use with
      | true => exact List.Sublist.cons_cons _ restKept
      | false => exact List.Sublist.cons _ restKept

/-- The outcomes of reading transactions that are all stored. -/
def read (transactions : List Entry) : List (Except Exception Entry) := transactions.map .ok

/-- One turn of the loop over a block's transactions, while the page has room. -/
theorem lookAt_cons {transaction : Entry} {rest : List Entry} {search : Search Entry State}
    (capacity : filter.pagination.hasCapacityLeft search.result.length = true) :
    lookAt filter (pureFilter result) (read (transaction :: rest)) search =
      if (result transaction).stop then
        (.ok true, takeResult transaction (result transaction) search)
      else lookAt filter (pureFilter result) (read rest)
        (takeResult transaction (result transaction) search) := by
  change (if !filter.pagination.hasCapacityLeft search.result.length then (.ok false, search)
    else (filterWithin (pureFilter result) transaction).andThen (fun filterResult search =>
      if filterResult.stop then (.ok true, takeResult transaction filterResult search)
      else lookAt filter (pureFilter result) (read rest)
        (takeResult transaction filterResult search)) search) = _
  rw [capacity, Bool.not_true, if_neg Bool.false_ne_true]
  rfl

/-- Transactions for which there is room are all looked at, up to the first STOP. -/
theorem lookAt_append {first second : List Entry} {search : Search Entry State}
    (running : search.stopped = false)
    (room : filter.pagination.size = 0 ∨
      search.result.length + first.length ≤ filter.pagination.size) :
    lookAt filter (pureFilter result) (read (first ++ second)) search =
      if ∃ transaction ∈ first, (result transaction).stop = true then
        (.ok true, ⟨search.result ++ usedUntilStop result first, search.size, true, search.state⟩)
      else lookAt filter (pureFilter result) (read second)
        ⟨search.result ++ usedUntilStop result first, search.size, false, search.state⟩ := by
  obtain ⟨before, size, stopped, state⟩ := search
  cases running
  induction first generalizing before with
  | nil =>
      have none : ¬ ∃ transaction ∈ ([] : List Entry), (result transaction).stop = true := nofun
      rw [if_neg none]
      simp only [usedUntilStop, List.append_nil, List.nil_append]
  | cons transaction rest ih =>
      have capacity : filter.pagination.hasCapacityLeft before.length = true := by
        rw [Pagination.hasCapacityLeft_iff]
        simp only [List.length_cons] at room
        omega
      rw [List.cons_append, lookAt_cons capacity, usedUntilStop_cons]
      cases here : (result transaction).stop with
      | true =>
          have stops : ∃ other ∈ transaction :: rest, (result other).stop = true :=
            ⟨transaction, List.mem_cons_self .., here⟩
          rw [if_pos rfl, if_pos stops, takeResult, here]
          cases (result transaction).use with
          | true => simp
          | false => simp
      | false =>
          have later : (∃ other ∈ transaction :: rest, (result other).stop = true) ↔
              ∃ other ∈ rest, (result other).stop = true := by
            simp [here]
          have taken : takeResult transaction (result transaction)
              (⟨before, size, false, state⟩ : Search Entry State) =
                ⟨before ++ (if (result transaction).use then [transaction] else []), size, false,
                  state⟩ := by
            rw [takeResult, here]
            cases (result transaction).use with
            | true => rfl
            | false => simp
          rw [if_neg Bool.false_ne_true, if_neg Bool.false_ne_true, taken, ih]
          · simp only [later, List.append_assoc]
          · have added : (if (result transaction).use = true then [transaction] else []).length ≤ 1 := by
              split <;> simp
            simp only [List.length_cons, List.length_append] at room ⊢
            omega

/-- Without capacity nothing is looked at. -/
theorem lookAt_of_full {transactions : List Entry} {search : Search Entry State}
    (full : filter.pagination.hasCapacityLeft search.result.length = false) :
    ∃ capacityLeft, lookAt filter (pureFilter result) (read transactions) search =
      (.ok capacityLeft, search) := by
  cases transactions with
  | nil => exact ⟨true, rfl⟩
  | cons transaction rest =>
      refine ⟨false, ?_⟩
      unfold read lookAt
      rw [List.map_cons]
      dsimp only
      rw [full]
      rfl

end LookAt

section Visit

variable {environment filter} {filterFunction : Entry → Throwing State FilterResult}
  {transactionOf : UInt64 → Entry} {block : StoredBlock Entry}

/-- A block whose index can be searched and whose transactions can be read. -/
structure BlockReadable (environment : SearchEnvironment) (filter : Filter)
    (transactionOf : UInt64 → Entry) (block : StoredBlock Entry) : Prop where
  searchable : BlockIndex.Searchable environment filter block.index
  counted : block.index.getTransactionsCount ≠ 0
  stored : ∀ entry ∈ block.index.allEntries,
    block.getTransaction entry.transactionNr = .ok (transactionOf entry.transactionNr)

/-- A readable block is searchable with the copied filter. -/
theorem BlockReadable.searchableCopy (readable : BlockReadable environment filter transactionOf block)
    (size : Nat) : BlockIndex.Searchable environment (filterCopy filter size) block.index :=
  ⟨readable.searchable.months, readable.searchable.calendar, readable.searchable.ranged,
    readable.searchable.known, readable.searchable.right⟩

/-- Every number found in a readable block reads its transaction. -/
theorem BlockReadable.getTransaction_eq
    (readable : BlockReadable environment filter transactionOf block)
    {transactionNrs : List UInt64}
    (found : ∀ transactionNr ∈ transactionNrs,
      transactionNr ∈ BlockIndex.matchesInOrder environment filter block.index) :
    transactionNrs.map block.getTransaction = read (transactionNrs.map transactionOf) := by
  unfold read
  rw [List.map_map]
  apply List.map_congr_left
  intro transactionNr member
  obtain ⟨entry, matched, rfl⟩ := List.mem_map.mp (mem_inOrder.mp (found transactionNr member))
  exact readable.stored entry (BlockIndex.mem_matchesOf matched).1

/-- Without a page size the block hands over all its matches. -/
theorem visitBlock_unpaged (readable : BlockReadable environment filter transactionOf block)
    {search : Search Entry State} (unpaged : search.size = 0) :
    visitBlock environment filter filterFunction block search =
      (lookAt filter filterFunction (read (matchedIn environment filter transactionOf block))).andThen
        (finishBlock filter) search := by
  have found := BlockIndex.findTransactions_unpaged (readable.searchableCopy search.size) unpaged
  have transactions := @BlockReadable.getTransaction_eq _ environment filter transactionOf block
    readable (BlockIndex.matchesInOrder environment filter block.index) fun _ member => member
  unfold visitBlock
  rw [found]
  dsimp only
  rw [matchedIn, ← transactions]
  rfl

/-- Without a page the search goes on unless it was stopped. -/
theorem finishBlock_unpaged (unpaged : filter.pagination.size = 0) (search : Search Entry State) :
    finishBlock filter true search = (.ok (!search.stopped), search) := by
  unfold finishBlock
  rw [Bool.not_true, if_neg Bool.false_ne_true, if_neg (not_not.mpr unpaged)]

/-- With a page the search goes on unless it was stopped or there is no room left. -/
theorem finishBlock_paged (paged : filter.pagination.size ≠ 0) (search : Search Entry State) :
    finishBlock filter true search =
      (.ok (filter.pagination.size - search.result.length ≠ 0 && !search.stopped),
        ⟨search.result, filter.pagination.size - search.result.length, search.stopped,
          search.state⟩) := by
  unfold finishBlock
  rw [Bool.not_true, if_neg Bool.false_ne_true, if_pos paged]

end Visit

section Iterate

/-- One turn of the loop over the blocks. -/
theorem iterateBlocks_cons {callback : StoredBlock Entry → Throwing State Bool}
    {block : StoredBlock Entry} {rest : List (StoredBlock Entry)}
    (counted : block.index.getTransactionsCount ≠ 0) {state next : State} {goOn : Bool}
    (visited : callback block state = (.ok goOn, next)) :
    iterateBlocks callback (block :: rest) state =
      if goOn then iterateBlocks callback rest next else (.ok (), next) := by
  rw [iterateBlocks, if_neg counted, Fallible.andThen_of_ok visited]
  cases goOn with
  | true => rfl
  | false => rfl

end Iterate

section Dismissing

variable {environment filter} {step : Entry → Throwing State Unit}
  {transactionOf : UInt64 → Entry}

/-- A filter function that does something with each transaction and dismisses it. -/
def dismissing (step : Entry → Throwing State Unit) (transaction : Entry) :
    Throwing State FilterResult :=
  (step transaction).andThen fun _ => Fallible.outcome (.ok FilterResult.DISMISS)

/-- A search with another state of the filter function. -/
def withState (search : Search Entry State) (state : State) : Search Entry State :=
  { search with state := state }

/-- A dismissed transaction leaves the result. -/
theorem takeResult_dismiss (transaction : Entry) (search : Search Entry State) :
    takeResult transaction FilterResult.DISMISS search = search := by
  obtain ⟨before, size, stopped, state⟩ := search
  cases stopped with
  | false => rfl
  | true => rfl

/-- A filter that dismisses everything only runs its steps. -/
theorem lookAt_dismissing (transactions : List Entry) {search : Search Entry State}
    (capacity : filter.pagination.hasCapacityLeft search.result.length = true) :
    lookAt filter (dismissing step) (read transactions) search =
      ((Fallible.forEach step transactions search.state).1.map fun _ => true,
        withState search (Fallible.forEach step transactions search.state).2) := by
  induction transactions generalizing search with
  | nil => rfl
  | cons transaction rest ih =>
      change (if !filter.pagination.hasCapacityLeft search.result.length then (.ok false, search)
        else (filterWithin (dismissing step) transaction).andThen (fun filterResult search =>
          if filterResult.stop then (.ok true, takeResult transaction filterResult search)
          else lookAt filter (dismissing step) (read rest)
            (takeResult transaction filterResult search)) search) = _
      rw [capacity, Bool.not_true, if_neg Bool.false_ne_true, Fallible.forEach_cons]
      rcases taken : step transaction search.state with ⟨error | _, next⟩
      · have thrown : filterWithin (dismissing step) transaction search =
            (.error error, withState search next) := by
          unfold filterWithin Fallible.onPart dismissing
          rw [Fallible.andThen_of_error taken]
          rfl
        rw [Fallible.andThen_of_error thrown, Fallible.andThen_of_error taken]
        rfl
      · have dismissed : filterWithin (dismissing step) transaction search =
            (.ok FilterResult.DISMISS, withState search next) := by
          unfold filterWithin Fallible.onPart dismissing
          rw [Fallible.andThen_of_ok taken]
          rfl
        rw [Fallible.andThen_of_ok dismissed, Fallible.andThen_of_ok taken, takeResult_dismiss]
        exact @ih (withState search next) capacity

/-- A search that dismisses every transaction does for each that matches what the filter
function does, in search direction, and ends where that throws. -/
theorem iterateBlocks_dismissing (unpaged : filter.pagination.size = 0)
    {blocks : List (StoredBlock Entry)}
    (readable : ∀ block ∈ blocks, BlockReadable environment filter transactionOf block)
    {search : Search Entry State} (running : search.stopped = false) (sizeless : search.size = 0) :
    iterateBlocks (visitBlock environment filter (dismissing step)) blocks search =
      ((Fallible.forEach step (blocks.flatMap (matchedIn environment filter transactionOf))
        search.state).1,
      withState search (Fallible.forEach step
        (blocks.flatMap (matchedIn environment filter transactionOf)) search.state).2) := by
  induction blocks generalizing search with
  | nil => rfl
  | cons block rest ih =>
      have isReadable := readable block (List.mem_cons_self ..)
      have looked := @lookAt_dismissing _ _ filter step
        (matchedIn environment filter transactionOf block) search
        (Pagination.hasCapacityLeft_iff.mpr (Or.inl unpaged))
      have visited := @visitBlock_unpaged _ _ environment filter (dismissing step) transactionOf
        block isReadable search sizeless
      rw [List.flatMap_cons, Fallible.forEach_append]
      rcases taken : Fallible.forEach step (matchedIn environment filter transactionOf block)
        search.state with ⟨error | _, next⟩
      · rw [taken] at looked
        rw [Fallible.andThen_of_error looked] at visited
        rw [iterateBlocks, if_neg isReadable.counted, Fallible.andThen_of_error visited,
          Fallible.andThen_of_error taken]
      · rw [taken] at looked
        have finished : finishBlock filter true (withState search next) =
            (.ok true, withState search next) := by
          rw [finishBlock_unpaged unpaged]
          change (Except.ok (!search.stopped), _) = _
          rw [running]
          rfl
        rw [Fallible.andThen_of_ok looked, finished] at visited
        rw [iterateBlocks_cons isReadable.counted visited, if_pos rfl,
          Fallible.andThen_of_ok taken]
        exact @ih (fun other member => readable other (List.mem_cons_of_mem _ member))
          (withState search next) running sizeless

end Dismissing

section Main

variable {environment filter} {transactionOf : UInt64 → Entry} {blocks : List (StoredBlock Entry)}

/-- The matches of the blocks in order are those of the chain. -/
theorem flatMap_matchedIn :
    (filter.searchDirection.inOrder blocks).flatMap (matchedIn environment filter transactionOf) =
      matchedInChain environment filter transactionOf blocks := by
  have perBlock : matchedIn environment filter transactionOf = fun block : StoredBlock Entry =>
      filter.searchDirection.inOrder ((BlockIndex.matchesOf environment filter block.index).map
        fun entry => transactionOf entry.transactionNr) := by
    funext block
    rw [matchedIn, BlockIndex.matchesInOrder, inOrder_map, List.map_map]
    rfl
  rw [perBlock, inOrder_flatMap]
  rfl

/-- An index whose range begins behind 0 counts transactions. -/
theorem getTransactionsCount_ne_zero {index : BlockIndex} (positive : 0 < index.minTransactionNr)
    (ordered : index.minTransactionNr ≤ index.maxTransactionNr) :
    index.getTransactionsCount ≠ 0 := by
  unfold BlockIndex.getTransactionsCount
  rw [if_neg fun none => absurd none.2 (ne_of_gt positive)]
  intro none
  have number := congrArg UInt64.toNat none
  rw [UInt64.lt_iff_toNat_lt] at positive
  rw [UInt64.le_iff_toNat_le] at ordered
  rw [UInt64.toNat_add, UInt64.toNat_sub_of_le _ _ (UInt64.le_iff_toNat_le.mpr ordered)] at number
  have bound := index.maxTransactionNr.toNat_lt
  simp only [UInt64.toNat_zero, UInt64.toNat_one] at number positive
  omega

/-- No block of a chain counts as empty. -/
theorem ChainStored.counted (stored : ChainStored blocks transactionOf)
    {block : StoredBlock Entry} (member : block ∈ blocks) :
    block.index.getTransactionsCount ≠ 0 := by
  obtain ⟨entry, isEntry⟩ := List.exists_mem_of_ne_nil _ (stored.nonempty block member)
  have range := stored.ranged block member entry isEntry
  exact getTransactionsCount_ne_zero (stored.positive block member) (le_trans range.1 range.2)

/-- The blocks of a chain can be searched and read. -/
theorem ChainStored.readable (stored : ChainStored blocks transactionOf)
    (months : BlockIndex.MonthsInOrder environment.monthsInRange)
    (known : BlockIndex.CommunityKnown environment filter)
    (interval : ∀ block ∈ blocks, BlockIndex.IntervalRight environment filter block.index)
    {block : StoredBlock Entry} (member : block ∈ blocks) :
    BlockReadable environment filter transactionOf block where
  searchable := ⟨months, stored.calendar block member, stored.ranged block member, known,
    interval block member⟩
  counted := stored.counted member
  stored := stored.stored block member

/-- A search that dismisses every transaction, on the whole chain. -/
theorem findAll_dismissing (months : BlockIndex.MonthsInOrder environment.monthsInRange)
    (stored : ChainStored blocks transactionOf)
    (known : BlockIndex.CommunityKnown environment filter)
    (interval : ∀ block ∈ blocks, BlockIndex.IntervalRight environment filter block.index)
    (unpaged : filter.pagination.size = 0) (step : Entry → Throwing State Unit) (state : State) :
    findAll environment filter (dismissing step) blocks state =
      ((Fallible.forEach step (matchedInChain environment filter transactionOf blocks)
        state).1.map fun _ => [],
      (Fallible.forEach step (matchedInChain environment filter transactionOf blocks) state).2) := by
  have readable : ∀ block ∈ filter.searchDirection.inOrder blocks,
      BlockReadable environment filter transactionOf block := fun block member =>
    stored.readable months known interval (mem_inOrder.mp member)
  have iterated := @iterateBlocks_dismissing _ _ environment filter step transactionOf unpaged _
    readable ⟨[], filter.pagination.size, false, state⟩ rfl unpaged
  unfold findAll
  rw [iterated, flatMap_matchedIn]
  rfl

end Main

section Example

/-- The months between two, year by year. -/
def monthsBetween (startDate endDate : YearMonth) : List YearMonth :=
  ((List.range ((ofLex endDate).1.toInt - (ofLex startDate).1.toInt + 1).toNat).flatMap
    fun offset : Nat => (List.range 12).map fun month : Nat =>
      (toLex (Int16.ofInt ((ofLex startDate).1.toInt + (offset : Int)), UInt8.ofNat (month + 1)) :
        YearMonth)).filter fun timepoint => startDate ≤ timepoint ∧ timepoint ≤ endDate

/-- The months between two dates come in order. -/
theorem monthsInOrder_monthsBetween : BlockIndex.MonthsInOrder monthsBetween := by
  intro startDate endDate
  have yearOf {offset : Nat}
      (inside : offset ∈ List.range
        ((ofLex endDate).1.toInt - (ofLex startDate).1.toInt + 1).toNat) :
      (Int16.ofInt ((ofLex startDate).1.toInt + offset)).toInt =
        (ofLex startDate).1.toInt + offset := by
    have below := List.mem_range.mp inside
    have lowest := (ofLex startDate).1.le_toInt
    have highest := (ofLex endDate).1.toInt_lt
    apply Int16.toInt_ofInt_of_le <;> omega
  have monthOf {month : Nat} (inside : month ∈ List.range 12) :
      (UInt8.ofNat (month + 1)).toNat = month + 1 := by
    have below := List.mem_range.mp inside
    rw [UInt8.toNat_ofNat']
    omega
  constructor
  · apply List.Pairwise.filter
    apply List.pairwise_flatMap.mpr
    constructor
    · intro offset _
      apply List.pairwise_map.mpr
      apply List.Pairwise.imp_of_mem _ List.pairwise_lt_range
      intro first second inFirst inSecond below
      refine Prod.Lex.toLex_lt_toLex.mpr (Or.inr ⟨rfl, UInt8.lt_iff_toNat_lt.mpr ?_⟩)
      rw [monthOf inFirst, monthOf inSecond]
      omega
    · apply List.Pairwise.imp_of_mem _ List.pairwise_lt_range
      intro first second inFirst inSecond below left inLeft right inRight
      obtain ⟨_, _, rfl⟩ := List.mem_map.mp inLeft
      obtain ⟨_, _, rfl⟩ := List.mem_map.mp inRight
      refine Prod.Lex.toLex_lt_toLex.mpr (Or.inl (Int16.lt_iff_toInt_lt.mpr ?_))
      rw [yearOf inFirst, yearOf inSecond]
      omega
  · intro timepoint atLeast atMost
    unfold monthsBetween
    rw [List.mem_filter, decide_eq_true_iff]
    refine and_iff_right_of_imp ?_
    rintro ⟨start, ending⟩
    have startYear : (ofLex startDate).1.toInt ≤ (ofLex timepoint).1.toInt :=
      Int16.le_iff_toInt_le.mp (Prod.Lex.monotone_fst_ofLex start)
    have endYear : (ofLex timepoint).1.toInt ≤ (ofLex endDate).1.toInt :=
      Int16.le_iff_toInt_le.mp (Prod.Lex.monotone_fst_ofLex ending)
    rw [UInt8.le_iff_toNat_le] at atLeast atMost
    simp only [UInt8.reduceToNat] at atLeast atMost
    refine List.mem_flatMap.mpr
      ⟨((ofLex timepoint).1.toInt - (ofLex startDate).1.toInt).toNat, ?_, ?_⟩
    · rw [List.mem_range]
      omega
    · refine List.mem_map.mpr ⟨(ofLex timepoint).2.toNat - 1, ?_, ?_⟩
      · rw [List.mem_range]
        omega
      · have year : (ofLex startDate).1.toInt +
            (((ofLex timepoint).1.toInt - (ofLex startDate).1.toInt).toNat : Int) =
              (ofLex timepoint).1.toInt := by omega
        have month : (ofLex timepoint).2.toNat - 1 + 1 = (ofLex timepoint).2.toNat := by omega
        rw [year, month, Int16.ofInt_toInt, UInt8.ofNat_toNat]
        rfl

def exampleSearch : SearchEnvironment where
  findIndexForString := fun _ => 0
  getCommunityIdIndex := fun _ => .error (.runtimeError "not looked up")
  monthsInRange := monthsBetween

/-- The block of one transaction of May 2024. -/
def exampleBlock (transactionNr : UInt64) : StoredBlock UInt64 where
  index := (BlockIndex.addIndicesForTransaction {
    transactionType := 1
    coinCommunityIdIndex := 0
    year := 2024
    month := 5
    transactionNr := transactionNr
    fileCursor := 0
    addressIndices := []
    addressIndiceCount := 0 } BlockIndex.new).2
  getTransaction := .ok

/-- A page of all transactions, the oldest first. -/
def examplePage (page size : Nat) : Filter :=
  { Filter.ALL_TRANSACTIONS .ASC with pagination := ⟨size, page⟩ }

def twoBlocks : List (StoredBlock UInt64) := [exampleBlock 1, exampleBlock 2]

/-- The example chain of two blocks is stored. -/
theorem chainStored_twoBlocks : ChainStored twoBlocks id where
  ascending := by decide
  nonempty := by decide
  positive := by decide
  ranged := by
    unfold BlockIndex.Ranged
    decide
  calendar := by
    unfold BlockIndex.CalendarMonths
    decide
  stored block member entry _ := by
    rcases List.mem_cons.mp member with rfl | later
    · rfl
    · rw [List.mem_singleton.mp later]
      rfl

end Example

end FileBased

end Blockchain

end GradidoNode

import GradidoNode.Blockchain.Filter
import GradidoNode.Cache.BlockIndex

/-!
# Searching a block index

The search goes through the months of the index that overlap the time interval of the filter,
and applies the page of the filter to what the index matches, before any filter function has
seen it.
-/

namespace GradidoNode

open Library Blockchain

namespace Cache

/-- What a search asks outside the index: the dictionary of public keys, where 0 means not
found, the community index, and the months between two. -/
structure SearchEnvironment where
  findIndexForString : List UInt8 → UInt32
  getCommunityIdIndex : String → Except Exception UInt32
  monthsInRange : YearMonth → YearMonth → List YearMonth

namespace BlockIndex

def getTransactionsCount (index : BlockIndex) : UInt64 :=
  if index.maxTransactionNr = 0 ∧ index.minTransactionNr = 0 then 0
  else index.maxTransactionNr - index.minTransactionNr + 1

def hasTransactionNr (index : BlockIndex) (transactionNr : UInt64) : Bool :=
  index.minTransactionNr ≤ transactionNr && transactionNr ≤ index.maxTransactionNr

/-- The months of the index with their entries, in ascending order. -/
def allMonths (index : BlockIndex) : List (YearMonth × List BlockIndexEntry) :=
  index.yearMonthAddressIndexEntries.toList.flatMap fun year =>
    year.2.toList.map fun month => (toLex (year.1, month.1), month.2)

def getOldestYearMonth (index : BlockIndex) : YearMonth :=
  (index.allMonths.head?.map Prod.fst).getD (toLex (0, 0))

def getNewestYearMonth (index : BlockIndex) : YearMonth :=
  (index.allMonths.getLast?.map Prod.fst).getD (toLex (0, 0))

def filteredTimepointInterval (index : BlockIndex) (filter : Filter) : TimepointInterval :=
  let interval : TimepointInterval := ⟨index.getOldestYearMonth, index.getNewestYearMonth⟩
  match filter.timepointInterval with
  | none => interval
  | some wanted =>
      let startDate :=
        if interval.startDate < wanted.startDate then wanted.startDate else interval.startDate
      let endDate :=
        if interval.endDate > wanted.endDate then max startDate wanted.endDate
        else interval.endDate
      ⟨startDate, endDate⟩

/-- `BlockIndexEntry::isMatchingFilter`. -/
def isMatchingFilter (environment : SearchEnvironment) (filter : Filter) (publicKeyIndex : UInt32)
    (entry : BlockIndexEntry) : Except Exception FilterResult :=
  if filter.transactionType ≠ 0 ∧ filter.transactionType ≠ entry.transactionType then
    .ok FilterResult.DISMISS
  else
    let coinCommunityKeyIndex :=
      if filter.coinCommunityId.isEmpty then .ok 0
      else environment.getCommunityIdIndex filter.coinCommunityId
    match coinCommunityKeyIndex with
    | .error exception => .error exception
    | .ok coinCommunityKeyIndex =>
        if coinCommunityKeyIndex ≠ 0 ∧ coinCommunityKeyIndex ≠ entry.coinCommunityIdIndex then
          .ok FilterResult.DISMISS
        else if filter.minTransactionNr ≠ 0 ∧ filter.minTransactionNr > entry.transactionNr then
          .ok FilterResult.DISMISS
        else if filter.maxTransactionNr ≠ 0 ∧ filter.maxTransactionNr < entry.transactionNr then
          .ok FilterResult.DISMISS
        else if publicKeyIndex ≠ 0 ∧
            publicKeyIndex ∉ entry.addressIndices.take entry.addressIndiceCount.toNat then
          .ok FilterResult.DISMISS
        else .ok FilterResult.USE

/-- What the callbacks of `findTransactions` share. -/
structure Found where
  result : List UInt64
  paginationCursor : Nat
  deriving DecidableEq, Repr

/-- The callback for an entry, up to its decision whether to go on. -/
def Found.visit (pagination : Pagination) (entry : BlockIndexEntry) (filterResult : FilterResult)
    (found : Found) : Found :=
  if filterResult.use then
    ⟨if found.paginationCursor ≥ pagination.skipEntriesCount then
        found.result ++ [entry.transactionNr]
      else found.result, found.paginationCursor + 1⟩
  else found

/-- The entries of one month, in search direction. -/
def findInMonth (pagination : Pagination)
    (matching : BlockIndexEntry → Except Exception FilterResult) :
    List BlockIndexEntry → Found → Except Exception Found
  | [], found => .ok found
  | entry :: rest, found =>
      match matching entry with
      | .error exception => .error exception
      | .ok filterResult =>
          let found := found.visit pagination entry filterResult
          if !pagination.hasCapacityLeft found.result.length || filterResult.stop then .ok found
          else findInMonth pagination matching rest found

/-- The search goes on with the next month however the last one ended. -/
def findInMonths (pagination : Pagination)
    (matching : BlockIndexEntry → Except Exception FilterResult) :
    List (List BlockIndexEntry) → Found → Except Exception Found
  | [], found => .ok found
  | entries :: rest, found =>
      match findInMonth pagination matching entries found with
      | .error exception => .error exception
      | .ok found => findInMonths pagination matching rest found

/-- The index of the involved public key, 0 where the filter names none, and nothing where
the dictionary does not know it. -/
def publicKeyIndexOf (environment : SearchEnvironment) (filter : Filter) : Option UInt32 :=
  match filter.involvedPublicKey with
  | none => some 0
  | some publicKey =>
      if publicKey.isEmpty then some 0
      else if environment.findIndexForString publicKey ≠ 0 then
        some (environment.findIndexForString publicKey)
      else none

def findTransactions (environment : SearchEnvironment) (filter : Filter) (index : BlockIndex) :
    Except Exception (List UInt64) :=
  if filter.minTransactionNr ≠ 0 ∧ filter.minTransactionNr > index.maxTransactionNr ∨
      filter.maxTransactionNr ≠ 0 ∧ filter.maxTransactionNr < index.minTransactionNr then
    .ok []
  else
    match publicKeyIndexOf environment filter with
    | none => .ok []
    | some publicKeyIndex =>
        let interval := index.filteredTimepointInterval filter
        let months := filter.searchDirection.inOrder
          (environment.monthsInRange interval.startDate interval.endDate)
        (findInMonths filter.pagination (isMatchingFilter environment filter publicKeyIndex)
          (months.map fun timepoint => filter.searchDirection.inOrder
            (index.monthList (ofLex timepoint).1 (ofLex timepoint).2)) ⟨[], 0⟩).map Found.result

section Window

variable {pagination : Pagination} {matching : BlockIndexEntry → Except Exception FilterResult}
  {wanted : BlockIndexEntry → Bool}

/-- The numbers of the wanted entries. -/
def numbersOf (wanted : BlockIndexEntry → Bool) (entries : List BlockIndexEntry) : List UInt64 :=
  (entries.filter wanted).map BlockIndexEntry.transactionNr

/-- The wanted numbers of two lists of entries, one behind the other. -/
theorem numbersOf_append (wanted : BlockIndexEntry → Bool) (first second : List BlockIndexEntry) :
    numbersOf wanted (first ++ second) = numbersOf wanted first ++ numbersOf wanted second := by
  unfold numbersOf
  rw [List.filter_append, List.map_append]

/-- Every entry is decided without an exception, and none stops the search. -/
def Decides (matching : BlockIndexEntry → Except Exception FilterResult)
    (wanted : BlockIndexEntry → Bool) (entries : List BlockIndexEntry) : Prop :=
  ∀ entry ∈ entries, matching entry = .ok ⟨wanted entry, false⟩

/-- A filter that decides every entry of a list decides those behind the first. -/
theorem Decides.tail {entry : BlockIndexEntry} {rest : List BlockIndexEntry}
    (decides : Decides matching wanted (entry :: rest)) : Decides matching wanted rest :=
  fun other member => decides other (List.mem_cons_of_mem _ member)

/-- A wanted entry contributes its number. -/
theorem numbersOf_cons_of_wanted {entry : BlockIndexEntry} (rest : List BlockIndexEntry)
    (isWanted : wanted entry = true) :
    numbersOf wanted (entry :: rest) = entry.transactionNr :: numbersOf wanted rest := by
  unfold numbersOf
  rw [List.filter_cons_of_pos isWanted, List.map_cons]

/-- An entry that is not wanted contributes nothing. -/
theorem numbersOf_cons_of_not {entry : BlockIndexEntry} (rest : List BlockIndexEntry)
    (notWanted : wanted entry = false) :
    numbersOf wanted (entry :: rest) = numbersOf wanted rest := by
  unfold numbersOf
  rw [List.filter_cons_of_neg (by rw [notWanted]; exact Bool.false_ne_true)]

/-- One turn of the inner loop: the entry is visited, and the search of the month goes on while the
page has room. -/
theorem findInMonth_cons {entry : BlockIndexEntry} {rest : List BlockIndexEntry} {found : Found}
    (decided : matching entry = .ok ⟨wanted entry, false⟩) :
    findInMonth pagination matching (entry :: rest) found =
      if pagination.hasCapacityLeft
          (found.visit pagination entry ⟨wanted entry, false⟩).result.length then
        findInMonth pagination matching rest (found.visit pagination entry ⟨wanted entry, false⟩)
      else .ok (found.visit pagination entry ⟨wanted entry, false⟩) := by
  rw [findInMonth, decided]
  dsimp only
  cases pagination.hasCapacityLeft
      (found.visit pagination entry ⟨wanted entry, false⟩).result.length with
  | true => rfl
  | false => rfl

/-- An entry that does not match leaves the search as it was. -/
theorem visit_of_not (pagination : Pagination) (entry : BlockIndexEntry) (found : Found) :
    found.visit pagination entry ⟨false, false⟩ = found := rfl

/-- A match before the page only moves the pagination cursor. -/
theorem visit_of_skipped (entry : BlockIndexEntry) {found : Found}
    (skipped : found.paginationCursor < pagination.skipEntriesCount) :
    found.visit pagination entry ⟨true, false⟩ = ⟨found.result, found.paginationCursor + 1⟩ := by
  unfold Found.visit
  dsimp only
  rw [if_pos rfl, if_neg (Nat.not_le.mpr skipped)]

/-- A match on the page is put into the result. -/
theorem visit_of_wanted (entry : BlockIndexEntry) {found : Found}
    (reached : pagination.skipEntriesCount ≤ found.paginationCursor) :
    found.visit pagination entry ⟨true, false⟩ =
      ⟨found.result ++ [entry.transactionNr], found.paginationCursor + 1⟩ := by
  unfold Found.visit
  dsimp only
  rw [if_pos rfl, if_pos reached]

/-- While there is room, a month adds what is wanted of it behind the entries to skip, as far as
the room goes. -/
theorem findInMonth_of_room {entries : List BlockIndexEntry} {found : Found}
    (decides : Decides matching wanted entries) (room : found.result.length < pagination.size) :
    ∃ next, findInMonth pagination matching entries found = .ok next ∧
      next.result = found.result ++ ((numbersOf wanted entries).drop
        (pagination.skipEntriesCount - found.paginationCursor)).take
          (pagination.size - found.result.length) ∧
      (next.result.length < pagination.size →
        next.paginationCursor = found.paginationCursor + (numbersOf wanted entries).length) ∧
      (pagination.size ≤ next.result.length →
        pagination.skipEntriesCount ≤ next.paginationCursor) := by
  induction entries generalizing found with
  | nil =>
      refine ⟨found, rfl, ?_, fun _ => rfl, fun full => absurd room (Nat.not_lt.mpr full)⟩
      simp [numbersOf]
  | cons entry rest ih =>
      have decided := decides entry (List.mem_cons_self ..)
      have capacity {count : Nat} (below : count < pagination.size) :
          pagination.hasCapacityLeft count = true := Pagination.hasCapacityLeft_iff.mpr (Or.inr below)
      rw [findInMonth_cons decided]
      cases isWanted : wanted entry with
      | false =>
          rw [visit_of_not, if_pos (capacity room), numbersOf_cons_of_not rest isWanted]
          exact ih decides.tail room
      | true =>
          rw [numbersOf_cons_of_wanted rest isWanted]
          by_cases skipped : found.paginationCursor < pagination.skipEntriesCount
          · have one : pagination.skipEntriesCount - found.paginationCursor =
                pagination.skipEntriesCount - (found.paginationCursor + 1) + 1 := by omega
            rw [visit_of_skipped entry skipped, if_pos (capacity room), one, List.drop_succ_cons]
            obtain ⟨next, success, result, counted, reached⟩ :=
              @ih ⟨found.result, found.paginationCursor + 1⟩ decides.tail room
            refine ⟨next, success, result, fun below => ?_, reached⟩
            rw [counted below, List.length_cons]
            dsimp only
            omega
          · have reached := Nat.not_lt.mp skipped
            have none : pagination.skipEntriesCount - found.paginationCursor = 0 := by omega
            have noneNext : pagination.skipEntriesCount - (found.paginationCursor + 1) = 0 := by omega
            have more : pagination.size - found.result.length =
                pagination.size - (found.result.length + 1) + 1 := by omega
            rw [visit_of_wanted entry reached, none, List.drop_zero, more, List.take_succ_cons]
            by_cases full : found.result.length + 1 < pagination.size
            · have length : (found.result ++ [entry.transactionNr]).length =
                  found.result.length + 1 := List.length_append
              rw [if_pos (capacity (length ▸ full))]
              obtain ⟨next, success, result, counted, later⟩ :=
                @ih ⟨found.result ++ [entry.transactionNr], found.paginationCursor + 1⟩
                  decides.tail (length ▸ full)
              refine ⟨next, success, ?_, fun below => ?_, later⟩
              · rw [result, noneNext, List.drop_zero, length, List.append_assoc,
                  List.singleton_append]
              · rw [counted below, List.length_cons]
                dsimp only
                omega
            · have noCapacity : ¬ pagination.hasCapacityLeft
                  (found.result ++ [entry.transactionNr]).length = true := by
                rw [Pagination.hasCapacityLeft_iff, List.length_append, List.length_singleton]
                omega
              have last : pagination.size - (found.result.length + 1) = 0 := by omega
              rw [if_neg noCapacity, last, List.take_zero]
              refine ⟨_, rfl, rfl, fun below => ?_, fun _ => by dsimp only; omega⟩
              rw [List.length_append, List.length_singleton] at below
              exact absurd below full

/-- The number of the first entry, if it is wanted. -/
def firstIfWanted (wanted : BlockIndexEntry → Bool) : List BlockIndexEntry → List UInt64
  | [] => []
  | entry :: _ => if wanted entry then [entry.transactionNr] else []

/-- What a month contributes behind a full page is a part of its wanted numbers. -/
theorem firstIfWanted_sublist (wanted : BlockIndexEntry → Bool) (entries : List BlockIndexEntry) :
    (firstIfWanted wanted entries).Sublist (numbersOf wanted entries) := by
  cases entries with
  | nil => exact List.nil_sublist _
  | cons entry rest =>
      rw [firstIfWanted]
      cases isWanted : wanted entry with
      | false => exact List.nil_sublist _
      | true =>
          rw [numbersOf_cons_of_wanted rest isWanted]
          exact List.Sublist.cons_cons _ (List.nil_sublist _)

/-- What the months add to a page that still needs some numbers when the first of them is
reached: once it has them all, each month adds its first entry. -/
def pastPage (wanted : BlockIndexEntry → Bool) : Nat → List (List BlockIndexEntry) → List UInt64
  | _, [] => []
  | needed, entries :: rest =>
      (if needed = 0 then firstIfWanted wanted entries else []) ++
        pastPage wanted (needed - (numbersOf wanted entries).length) rest

/-- What is put behind a full page is a part of the wanted numbers behind the page. -/
theorem pastPage_sublist (wanted : BlockIndexEntry → Bool) (needed : Nat)
    (months : List (List BlockIndexEntry)) :
    (pastPage wanted needed months).Sublist ((numbersOf wanted months.flatten).drop needed) := by
  induction months generalizing needed with
  | nil => exact List.nil_sublist _
  | cons entries rest ih =>
      rw [pastPage, List.flatten_cons, numbersOf_append, List.drop_append]
      refine List.Sublist.append ?_ (ih _)
      by_cases full : needed = 0
      · rw [if_pos full, full, List.drop_zero]
        exact firstIfWanted_sublist wanted entries
      · rw [if_neg full]
        exact List.nil_sublist _

/-- Once the room is used up, a month adds its first entry at most. -/
theorem findInMonth_of_full {entries : List BlockIndexEntry} {found : Found}
    (decides : Decides matching wanted entries) (paged : pagination.size ≠ 0)
    (full : pagination.size ≤ found.result.length)
    (reached : pagination.skipEntriesCount ≤ found.paginationCursor) :
    ∃ next, findInMonth pagination matching entries found = .ok next ∧
      next.result = found.result ++ firstIfWanted wanted entries ∧
      pagination.skipEntriesCount ≤ next.paginationCursor := by
  have noCapacity {count : Nat} (beyond : found.result.length ≤ count) :
      ¬ pagination.hasCapacityLeft count = true := by
    rw [Pagination.hasCapacityLeft_iff]
    omega
  cases entries with
  | nil => exact ⟨found, rfl, (List.append_nil _).symm, reached⟩
  | cons entry rest =>
      rw [findInMonth_cons (decides entry (List.mem_cons_self ..)), firstIfWanted]
      cases isWanted : wanted entry with
      | false =>
          rw [visit_of_not, if_neg (noCapacity (Nat.le_refl _))]
          exact ⟨found, rfl, (List.append_nil _).symm, reached⟩
      | true =>
          rw [visit_of_wanted entry reached, if_neg (noCapacity (by rw [List.length_append]; omega))]
          exact ⟨_, rfl, rfl, Nat.le_succ_of_le reached⟩

/-- Without a page size a month is searched to its end. -/
theorem findInMonth_unpaged {entries : List BlockIndexEntry} {found : Found}
    (decides : Decides matching wanted entries) (unpaged : pagination.size = 0) :
    ∃ next, findInMonth pagination matching entries found = .ok next ∧
      next.result = found.result ++ numbersOf wanted entries := by
  have reached (count : Nat) : pagination.skipEntriesCount ≤ count := by
    unfold Pagination.skipEntriesCount
    rw [unpaged, Nat.mul_zero, ite_self]
    exact Nat.zero_le _
  have capacity (count : Nat) : pagination.hasCapacityLeft count = true :=
    Pagination.hasCapacityLeft_iff.mpr (Or.inl unpaged)
  induction entries generalizing found with
  | nil => exact ⟨found, rfl, (List.append_nil _).symm⟩
  | cons entry rest ih =>
      rw [findInMonth_cons (decides entry (List.mem_cons_self ..)), if_pos (capacity _)]
      cases isWanted : wanted entry with
      | false =>
          rw [visit_of_not, numbersOf_cons_of_not rest isWanted]
          exact ih decides.tail
      | true =>
          rw [visit_of_wanted entry (reached _), numbersOf_cons_of_wanted rest isWanted]
          obtain ⟨next, success, result⟩ :=
            @ih ⟨found.result ++ [entry.transactionNr], found.paginationCursor + 1⟩ decides.tail
          refine ⟨next, success, ?_⟩
          rw [result, List.append_assoc, List.singleton_append]

/-- The months are searched one after the other. -/
theorem findInMonths_cons {entries : List BlockIndexEntry} {rest : List (List BlockIndexEntry)}
    {found next : Found} (success : findInMonth pagination matching entries found = .ok next) :
    findInMonths pagination matching (entries :: rest) found =
      findInMonths pagination matching rest next := by
  rw [findInMonths, success]

/-- Behind a full page every further month still gives its first entry, where that is wanted: the
outer loop does not stop. -/
theorem findInMonths_of_full {months : List (List BlockIndexEntry)} {found : Found}
    (decides : ∀ entries ∈ months, Decides matching wanted entries) (paged : pagination.size ≠ 0)
    (full : pagination.size ≤ found.result.length)
    (reached : pagination.skipEntriesCount ≤ found.paginationCursor) :
    ∃ next, findInMonths pagination matching months found = .ok next ∧
      next.result = found.result ++ pastPage wanted 0 months := by
  induction months generalizing found with
  | nil => exact ⟨found, rfl, (List.append_nil _).symm⟩
  | cons entries rest ih =>
      obtain ⟨middle, success, added, stillReached⟩ :=
        findInMonth_of_full (decides entries (List.mem_cons_self ..)) paged full reached
      have stillFull : pagination.size ≤ middle.result.length := by
        rw [added, List.length_append]
        omega
      obtain ⟨next, successRest, addedRest⟩ :=
        ih (fun other member => decides other (List.mem_cons_of_mem _ member)) stillFull stillReached
      rw [findInMonths_cons success, pastPage, if_pos rfl, Nat.zero_sub]
      refine ⟨next, successRest, ?_⟩
      rw [addedRest, added, List.append_assoc]

/-- The search adds what is wanted behind the entries to skip, as far as the room goes, and
after that the first entry of a later month now and then. -/
theorem findInMonths_of_room {months : List (List BlockIndexEntry)} {found : Found}
    (decides : ∀ entries ∈ months, Decides matching wanted entries)
    (room : found.result.length < pagination.size) :
    ∃ next, findInMonths pagination matching months found = .ok next ∧
      next.result = found.result ++ ((numbersOf wanted months.flatten).drop
        (pagination.skipEntriesCount - found.paginationCursor)).take
          (pagination.size - found.result.length) ++
        pastPage wanted (pagination.skipEntriesCount - found.paginationCursor +
          (pagination.size - found.result.length)) months := by
  induction months generalizing found with
  | nil =>
      refine ⟨found, rfl, ?_⟩
      simp [numbersOf, pastPage]
  | cons entries rest ih =>
      have restDecides : ∀ other ∈ rest, Decides matching wanted other :=
        fun other member => decides other (List.mem_cons_of_mem _ member)
      obtain ⟨middle, success, added, counted, reached⟩ :=
        findInMonth_of_room (decides entries (List.mem_cons_self ..)) room
      have addedLength := congrArg List.length added
      rw [List.length_append, List.length_take, List.length_drop] at addedLength
      have notFull : pagination.skipEntriesCount - found.paginationCursor +
          (pagination.size - found.result.length) ≠ 0 := by omega
      rw [findInMonths_cons success, List.flatten_cons, numbersOf_append, List.drop_append, pastPage,
        if_neg notFull, List.nil_append]
      by_cases full : pagination.size ≤ middle.result.length
      · obtain ⟨next, successRest, addedRest⟩ :=
          findInMonths_of_full restDecides (Nat.ne_of_gt (Nat.zero_lt_of_lt room)) full (reached full)
        have used : pagination.size - found.result.length ≤
            ((numbersOf wanted entries).drop
              (pagination.skipEntriesCount - found.paginationCursor)).length := by
          rw [List.length_drop]
          omega
        have noneNeeded : pagination.skipEntriesCount - found.paginationCursor +
            (pagination.size - found.result.length) - (numbersOf wanted entries).length = 0 := by
          rw [List.length_drop] at used
          omega
        refine ⟨next, successRest, ?_⟩
        rw [addedRest, added, List.take_append_of_le_length used, noneNeeded]
      · have below := Nat.not_le.mp full
        obtain ⟨next, successRest, addedRest⟩ := ih restDecides below
        rw [counted below] at addedRest
        have skipRest : pagination.skipEntriesCount - found.paginationCursor -
            (numbersOf wanted entries).length =
              pagination.skipEntriesCount -
                (found.paginationCursor + (numbersOf wanted entries).length) := by omega
        have roomRest : pagination.size - found.result.length -
            ((numbersOf wanted entries).drop
              (pagination.skipEntriesCount - found.paginationCursor)).length =
                pagination.size - middle.result.length := by
          rw [List.length_drop]
          omega
        have neededRest : pagination.skipEntriesCount - found.paginationCursor +
            (pagination.size - found.result.length) - (numbersOf wanted entries).length =
              pagination.skipEntriesCount -
                (found.paginationCursor + (numbersOf wanted entries).length) +
              (pagination.size - middle.result.length) := by omega
        refine ⟨next, successRest, ?_⟩
        rw [addedRest, skipRest, neededRest, List.take_append, roomRest,
          ← List.append_assoc found.result, ← added]

/-- Without a page size every month is searched to its end. -/
theorem findInMonths_unpaged {months : List (List BlockIndexEntry)} {found : Found}
    (decides : ∀ entries ∈ months, Decides matching wanted entries)
    (unpaged : pagination.size = 0) :
    ∃ next, findInMonths pagination matching months found = .ok next ∧
      next.result = found.result ++ numbersOf wanted months.flatten := by
  induction months generalizing found with
  | nil => exact ⟨found, rfl, (List.append_nil _).symm⟩
  | cons entries rest ih =>
      obtain ⟨middle, success, added⟩ :=
        findInMonth_unpaged (decides entries (List.mem_cons_self ..)) unpaged
      obtain ⟨next, successRest, addedRest⟩ :=
        @ih middle fun other member => decides other (List.mem_cons_of_mem _ member)
      rw [findInMonths_cons success, List.flatten_cons, numbersOf_append]
      refine ⟨next, successRest, ?_⟩
      rw [addedRest, added, List.append_assoc]

end Window

section Months

variable (index : BlockIndex)

/-- The months of an index stand in ascending order. -/
theorem sorted_allMonths :
    index.allMonths.Pairwise fun first second => first.1 < second.1 := by
  apply List.pairwise_flatMap.mpr
  constructor
  · intro year _
    apply List.pairwise_map.mpr
    apply year.2.sorted.imp
    intro first second below
    exact Prod.Lex.toLex_lt_toLex.mpr (Or.inr ⟨rfl, below⟩)
  · apply index.yearMonthAddressIndexEntries.sorted.imp
    intro first second below left inFirst right inSecond
    obtain ⟨_, _, rfl⟩ := List.mem_map.mp inFirst
    obtain ⟨_, _, rfl⟩ := List.mem_map.mp inSecond
    exact Prod.Lex.toLex_lt_toLex.mpr (Or.inl below)

/-- The months of an index are those found under their year and month. -/
theorem mem_allMonths_iff {timepoint : YearMonth} {entries : List BlockIndexEntry} :
    (timepoint, entries) ∈ index.allMonths ↔
      ∃ months, index.yearMonthAddressIndexEntries.find? (ofLex timepoint).1 = some months ∧
        months.find? (ofLex timepoint).2 = some entries := by
  unfold allMonths
  rw [List.mem_flatMap]
  constructor
  · rintro ⟨year, inIndex, inYear⟩
    obtain ⟨month, inMonths, same⟩ := List.mem_map.mp inYear
    cases same
    exact ⟨year.2, OrderedMap.mem_toList_iff.mp inIndex, OrderedMap.mem_toList_iff.mp inMonths⟩
  · rintro ⟨months, foundYear, foundMonth⟩
    refine ⟨((ofLex timepoint).1, months), OrderedMap.mem_toList_iff.mpr foundYear, ?_⟩
    exact List.mem_map.mpr
      ⟨((ofLex timepoint).2, entries), OrderedMap.mem_toList_iff.mpr foundMonth, rfl⟩

/-- The list of a month is what is found under it. -/
theorem monthList_eq_lookup (timepoint : YearMonth) :
    index.monthList (ofLex timepoint).1 (ofLex timepoint).2 =
      (OrderedMap.lookup timepoint index.allMonths).getD [] := by
  have sameFound : ((index.yearMonthAddressIndexEntries.find? (ofLex timepoint).1).getD ∅).find?
      (ofLex timepoint).2 = OrderedMap.lookup timepoint index.allMonths := by
    apply Option.ext
    intro entries
    have found : OrderedMap.lookup timepoint index.allMonths = some entries ↔
        (timepoint, entries) ∈ index.allMonths :=
      ⟨OrderedMap.mem_of_lookup, OrderedMap.lookup_of_mem (sorted_allMonths index)⟩
    rw [found, mem_allMonths_iff]
    cases index.yearMonthAddressIndexEntries.find? (ofLex timepoint).1 with
    | none =>
        constructor
        · intro absent
          cases absent
        · rintro ⟨_, absent, _⟩
          cases absent
    | some months =>
        constructor
        · exact fun present => ⟨months, rfl, present⟩
        · rintro ⟨_, ⟨⟩, present⟩
          exact present
  unfold monthList
  rw [sameFound]

/-- The months between two, in ascending order. -/
def MonthsInOrder (monthsInRange : YearMonth → YearMonth → List YearMonth) : Prop :=
  ∀ startDate endDate, (monthsInRange startDate endDate).Pairwise (· < ·) ∧
    ∀ timepoint : YearMonth, 1 ≤ (ofLex timepoint).2 → (ofLex timepoint).2 ≤ 12 →
      (timepoint ∈ monthsInRange startDate endDate ↔
        startDate ≤ timepoint ∧ timepoint ≤ endDate)

/-- The months are those of a calendar. -/
def CalendarMonths : Prop :=
  ∀ month ∈ index.allMonths, 1 ≤ (ofLex month.1).2 ∧ (ofLex month.1).2 ≤ 12

/-- The entries the search goes through, whatever the direction. -/
theorem flatMap_monthList {index : BlockIndex}
    {monthsInRange : YearMonth → YearMonth → List YearMonth}
    (ordered : MonthsInOrder monthsInRange) (calendar : index.CalendarMonths)
    (startDate endDate : YearMonth) :
    ((monthsInRange startDate endDate).flatMap fun timepoint =>
      index.monthList (ofLex timepoint).1 (ofLex timepoint).2) =
      (index.allMonths.filter fun month => startDate ≤ month.1 ∧ month.1 ≤ endDate).flatMap
        Prod.snd := by
  simp only [monthList_eq_lookup]
  rw [OrderedMap.flatMap_lookup (ordered startDate endDate).1 (sorted_allMonths index)]
  congr 1
  apply List.filter_congr
  intro month member
  have valid := calendar month member
  exact decide_eq_decide.mpr ((ordered startDate endDate).2 month.1 valid.1 valid.2)

end Months

section Criteria

/-- The month lies in the time interval of the filter. -/
def InInterval (filter : Filter) (timepoint : YearMonth) : Bool :=
  match filter.timepointInterval with
  | none => true
  | some wanted => wanted.startDate ≤ timepoint && timepoint ≤ wanted.endDate

/-- The transaction is of the coin community of the filter. -/
def OfCoinCommunity (environment : SearchEnvironment) (filter : Filter) (entry : BlockIndexEntry) :
    Bool :=
  filter.coinCommunityId.isEmpty ||
    match environment.getCommunityIdIndex filter.coinCommunityId with
    | .ok coinCommunityKeyIndex => coinCommunityKeyIndex = entry.coinCommunityIdIndex
    | .error _ => false

/-- The public key of the filter is involved in the transaction. -/
def Involves (environment : SearchEnvironment) (filter : Filter) (entry : BlockIndexEntry) : Bool :=
  match filter.involvedPublicKey with
  | none => true
  | some publicKey => publicKey.isEmpty || environment.findIndexForString publicKey ≠ 0 &&
      environment.findIndexForString publicKey ∈
        entry.addressIndices.take entry.addressIndiceCount.toNat

/-- What the index can tell of a filter, apart from the time interval. -/
def Satisfies (environment : SearchEnvironment) (filter : Filter) (entry : BlockIndexEntry) : Bool :=
  (filter.transactionType = 0 || filter.transactionType = entry.transactionType) &&
  OfCoinCommunity environment filter entry &&
  (filter.minTransactionNr = 0 || filter.minTransactionNr ≤ entry.transactionNr) &&
  (filter.maxTransactionNr = 0 || entry.transactionNr ≤ filter.maxTransactionNr) &&
  Involves environment filter entry

/-- The entries of the index that satisfy the index criteria of the filter. -/
def matchesOf (environment : SearchEnvironment) (filter : Filter) (index : BlockIndex) :
    List BlockIndexEntry :=
  (index.allMonths.filter fun month => InInterval filter month.1).flatMap fun month =>
    month.2.filter (Satisfies environment filter)

/-- The coin community of the filter is known, if the filter names one. -/
def CommunityKnown (environment : SearchEnvironment) (filter : Filter) : Prop :=
  filter.coinCommunityId.isEmpty = true ∨ ∃ coinCommunityKeyIndex,
    coinCommunityKeyIndex ≠ 0 ∧
    environment.getCommunityIdIndex filter.coinCommunityId = .ok coinCommunityKeyIndex

/-- A month that the search visits although it lies outside of the time interval of the filter
has no transaction that satisfies the other criteria. -/
def IntervalRight (environment : SearchEnvironment) (filter : Filter) (index : BlockIndex) : Prop :=
  ∀ month ∈ index.allMonths,
    (index.filteredTimepointInterval filter).startDate ≤ month.1 →
    month.1 ≤ (index.filteredTimepointInterval filter).endDate →
    InInterval filter month.1 = true ∨
      ∀ entry ∈ month.2, Satisfies environment filter entry = false

/-- Every number lies between the lowest and the highest of the index. -/
def Ranged (index : BlockIndex) : Prop :=
  ∀ entry ∈ index.allEntries,
    index.minTransactionNr ≤ entry.transactionNr ∧ entry.transactionNr ≤ index.maxTransactionNr

variable {environment : SearchEnvironment} {filter : Filter} {index : BlockIndex}

/-- The filter's answer about an entry, once the account and the coin community have their numbers.
-/
theorem isMatchingFilter_eq {publicKeyIndex : UInt32}
    (known : CommunityKnown environment filter)
    (isIndex : publicKeyIndexOf environment filter = some publicKeyIndex)
    (entry : BlockIndexEntry) :
    isMatchingFilter environment filter publicKeyIndex entry =
      .ok ⟨Satisfies environment filter entry, false⟩ := by
  have involves : Involves environment filter entry = true ↔ ¬ (publicKeyIndex ≠ 0 ∧
      publicKeyIndex ∉ entry.addressIndices.take entry.addressIndiceCount.toNat) := by
    unfold publicKeyIndexOf at isIndex
    unfold Involves
    cases involved : filter.involvedPublicKey with
    | none =>
        rw [involved] at isIndex
        cases isIndex
        simp
    | some publicKey =>
        rw [involved] at isIndex
        dsimp only at isIndex ⊢
        by_cases empty : publicKey.isEmpty = true
        · rw [if_pos empty] at isIndex
          cases isIndex
          simp [empty]
        · rw [if_neg empty] at isIndex
          by_cases found : environment.findIndexForString publicKey ≠ 0
          · rw [if_pos found] at isIndex
            cases isIndex
            simp [empty, found]
          · rw [if_neg found] at isIndex
            cases isIndex
  obtain ⟨coinCommunityKeyIndex, looked, ofCommunity⟩ : ∃ coinCommunityKeyIndex,
      (if filter.coinCommunityId.isEmpty then Except.ok 0
        else environment.getCommunityIdIndex filter.coinCommunityId) =
          Except.ok coinCommunityKeyIndex ∧
      (OfCoinCommunity environment filter entry = true ↔ ¬ (coinCommunityKeyIndex ≠ 0 ∧
        coinCommunityKeyIndex ≠ entry.coinCommunityIdIndex)) := by
    by_cases none : filter.coinCommunityId.isEmpty = true
    · exact ⟨0, if_pos none, by simp [OfCoinCommunity, none]⟩
    · obtain ⟨coinCommunityKeyIndex, nonzero, looked⟩ := known.resolve_left none
      refine ⟨coinCommunityKeyIndex, (if_neg none).trans looked, ?_⟩
      simp [OfCoinCommunity, none, looked, nonzero]
  have whole : Satisfies environment filter entry = true ↔
      ¬ (filter.transactionType ≠ 0 ∧ filter.transactionType ≠ entry.transactionType) ∧
      ¬ (coinCommunityKeyIndex ≠ 0 ∧ coinCommunityKeyIndex ≠ entry.coinCommunityIdIndex) ∧
      ¬ (filter.minTransactionNr ≠ 0 ∧ filter.minTransactionNr > entry.transactionNr) ∧
      ¬ (filter.maxTransactionNr ≠ 0 ∧ filter.maxTransactionNr < entry.transactionNr) ∧
      ¬ (publicKeyIndex ≠ 0 ∧
        publicKeyIndex ∉ entry.addressIndices.take entry.addressIndiceCount.toNat) := by
    have atLeast : (filter.minTransactionNr = 0 || filter.minTransactionNr ≤ entry.transactionNr) =
        true ↔ ¬ (filter.minTransactionNr ≠ 0 ∧ filter.minTransactionNr > entry.transactionNr) := by
      simp [or_iff_not_imp_left]
    have atMost : (filter.maxTransactionNr = 0 || entry.transactionNr ≤ filter.maxTransactionNr) =
        true ↔ ¬ (filter.maxTransactionNr ≠ 0 ∧ filter.maxTransactionNr < entry.transactionNr) := by
      simp [or_iff_not_imp_left]
    have ofType : (filter.transactionType = 0 || filter.transactionType = entry.transactionType) =
        true ↔
          ¬ (filter.transactionType ≠ 0 ∧ filter.transactionType ≠ entry.transactionType) := by
      simp [or_iff_not_imp_left]
    unfold Satisfies
    rw [Bool.and_eq_true, Bool.and_eq_true, Bool.and_eq_true, Bool.and_eq_true, ofType, ofCommunity,
      atLeast, atMost, involves, and_assoc, and_assoc, and_assoc]
  have dismissed (not : ¬ Satisfies environment filter entry = true) :
      (Except.ok FilterResult.DISMISS : Except Exception FilterResult) =
        .ok ⟨Satisfies environment filter entry, false⟩ := by
    rw [Bool.eq_false_of_not_eq_true not]
    rfl
  unfold isMatchingFilter
  dsimp only
  rw [looked]
  dsimp only
  split_ifs with type community lowest highest publicKey
  · exact dismissed fun satisfies => (whole.mp satisfies).1 type
  · exact dismissed fun satisfies => (whole.mp satisfies).2.1 community
  · exact dismissed fun satisfies => (whole.mp satisfies).2.2.1 lowest
  · exact dismissed fun satisfies => (whole.mp satisfies).2.2.2.1 highest
  · exact dismissed fun satisfies => (whole.mp satisfies).2.2.2.2 publicKey
  · rw [whole.mpr ⟨type, community, lowest, highest, publicKey⟩]
    rfl

/-- Two choices that differ in empty items only choose the same. -/
theorem flatMap_filter_congr {Item Target : Type} {items : List Item} {first second : Item → Bool}
    {function : Item → List Target}
    (same : ∀ item ∈ items, first item = second item ∨ function item = []) :
    (items.filter first).flatMap function = (items.filter second).flatMap function := by
  induction items with
  | nil => rfl
  | cons item rest ih =>
      have restSame := ih fun other member => same other (List.mem_cons_of_mem _ member)
      rw [List.filter_cons, List.filter_cons]
      rcases same item (List.mem_cons_self ..) with equal | empty
      · rw [equal]
        cases second item with
        | true => exact congrArg (function item ++ ·) restSame
        | false => exact restSame
      · cases first item <;> cases second item <;>
          simp only [↓reduceIte, Bool.false_eq_true, List.flatMap_cons, empty, List.nil_append,
            restSame]

/-- No month of the index lies before its oldest one. -/
theorem getOldestYearMonth_le {month : YearMonth × List BlockIndexEntry}
    (member : month ∈ index.allMonths) : index.getOldestYearMonth ≤ month.1 := by
  have sorted := sorted_allMonths index
  unfold getOldestYearMonth
  cases months : index.allMonths with
  | nil =>
      rw [months] at member
      cases member
  | cons first rest =>
      rw [months] at member sorted
      rcases List.mem_cons.mp member with rfl | later
      · exact le_refl _
      · exact le_of_lt ((List.pairwise_cons.mp sorted).1 month later)

/-- No month of the index lies behind its newest one. -/
theorem le_getNewestYearMonth {month : YearMonth × List BlockIndexEntry}
    (member : month ∈ index.allMonths) : month.1 ≤ index.getNewestYearMonth := by
  have sorted := sorted_allMonths index
  unfold getNewestYearMonth
  rcases List.eq_nil_or_concat index.allMonths with none | ⟨before, last, split⟩
  · rw [none] at member
    cases member
  · rw [split, List.concat_eq_append] at member sorted ⊢
    rw [List.getLast?_concat]
    rcases List.mem_append.mp member with earlier | isLast
    · exact le_of_lt ((List.pairwise_append.mp sorted).2.2 month earlier last
        (List.mem_singleton_self _))
    · rw [List.mem_singleton.mp isLast]
      exact le_refl _

/-- The search visits every month of the time interval. -/
theorem visits_of_inInterval {month : YearMonth × List BlockIndexEntry}
    (member : month ∈ index.allMonths) (inside : InInterval filter month.1 = true) :
    (index.filteredTimepointInterval filter).startDate ≤ month.1 ∧
      month.1 ≤ (index.filteredTimepointInterval filter).endDate := by
  have oldest := getOldestYearMonth_le member
  have newest := le_getNewestYearMonth member
  unfold filteredTimepointInterval
  unfold InInterval at inside
  cases wantedInterval : filter.timepointInterval with
  | none => exact ⟨oldest, newest⟩
  | some wanted =>
      rw [wantedInterval] at inside
      dsimp only at inside ⊢
      rw [Bool.and_eq_true, decide_eq_true_iff, decide_eq_true_iff] at inside
      constructor
      · split
        · exact inside.1
        · exact oldest
      · split
        · exact le_trans inside.2 (le_max_right _ _)
        · exact newest

/-- With a time interval that does not end before the oldest month of the index, the search
visits no other month. -/
theorem intervalRight_of_le {wanted : TimepointInterval}
    (isWanted : filter.timepointInterval = some wanted)
    (oldest : index.getOldestYearMonth ≤ wanted.endDate) (forwards : wanted.startDate ≤ wanted.endDate) :
    IntervalRight environment filter index := by
  intro month member start ending
  left
  unfold filteredTimepointInterval at start ending
  unfold InInterval
  rw [isWanted] at start ending ⊢
  dsimp only at start ending ⊢
  rw [Bool.and_eq_true, decide_eq_true_iff, decide_eq_true_iff]
  constructor
  · split at start
    · exact start
    · rename_i notBefore
      exact le_trans (not_lt.mp notBefore) start
  · split at ending
    · refine le_trans ending (max_le ?_ (le_refl _))
      split
      · exact forwards
      · exact oldest
    · rename_i notAfter
      exact le_trans ending (not_lt.mp notAfter)

/-- A filter without a time interval searches every month. -/
theorem intervalRight_of_none (none : filter.timepointInterval = none) :
    IntervalRight environment filter index := by
  intro month member _ _
  left
  unfold InInterval
  rw [none]

/-- What the search goes through has the matching entries in it, and no other that matches. -/
theorem searched_eq_matchesOf (right : IntervalRight environment filter index) :
    ((index.allMonths.filter fun month =>
        (index.filteredTimepointInterval filter).startDate ≤ month.1 ∧
        month.1 ≤ (index.filteredTimepointInterval filter).endDate).flatMap Prod.snd).filter
      (Satisfies environment filter) = matchesOf environment filter index := by
  rw [List.filter_flatMap]
  unfold matchesOf
  apply flatMap_filter_congr
  intro month member
  by_cases visited : (index.filteredTimepointInterval filter).startDate ≤ month.1 ∧
      month.1 ≤ (index.filteredTimepointInterval filter).endDate
  · rcases right month member visited.1 visited.2 with inside | noneSatisfies
    · left
      rw [inside]
      exact decide_eq_true visited
    · right
      apply List.filter_eq_nil_iff.mpr
      intro entry isEntry
      rw [noneSatisfies entry isEntry]
      exact Bool.false_ne_true
  · left
    have outside : InInterval filter month.1 = false :=
      Bool.eq_false_of_not_eq_true fun inside => visited (visits_of_inInterval member inside)
    rw [outside]
    exact decide_eq_false visited

/-- The numbers of the matching entries, in search direction. -/
def matchesInOrder (environment : SearchEnvironment) (filter : Filter) (index : BlockIndex) :
    List UInt64 :=
  filter.searchDirection.inOrder
    ((matchesOf environment filter index).map BlockIndexEntry.transactionNr)

/-- What a search relies on: the months of the calendar, a known coin community and an index
with the right range, whose months are those of the filter. -/
structure Searchable (environment : SearchEnvironment) (filter : Filter) (index : BlockIndex) :
    Prop where
  months : MonthsInOrder environment.monthsInRange
  calendar : index.CalendarMonths
  ranged : index.Ranged
  known : CommunityKnown environment filter
  right : IntervalRight environment filter index

/-- The entries of a month are entries of the index. -/
theorem mem_allEntries_of_mem_allMonths {month : YearMonth × List BlockIndexEntry}
    {entry : BlockIndexEntry} (member : month ∈ index.allMonths) (inMonth : entry ∈ month.2) :
    entry ∈ index.allEntries := by
  unfold allMonths at member
  obtain ⟨year, inIndex, inYear⟩ := List.mem_flatMap.mp member
  obtain ⟨entries, inMonths, rfl⟩ := List.mem_map.mp inYear
  exact mem_allEntries.mpr ⟨year, inIndex, entries, inMonths, inMonth⟩

/-- A match is an entry of the index that satisfies the filter. -/
theorem mem_matchesOf {entry : BlockIndexEntry} (member : entry ∈ matchesOf environment filter index) :
    entry ∈ index.allEntries ∧ Satisfies environment filter entry = true := by
  obtain ⟨month, inMonths, satisfying⟩ := List.mem_flatMap.mp member
  obtain ⟨inMonth, satisfies⟩ := List.mem_filter.mp satisfying
  exact ⟨mem_allEntries_of_mem_allMonths (List.mem_of_mem_filter inMonths) inMonth, satisfies⟩

/-- The exits before the search are taken only where nothing matches. -/
theorem matchesOf_eq_nil (ranged : index.Ranged)
    (exits : (filter.minTransactionNr ≠ 0 ∧ filter.minTransactionNr > index.maxTransactionNr ∨
      filter.maxTransactionNr ≠ 0 ∧ filter.maxTransactionNr < index.minTransactionNr) ∨
        publicKeyIndexOf environment filter = none) : matchesOf environment filter index = [] := by
  apply List.eq_nil_iff_forall_not_mem.mpr
  intro entry member
  obtain ⟨inIndex, satisfies⟩ := mem_matchesOf member
  have range := ranged entry inIndex
  unfold Satisfies at satisfies
  rw [Bool.and_eq_true, Bool.and_eq_true, Bool.and_eq_true] at satisfies
  obtain ⟨⟨⟨_, atLeast⟩, atMost⟩, involves⟩ := satisfies
  rw [Bool.or_eq_true, decide_eq_true_iff, decide_eq_true_iff] at atLeast atMost
  rcases exits with (⟨limited, above⟩ | ⟨limited, below⟩) | unknown
  · exact absurd (le_trans (atLeast.resolve_left limited) range.2) (not_le_of_gt above)
  · exact absurd (le_trans range.1 (atMost.resolve_left limited)) (not_le_of_gt below)
  · unfold publicKeyIndexOf at unknown
    unfold Involves at involves
    cases involved : filter.involvedPublicKey with
    | none =>
        rw [involved] at unknown
        cases unknown
    | some publicKey =>
        rw [involved] at unknown involves
        dsimp only at unknown involves
        split_ifs at unknown with empty found
        simp [empty, not_not.mp found] at involves

/-- A search comes to the matches of the index, of which it has passed over some and left
others out for the page. -/
theorem findTransactions_eq (searchable : Searchable environment filter index) :
    (findTransactions environment filter index = .ok [] ∧
      matchesInOrder environment filter index = []) ∨
    ∃ months : List (List BlockIndexEntry), ∃ matching,
      findTransactions environment filter index =
        (findInMonths filter.pagination matching months ⟨[], 0⟩).map Found.result ∧
      (∀ entries ∈ months, Decides matching (Satisfies environment filter) entries) ∧
      numbersOf (Satisfies environment filter) months.flatten =
        matchesInOrder environment filter index := by
  unfold findTransactions
  by_cases outside : filter.minTransactionNr ≠ 0 ∧ filter.minTransactionNr > index.maxTransactionNr ∨
      filter.maxTransactionNr ≠ 0 ∧ filter.maxTransactionNr < index.minTransactionNr
  · left
    unfold matchesInOrder
    rw [if_pos outside, matchesOf_eq_nil searchable.ranged (Or.inl outside)]
    exact ⟨rfl, by cases filter.searchDirection <;> rfl⟩
  · rw [if_neg outside]
    cases isIndex : publicKeyIndexOf environment filter with
    | none =>
        left
        unfold matchesInOrder
        rw [matchesOf_eq_nil searchable.ranged (Or.inr isIndex)]
        exact ⟨rfl, by cases filter.searchDirection <;> rfl⟩
    | some publicKeyIndex =>
        refine Or.inr ⟨_, _, rfl, ?_, ?_⟩
        · intro entries _ entry _
          exact isMatchingFilter_eq searchable.known isIndex entry
        · rw [← List.flatMap_def, inOrder_flatMap, flatMap_monthList searchable.months
            searchable.calendar, numbersOf, inOrder_filter, inOrder_map,
            searched_eq_matchesOf searchable.right]
          rfl

/-- Without a page size the search returns every match in the order asked for. -/
theorem findTransactions_unpaged (searchable : Searchable environment filter index)
    (unpaged : filter.pagination.size = 0) :
    findTransactions environment filter index = .ok (matchesInOrder environment filter index) := by
  rcases findTransactions_eq searchable with ⟨found, none⟩ | ⟨months, matching, found, decides, all⟩
  · rw [found, none]
  · obtain ⟨next, success, result⟩ := @findInMonths_unpaged filter.pagination matching _ months
      ⟨[], 0⟩ decides unpaged
    rw [found, success, ← all]
    exact congrArg Except.ok result

end Criteria

end BlockIndex

end Cache

end GradidoNode

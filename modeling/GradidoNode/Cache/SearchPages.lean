import GradidoNode.Blockchain.FindAll

/-!
# What a search of a block index returns

A search is exact if and only if no month behind the end of the page starts with a match, a
time interval that misses the index does not lead to matches in the one month that is
searched for it, and no entry asks for a coin community that is unknown.
-/

namespace GradidoNode

open Library Blockchain

namespace Cache

/-- What the search relies on: the months of the calendar, and a look-up that throws where it
does not find a community (`Dictionary::getIndexForString` never returns 0). -/
structure SearchEnvironment.Reliable (environment : SearchEnvironment) : Prop where
  months : BlockIndex.MonthsInOrder environment.monthsInRange
  found : ∀ communityId, environment.getCommunityIdIndex communityId ≠ .ok 0

namespace BlockIndex

/-- The entries of the months a search goes through, in search direction. A search that leaves
early goes through none. -/
def searchedMonths (environment : SearchEnvironment) (filter : Filter) (index : BlockIndex) :
    List (List BlockIndexEntry) :=
  if filter.minTransactionNr ≠ 0 ∧ filter.minTransactionNr > index.maxTransactionNr ∨
      filter.maxTransactionNr ≠ 0 ∧ filter.maxTransactionNr < index.minTransactionNr ∨
      publicKeyIndexOf environment filter = none then
    []
  else
    (filter.searchDirection.inOrder (environment.monthsInRange
      (index.filteredTimepointInterval filter).startDate
      (index.filteredTimepointInterval filter).endDate)).map fun timepoint =>
        filter.searchDirection.inOrder
          (index.monthList (ofLex timepoint).1 (ofLex timepoint).2)

/-- The window of a page. -/
def windowOf (pagination : Pagination) (transactionNrs : List UInt64) : List UInt64 :=
  if pagination.size = 0 then transactionNrs.drop pagination.skipEntriesCount
  else (transactionNrs.drop pagination.skipEntriesCount).take pagination.size

/-- Behind the month in which the page is full, no month starts with a match. -/
def StaysInPage (environment : SearchEnvironment) (filter : Filter) (index : BlockIndex) : Prop :=
  filter.pagination.size ≠ 0 → ∀ before entries after,
    searchedMonths environment filter index = before ++ entries :: after →
    filter.pagination.skipEntriesCount + filter.pagination.size ≤
      (before.flatten.filter (Satisfies environment filter)).length →
    ∀ first ∈ entries.head?, Satisfies environment filter first = false

/-- An entry of the type the filter asks for; only for these the coin community is looked up. -/
def OfType (filter : Filter) (entry : BlockIndexEntry) : Prop :=
  filter.transactionType = 0 ∨ filter.transactionType = entry.transactionType

/-- The search stays in its page and its time interval, and the coin community is known where
it is looked up. -/
structure SearchRight (environment : SearchEnvironment) (filter : Filter) (index : BlockIndex) :
    Prop where
  page : StaysInPage environment filter index
  /-- An interval that ends before it starts, or before the first month of the index. -/
  interval : ∀ wanted, filter.timepointInterval = some wanted →
    wanted.endDate < max index.getOldestYearMonth wanted.startDate →
    ((searchedMonths environment filter index).flatten.filter
      (Satisfies environment filter)).length ≤ filter.pagination.skipEntriesCount
  community : CommunityKnown environment filter ∨
    ∀ entry ∈ (searchedMonths environment filter index).flatten, ¬ OfType filter entry

variable {environment : SearchEnvironment} {filter : Filter} {index : BlockIndex}

/-- With a known public key only the numbers make a search leave early. -/
theorem searches_of_some {above below : Prop} {publicKeyIndex : UInt32}
    (inside : ¬ (above ∨ below)) :
    ¬ (above ∨ below ∨ (some publicKeyIndex : Option UInt32) = none) := by
  rw [← or_assoc]
  intro leaves
  rcases leaves with outside | unknown
  · exact inside outside
  · cases unknown

/-- Leaving early is going through no month. -/
theorem findTransactions_eq_searched :
    findTransactions environment filter index =
      (findInMonths filter.pagination
        (isMatchingFilter environment filter ((publicKeyIndexOf environment filter).getD 0))
        (searchedMonths environment filter index) ⟨[], 0⟩).map Found.result := by
  unfold findTransactions searchedMonths
  by_cases outside : filter.minTransactionNr ≠ 0 ∧ filter.minTransactionNr > index.maxTransactionNr ∨
      filter.maxTransactionNr ≠ 0 ∧ filter.maxTransactionNr < index.minTransactionNr
  · rw [if_pos outside, if_pos (outside.imp_right Or.inl)]
    rfl
  · rw [if_neg outside]
    cases isIndex : publicKeyIndexOf environment filter with
    | none =>
        rw [if_pos (Or.inr (Or.inr rfl))]
        rfl
    | some publicKeyIndex =>
        rw [if_neg (searches_of_some outside)]
        rfl

/-- Months are searched only if the account has a number. -/
theorem publicKeyIndexOf_of_searched (some : searchedMonths environment filter index ≠ []) :
    publicKeyIndexOf environment filter ≠ none := by
  intro unknown
  unfold searchedMonths at some
  rw [if_pos (Or.inr (Or.inr unknown))] at some
  exact some rfl

/-- With a known community every entry that the search goes through is decided. -/
theorem decides_searched (known : CommunityKnown environment filter) :
    ∀ entries ∈ searchedMonths environment filter index,
      Decides (isMatchingFilter environment filter
        ((publicKeyIndexOf environment filter).getD 0)) (Satisfies environment filter) entries := by
  intro entries member entry _
  obtain ⟨publicKeyIndex, isIndex⟩ := Option.ne_none_iff_exists'.mp
    (publicKeyIndexOf_of_searched (List.ne_nil_of_mem member))
  rw [isIndex]
  exact isMatchingFilter_eq known isIndex entry

/-- An entry of another type is dismissed before its coin community is looked up. -/
theorem isMatchingFilter_of_otherType {entry : BlockIndexEntry} (other : ¬ OfType filter entry)
    (publicKeyIndex : UInt32) :
    isMatchingFilter environment filter publicKeyIndex entry = .ok FilterResult.DISMISS := by
  have otherType : filter.transactionType ≠ 0 ∧ filter.transactionType ≠ entry.transactionType :=
    not_or.mp other
  unfold isMatchingFilter
  rw [if_pos otherType]

/-- An entry of another type satisfies no filter. -/
theorem satisfies_of_otherType {entry : BlockIndexEntry} (other : ¬ OfType filter entry) :
    Satisfies environment filter entry = false := by
  obtain ⟨some, differs⟩ := not_or.mp other
  unfold Satisfies
  rw [decide_eq_false some, decide_eq_false differs]
  rfl

/-- The coin community is known where the search looks it up. -/
def CommunityFound (environment : SearchEnvironment) (filter : Filter) (index : BlockIndex) : Prop :=
  CommunityKnown environment filter ∨
    ∀ entry ∈ (searchedMonths environment filter index).flatten, ¬ OfType filter entry

/-- Where the coin community is found every entry that the search goes through is decided. -/
theorem CommunityFound.decides (found : CommunityFound environment filter index) :
    ∀ entries ∈ searchedMonths environment filter index,
      Decides (isMatchingFilter environment filter
        ((publicKeyIndexOf environment filter).getD 0)) (Satisfies environment filter) entries := by
  rcases found with known | otherTypes
  · exact decides_searched known
  · intro entries member entry inMonth
    have other := otherTypes entry (List.mem_flatten.mpr ⟨entries, member, inMonth⟩)
    rw [isMatchingFilter_of_otherType other, satisfies_of_otherType other]
    rfl

/-- The page of what is searched, and what comes after it. -/
theorem findTransactions_of_found (found : CommunityFound environment filter index) :
    findTransactions environment filter index = .ok
      (windowOf filter.pagination (numbersOf (Satisfies environment filter)
          (searchedMonths environment filter index).flatten) ++
        if filter.pagination.size = 0 then []
        else pastPage (Satisfies environment filter)
          (filter.pagination.skipEntriesCount + filter.pagination.size)
          (searchedMonths environment filter index)) := by
  have decides := found.decides
  rw [findTransactions_eq_searched, windowOf]
  by_cases unpaged : filter.pagination.size = 0
  · obtain ⟨next, success, result⟩ := @findInMonths_unpaged filter.pagination _ _
      (searchedMonths environment filter index) ⟨[], 0⟩ decides unpaged
    have noSkip : filter.pagination.skipEntriesCount = 0 := by
      unfold Pagination.skipEntriesCount
      rw [unpaged, Nat.mul_zero, ite_self]
    rw [success, if_pos unpaged, if_pos unpaged, noSkip, List.drop_zero, List.append_nil]
    exact congrArg Except.ok result
  · obtain ⟨next, success, result⟩ := @findInMonths_of_room filter.pagination _ _
      (searchedMonths environment filter index) ⟨[], 0⟩ decides (Nat.pos_of_ne_zero unpaged)
    rw [success, if_neg unpaged, if_neg unpaged]
    exact congrArg Except.ok result

/-- With a known community a search finds its page, and what comes after it. -/
theorem findTransactions_of_known (known : CommunityKnown environment filter) :
    findTransactions environment filter index = .ok
      (windowOf filter.pagination (numbersOf (Satisfies environment filter)
          (searchedMonths environment filter index).flatten) ++
        if filter.pagination.size = 0 then []
        else pastPage (Satisfies environment filter)
          (filter.pagination.skipEntriesCount + filter.pagination.size)
          (searchedMonths environment filter index)) :=
  findTransactions_of_found (Or.inl known)

/-- Without pages all that is searched is returned. -/
theorem findTransactions_of_unpaged (known : CommunityKnown environment filter)
    (unpaged : filter.pagination.size = 0) :
    findTransactions environment filter index = .ok (numbersOf (Satisfies environment filter)
      (searchedMonths environment filter index).flatten) := by
  have noSkip : filter.pagination.skipEntriesCount = 0 := by
    unfold Pagination.skipEntriesCount
    rw [unpaged, Nat.mul_zero, ite_self]
  rw [findTransactions_of_known known, if_pos unpaged, windowOf, if_pos unpaged, noSkip,
    List.drop_zero, List.append_nil]

/-- There are as many wanted numbers as wanted entries. -/
theorem length_numbersOf (wanted : BlockIndexEntry → Bool) (entries : List BlockIndexEntry) :
    (numbersOf wanted entries).length = (entries.filter wanted).length := by
  rw [numbersOf, List.length_map]

/-- A month puts nothing behind the page exactly if its first entry is not wanted. -/
theorem firstIfWanted_eq_nil_iff {wanted : BlockIndexEntry → Bool} {entries : List BlockIndexEntry} :
    firstIfWanted wanted entries = [] ↔ ∀ first ∈ entries.head?, wanted first = false := by
  cases entries with
  | nil => simp [firstIfWanted]
  | cons entry rest => simp [firstIfWanted]

/-- Nothing comes after the page where no month behind its end starts with a match. -/
theorem pastPage_eq_nil_iff {wanted : BlockIndexEntry → Bool} {needed : Nat}
    {months : List (List BlockIndexEntry)} :
    pastPage wanted needed months = [] ↔ ∀ before entries after,
      months = before ++ entries :: after → needed ≤ (before.flatten.filter wanted).length →
      ∀ first ∈ entries.head?, wanted first = false := by
  induction months generalizing needed with
  | nil => simp [pastPage]
  | cons month rest ih =>
      rw [pastPage, List.append_eq_nil_iff, ih]
      have counted (before : List (List BlockIndexEntry)) :
          ((month :: before).flatten.filter wanted).length =
            (numbersOf wanted month).length + (before.flatten.filter wanted).length := by
        rw [List.flatten_cons, List.filter_append, List.length_append, length_numbersOf]
      constructor
      · intro none before entries after split enough
        cases before with
        | nil =>
            cases split
            have full : needed = 0 := Nat.le_zero.mp enough
            rw [if_pos full] at none
            exact firstIfWanted_eq_nil_iff.mp none.1
        | cons first others =>
            obtain ⟨rfl, isRest⟩ := List.cons.inj split
            rw [counted] at enough
            exact none.2 others entries after isRest (by omega)
      · intro all
        refine ⟨?_, fun before entries after split enough =>
          all (month :: before) entries after (congrArg (month :: ·) split) ?_⟩
        · by_cases full : needed = 0
          · rw [if_pos full]
            exact firstIfWanted_eq_nil_iff.mpr (all [] month rest rfl (full ▸ Nat.zero_le _))
          · exact if_neg full
        · rw [counted]
          omega

/-- The result stays in its page exactly if nothing is put behind it. -/
theorem staysInPage_iff : StaysInPage environment filter index ↔
    (if filter.pagination.size = 0 then []
      else pastPage (Satisfies environment filter)
        (filter.pagination.skipEntriesCount + filter.pagination.size)
        (searchedMonths environment filter index)) = [] := by
  by_cases unpaged : filter.pagination.size = 0
  · rw [if_pos unpaged]
    exact iff_of_true (fun paged => absurd unpaged paged) rfl
  · rw [if_neg unpaged, pastPage_eq_nil_iff]
    exact ⟨fun stays => stays unpaged, fun none _ => none⟩

/-- A page is empty where there are not more numbers than it skips. -/
theorem windowOf_eq_nil_iff {pagination : Pagination} {transactionNrs : List UInt64} :
    windowOf pagination transactionNrs = [] ↔
      transactionNrs.length ≤ pagination.skipEntriesCount := by
  unfold windowOf
  by_cases unpaged : pagination.size = 0
  · rw [if_pos unpaged, List.drop_eq_nil_iff]
  · rw [if_neg unpaged, List.take_eq_nil_iff, List.drop_eq_nil_iff]
    exact or_iff_right unpaged

/-- Without matches the ordered list of matches is empty. -/
theorem matchesInOrder_eq_nil (none : matchesOf environment filter index = []) :
    matchesInOrder environment filter index = [] := by
  unfold matchesInOrder
  rw [none]
  cases filter.searchDirection with
  | ASC => rfl
  | DESC => rfl

/-- And so is every window of it. -/
theorem windowOf_matchesInOrder_eq_nil (none : matchesOf environment filter index = []) :
    windowOf filter.pagination (matchesInOrder environment filter index) = [] := by
  rw [windowOf_eq_nil_iff, matchesInOrder_eq_nil none]
  exact Nat.zero_le _

/-- The filter's time interval ends before it starts, or before the first month. -/
def Missed (filter : Filter) (index : BlockIndex) : Prop :=
  ∃ wanted, filter.timepointInterval = some wanted ∧
    wanted.endDate < max index.getOldestYearMonth wanted.startDate

/-- A block whose months lie outside the interval has no match. -/
theorem matchesOf_of_missed (missed : Missed filter index) :
    matchesOf environment filter index = [] := by
  obtain ⟨wanted, isWanted, before⟩ := missed
  unfold matchesOf
  have none : (index.allMonths.filter fun month => InInterval filter month.1) = [] := by
    apply List.filter_eq_nil_iff.mpr
    intro month member inside
    have oldest := getOldestYearMonth_le member
    unfold InInterval at inside
    rw [isWanted] at inside
    dsimp only at inside
    rw [Bool.and_eq_true, decide_eq_true_iff, decide_eq_true_iff] at inside
    exact absurd (lt_of_le_of_lt inside.2 before)
      (not_lt_of_ge (max_le oldest inside.1))
  rw [none, List.flatMap_nil]

/-- Where the block is not missed, the months searched are those of the interval. -/
theorem intervalRight_of_not_missed (hits : ¬ Missed filter index) :
    IntervalRight environment filter index := by
  cases isWanted : filter.timepointInterval with
  | none => exact intervalRight_of_none isWanted
  | some wanted =>
      have atLeast : max index.getOldestYearMonth wanted.startDate ≤ wanted.endDate := by
        apply le_of_not_gt
        intro before
        exact hits ⟨wanted, isWanted, before⟩
      exact intervalRight_of_le isWanted (le_trans (le_max_left _ _) atLeast)
        (le_trans (le_max_right _ _) atLeast)

/-- Where the interval hits the index, the search goes through all matches, in its order. -/
theorem numbersOf_searched (months : MonthsInOrder environment.monthsInRange)
    (calendar : index.CalendarMonths) (ranged : index.Ranged) (hits : ¬ Missed filter index) :
    numbersOf (Satisfies environment filter) (searchedMonths environment filter index).flatten =
      matchesInOrder environment filter index := by
  unfold searchedMonths
  by_cases leaves : filter.minTransactionNr ≠ 0 ∧ filter.minTransactionNr > index.maxTransactionNr ∨
      filter.maxTransactionNr ≠ 0 ∧ filter.maxTransactionNr < index.minTransactionNr ∨
      publicKeyIndexOf environment filter = none
  · rw [if_pos leaves, matchesInOrder_eq_nil (matchesOf_eq_nil ranged (or_assoc.mpr leaves))]
    rfl
  · rw [if_neg leaves, ← List.flatMap_def, inOrder_flatMap,
      flatMap_monthList months calendar, numbersOf, inOrder_filter, inOrder_map,
      searched_eq_matchesOf (intervalRight_of_not_missed hits)]
    rfl

section Unknown

variable {exception : Exception} {matching : BlockIndexEntry → Except Exception FilterResult}

/-- Entries of another type are dismissed, and for the others an exception is thrown. -/
def Throws (filter : Filter) (exception : Exception)
    (matching : BlockIndexEntry → Except Exception FilterResult) : Prop :=
  ∀ entry, (OfType filter entry → matching entry = .error exception) ∧
    (¬ OfType filter entry → matching entry = .ok FilterResult.DISMISS)

/-- With an unknown coin community a month is passed over or its first entry of the filter's type
throws. -/
theorem findInMonth_of_throws (throws : Throws filter exception matching)
    {pagination : Pagination} {found : Found}
    (capacity : pagination.hasCapacityLeft found.result.length = true)
    (entries : List BlockIndexEntry) :
    ((∀ entry ∈ entries, ¬ OfType filter entry) ∧
        findInMonth pagination matching entries found = .ok found) ∨
      (∃ entry ∈ entries, OfType filter entry) ∧
        findInMonth pagination matching entries found = .error exception := by
  induction entries with
  | nil => exact Or.inl ⟨fun entry member => absurd member List.not_mem_nil, rfl⟩
  | cons entry rest ih =>
      by_cases ofType : OfType filter entry
      · right
        refine ⟨⟨entry, List.mem_cons_self .., ofType⟩, ?_⟩
        rw [findInMonth, (throws entry).1 ofType]
      · have dismissed : findInMonth pagination matching (entry :: rest) found =
            findInMonth pagination matching rest found := by
          rw [findInMonth, (throws entry).2 ofType]
          dsimp only
          have same : found.visit pagination entry FilterResult.DISMISS = found := rfl
          rw [same, capacity]
          rfl
        rw [dismissed]
        rcases ih with ⟨none, success⟩ | ⟨⟨other, member, isOfType⟩, failed⟩
        · left
          refine ⟨fun other member => ?_, success⟩
          rcases List.mem_cons.mp member with rfl | later
          · exact ofType
          · exact none other later
        · exact Or.inr ⟨⟨other, List.mem_cons_of_mem _ member, isOfType⟩, failed⟩

/-- The same of a list of months. -/
theorem findInMonths_of_throws (throws : Throws filter exception matching)
    {pagination : Pagination} {found : Found}
    (capacity : pagination.hasCapacityLeft found.result.length = true)
    (months : List (List BlockIndexEntry)) :
    ((∀ entry ∈ months.flatten, ¬ OfType filter entry) ∧
        findInMonths pagination matching months found = .ok found) ∨
      (∃ entry ∈ months.flatten, OfType filter entry) ∧
        findInMonths pagination matching months found = .error exception := by
  induction months with
  | nil => exact Or.inl ⟨fun entry member => absurd member List.not_mem_nil, rfl⟩
  | cons entries rest ih =>
      rw [List.flatten_cons]
      rcases findInMonth_of_throws throws capacity entries with
        ⟨none, success⟩ | ⟨⟨entry, member, ofType⟩, failed⟩
      · rw [findInMonths_cons success]
        rcases ih with ⟨noneLater, successLater⟩ | ⟨⟨entry, member, ofType⟩, failed⟩
        · left
          refine ⟨fun entry member => ?_, successLater⟩
          rcases List.mem_append.mp member with here | later
          · exact none entry here
          · exact noneLater entry later
        · exact Or.inr ⟨⟨entry, List.mem_append_right _ member, ofType⟩, failed⟩
      · right
        refine ⟨⟨entry, List.mem_append_left _ member, ofType⟩, ?_⟩
        rw [findInMonths, failed]

/-- An unknown coin community makes every entry that asks for it throw. -/
theorem exists_throws_of_unknown (reliable : environment.Reliable)
    (unknown : ¬ CommunityKnown environment filter) :
    ∃ exception, environment.getCommunityIdIndex filter.coinCommunityId = .error exception ∧
      ∀ publicKeyIndex, Throws filter exception
        (isMatchingFilter environment filter publicKeyIndex) := by
  have named : ¬ filter.coinCommunityId.isEmpty = true := fun empty => unknown (Or.inl empty)
  cases looked : environment.getCommunityIdIndex filter.coinCommunityId with
  | ok coinCommunityKeyIndex =>
      have nonzero : coinCommunityKeyIndex ≠ 0 := by
        intro zero
        exact reliable.found filter.coinCommunityId (zero ▸ looked)
      exact absurd (Or.inr ⟨coinCommunityKeyIndex, nonzero, looked⟩) unknown
  | error exception =>
      refine ⟨exception, rfl, fun publicKeyIndex entry => ⟨fun ofType => ?_, fun other => ?_⟩⟩
      · have sameType : ¬ (filter.transactionType ≠ 0 ∧
            filter.transactionType ≠ entry.transactionType) := by
          rintro ⟨some, differs⟩
          exact ofType.elim some differs
        unfold isMatchingFilter
        rw [if_neg sameType, if_neg named, looked]
      · exact isMatchingFilter_of_otherType other publicKeyIndex

/-- No transaction is of a coin community that is unknown. -/
theorem satisfies_of_unknown (named : ¬ filter.coinCommunityId.isEmpty = true)
    (looked : environment.getCommunityIdIndex filter.coinCommunityId = .error exception)
    (entry : BlockIndexEntry) : Satisfies environment filter entry = false := by
  have other : OfCoinCommunity environment filter entry = false := by
    unfold OfCoinCommunity
    rw [looked, Bool.eq_false_of_not_eq_true named]
    rfl
  unfold Satisfies
  rw [other]
  simp

end Unknown

/-- A search that looks an unknown coin community up throws. -/
theorem findTransactions_of_not_found (reliable : environment.Reliable)
    (notFound : ¬ CommunityFound environment filter index) :
    ∃ exception, findTransactions environment filter index = .error exception := by
  obtain ⟨unknown, some⟩ := not_or.mp notFound
  obtain ⟨exception, _, throws⟩ := exists_throws_of_unknown reliable unknown
  have capacity : filter.pagination.hasCapacityLeft 0 = true :=
    Pagination.hasCapacityLeft_iff.mpr (Nat.eq_zero_or_pos _)
  rw [findTransactions_eq_searched]
  rcases @findInMonths_of_throws _ _ _ (throws _) filter.pagination ⟨[], 0⟩ capacity
      (searchedMonths environment filter index) with ⟨noneOfType, _⟩ | ⟨_, failed⟩
  · exact absurd noneOfType some
  · rw [failed]
    exact ⟨exception, rfl⟩

/-- A search returns exactly the window of the page out of the matches if and only if it stays
in its page and its time interval and finds the coin community where it looks it up. -/
theorem findTransactions_iff_searchRight (reliable : environment.Reliable)
    (calendar : index.CalendarMonths) (ranged : index.Ranged) :
    findTransactions environment filter index =
        .ok (windowOf filter.pagination (matchesInOrder environment filter index)) ↔
      SearchRight environment filter index := by
  by_cases known : CommunityKnown environment filter
  · rw [findTransactions_of_known known, Except.ok.injEq]
    by_cases missed : Missed filter index
    · rw [windowOf_matchesInOrder_eq_nil (matchesOf_of_missed missed), List.append_eq_nil_iff, windowOf_eq_nil_iff, length_numbersOf,
        ← staysInPage_iff]
      constructor
      · rintro ⟨skipped, stays⟩
        exact ⟨stays, fun _ _ _ => skipped, Or.inl known⟩
      · rintro ⟨stays, interval, _⟩
        obtain ⟨wanted, isWanted, before⟩ := missed
        exact ⟨interval wanted isWanted before, stays⟩
    · rw [numbersOf_searched reliable.months calendar ranged missed, List.append_right_eq_self,
        ← staysInPage_iff]
      constructor
      · intro stays
        exact ⟨stays, fun wanted isWanted before => absurd ⟨wanted, isWanted, before⟩ missed,
          Or.inl known⟩
      · exact SearchRight.page
  · obtain ⟨exception, looked, throws⟩ := exists_throws_of_unknown reliable known
    have named : ¬ filter.coinCommunityId.isEmpty = true := fun empty => known (Or.inl empty)
    have none := satisfies_of_unknown named looked
    have noMatch (entries : List BlockIndexEntry) :
        entries.filter (Satisfies environment filter) = [] := by
      apply List.filter_eq_nil_iff.mpr
      intro entry _
      rw [none entry]
      exact Bool.false_ne_true
    have nothing : windowOf filter.pagination (matchesInOrder environment filter index) = [] := by
      apply windowOf_matchesInOrder_eq_nil
      unfold matchesOf
      simp only [noMatch]
      exact List.flatMap_eq_nil_iff.mpr fun _ _ => rfl
    have capacity : filter.pagination.hasCapacityLeft 0 = true :=
      Pagination.hasCapacityLeft_iff.mpr (Nat.eq_zero_or_pos _)
    rw [nothing, findTransactions_eq_searched]
    rcases @findInMonths_of_throws _ _ _ (throws _) filter.pagination ⟨[], 0⟩ capacity
        (searchedMonths environment filter index) with ⟨noneOfType, success⟩ | ⟨some, failed⟩
    · rw [success]
      refine iff_of_true rfl ⟨fun _ _ _ _ _ _ first _ => none first, fun _ _ _ => ?_,
        Or.inr noneOfType⟩
      rw [noMatch]
      exact Nat.zero_le _
    · rw [failed]
      refine iff_of_false (fun same => by cases same) fun right => ?_
      obtain ⟨entry, member, ofType⟩ := some
      exact right.community.resolve_left known entry member ofType

/-! ## What a search finds -/

/-- How many of the matches that are searched are on the page. -/
def pageLength (environment : SearchEnvironment) (filter : Filter) (index : BlockIndex) : Nat :=
  (windowOf filter.pagination (numbersOf (Satisfies environment filter)
    (searchedMonths environment filter index).flatten)).length

/-- A page is not longer than its size. -/
theorem pageLength_le (paged : filter.pagination.size ≠ 0) :
    pageLength environment filter index ≤ filter.pagination.size := by
  rw [pageLength, windowOf, if_neg paged]
  exact List.length_take_le _ _

/-- With an unknown coin community no entry satisfies the filter. -/
theorem satisfies_of_not_known (reliable : environment.Reliable)
    (unknown : ¬ CommunityKnown environment filter) (entry : BlockIndexEntry) :
    Satisfies environment filter entry = false := by
  obtain ⟨exception, looked, _⟩ := exists_throws_of_unknown reliable unknown
  exact satisfies_of_unknown (fun empty => unknown (Or.inl empty)) looked entry

/-- An unknown coin community has no page to leave. -/
theorem staysInPage_of_unknown (reliable : environment.Reliable)
    (unknown : ¬ CommunityKnown environment filter) :
    StaysInPage environment filter index ∧ pageLength environment filter index = 0 := by
  have none := satisfies_of_not_known reliable unknown
  refine ⟨fun _ _ _ _ _ _ first _ => none first, ?_⟩
  have noMatch : numbersOf (Satisfies environment filter)
      (searchedMonths environment filter index).flatten = [] := by
    rw [numbersOf, List.map_eq_nil_iff, List.filter_eq_nil_iff]
    intro entry _
    rw [none entry]
    exact Bool.false_ne_true
  rw [pageLength, noMatch, List.length_eq_zero_iff, windowOf_eq_nil_iff]
  exact Nat.zero_le _

/-- A search that stays in its page finds what is on it. -/
theorem length_of_stays (reliable : environment.Reliable)
    (stays : StaysInPage environment filter index) {transactionNrs : List UInt64}
    (success : findTransactions environment filter index = .ok transactionNrs) :
    transactionNrs.length = pageLength environment filter index := by
  by_cases known : CommunityKnown environment filter
  · rw [findTransactions_of_known known, staysInPage_iff.mp stays, List.append_nil] at success
    rw [pageLength, Except.ok.inj success]
  · obtain ⟨exception, _, throws⟩ := exists_throws_of_unknown reliable known
    have capacity : filter.pagination.hasCapacityLeft 0 = true :=
      Pagination.hasCapacityLeft_iff.mpr (Nat.eq_zero_or_pos _)
    rw [findTransactions_eq_searched] at success
    rcases @findInMonths_of_throws _ _ _ (throws _) filter.pagination ⟨[], 0⟩ capacity
        (searchedMonths environment filter index) with ⟨_, found⟩ | ⟨_, failed⟩
    · rw [found] at success
      rw [(staysInPage_of_unknown reliable known).2, ← Except.ok.inj success]
      rfl
    · rw [failed] at success
      cases success

/-- A search that does not stay in its page finds more than its size. -/
theorem exists_of_not_stays (reliable : environment.Reliable)
    (leaves : ¬ StaysInPage environment filter index) :
    ∃ transactionNrs, findTransactions environment filter index = .ok transactionNrs ∧
      filter.pagination.size < transactionNrs.length := by
  have known : CommunityKnown environment filter := by
    by_contra unknown
    exact leaves (staysInPage_of_unknown reliable unknown).1
  have more := mt staysInPage_iff.mpr leaves
  refine ⟨_, findTransactions_of_known known, ?_⟩
  by_cases unpaged : filter.pagination.size = 0
  · exact absurd (if_pos unpaged) more
  · rw [if_neg unpaged] at more ⊢
    have some := List.length_pos_iff.mpr more
    have behind := (pastPage_sublist (Satisfies environment filter)
      (filter.pagination.skipEntriesCount + filter.pagination.size)
      (searchedMonths environment filter index)).length_le
    rw [List.length_drop] at behind
    rw [windowOf, if_neg unpaged, List.length_append, List.length_take, List.length_drop]
    omega

/-- A search finds entries of the index. -/
theorem mem_of_findInMonth {pagination : Pagination}
    {matching : BlockIndexEntry → Except Exception FilterResult} {entries : List BlockIndexEntry}
    {found next : Found} (success : findInMonth pagination matching entries found = .ok next)
    {transactionNr : UInt64} (member : transactionNr ∈ next.result) :
    transactionNr ∈ found.result ∨ ∃ entry ∈ entries, entry.transactionNr = transactionNr := by
  induction entries generalizing found with
  | nil =>
      cases success
      exact Or.inl member
  | cons entry rest ih =>
      have visited (filterResult : FilterResult)
          (inResult : transactionNr ∈ (found.visit pagination entry filterResult).result) :
          transactionNr ∈ found.result ∨
            ∃ other ∈ entry :: rest, other.transactionNr = transactionNr := by
        unfold Found.visit at inResult
        split at inResult
        · dsimp only at inResult
          split at inResult
          · rcases List.mem_append.mp inResult with before | new
            · exact Or.inl before
            · exact Or.inr ⟨entry, List.mem_cons_self .., (List.mem_singleton.mp new).symm⟩
          · exact Or.inl inResult
        · exact Or.inl inResult
      rw [findInMonth] at success
      split at success
      · cases success
      · rename_i filterResult _
        dsimp only at success
        split at success
        · cases success
          exact visited filterResult member
        · rcases ih success with inResult | ⟨other, inRest, same⟩
          · exact visited filterResult inResult
          · exact Or.inr ⟨other, List.mem_cons_of_mem _ inRest, same⟩

/-- The numbers found are those found before and numbers of searched entries. -/
theorem mem_of_findInMonths {pagination : Pagination}
    {matching : BlockIndexEntry → Except Exception FilterResult}
    {months : List (List BlockIndexEntry)} {found next : Found}
    (success : findInMonths pagination matching months found = .ok next)
    {transactionNr : UInt64} (member : transactionNr ∈ next.result) :
    transactionNr ∈ found.result ∨
      ∃ entry ∈ months.flatten, entry.transactionNr = transactionNr := by
  induction months generalizing found with
  | nil =>
      cases success
      exact Or.inl member
  | cons entries rest ih =>
      rw [findInMonths] at success
      split at success
      · cases success
      · rename_i middle inMonth
        rcases ih success with inResult | ⟨entry, later, same⟩
        · rcases mem_of_findInMonth inMonth inResult with before | ⟨entry, here, same⟩
          · exact Or.inl before
          · exact Or.inr ⟨entry, List.mem_append_left _ here, same⟩
        · exact Or.inr ⟨entry, List.mem_append_right _ later, same⟩

/-- A searched entry is an entry of the index. -/
theorem mem_allEntries_of_searched {entry : BlockIndexEntry}
    (member : entry ∈ (searchedMonths environment filter index).flatten) :
    entry ∈ index.allEntries := by
  unfold searchedMonths at member
  split at member
  · cases member
  · obtain ⟨month, inMonths, inMonth⟩ := List.mem_flatten.mp member
    obtain ⟨timepoint, _, rfl⟩ := List.mem_map.mp inMonths
    exact mem_allEntries_of_mem_monthList (mem_inOrder.mp inMonth)

/-- Every number the search returns is that of an entry. -/
theorem exists_entry_of_found {transactionNrs : List UInt64}
    (success : findTransactions environment filter index = .ok transactionNrs)
    {transactionNr : UInt64} (member : transactionNr ∈ transactionNrs) :
    ∃ entry ∈ index.allEntries, entry.transactionNr = transactionNr := by
  rw [findTransactions_eq_searched] at success
  cases searched : findInMonths filter.pagination
      (isMatchingFilter environment filter ((publicKeyIndexOf environment filter).getD 0))
      (searchedMonths environment filter index) ⟨[], 0⟩ with
  | error exception =>
      rw [searched] at success
      cases success
  | ok next =>
      rw [searched] at success
      cases success
      rcases mem_of_findInMonths searched member with before | ⟨entry, isSearched, same⟩
      · cases before
      · exact ⟨entry, mem_allEntries_of_searched isSearched, same⟩

section Example

/-- The index of transactions 1, 2 and so on, each of the month at its place. -/
def indexOfMonths (months : List UInt8) : BlockIndex :=
  (months.foldl (fun counted month =>
    (counted.1 + 1, (addIndicesForTransaction {
      transactionType := 1
      coinCommunityIdIndex := 0
      year := 2024
      month := month
      transactionNr := counted.1
      fileCursor := 0
      addressIndices := []
      addressIndiceCount := 0 } counted.2).2)) ((1 : UInt64), BlockIndex.new)).2

/-- The example environment answers every question. -/
theorem reliable_exampleSearch : FileBased.exampleSearch.Reliable where
  months := FileBased.monthsInOrder_monthsBetween
  found _ same := by cases same

/-- Both transactions of May and one of them on the page. -/
theorem searchRight_oneMonth :
    SearchRight FileBased.exampleSearch (FileBased.examplePage 1 1) (indexOfMonths [5, 5]) := by
  refine (findTransactions_iff_searchRight reliable_exampleSearch ?_ ?_).mp ?_
  · unfold CalendarMonths
    decide
  · unfold Ranged
    decide
  · rfl

/-- A page of one transaction, of two in two months. -/
theorem not_findTransactions_twoMonths :
    FileBased.exampleSearch.Reliable ∧ (indexOfMonths [5, 6]).CalendarMonths ∧
      (indexOfMonths [5, 6]).Ranged ∧
      findTransactions FileBased.exampleSearch (FileBased.examplePage 1 1) (indexOfMonths [5, 6]) ≠
        .ok (windowOf ⟨1, 1⟩ (matchesInOrder FileBased.exampleSearch (FileBased.examplePage 1 1)
          (indexOfMonths [5, 6]))) := by
  refine ⟨reliable_exampleSearch, ?_, ?_, ?_⟩
  · unfold CalendarMonths
    decide
  · unfold Ranged
    decide
  · have found : findTransactions FileBased.exampleSearch (FileBased.examplePage 1 1)
        (indexOfMonths [5, 6]) = .ok [1, 2] := rfl
    rw [found]
    decide

end Example

end BlockIndex

end Cache

end GradidoNode

import GradidoNode.Cache.SearchPages
import Mathlib.Data.List.Flatten

/-!
# The pages of a search

In every block the index passes over as many matches as the page asks for at the size that is
left, hands over as many as there is room for, and cuts the others, before the filter function
has seen any. The search returns the page where this does not tear it apart.
-/

namespace GradidoNode

open Library Cache

namespace Blockchain

namespace FileBased

variable {Entry State : Type}

/-- One of the transactions stops the search. -/
def Stops (result : Entry → FilterResult) (transactions : List Entry) : Prop :=
  ∃ transaction ∈ transactions, (result transaction).stop = true

instance (result : Entry → FilterResult) (transactions : List Entry) :
    Decidable (Stops result transactions) :=
  inferInstanceAs (Decidable (∃ transaction ∈ transactions, (result transaction).stop = true))

/-- As much of a list as there is room for. Without a page, a room of 0 is room for all. -/
def inRoom (room : Nat) (transactions : List Entry) : List Entry :=
  if room = 0 then transactions else transactions.take room

/-- The part of a list that there is no room for. -/
def cutOff (room : Nat) (transactions : List Entry) : List Entry :=
  if room = 0 then [] else transactions.drop room

variable (environment : SearchEnvironment) (filter : Filter) (result : Entry → FilterResult)
  (transactionOf : UInt64 → Entry)

/-- What satisfies the index criteria in the months of a block that the search goes through, in
search direction. -/
def searchedIn (block : StoredBlock Entry) : List Entry :=
  (BlockIndex.numbersOf (BlockIndex.Satisfies environment filter)
    (BlockIndex.searchedMonths environment filter block.index).flatten).map transactionOf

/-- How many matches of each block the index passes over while there is so much room. -/
def passedOver (room : Nat) : Nat := (filterCopy filter room).pagination.skipEntriesCount

/-- The window that the index cuts out of a block. -/
def windowIn (room : Nat) (block : StoredBlock Entry) : List Entry :=
  inRoom room ((searchedIn environment filter transactionOf block).drop (passedOver filter room))

/-- What the index adds to a full window: the first entries of later months. -/
def addedIn (room : Nat) (block : StoredBlock Entry) : List Entry :=
  if room = 0 then []
  else (BlockIndex.pastPage (BlockIndex.Satisfies environment filter)
    (passedOver filter room + room)
    (BlockIndex.searchedMonths environment filter block.index)).map transactionOf

/-- What the index hands over to the filter function. -/
def handedOver (room : Nat) (block : StoredBlock Entry) : List Entry :=
  windowIn environment filter transactionOf room block ++
    addedIn environment filter transactionOf room block

/-- Nothing is used of what the index hands over until the search ends. -/
def UsesNothing (room : Nat) : List (StoredBlock Entry) → Prop
  | [] => True
  | block :: rest =>
      BlockIndex.CommunityFound environment filter block.index ∧
      usedUntilStop result (handedOver environment filter transactionOf room block) = [] ∧
      (Stops result (handedOver environment filter transactionOf room block) ∨
        UsesNothing room rest)

/-- The window fills the room with what is used, or one of it stops the search. -/
def Fills (result : Entry → FilterResult) (room : Nat) (transactions : List Entry) : Prop :=
  Stops result (inRoom room transactions) ∨
    room ≠ 0 ∧ (inRoom room transactions).length = room ∧
      ∀ transaction ∈ inRoom room transactions, (result transaction).use = true

/-- The matches of a block behind those that the index passes over. -/
def behindIn (room : Nat) (block : StoredBlock Entry) : List Entry :=
  (matchedIn environment filter transactionOf block).drop (passedOver filter room)

/-- Nothing of the block belongs to the page, and nothing of it is used. -/
def BlockSkipped (skip room : Nat) (block : StoredBlock Entry) : Prop :=
  ¬ Stops result (matchedIn environment filter transactionOf block) ∧
  (usedUntilStop result (matchedIn environment filter transactionOf block)).length ≤ skip ∧
  ¬ Stops result (handedOver environment filter transactionOf room block) ∧
  usedUntilStop result (handedOver environment filter transactionOf room block) = []

/-- The index passes over just as many used transactions as are to be skipped. -/
structure StartsRight (skip room : Nat) (block : StoredBlock Entry) : Prop where
  hits : ¬ BlockIndex.Missed filter block.index
  runs : ¬ Stops result ((matchedIn environment filter transactionOf block).take
    (passedOver filter room))
  skipped : (usedUntilStop result ((matchedIn environment filter transactionOf block).take
    (passedOver filter room))).length = skip

/-- Nothing that is used is cut off, and nothing that is used is added. -/
def CutsNothing (room : Nat) (block : StoredBlock Entry) : Prop :=
  usedUntilStop result (cutOff room (behindIn environment filter transactionOf room block)) = [] ∧
    usedUntilStop result (addedIn environment filter transactionOf room block) = []

/-- The room behind the window of a block. -/
def roomBehind (room : Nat) (block : StoredBlock Entry) : Nat :=
  room - (usedUntilStop result
    (inRoom room (behindIn environment filter transactionOf room block))).length

/-- The blocks, in search direction, do not tear the page apart: so many used transactions are
still to be skipped, and there is so much room left on the page. -/
def PageRight : Nat → Nat → List (StoredBlock Entry) → Prop
  | _, _, [] => True
  | skip, room, block :: rest =>
      -- nothing more belongs to the page, and nothing more is used
      (usedUntilStop result
          ((block :: rest).flatMap (matchedIn environment filter transactionOf))).length ≤ skip ∧
        UsesNothing environment filter result transactionOf room (block :: rest) ∨
      BlockIndex.CommunityFound environment filter block.index ∧
        (BlockSkipped environment filter result transactionOf skip room block ∧
            PageRight (skip - (usedUntilStop result
              (matchedIn environment filter transactionOf block)).length) room rest ∨
          StartsRight environment filter result transactionOf skip room block ∧
            (Fills result room (behindIn environment filter transactionOf room block) ∨
              CutsNothing environment filter result transactionOf room block ∧
                -- a STOP that is cut off is seen nevertheless, or makes no difference
                (Stops result
                    (cutOff room (behindIn environment filter transactionOf room block)) ∧
                  (Stops result (addedIn environment filter transactionOf room block) ∨
                    UsesNothing environment filter result transactionOf
                      (roomBehind environment filter result transactionOf room block) rest) ∨
                ¬ Stops result
                    (cutOff room (behindIn environment filter transactionOf room block)) ∧
                  PageRight 0 (roomBehind environment filter result transactionOf room block)
                    rest)))

/-! ## What a visit of a block uses -/

section Visit

variable {environment filter result transactionOf}

/-- The room is what the page has left. -/
def RoomLeft (filter : Filter) (room count : Nat) : Prop :=
  filter.pagination.size = 0 ∧ room = 0 ∨ 0 < room ∧ count + room = filter.pagination.size

/-- Room that is left is capacity that the pagination has. -/
theorem RoomLeft.capacity {room count : Nat} (left : RoomLeft filter room count) :
    filter.pagination.hasCapacityLeft count = true := by
  apply Pagination.hasCapacityLeft_iff.mpr
  rcases left with ⟨unpaged, _⟩ | ⟨positive, sum⟩
  · exact Or.inl unpaged
  · exact Or.inr (by omega)

theorem inRoom_nil (room : Nat) : inRoom room ([] : List Entry) = [] := by
  unfold inRoom
  rw [List.take_nil, ite_self]

theorem inRoom_sublist (room : Nat) (transactions : List Entry) :
    (inRoom room transactions).Sublist transactions := by
  unfold inRoom
  split
  · exact List.Sublist.refl _
  · exact List.take_sublist _ _

/-- The room is taken. -/
def Full (room : Nat) (used : List Entry) : Prop := room ≠ 0 ∧ room ≤ used.length

instance (room : Nat) (used : List Entry) : Decidable (Full room used) :=
  inferInstanceAs (Decidable (_ ∧ _))

/-- What fits is in the room as a whole. -/
theorem inRoom_of_le {room : Nat} {used : List Entry} (fits : room = 0 ∨ used.length ≤ room) :
    inRoom room used = used := by
  unfold inRoom
  by_cases unpaged : room = 0
  · exact if_pos unpaged
  · rw [if_neg unpaged]
    exact List.take_of_length_le (fits.resolve_left unpaged)

/-- So is what leaves room behind it. -/
theorem inRoom_of_not_full {room : Nat} {used : List Entry} (notFull : ¬ Full room used) :
    inRoom room used = used := by
  apply inRoom_of_le
  by_contra long
  obtain ⟨paged, more⟩ := not_or.mp long
  exact notFull ⟨paged, by omega⟩

/-- One more transaction takes one more place. -/
theorem inRoom_cons {room : Nat} (more : room ≠ 1) (transaction : Entry) (used : List Entry) :
    inRoom room (transaction :: used) = transaction :: inRoom (room - 1) used := by
  unfold inRoom
  by_cases unpaged : room = 0
  · rw [if_pos unpaged, if_pos (by omega)]
  · obtain ⟨others, rfl⟩ := Nat.exists_eq_succ_of_ne_zero unpaged
    rw [if_neg unpaged, if_neg (by omega), List.take_succ_cons]
    rfl

/-- A room is full with one more exactly if a smaller one was full without it. -/
theorem full_cons_iff {room : Nat} (more : room ≠ 1) {transaction : Entry} {used : List Entry} :
    Full room (transaction :: used) ↔ Full (room - 1) used := by
  unfold Full
  rw [List.length_cons]
  omega

/-- The first transaction stops, or a later one does. -/
theorem stops_cons {transaction : Entry} {rest : List Entry} :
    Stops result (transaction :: rest) ↔
      (result transaction).stop = true ∨ Stops result rest := by
  simp [Stops]

/-- The filter function is asked until the room is taken or one of the transactions stops the
search. -/
theorem lookAt_read (transactions before : List Entry) {room size : Nat} {state : State}
    (left : RoomLeft filter room before.length) :
    ∃ capacityLeft stopped, lookAt filter (pureFilter result) (read transactions)
        ⟨before, size, false, state⟩ =
        (.ok capacityLeft, ⟨before ++ inRoom room (usedUntilStop result transactions), size,
          stopped, state⟩) ∧
      (¬ Full room (usedUntilStop result transactions) →
        capacityLeft = true ∧ (stopped = true ↔ Stops result transactions)) := by
  induction transactions generalizing before room with
  | nil =>
      refine ⟨true, false, ?_, fun _ => ⟨rfl, ?_⟩⟩
      · rw [usedUntilStop, inRoom_nil, List.append_nil]
        rfl
      · simp [Stops]
  | cons transaction rest ih =>
      have looked := @lookAt_cons _ State filter result transaction rest
        ⟨before, size, false, state⟩ left.capacity
      rw [looked, usedUntilStop_cons]
      cases here : (result transaction).stop with
      | true =>
          rw [if_pos rfl, if_pos rfl, List.append_nil]
          have fits : inRoom room (if (result transaction).use = true then [transaction] else []) =
              if (result transaction).use = true then [transaction] else [] := by
            apply inRoom_of_le
            rcases left with ⟨_, unpaged⟩ | ⟨positive, _⟩
            · exact Or.inl unpaged
            · right
              split
              · exact positive
              · exact Nat.zero_le _
          refine ⟨true, true, ?_, fun _ => ⟨rfl, ?_⟩⟩
          · rw [fits]
            unfold takeResult
            rw [here]
            cases (result transaction).use with
            | true => rfl
            | false => simp
          · simp [stops_cons, here]
      | false =>
          have laterStops : Stops result (transaction :: rest) ↔ Stops result rest := by
            simp [stops_cons, here]
          rw [if_neg Bool.false_ne_true, if_neg Bool.false_ne_true, laterStops]
          unfold takeResult
          rw [here]
          cases (result transaction).use with
          | false =>
              exact ih before left
          | true =>
              by_cases last : room = 1
              · have paged : filter.pagination.size = before.length + 1 := by
                  rcases left with ⟨_, unpaged⟩ | ⟨_, sum⟩ <;> omega
                have full : filter.pagination.hasCapacityLeft (before ++ [transaction]).length =
                    false := by
                  rw [Bool.eq_false_iff, Ne, Pagination.hasCapacityLeft_iff, List.length_append,
                    List.length_singleton]
                  omega
                obtain ⟨capacityLeft, ended⟩ := @lookAt_of_full _ _ filter result rest
                  (⟨before ++ [transaction], size, false, state⟩ : Search Entry State) full
                refine ⟨capacityLeft, false, ?_, fun notFull => absurd ?_ notFull⟩
                · rw [last]
                  exact ended
                · rw [last]
                  exact ⟨Nat.one_ne_zero, Nat.le_add_left 1 _⟩
              · have stillLeft : RoomLeft filter (room - 1) (before ++ [transaction]).length := by
                  rw [List.length_append, List.length_singleton]
                  rcases left with ⟨unpaged, none⟩ | ⟨positive, sum⟩
                  · exact Or.inl ⟨unpaged, by omega⟩
                  · exact Or.inr ⟨by omega, by omega⟩
                obtain ⟨capacityLeft, stopped, success, ending⟩ := ih (before ++ [transaction]) stillLeft
                refine ⟨capacityLeft, stopped, ?_, ?_⟩
                · change _ = (Except.ok capacityLeft, (⟨before ++ inRoom room
                    (transaction :: usedUntilStop result rest), size, stopped, state⟩ :
                      Search Entry State))
                  rw [inRoom_cons last, List.append_cons before transaction (inRoom (room - 1) _)]
                  exact success
                · change ¬ Full room (transaction :: usedUntilStop result rest) → _
                  rw [full_cons_iff last]
                  exact ending

/-- The search goes on behind a block in which it was handed over these. -/
def GoesOn (result : Entry → FilterResult) (room : Nat) (handed : List Entry) : Prop :=
  ¬ Full room (usedUntilStop result handed) ∧ ¬ Stops result handed

instance (room : Nat) (handed : List Entry) : Decidable (GoesOn result room handed) :=
  inferInstanceAs (Decidable (_ ∧ _))

/-- What the room left is behind a block. -/
theorem RoomLeft.later {room : Nat} {before handed : List Entry}
    (left : RoomLeft filter room before.length) (goesOn : GoesOn result room handed) :
    RoomLeft filter (room - (usedUntilStop result handed).length)
      (before ++ usedUntilStop result handed).length := by
  rw [List.length_append]
  rcases left with ⟨unpaged, none⟩ | ⟨positive, sum⟩
  · exact Or.inl ⟨unpaged, by omega⟩
  · have notFull := goesOn.1
    unfold Full at notFull
    exact Or.inr ⟨by omega, by omega⟩

variable {block : StoredBlock Entry}

/-- Where the coin community is found, the index hands over its window and what it adds. -/
theorem findTransactions_handedOver (room : Nat)
    (found : BlockIndex.CommunityFound environment filter block.index) :
    ∃ transactionNrs, BlockIndex.findTransactions environment (filterCopy filter room) block.index =
        .ok transactionNrs ∧
      handedOver environment filter transactionOf room block = transactionNrs.map transactionOf := by
  have ofCopy : BlockIndex.CommunityFound environment (filterCopy filter room) block.index := found
  refine ⟨_, BlockIndex.findTransactions_of_found ofCopy, ?_⟩
  unfold handedOver windowIn addedIn searchedIn passedOver inRoom BlockIndex.windowOf
  rw [List.map_append]
  change _ = List.map transactionOf (if room = 0 then _ else _) ++
    List.map transactionOf (if room = 0 then _ else _)
  by_cases unpaged : room = 0
  · simp only [if_pos unpaged, List.map_drop, List.map_nil]
    rfl
  · simp only [if_neg unpaged, List.map_take, List.map_drop]
    rfl

/-- The transactions that the index hands over can be read. -/
theorem getTransaction_handedOver {room : Nat} {transactionNrs : List UInt64}
    (success : BlockIndex.findTransactions environment (filterCopy filter room) block.index =
      .ok transactionNrs)
    (handed : handedOver environment filter transactionOf room block =
      transactionNrs.map transactionOf)
    (stored : ∀ entry ∈ block.index.allEntries,
      block.getTransaction entry.transactionNr = .ok (transactionOf entry.transactionNr)) :
    transactionNrs.map block.getTransaction =
      read (handedOver environment filter transactionOf room block) := by
  rw [handed, read, List.map_map]
  apply List.map_congr_left
  intro transactionNr member
  obtain ⟨entry, inIndex, rfl⟩ := BlockIndex.exists_entry_of_found success member
  exact stored entry inIndex

/-- What a visit of a block uses, and when the search goes on behind it. -/
theorem visitBlock_handedOver (before : List Entry) {room : Nat} {state : State}
    (left : RoomLeft filter room before.length)
    (found : BlockIndex.CommunityFound environment filter block.index)
    (stored : ∀ entry ∈ block.index.allEntries,
      block.getTransaction entry.transactionNr = .ok (transactionOf entry.transactionNr)) :
    (GoesOn result room (handedOver environment filter transactionOf room block) ∧
      visitBlock environment filter (pureFilter result) block ⟨before, room, false, state⟩ =
        (.ok true, ⟨before ++ usedUntilStop result
            (handedOver environment filter transactionOf room block),
          room - (usedUntilStop result
            (handedOver environment filter transactionOf room block)).length, false, state⟩)) ∨
    ¬ GoesOn result room (handedOver environment filter transactionOf room block) ∧
      ∃ next, visitBlock environment filter (pureFilter result) block
          ⟨before, room, false, state⟩ = (.ok false, next) ∧
        next.result = before ++ inRoom room (usedUntilStop result
          (handedOver environment filter transactionOf room block)) ∧
        next.state = state := by
  obtain ⟨transactionNrs, success, handed⟩ :=
    @findTransactions_handedOver _ environment filter transactionOf block room found
  have readAll := getTransaction_handedOver success handed stored
  have visited : visitBlock environment filter (pureFilter result) block
      ⟨before, room, false, state⟩ =
        (lookAt filter (pureFilter result)
          (read (handedOver environment filter transactionOf room block))).andThen
            (finishBlock filter) ⟨before, room, false, state⟩ := by
    unfold visitBlock
    rw [success, ← readAll]
  generalize handedOver environment filter transactionOf room block = transactions at visited ⊢
  obtain ⟨capacityLeft, stopped, looked, ending⟩ :=
    @lookAt_read _ State filter result transactions before room room state left
  rw [visited, Fallible.andThen_of_ok looked]
  by_cases full : Full room (usedUntilStop result transactions)
  · refine Or.inr ⟨fun goesOn => goesOn.1 full, ?_⟩
    cases capacityLeft with
    | false => exact ⟨_, rfl, rfl, rfl⟩
    | true =>
        have paged : filter.pagination.size ≠ 0 := by
          rcases left with ⟨_, none⟩ | ⟨_, sum⟩
          · exact absurd none full.1
          · omega
        have none : filter.pagination.size -
            (before ++ inRoom room (usedUntilStop result transactions)).length = 0 := by
          have enough := full.2
          unfold inRoom
          rw [if_neg full.1, List.length_append, List.length_take]
          rcases left with ⟨_, none⟩ | ⟨_, sum⟩
          · exact absurd none full.1
          · omega
        rw [finishBlock_paged paged]
        dsimp only
        rw [none, decide_eq_false (not_not.mpr rfl), Bool.false_and]
        exact ⟨_, rfl, rfl, rfl⟩
  · obtain ⟨rfl, stops⟩ := ending full
    rw [inRoom_of_not_full full]
    have finished : finishBlock filter true (⟨before ++ usedUntilStop result transactions, room,
        stopped, state⟩ : Search Entry State) =
          (.ok !stopped, ⟨before ++ usedUntilStop result transactions,
            room - (usedUntilStop result transactions).length, stopped, state⟩) := by
      rcases left with ⟨unpaged, none⟩ | ⟨positive, sum⟩
      · rw [finishBlock_unpaged unpaged, none, Nat.zero_sub]
      · have paged : filter.pagination.size ≠ 0 := by omega
        have roomBehind : filter.pagination.size -
            (before ++ usedUntilStop result transactions).length =
              room - (usedUntilStop result transactions).length := by
          rw [List.length_append]
          omega
        have some : room - (usedUntilStop result transactions).length ≠ 0 := by
          unfold Full at full
          omega
        rw [finishBlock_paged paged]
        dsimp only
        rw [roomBehind, decide_eq_true some, Bool.true_and]
    rw [finished]
    by_cases isStopped : Stops result transactions
    · rw [stops.mpr isStopped]
      exact Or.inr ⟨fun goesOn => goesOn.2 isStopped, _, rfl, rfl, rfl⟩
    · rw [Bool.eq_false_iff.mpr fun isStop => isStopped (stops.mp isStop)]
      exact Or.inl ⟨⟨full, isStopped⟩, rfl⟩

/-- A visit of a block whose coin community is not found throws. -/
theorem visitBlock_of_not_found (reliable : environment.Reliable)
    (notFound : ¬ BlockIndex.CommunityFound environment filter block.index)
    (search : Search Entry State) : ∃ exception,
      visitBlock environment filter (pureFilter result) block search = (.error exception, search) := by
  have ofCopy : ¬ BlockIndex.CommunityFound environment (filterCopy filter search.size)
    block.index := notFound
  obtain ⟨exception, failed⟩ := BlockIndex.findTransactions_of_not_found reliable ofCopy
  refine ⟨exception, ?_⟩
  unfold visitBlock
  rw [failed]

end Visit

section Iterate

/-- What a search with so much room finds. -/
def foundIn (room : Nat) : List (StoredBlock Entry) → List Entry
  | [] => []
  | block :: rest =>
      let handed := handedOver environment filter transactionOf room block
      inRoom room (usedUntilStop result handed) ++
        if GoesOn result room handed then
          foundIn (room - (usedUntilStop result handed).length) rest
        else []

/-- The coin community is found in every block that the search comes to. -/
def FoundAlong (room : Nat) : List (StoredBlock Entry) → Prop
  | [] => True
  | block :: rest =>
      let handed := handedOver environment filter transactionOf room block
      BlockIndex.CommunityFound environment filter block.index ∧
        (GoesOn result room handed →
          FoundAlong (room - (usedUntilStop result handed).length) rest)

variable {environment filter result transactionOf} {blocks : List (StoredBlock Entry)}

/-- A block that is counted and whose transactions can be read. -/
structure BlockStored (transactionOf : UInt64 → Entry) (block : StoredBlock Entry) : Prop where
  counted : block.index.getTransactionsCount ≠ 0
  stored : ∀ entry ∈ block.index.allEntries,
    block.getTransaction entry.transactionNr = .ok (transactionOf entry.transactionNr)

/-- The search of blocks that can be searched finds what each block has for the room that is left.
-/
theorem iterateBlocks_of_foundAlong (stored : ∀ block ∈ blocks, BlockStored transactionOf block)
    (before : List Entry) {room : Nat} {state : State}
    (left : RoomLeft filter room before.length)
    (along : FoundAlong environment filter result transactionOf room blocks) :
    ∃ next, iterateBlocks (visitBlock environment filter (pureFilter result)) blocks
        ⟨before, room, false, state⟩ = (.ok (), next) ∧
      next.result = before ++ foundIn environment filter result transactionOf room blocks ∧
      next.state = state := by
  induction blocks generalizing before room with
  | nil => exact ⟨_, rfl, (List.append_nil before).symm, rfl⟩
  | cons block rest ih =>
      have isStored := stored block (List.mem_cons_self ..)
      rw [foundIn]
      rcases visitBlock_handedOver before left along.1 isStored.stored with
        ⟨goesOn, visited⟩ | ⟨ends, next, visited, found, sameState⟩
      · obtain ⟨next, success, found, sameState⟩ := ih
          (fun other member => stored other (List.mem_cons_of_mem _ member)) _
          (left.later goesOn) (along.2 goesOn)
        rw [iterateBlocks_cons isStored.counted visited, if_pos rfl, if_pos goesOn,
          inRoom_of_not_full goesOn.1, ← List.append_assoc]
        exact ⟨next, success, found, sameState⟩
      · rw [iterateBlocks_cons isStored.counted visited, if_neg Bool.false_ne_true, if_neg ends,
          List.append_nil]
        exact ⟨next, rfl, found, sameState⟩

/-- A search that succeeds could search every block it came to. -/
theorem foundAlong_of_iterateBlocks (reliable : environment.Reliable)
    (stored : ∀ block ∈ blocks, BlockStored transactionOf block)
    (before : List Entry) {room : Nat} {state : State}
    (left : RoomLeft filter room before.length) {next : Search Entry State}
    (success : iterateBlocks (visitBlock environment filter (pureFilter result)) blocks
      ⟨before, room, false, state⟩ = (.ok (), next)) :
    FoundAlong environment filter result transactionOf room blocks := by
  induction blocks generalizing before room with
  | nil => trivial
  | cons block rest ih =>
      have isStored := stored block (List.mem_cons_self ..)
      have found : BlockIndex.CommunityFound environment filter block.index := by
        by_contra notFound
        obtain ⟨exception, failed⟩ := @visitBlock_of_not_found _ State environment filter result
          block reliable notFound ⟨before, room, false, state⟩
        rw [iterateBlocks, if_neg isStored.counted, Fallible.andThen_of_error failed] at success
        cases success
      refine ⟨found, fun goesOn => ?_⟩
      rcases visitBlock_handedOver before left found isStored.stored with
        ⟨_, visited⟩ | ⟨ends, _⟩
      · rw [iterateBlocks_cons isStored.counted visited, if_pos rfl] at success
        exact ih (fun other member => stored other (List.mem_cons_of_mem _ member)) _
          (left.later goesOn) success
      · exact absurd goesOn ends

end Iterate

/-! ## The page, where it is not torn apart -/

section Lists

variable {result : Entry → FilterResult}

/-- A list stops in its first or in its second part. -/
theorem stops_append {first second : List Entry} :
    Stops result (first ++ second) ↔ Stops result first ∨ Stops result second := by
  simp [Stops, or_and_right, exists_or]

/-- More transactions stop as well. -/
theorem Stops.of_sublist {first second : List Entry} (stops : Stops result first)
    (sublist : first.Sublist second) : Stops result second := by
  obtain ⟨transaction, member, stop⟩ := stops
  exact ⟨transaction, sublist.mem member, stop⟩

/-- Behind transactions that do not stop the search it goes on. -/
theorem usedUntilStop_append {first : List Entry} (runs : ¬ Stops result first)
    (second : List Entry) : usedUntilStop result (first ++ second) =
      usedUntilStop result first ++ usedUntilStop result second :=
  usedUntilStop_append_of_not second fun transaction member =>
    Bool.eq_false_of_not_eq_true fun stop => runs ⟨transaction, member, stop⟩

/-- Where all are used and none stops, nothing is left out. -/
theorem usedUntilStop_eq_self {transactions : List Entry} (runs : ¬ Stops result transactions)
    (allUsed : ∀ transaction ∈ transactions, (result transaction).use = true) :
    usedUntilStop result transactions = transactions := by
  rw [usedUntilStop_eq_filter fun transaction member =>
    Bool.eq_false_of_not_eq_true fun stop => runs ⟨transaction, member, stop⟩]
  exact List.filter_eq_self.mpr allUsed

/-- What is in the room and what is cut off are all. -/
theorem inRoom_append_cutOff (room : Nat) (transactions : List Entry) :
    inRoom room transactions ++ cutOff room transactions = transactions := by
  unfold inRoom cutOff
  split
  · exact List.append_nil _
  · exact List.take_append_drop room transactions

/-- What is used in front takes its places from what follows. -/
theorem inRoom_append {room : Nat} {first : List Entry} (notFull : ¬ Full room first)
    (second : List Entry) :
    inRoom room (first ++ second) = first ++ inRoom (room - first.length) second := by
  unfold inRoom
  by_cases unpaged : room = 0
  · rw [if_pos unpaged, if_pos (by omega)]
  · have short : first.length < room := by
      unfold Full at notFull
      omega
    rw [if_neg unpaged, if_neg (by omega), List.take_append,
      List.take_of_length_le (Nat.le_of_lt short)]

/-- A full room has no place for what follows. -/
theorem inRoom_append_of_full {room : Nat} {first : List Entry} (full : Full room first)
    (second : List Entry) : inRoom room (first ++ second) = inRoom room first := by
  unfold inRoom
  rw [if_neg full.1, if_neg full.1, List.take_append_of_le_length full.2]

/-- A window that neither stops the search nor is used as a whole leaves room. -/
theorem not_full_of_not_fills {room : Nat} {transactions : List Entry}
    (unfilled : ¬ Fills result room transactions) :
    ¬ Full room (usedUntilStop result (inRoom room transactions)) := by
  rintro ⟨paged, enough⟩
  obtain ⟨runs, notAll⟩ := not_or.mp unfilled
  have atMost : (inRoom room transactions).length ≤ room := by
    unfold inRoom
    rw [if_neg paged]
    exact List.length_take_le _ _
  have used := (@usedUntilStop_sublist _ result (inRoom room transactions)).length_le
  have length : (inRoom room transactions).length = room := by omega
  have whole := (@usedUntilStop_sublist _ result (inRoom room transactions)).eq_of_length
    (by omega)
  have isFilter := usedUntilStop_eq_filter fun transaction member =>
    Bool.eq_false_of_not_eq_true fun stop => runs ⟨transaction, member, stop⟩
  exact notAll ⟨paged, length, List.filter_eq_self.mp (isFilter.symm.trans whole)⟩

/-- A filled window is all that the page takes of what begins with it. -/
theorem Fills.inRoom_append {room : Nat} {transactions : List Entry}
    (fills : Fills result room transactions) (later : List Entry) :
    inRoom room (usedUntilStop result (inRoom room transactions ++ later)) =
      inRoom room (usedUntilStop result (inRoom room transactions)) := by
  by_cases stops : Stops result (inRoom room transactions)
  · rw [usedUntilStop_append_of_stop later stops]
  · obtain ⟨paged, length, allUsed⟩ := fills.resolve_left stops
    have full : Full room (usedUntilStop result (inRoom room transactions)) := by
      rw [usedUntilStop_eq_self stops allUsed]
      exact ⟨paged, Nat.le_of_eq length.symm⟩
    rw [usedUntilStop_append stops, inRoom_append_of_full full]

/-- Behind a window that fills the room the search does not go on. -/
theorem Fills.not_goesOn {room : Nat} {transactions : List Entry}
    (fills : Fills result room transactions) (later : List Entry) :
    ¬ GoesOn result room (inRoom room transactions ++ later) := by
  rintro ⟨notFull, runs⟩
  have runsHere : ¬ Stops result (inRoom room transactions) :=
    fun stops => runs (stops_append.mpr (Or.inl stops))
  obtain ⟨paged, length, allUsed⟩ := fills.resolve_left runsHere
  refine notFull ⟨paged, ?_⟩
  rw [usedUntilStop_append runsHere, usedUntilStop_eq_self runsHere allUsed, List.length_append]
  omega

end Lists

section Right

variable {environment filter result transactionOf} {blocks : List (StoredBlock Entry)}

theorem not_full_nil (room : Nat) : ¬ Full room ([] : List Entry) := by
  rintro ⟨paged, none⟩
  exact paged (Nat.le_zero.mp none)

/-- Blocks of which nothing is used add nothing to the page. -/
theorem foundIn_of_usesNothing {room : Nat}
    (nothing : UsesNothing environment filter result transactionOf room blocks) :
    FoundAlong environment filter result transactionOf room blocks ∧
      foundIn environment filter result transactionOf room blocks = [] := by
  induction blocks with
  | nil => exact ⟨trivial, rfl⟩
  | cons block rest ih =>
      obtain ⟨found, none, ending⟩ := nothing
      have later (goesOn : GoesOn result room (handedOver environment filter transactionOf room
          block)) := ih (ending.resolve_left goesOn.2)
      constructor
      · refine ⟨found, fun goesOn => ?_⟩
        rw [none]
        exact (later goesOn).1
      · rw [foundIn, none, inRoom_nil, List.nil_append]
        split
        · rename_i goesOn
          exact (later goesOn).2
        · rfl

/-- Where the time interval hits the block, its matches are gone through, and no others. -/
def SearchesMatches (environment : SearchEnvironment) (filter : Filter)
    (transactionOf : UInt64 → Entry) (block : StoredBlock Entry) : Prop :=
  ¬ BlockIndex.Missed filter block.index →
    searchedIn environment filter transactionOf block =
      matchedIn environment filter transactionOf block

/-- What is handed over of a block that the interval hits is the window, and what is added to it. -/
theorem handedOver_of_hits {block : StoredBlock Entry} (room : Nat)
    (same : searchedIn environment filter transactionOf block =
      matchedIn environment filter transactionOf block) :
    handedOver environment filter transactionOf room block =
      inRoom room (behindIn environment filter transactionOf room block) ++
        addedIn environment filter transactionOf room block := by
  unfold handedOver windowIn behindIn
  rw [same]

/-- What is added to a window comes out of what it cuts off. -/
theorem addedIn_sublist (room : Nat) (block : StoredBlock Entry) :
    (addedIn environment filter transactionOf room block).Sublist (cutOff room
      ((searchedIn environment filter transactionOf block).drop (passedOver filter room))) := by
  unfold addedIn cutOff searchedIn
  split
  · exact List.Sublist.refl _
  · rw [List.drop_drop, ← List.map_drop]
    exact (BlockIndex.pastPage_sublist _ _ _).map transactionOf

/-- A block that begins with what is to be skipped gives the page what is its own. -/
theorem foundIn_of_startsRight {skip room : Nat} {block : StoredBlock Entry}
    {rest : List (StoredBlock Entry)}
    (starts : StartsRight environment filter result transactionOf skip room block)
    (searches : SearchesMatches environment filter transactionOf block)
    (ending : Fills result room (behindIn environment filter transactionOf room block) ∨
      CutsNothing environment filter result transactionOf room block ∧
        (Stops result (cutOff room (behindIn environment filter transactionOf room block)) ∧
          (Stops result (addedIn environment filter transactionOf room block) ∨
            UsesNothing environment filter result transactionOf
              (roomBehind environment filter result transactionOf room block) rest) ∨
        ¬ Stops result (cutOff room (behindIn environment filter transactionOf room block)) ∧
          FoundAlong environment filter result transactionOf
            (roomBehind environment filter result transactionOf room block) rest ∧
          foundIn environment filter result transactionOf
            (roomBehind environment filter result transactionOf room block) rest =
            inRoom (roomBehind environment filter result transactionOf room block)
              (usedUntilStop result
                (rest.flatMap (matchedIn environment filter transactionOf)))))
    (found : BlockIndex.CommunityFound environment filter block.index) :
    FoundAlong environment filter result transactionOf room (block :: rest) ∧
      foundIn environment filter result transactionOf room (block :: rest) =
        inRoom room ((usedUntilStop result ((block :: rest).flatMap
          (matchedIn environment filter transactionOf))).drop skip) := by
  have handed := handedOver_of_hits room (searches starts.hits)
  have addedInCut := @addedIn_sublist _ environment filter transactionOf room block
  rw [searches starts.hits] at addedInCut
  -- the page begins behind what is passed over
  have split : matchedIn environment filter transactionOf block =
      (matchedIn environment filter transactionOf block).take (passedOver filter room) ++
        behindIn environment filter transactionOf room block :=
    (List.take_append_drop _ _).symm
  have page : (usedUntilStop result ((block :: rest).flatMap
      (matchedIn environment filter transactionOf))).drop skip =
        usedUntilStop result (behindIn environment filter transactionOf room block ++
          rest.flatMap (matchedIn environment filter transactionOf)) := by
    rw [List.flatMap_cons, split, List.append_assoc, usedUntilStop_append starts.runs,
      ← starts.skipped, List.drop_left]
  rw [page, foundIn, FoundAlong, handed]
  change addedIn environment filter transactionOf room block |>.Sublist
    (cutOff room (behindIn environment filter transactionOf room block)) at addedInCut
  unfold CutsNothing roomBehind at ending
  generalize behindIn environment filter transactionOf room block = behind at *
  generalize addedIn environment filter transactionOf room block = added at *
  by_cases fills : Fills result room behind
  · have ends := fills.not_goesOn added
    refine ⟨⟨found, fun goesOn => absurd goesOn ends⟩, ?_⟩
    have wholePage := fills.inRoom_append (cutOff room behind ++
      rest.flatMap (matchedIn environment filter transactionOf))
    rw [← List.append_assoc, inRoom_append_cutOff] at wholePage
    rw [if_neg ends, List.append_nil, fills.inRoom_append, wholePage]
  · obtain ⟨⟨cutNone, addedNone⟩, ending⟩ := ending.resolve_left fills
    have runs : ¬ Stops result (inRoom room behind) := fun stops => fills (Or.inl stops)
    have notFull := not_full_of_not_fills fills
    have used : usedUntilStop result (inRoom room behind ++ added) =
        usedUntilStop result (inRoom room behind) := by
      rw [usedUntilStop_append runs, addedNone, List.append_nil]
    have goesOn_iff : GoesOn result room (inRoom room behind ++ added) ↔ ¬ Stops result added := by
      unfold GoesOn
      rw [used, stops_append]
      exact ⟨fun goesOn stops => goesOn.2 (Or.inr stops),
        fun runsAdded => ⟨notFull, fun stops => stops.elim runs runsAdded⟩⟩
    have wholePage := inRoom_append notFull (usedUntilStop result (cutOff room behind ++
      rest.flatMap (matchedIn environment filter transactionOf)))
    rw [← usedUntilStop_append runs, ← List.append_assoc, inRoom_append_cutOff] at wholePage
    rw [used, inRoom_of_not_full notFull, wholePage]
    rcases ending with ⟨stopsCut, ending⟩ | ⟨runsCut, along, later⟩
    · rw [usedUntilStop_append_of_stop _ stopsCut, cutNone, inRoom_nil]
      rcases ending with stopsAdded | nothing
      · have ends := mt goesOn_iff.mp (not_not.mpr stopsAdded)
        rw [if_neg ends]
        exact ⟨⟨found, fun goesOn => absurd goesOn ends⟩, rfl⟩
      · obtain ⟨along, none⟩ := foundIn_of_usesNothing nothing
        rw [none, ite_self]
        exact ⟨⟨found, fun _ => along⟩, rfl⟩
    · have runsAdded : ¬ Stops result added := fun stops => runsCut (stops.of_sublist addedInCut)
      rw [if_pos (goesOn_iff.mpr runsAdded), usedUntilStop_append runsCut, cutNone,
        List.nil_append, later]
      exact ⟨⟨found, fun _ => along⟩, rfl⟩

/-- Where the blocks do not tear the page apart, the search finds the page. -/
theorem foundIn_of_pageRight
    (searches : ∀ block ∈ blocks, SearchesMatches environment filter transactionOf block)
    {skip room : Nat} (right : PageRight environment filter result transactionOf skip room blocks) :
    FoundAlong environment filter result transactionOf room blocks ∧
      foundIn environment filter result transactionOf room blocks =
        inRoom room ((usedUntilStop result (blocks.flatMap
          (matchedIn environment filter transactionOf))).drop skip) := by
  induction blocks generalizing skip room with
  | nil =>
      refine ⟨trivial, ?_⟩
      rw [List.flatMap_nil, usedUntilStop, List.drop_nil, inRoom_nil]
      rfl
  | cons block rest ih =>
      have restSearches : ∀ other ∈ rest, SearchesMatches environment filter transactionOf other :=
        fun other member => searches other (List.mem_cons_of_mem _ member)
      rcases right with ⟨few, nothing⟩ | ⟨found, ⟨skipped, restRight⟩ | ⟨starts, ending⟩⟩
      · obtain ⟨along, none⟩ := foundIn_of_usesNothing nothing
        refine ⟨along, none.trans ?_⟩
        rw [List.drop_eq_nil_of_le few, inRoom_nil]
      · obtain ⟨runs, few, runsHanded, noneHanded⟩ := skipped
        obtain ⟨along, later⟩ := ih restSearches restRight
        rw [foundIn, FoundAlong, noneHanded, inRoom_nil, List.nil_append,
          if_pos ⟨noneHanded ▸ not_full_nil room, runsHanded⟩, List.flatMap_cons,
          usedUntilStop_append runs, List.drop_append, List.drop_eq_nil_of_le few, List.nil_append]
        exact ⟨⟨found, fun _ => along⟩, later⟩
      · refine foundIn_of_startsRight starts (searches block (List.mem_cons_self ..)) ?_ found
        rcases ending with fills | ⟨cutsNothing, later⟩
        · exact Or.inl fills
        refine Or.inr ⟨cutsNothing, ?_⟩
        rcases later with noDifference | ⟨runsCut, restRight⟩
        · exact Or.inl noDifference
        obtain ⟨along, found⟩ := ih restSearches restRight
        exact Or.inr ⟨runsCut, along, found⟩

end Right

/-! ## What a page that comes out right says of the blocks -/

section Apart

variable {environment filter result transactionOf} {blocks : List (StoredBlock Entry)}

/-- The transactions of a block. -/
def entriesIn (transactionOf : UInt64 → Entry) (block : StoredBlock Entry) : List Entry :=
  block.index.allEntries.map fun entry => transactionOf entry.transactionNr

/-- What is searched is a transaction of the block. -/
theorem mem_entriesIn_of_searchedIn {block : StoredBlock Entry} {transaction : Entry}
    (searched : transaction ∈ searchedIn environment filter transactionOf block) :
    transaction ∈ entriesIn transactionOf block := by
  unfold searchedIn BlockIndex.numbersOf at searched
  rw [List.map_map] at searched
  obtain ⟨entry, satisfying, rfl⟩ := List.mem_map.mp searched
  exact List.mem_map.mpr
    ⟨entry, BlockIndex.mem_allEntries_of_searched (List.mem_of_mem_filter satisfying), rfl⟩

/-- What is handed over was searched. -/
theorem mem_searchedIn_of_handedOver {room : Nat} {block : StoredBlock Entry} {transaction : Entry}
    (handed : transaction ∈ handedOver environment filter transactionOf room block) :
    transaction ∈ searchedIn environment filter transactionOf block := by
  rcases List.mem_append.mp handed with inWindow | isAdded
  · exact List.mem_of_mem_drop ((inRoom_sublist room _).mem inWindow)
  · have inCut := (addedIn_sublist room block).mem isAdded
    unfold cutOff at inCut
    split at inCut
    · cases inCut
    · exact List.mem_of_mem_drop (List.mem_of_mem_drop inCut)

/-- A match is a transaction of the block. -/
theorem mem_entriesIn_of_matchedIn {block : StoredBlock Entry} {transaction : Entry}
    (matched : transaction ∈ matchedIn environment filter transactionOf block) :
    transaction ∈ entriesIn transactionOf block := by
  obtain ⟨transactionNr, isMatched, rfl⟩ := List.mem_map.mp matched
  obtain ⟨entry, satisfying, rfl⟩ := List.mem_map.mp (mem_inOrder.mp isMatched)
  exact List.mem_map.mpr ⟨entry, (BlockIndex.mem_matchesOf satisfying).1, rfl⟩

/-- The matches of a block are some of its transactions, in their order or against it. -/
theorem nodup_matchedIn {block : StoredBlock Entry}
    (apart : (entriesIn transactionOf block).Nodup) :
    (matchedIn environment filter transactionOf block).Nodup := by
  have sublist : (BlockIndex.matchesOf environment filter block.index).Sublist
      block.index.allEntries := by
    have whole : block.index.allEntries = block.index.allMonths.flatMap Prod.snd := by
      simp [BlockIndex.allEntries, BlockIndex.allMonths, List.flatMap_assoc, List.flatMap_map]
    rw [whole]
    unfold BlockIndex.matchesOf
    exact (List.Sublist.flatMap_right _ fun month _ => List.filter_sublist).trans
      (List.filter_sublist.flatMap _)
  have isInOrder : matchedIn environment filter transactionOf block =
      filter.searchDirection.inOrder ((BlockIndex.matchesOf environment filter block.index).map
        fun entry => transactionOf entry.transactionNr) := by
    rw [matchedIn, BlockIndex.matchesInOrder, inOrder_map, List.map_map]
    rfl
  have ofMatches := (sublist.map fun entry : BlockIndexEntry =>
    transactionOf entry.transactionNr).nodup apart
  rw [isInOrder]
  cases filter.searchDirection with
  | ASC => exact ofMatches
  | DESC => exact (List.reverse_perm _).nodup_iff.mpr ofMatches

/-- What is found was searched in one of the blocks. -/
theorem mem_foundIn {room : Nat} {transaction : Entry}
    (found : transaction ∈ foundIn environment filter result transactionOf room blocks) :
    ∃ block ∈ blocks, transaction ∈ searchedIn environment filter transactionOf block := by
  induction blocks generalizing room with
  | nil => cases found
  | cons block rest ih =>
      rw [foundIn] at found
      rcases List.mem_append.mp found with here | later
      · have handed := (usedUntilStop_sublist _).mem ((inRoom_sublist _ _).mem here)
        exact ⟨block, List.mem_cons_self .., mem_searchedIn_of_handedOver handed⟩
      · split at later
        · obtain ⟨other, member, searched⟩ := ih later
          exact ⟨other, List.mem_cons_of_mem _ member, searched⟩
        · cases later

/-- A list is split in one way into a part of one kind and a part of another. -/
theorem append_inj_of_apart {first second first' second' : List Entry} {inFirst : Entry → Prop}
    (same : first ++ second = first' ++ second')
    (isFirst : ∀ transaction ∈ first, inFirst transaction)
    (isFirst' : ∀ transaction ∈ first', inFirst transaction)
    (isSecond : ∀ transaction ∈ second, ¬ inFirst transaction)
    (isSecond' : ∀ transaction ∈ second', ¬ inFirst transaction) :
    first = first' ∧ second = second' := by
  induction first generalizing first' with
  | nil =>
      cases first' with
      | nil => exact ⟨rfl, same⟩
      | cons transaction rest =>
          refine absurd (isFirst' transaction (List.mem_cons_self ..)) (isSecond transaction ?_)
          rw [List.nil_append] at same
          rw [same]
          exact List.mem_append_left _ (List.mem_cons_self ..)
  | cons transaction rest ih =>
      cases first' with
      | nil =>
          refine absurd (isFirst transaction (List.mem_cons_self ..)) (isSecond' transaction ?_)
          rw [List.nil_append] at same
          rw [← same]
          exact List.mem_append_left _ (List.mem_cons_self ..)
      | cons transaction' rest' =>
          obtain ⟨rfl, sameRest⟩ := List.cons.inj same
          obtain ⟨rfl, sameSecond⟩ := ih sameRest
            (fun other member => isFirst other (List.mem_cons_of_mem _ member))
            (fun other member => isFirst' other (List.mem_cons_of_mem _ member))
          exact ⟨rfl, sameSecond⟩

theorem eq_nil_of_inRoom {room : Nat} {used : List Entry} (none : inRoom room used = []) :
    used = [] := by
  unfold inRoom at none
  split at none
  · exact none
  · rename_i paged
    exact (List.take_eq_nil_iff.mp none).resolve_left paged

/-- A search that finds nothing uses nothing. -/
theorem usesNothing_of_foundIn {room : Nat}
    (along : FoundAlong environment filter result transactionOf room blocks)
    (none : foundIn environment filter result transactionOf room blocks = []) :
    UsesNothing environment filter result transactionOf room blocks := by
  induction blocks with
  | nil => trivial
  | cons block rest ih =>
      rw [foundIn, List.append_eq_nil_iff] at none
      have noneHere := eq_nil_of_inRoom none.1
      refine ⟨along.1, noneHere, ?_⟩
      by_cases stops : Stops result (handedOver environment filter transactionOf room block)
      · exact Or.inl stops
      · have goesOn : GoesOn result room (handedOver environment filter transactionOf room block) :=
          ⟨noneHere ▸ not_full_nil room, stops⟩
        have later := along.2 goesOn
        have noneLater := none.2
        rw [if_pos goesOn] at noneLater
        rw [noneHere] at later noneLater
        exact Or.inr (ih later noneLater)

/-- The page is what a block has of it, and what the later ones have. -/
theorem page_append (skip room : Nat) (matched later : List Entry) :
    inRoom room ((usedUntilStop result (matched ++ later)).drop skip) =
      inRoom room ((usedUntilStop result matched).drop skip) ++
        if Stops result matched ∨ Full room ((usedUntilStop result matched).drop skip) then []
        else inRoom (room - ((usedUntilStop result matched).drop skip).length)
          ((usedUntilStop result later).drop (skip - (usedUntilStop result matched).length)) := by
  by_cases stops : Stops result matched
  · rw [usedUntilStop_append_of_stop later stops, if_pos (Or.inl stops), List.append_nil]
  · rw [usedUntilStop_append stops, List.drop_append]
    by_cases full : Full room ((usedUntilStop result matched).drop skip)
    · rw [inRoom_append_of_full full, if_pos (Or.inr full), List.append_nil]
    · rw [inRoom_append full, inRoom_of_not_full full, if_neg (not_or.mpr ⟨stops, full⟩)]

/-- The block ends the page or leaves room, and what is left of the page comes out of the blocks
behind it. -/
structure BlockAgrees (environment : SearchEnvironment) (filter : Filter)
    (result : Entry → FilterResult) (transactionOf : UInt64 → Entry) (skip room : Nat)
    (block : StoredBlock Entry) (rest : List (StoredBlock Entry)) : Prop where
  here : inRoom room (usedUntilStop result
      (handedOver environment filter transactionOf room block)) =
    inRoom room ((usedUntilStop result
      (matchedIn environment filter transactionOf block)).drop skip)
  later : (if GoesOn result room (handedOver environment filter transactionOf room block) then
        foundIn environment filter result transactionOf (room - (usedUntilStop result
          (handedOver environment filter transactionOf room block)).length) rest
      else []) =
    if Stops result (matchedIn environment filter transactionOf block) ∨
        Full room ((usedUntilStop result
          (matchedIn environment filter transactionOf block)).drop skip) then []
    else inRoom (room - ((usedUntilStop result
        (matchedIn environment filter transactionOf block)).drop skip).length)
      ((usedUntilStop result (rest.flatMap (matchedIn environment filter transactionOf))).drop
        (skip - (usedUntilStop result
          (matchedIn environment filter transactionOf block)).length))

/-- A page that comes out right comes out right block by block. -/
theorem blockAgrees_of_foundIn {skip room : Nat} {block : StoredBlock Entry}
    {rest : List (StoredBlock Entry)}
    (apart : ((block :: rest).flatMap (entriesIn transactionOf)).Nodup)
    (same : foundIn environment filter result transactionOf room (block :: rest) =
      inRoom room ((usedUntilStop result ((block :: rest).flatMap
        (matchedIn environment filter transactionOf))).drop skip)) :
    BlockAgrees environment filter result transactionOf skip room block rest := by
  rw [foundIn, List.flatMap_cons, page_append] at same
  rw [List.flatMap_cons, List.nodup_append] at apart
  have notHere {transaction : Entry}
      (inRest : ∃ other ∈ rest, transaction ∈ entriesIn transactionOf other) :
      transaction ∉ entriesIn transactionOf block := by
    obtain ⟨other, member, isEntry⟩ := inRest
    exact fun here => apart.2.2 transaction here transaction
      (List.mem_flatMap.mpr ⟨other, member, isEntry⟩) rfl
  obtain ⟨here, later⟩ := @append_inj_of_apart _ _ _ _ _
    (fun transaction => transaction ∈ entriesIn transactionOf block) same
    (fun transaction member => mem_entriesIn_of_searchedIn (mem_searchedIn_of_handedOver
      ((usedUntilStop_sublist _).mem ((inRoom_sublist _ _).mem member))))
    (fun transaction member => mem_entriesIn_of_matchedIn
      ((usedUntilStop_sublist _).mem (List.mem_of_mem_drop ((inRoom_sublist _ _).mem member))))
    (by
      intro transaction member
      split at member
      · obtain ⟨other, inRest, searched⟩ := mem_foundIn member
        exact notHere ⟨other, inRest, mem_entriesIn_of_searchedIn searched⟩
      · cases member)
    (by
      intro transaction member
      split at member
      · cases member
      · have matched := (usedUntilStop_sublist _).mem
          (List.mem_of_mem_drop ((inRoom_sublist _ _).mem member))
        obtain ⟨other, inRest, isMatched⟩ := List.mem_flatMap.mp matched
        exact notHere ⟨other, inRest, mem_entriesIn_of_matchedIn isMatched⟩)
  exact ⟨here, later⟩

/-- A room for more than nothing has a place for the first. -/
theorem inRoom_cons_eq (room : Nat) (transaction : Entry) (used : List Entry) :
    ∃ later, inRoom room (transaction :: used) = transaction :: later := by
  unfold inRoom
  by_cases unpaged : room = 0
  · exact ⟨used, if_pos unpaged⟩
  · obtain ⟨others, rfl⟩ := Nat.exists_eq_succ_of_ne_zero unpaged
    refine ⟨used.take others, ?_⟩
    rw [if_neg unpaged, List.take_succ_cons]

/-- What the window uses first is what is used first of all behind what is passed over. -/
theorem usedUntilStop_of_window {room : Nat} {behind used : List Entry} {transaction : Entry}
    (first : usedUntilStop result (inRoom room behind) = transaction :: used) :
    ∃ later, usedUntilStop result behind = transaction :: later := by
  rw [← inRoom_append_cutOff room behind]
  by_cases stops : Stops result (inRoom room behind)
  · rw [usedUntilStop_append_of_stop _ stops]
    exact ⟨used, first⟩
  · rw [usedUntilStop_append stops, first]
    exact ⟨_, rfl⟩

/-- Where the window has the first transaction of the page, what is passed over is just what was
to be skipped. -/
theorem skipped_of_window {skip room : Nat} {passed behind : List Entry}
    (apart : (passed ++ behind).Nodup)
    (same : inRoom room (usedUntilStop result (inRoom room behind)) =
      inRoom room ((usedUntilStop result (passed ++ behind)).drop skip))
    (some : (usedUntilStop result (passed ++ behind)).drop skip ≠ []) :
    ¬ Stops result passed ∧ (usedUntilStop result passed).length = skip := by
  obtain ⟨transaction, rest, isPage⟩ := List.exists_cons_of_ne_nil some
  obtain ⟨later, onPage⟩ := inRoom_cons_eq room transaction rest
  rw [isPage, onPage] at same
  obtain ⟨first, used, isUsed⟩ : ∃ first used,
      usedUntilStop result (inRoom room behind) = first :: used := by
    apply List.exists_cons_of_ne_nil
    intro none
    rw [none, inRoom_nil] at same
    cases same
  obtain ⟨others, inWindow⟩ := inRoom_cons_eq room first used
  rw [isUsed, inWindow] at same
  obtain ⟨rfl, _⟩ := List.cons.inj same
  obtain ⟨after, isBehind⟩ := usedUntilStop_of_window isUsed
  have inBehind : first ∈ behind :=
    (usedUntilStop_sublist _).mem (isBehind ▸ List.mem_cons_self ..)
  have notPassed : first ∉ passed := fun isPassed =>
    (List.nodup_append.mp apart).2.2 first isPassed first inBehind rfl
  have runs : ¬ Stops result passed := by
    intro stops
    rw [usedUntilStop_append_of_stop _ stops] at isPage
    have dropped : first ∈ (usedUntilStop result passed).drop skip :=
      isPage ▸ List.mem_cons_self ..
    exact notPassed ((usedUntilStop_sublist _).mem (List.mem_of_mem_drop dropped))
  refine ⟨runs, ?_⟩
  rw [usedUntilStop_append runs, List.drop_append, isBehind] at isPage
  cases early : (usedUntilStop result passed).drop skip with
  | cons transaction others =>
      rw [early] at isPage
      obtain ⟨rfl, _⟩ := List.cons.inj isPage
      have dropped : transaction ∈ (usedUntilStop result passed).drop skip :=
        early ▸ List.mem_cons_self ..
      exact absurd ((usedUntilStop_sublist _).mem (List.mem_of_mem_drop dropped)) notPassed
  | nil =>
      have atMost := List.drop_eq_nil_iff.mp early
      rw [early, List.nil_append] at isPage
      cases more : skip - (usedUntilStop result passed).length with
      | zero => omega
      | succ extra =>
          rw [more, List.drop_succ_cons] at isPage
          have again : first ∈ after := List.mem_of_mem_drop (isPage ▸ List.mem_cons_self ..)
          have once : (first :: after).Nodup :=
            isBehind ▸ (usedUntilStop_sublist _).nodup (List.nodup_append.mp apart).2.1
          exact absurd again (List.nodup_cons.mp once).1

/-- The index adds nothing to its windows, however much of the room is left. -/
def AddsNothing (environment : SearchEnvironment) (filter : Filter)
    (transactionOf : UInt64 → Entry) (room : Nat) (block : StoredBlock Entry) : Prop :=
  ∀ left ≤ room, addedIn environment filter transactionOf left block = []

/-- A block that misses the time interval has no matches. -/
theorem matchedIn_of_missed {block : StoredBlock Entry}
    (missed : BlockIndex.Missed filter block.index) :
    matchedIn environment filter transactionOf block = [] := by
  rw [matchedIn, BlockIndex.matchesInOrder_eq_nil (BlockIndex.matchesOf_of_missed missed),
    List.map_nil]

/-- A block that has nothing of the page. -/
theorem pageRight_of_none {skip room : Nat} {block : StoredBlock Entry}
    {rest : List (StoredBlock Entry)}
    (along : FoundAlong environment filter result transactionOf room (block :: rest))
    (agrees : BlockAgrees environment filter result transactionOf skip room block rest)
    (none : (usedUntilStop result
      (matchedIn environment filter transactionOf block)).drop skip = [])
    (later : ∀ skip left, left ≤ room →
      FoundAlong environment filter result transactionOf left rest →
      foundIn environment filter result transactionOf left rest = inRoom left
        ((usedUntilStop result (rest.flatMap
          (matchedIn environment filter transactionOf))).drop skip) →
      PageRight environment filter result transactionOf skip left rest) :
    PageRight environment filter result transactionOf skip room (block :: rest) := by
  have few := List.drop_eq_nil_iff.mp none
  have noneHanded : usedUntilStop result
      (handedOver environment filter transactionOf room block) = [] := by
    apply eq_nil_of_inRoom
    rw [agrees.here, none, inRoom_nil]
  have after := agrees.later
  have restAlong := along.2
  rw [none, noneHanded] at after
  rw [noneHanded] at restAlong
  by_cases stops : Stops result (matchedIn environment filter transactionOf block)
  · -- the matches end here, and the search finds no others
    left
    rw [if_pos (Or.inl stops)] at after
    refine ⟨?_, along.1, noneHanded, ?_⟩
    · rw [List.flatMap_cons, usedUntilStop_append_of_stop _ stops]
      exact few
    · by_cases stopsHanded : Stops result (handedOver environment filter transactionOf room block)
      · exact Or.inl stopsHanded
      · have goesOn : GoesOn result room
            (handedOver environment filter transactionOf room block) :=
          ⟨noneHanded ▸ not_full_nil room, stopsHanded⟩
        rw [if_pos goesOn] at after
        exact Or.inr (usesNothing_of_foundIn (restAlong goesOn) after)
  · rw [if_neg (not_or.mpr ⟨stops, not_full_nil room⟩)] at after
    by_cases stopsHanded : Stops result (handedOver environment filter transactionOf room block)
    · left
      rw [if_neg fun goesOn => goesOn.2 stopsHanded] at after
      have noneLater := List.drop_eq_nil_iff.mp (eq_nil_of_inRoom after.symm)
      refine ⟨?_, along.1, noneHanded, Or.inl stopsHanded⟩
      rw [List.flatMap_cons, usedUntilStop_append stops, List.length_append]
      omega
    · right
      have goesOn : GoesOn result room (handedOver environment filter transactionOf room block) :=
        ⟨noneHanded ▸ not_full_nil room, stopsHanded⟩
      rw [if_pos goesOn] at after
      exact ⟨along.1, Or.inl ⟨⟨stops, few, stopsHanded, noneHanded⟩,
        later _ _ (Nat.le_refl room) (restAlong goesOn) after⟩⟩

/-- A block that has something of the page. -/
theorem pageRight_of_some {skip room : Nat} {block : StoredBlock Entry}
    {rest : List (StoredBlock Entry)}
    (searches : SearchesMatches environment filter transactionOf block)
    (apart : (entriesIn transactionOf block).Nodup)
    (addsNothing : AddsNothing environment filter transactionOf room block)
    (along : FoundAlong environment filter result transactionOf room (block :: rest))
    (agrees : BlockAgrees environment filter result transactionOf skip room block rest)
    (some : (usedUntilStop result
      (matchedIn environment filter transactionOf block)).drop skip ≠ [])
    (later : ∀ skip left, left ≤ room →
      FoundAlong environment filter result transactionOf left rest →
      foundIn environment filter result transactionOf left rest = inRoom left
        ((usedUntilStop result (rest.flatMap
          (matchedIn environment filter transactionOf))).drop skip) →
      PageRight environment filter result transactionOf skip left rest) :
    PageRight environment filter result transactionOf skip room (block :: rest) := by
  have hits : ¬ BlockIndex.Missed filter block.index := by
    intro missed
    rw [matchedIn_of_missed missed, usedUntilStop, List.drop_nil] at some
    exact some rfl
  have handed := handedOver_of_hits room (searches hits)
  rw [addsNothing room (Nat.le_refl room), List.append_nil] at handed
  have split : matchedIn environment filter transactionOf block =
      (matchedIn environment filter transactionOf block).take (passedOver filter room) ++
        behindIn environment filter transactionOf room block :=
    (List.take_append_drop _ _).symm
  have starts : StartsRight environment filter result transactionOf skip room block := by
    have here := agrees.here
    have matchedApart := @nodup_matchedIn _ environment filter transactionOf block apart
    rw [handed, split] at here
    rw [split] at some matchedApart
    obtain ⟨runs, skipped⟩ := skipped_of_window matchedApart here some
    exact ⟨hits, runs, skipped⟩
  right
  refine ⟨along.1, Or.inr ⟨starts, ?_⟩⟩
  by_cases fills : Fills result room (behindIn environment filter transactionOf room block)
  · exact Or.inl fills
  · right
    have here := agrees.here
    have after := agrees.later
    have restAlong := along.2
    have isUsed : usedUntilStop result (matchedIn environment filter transactionOf block) =
        usedUntilStop result ((matchedIn environment filter transactionOf block).take
          (passedOver filter room)) ++
        usedUntilStop result (behindIn environment filter transactionOf room block) := by
      conv_lhs => rw [split]
      exact usedUntilStop_append starts.runs _
    have runs : ¬ Stops result
        (inRoom room (behindIn environment filter transactionOf room block)) :=
      fun stops => fills (Or.inl stops)
    have notFull := not_full_of_not_fills fills
    have isBehind : usedUntilStop result (behindIn environment filter transactionOf room block) =
        usedUntilStop result (inRoom room (behindIn environment filter transactionOf room block)) ++
        usedUntilStop result
          (cutOff room (behindIn environment filter transactionOf room block)) := by
      conv_lhs => rw [← inRoom_append_cutOff room
        (behindIn environment filter transactionOf room block)]
      exact usedUntilStop_append runs _
    have page : (usedUntilStop result
        (matchedIn environment filter transactionOf block)).drop skip =
          usedUntilStop result (behindIn environment filter transactionOf room block) := by
      rw [isUsed, ← starts.skipped, List.drop_left]
    have cutNone : usedUntilStop result
        (cutOff room (behindIn environment filter transactionOf room block)) = [] := by
      rw [handed, page, isBehind, inRoom_append notFull, inRoom_of_not_full notFull] at here
      exact eq_nil_of_inRoom (List.append_right_eq_self.mp here.symm)
    have goesOn : GoesOn result room
        (handedOver environment filter transactionOf room block) := by
      rw [handed]
      exact ⟨notFull, runs⟩
    have addedNone : usedUntilStop result
        (addedIn environment filter transactionOf room block) = [] := by
      rw [addsNothing room (Nat.le_refl room)]
      rfl
    rw [cutNone, List.append_nil] at isBehind
    rw [if_pos goesOn, page, isBehind, handed] at after
    have restFound := restAlong goesOn
    rw [handed] at restFound
    refine ⟨⟨cutNone, addedNone⟩, ?_⟩
    by_cases stopsCut : Stops result
        (cutOff room (behindIn environment filter transactionOf room block))
    · have stops : Stops result (matchedIn environment filter transactionOf block) := by
        rw [split, stops_append, ← inRoom_append_cutOff room
          (behindIn environment filter transactionOf room block), stops_append]
        exact Or.inr (Or.inr stopsCut)
      rw [if_pos (Or.inl stops)] at after
      exact Or.inl ⟨stopsCut, Or.inr (usesNothing_of_foundIn restFound after)⟩
    · have runsAll : ¬ Stops result (matchedIn environment filter transactionOf block) := by
        rw [split, stops_append, ← inRoom_append_cutOff room
          (behindIn environment filter transactionOf room block), stops_append]
        exact fun stops => stops.elim starts.runs fun stops => stops.elim runs stopsCut
      have nothingLeft : skip - (usedUntilStop result
          (matchedIn environment filter transactionOf block)).length = 0 := by
        rw [isUsed, List.length_append, starts.skipped]
        omega
      rw [if_neg (not_or.mpr ⟨runsAll, notFull⟩), nothingLeft] at after
      exact Or.inr ⟨stopsCut, later _ _ (Nat.sub_le ..) restFound after⟩

/-- Where the index adds nothing to its windows, a page that comes out right is not torn apart. -/
theorem pageRight_of_foundIn
    (searches : ∀ block ∈ blocks, SearchesMatches environment filter transactionOf block)
    (apart : (blocks.flatMap (entriesIn transactionOf)).Nodup)
    {skip room : Nat}
    (addsNothing : ∀ block ∈ blocks, AddsNothing environment filter transactionOf room block)
    (along : FoundAlong environment filter result transactionOf room blocks)
    (same : foundIn environment filter result transactionOf room blocks =
      inRoom room ((usedUntilStop result (blocks.flatMap
        (matchedIn environment filter transactionOf))).drop skip)) :
    PageRight environment filter result transactionOf skip room blocks := by
  induction blocks generalizing skip room with
  | nil => trivial
  | cons block rest ih =>
      have agrees := blockAgrees_of_foundIn apart same
      rw [List.flatMap_cons, List.nodup_append] at apart
      have later (skip left : Nat) (atMost : left ≤ room) := @ih
        (fun other member => searches other (List.mem_cons_of_mem _ member)) apart.2.1 skip left
        fun other member least below =>
          addsNothing other (List.mem_cons_of_mem _ member) least (le_trans below atMost)
      by_cases none : (usedUntilStop result
          (matchedIn environment filter transactionOf block)).drop skip = []
      · exact pageRight_of_none along agrees none later
      · exact pageRight_of_some (searches block (List.mem_cons_self ..)) apart.1
          (addsNothing block (List.mem_cons_self ..)) along agrees none later

end Apart

/-! ## The search of a chain -/

section Main

variable {environment filter result transactionOf} {blocks : List (StoredBlock Entry)}

/-- The page of a list is what there is room for behind what is skipped. -/
theorem pageOf_eq_inRoom (pagination : Pagination) (transactions : List Entry) :
    pageOf pagination transactions =
      inRoom pagination.size (transactions.drop pagination.skipEntriesCount) := by
  unfold pageOf inRoom Pagination.skipEntriesCount
  by_cases unpaged : pagination.size = 0
  · rw [if_pos unpaged, if_pos unpaged, unpaged, Nat.mul_zero, ite_self, List.drop_zero]
  · rw [if_neg unpaged, if_neg unpaged]
    by_cases later : pagination.page > 1
    · rw [if_pos later]
    · rw [if_neg later, Nat.sub_eq_zero_of_le (Nat.not_lt.mp later), Nat.zero_mul]

/-- At the start the whole page is left. -/
theorem roomLeft_start (filter : Filter) :
    RoomLeft filter filter.pagination.size ([] : List Entry).length := by
  rcases Nat.eq_zero_or_pos filter.pagination.size with unpaged | paged
  · exact Or.inl ⟨unpaged, unpaged⟩
  · exact Or.inr ⟨paged, Nat.zero_add _⟩

theorem ChainStored.blockStored (stored : ChainStored blocks transactionOf) :
    ∀ block ∈ filter.searchDirection.inOrder blocks, BlockStored transactionOf block :=
  fun block member => ⟨stored.counted (mem_inOrder.mp member),
    stored.stored block (mem_inOrder.mp member)⟩

/-- A stored chain can be searched, and its matches are what satisfies the index criteria. -/
theorem ChainStored.searchesMatches (stored : ChainStored blocks transactionOf)
    (months : BlockIndex.MonthsInOrder environment.monthsInRange) :
    ∀ block ∈ filter.searchDirection.inOrder blocks,
      SearchesMatches environment filter transactionOf block := by
  intro block member hits
  have inChain := mem_inOrder.mp member
  unfold searchedIn matchedIn
  rw [BlockIndex.numbersOf_searched months (stored.calendar block inChain)
    (stored.ranged block inChain) hits]

/-- No transaction of a chain is stored twice. -/
theorem ChainStored.nodup_entriesIn (stored : ChainStored blocks transactionOf)
    (injective : Function.Injective transactionOf) :
    ((filter.searchDirection.inOrder blocks).flatMap (entriesIn transactionOf)).Nodup := by
  have once : (blocks.flatMap (entriesIn transactionOf)).Nodup := by
    have asMap : blocks.flatMap (entriesIn transactionOf) =
        (blocks.flatMap fun block => block.index.allEntries).map
          fun entry => transactionOf entry.transactionNr := by
      rw [List.map_flatMap]
      rfl
    rw [asMap]
    apply List.Pairwise.map _ _ stored.ascending
    intro first second below same
    exact absurd (injective same) (ne_of_lt below)
  cases filter.searchDirection with
  | ASC => exact once
  | DESC => exact ((List.reverse_perm blocks).flatMap_right _).nodup_iff.mpr once

/-- The search of a chain whose blocks do not tear the page apart. -/
theorem findAll_of_pageRight (months : BlockIndex.MonthsInOrder environment.monthsInRange)
    (stored : ChainStored blocks transactionOf)
    (right : PageRight environment filter result transactionOf filter.pagination.skipEntriesCount
      filter.pagination.size (filter.searchDirection.inOrder blocks)) (state : State) :
    findAll environment filter (pureFilter result) blocks state =
      (.ok (pageOf filter.pagination
        (usedUntilStop result (matchedInChain environment filter transactionOf blocks))), state) := by
  obtain ⟨along, isPage⟩ := foundIn_of_pageRight (stored.searchesMatches months) right
  obtain ⟨next, success, found, sameState⟩ := @iterateBlocks_of_foundAlong _ State environment
    filter result transactionOf _ stored.blockStored [] _ state (roomLeft_start filter) along
  unfold findAll
  rw [success, pageOf_eq_inRoom, ← flatMap_matchedIn, ← isPage, ← sameState]
  dsimp only
  rw [found]
  rfl

/-- The search of a chain returns the page of what is used of the whole chain, however the chain
is divided into blocks, where the blocks do not tear the page apart; and it does nowhere else,
unless the index adds something to its windows. -/
theorem findAll_eq_page (months : BlockIndex.MonthsInOrder environment.monthsInRange)
    (stored : ChainStored blocks transactionOf) (state : State) :
    (PageRight environment filter result transactionOf filter.pagination.skipEntriesCount
        filter.pagination.size (filter.searchDirection.inOrder blocks) →
      findAll environment filter (pureFilter result) blocks state =
        (.ok (pageOf filter.pagination (usedUntilStop result
          (matchedInChain environment filter transactionOf blocks))), state)) ∧
    (environment.Reliable → Function.Injective transactionOf →
      (∀ block ∈ blocks,
        AddsNothing environment filter transactionOf filter.pagination.size block) →
      findAll environment filter (pureFilter result) blocks state =
        (.ok (pageOf filter.pagination (usedUntilStop result
          (matchedInChain environment filter transactionOf blocks))), state) →
      PageRight environment filter result transactionOf filter.pagination.skipEntriesCount
        filter.pagination.size (filter.searchDirection.inOrder blocks)) := by
  refine ⟨fun right => findAll_of_pageRight months stored right state, ?_⟩
  intro reliable injective addsNothing isPage
  rcases iterated : iterateBlocks (visitBlock environment filter (pureFilter result))
    (filter.searchDirection.inOrder blocks) ⟨[], filter.pagination.size, false, state⟩ with
    ⟨exception | _, next⟩
  · unfold findAll at isPage
    rw [iterated] at isPage
    cases isPage
  · have along := foundAlong_of_iterateBlocks reliable stored.blockStored []
      (roomLeft_start filter) iterated
    obtain ⟨_, success, found, _⟩ := @iterateBlocks_of_foundAlong _ State environment filter result
      transactionOf _ stored.blockStored [] _ state (roomLeft_start filter) along
    have asPage : foundIn environment filter result transactionOf filter.pagination.size
        (filter.searchDirection.inOrder blocks) = inRoom filter.pagination.size
          ((usedUntilStop result ((filter.searchDirection.inOrder blocks).flatMap
            (matchedIn environment filter transactionOf))).drop
              filter.pagination.skipEntriesCount) := by
      unfold findAll at isPage
      rw [success] at isPage
      have sameResult := Except.ok.inj (Prod.mk.inj isPage).1
      rw [found, List.nil_append, pageOf_eq_inRoom, ← flatMap_matchedIn] at sameResult
      exact sameResult
    exact pageRight_of_foundIn (stored.searchesMatches months) (stored.nodup_entriesIn injective)
      (fun block member => addsNothing block (mem_inOrder.mp member)) along asPage

end Main

section Example

/-- The index adds nothing to its windows where it searches one month. -/
theorem addsNothing_of_oneMonth {environment : SearchEnvironment} {filter : Filter}
    {transactionOf : UInt64 → Entry} {block : StoredBlock Entry} {room : Nat}
    (one : (BlockIndex.searchedMonths environment filter block.index).length = 1) :
    AddsNothing environment filter transactionOf room block := by
  intro left _
  obtain ⟨month, only⟩ := List.length_eq_one_iff.mp one
  unfold addedIn
  split
  · rfl
  · rename_i paged
    rw [only, BlockIndex.pastPage, if_neg (by omega)]
    rfl

/-- The first page of two transactions, of which each block has one. -/
theorem findAll_firstPage :
    (∀ block ∈ twoBlocks, AddsNothing exampleSearch (examplePage 1 2) id 2 block) ∧
    PageRight exampleSearch (examplePage 1 2) (fun _ => FilterResult.USE) id 0 2 twoBlocks ∧
    findAll exampleSearch (examplePage 1 2) (pureFilter fun _ => FilterResult.USE) twoBlocks () =
      (.ok (pageOf ⟨2, 1⟩ (usedUntilStop (fun _ => FilterResult.USE)
        (matchedInChain exampleSearch (examplePage 1 2) id twoBlocks))), ()) := by
  have oneMonth : ∀ block ∈ twoBlocks,
      (BlockIndex.searchedMonths exampleSearch (examplePage 1 2) block.index).length = 1 := by
    decide
  have addsNothing : ∀ block ∈ twoBlocks,
      AddsNothing exampleSearch (examplePage 1 2) id 2 block :=
    fun block member => addsNothing_of_oneMonth (oneMonth block member)
  have found : findAll exampleSearch (examplePage 1 2) (pureFilter fun _ => FilterResult.USE)
      twoBlocks () = (.ok [1, 2], ()) := rfl
  have page : pageOf ⟨2, 1⟩ (usedUntilStop (fun _ => FilterResult.USE)
      (matchedInChain exampleSearch (examplePage 1 2) id twoBlocks)) = [1, 2] := by decide
  have exact := @findAll_eq_page _ Unit exampleSearch (examplePage 1 2) (fun _ => FilterResult.USE)
    id twoBlocks monthsInOrder_monthsBetween chainStored_twoBlocks ()
  have right := exact.2 BlockIndex.reliable_exampleSearch (fun _ _ same => same) addsNothing
    (found.trans (congrArg (fun page => (Except.ok page, ())) page.symm))
  exact ⟨addsNothing, right, exact.1 right⟩

/-- The second page is empty, although the second block has a transaction for it. -/
theorem not_findAll_secondPage :
    BlockIndex.MonthsInOrder exampleSearch.monthsInRange ∧ ChainStored twoBlocks id ∧
      findAll exampleSearch (examplePage 2 1) (pureFilter fun _ => FilterResult.USE) twoBlocks () ≠
        (.ok (pageOf ⟨1, 2⟩ (usedUntilStop (fun _ => FilterResult.USE)
          (matchedInChain exampleSearch (examplePage 2 1) id twoBlocks))), ()) := by
  refine ⟨monthsInOrder_monthsBetween, chainStored_twoBlocks, ?_⟩
  have found : findAll exampleSearch (examplePage 2 1) (pureFilter fun _ => FilterResult.USE)
      twoBlocks () = (.ok [], ()) := rfl
  rw [found]
  decide

end Example

end FileBased

end Blockchain

end GradidoNode

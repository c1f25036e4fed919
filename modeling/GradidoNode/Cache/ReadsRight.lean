import GradidoNode.Cache.ReadYourWrites

/-!
# What a call of `getTransaction` returns

A call that runs while transactions are written comes to an end, and what it returns is the
transaction that was pushed.
-/

namespace GradidoNode

open Library Tasks Controller

namespace Cache

/-- What a call of `getTransaction` knows at each point: it has passed the places in which the
transaction cannot be any more. -/
def PhaseRight (environment : ReadEnvironment) (lines : List (List UInt8)) (system : WriteSystem)
    (transactionNr : UInt64) : ReadPhase → Prop
  | .cache | .openTask => True
  | .isPending | .observed => ∀ transaction ∈ system.pushed,
      transaction.transactionNr = transactionNr → transaction ∉ system.openEntries
  | .fileCursor _ | .fileCursorWait _ _ => ∀ transaction ∈ system.pushed,
      transaction.transactionNr = transactionNr →
        system.block.blockIndex.transactionNrsFileCursors.find? transactionNr ≠ none
  | .readLine fileCursor =>
      system.block.blockIndex.transactionNrsFileCursors.find? transactionNr ≠ none ∧
      ∃ line, Located lines fileCursor line ∧
        IsLineOf environment system.pushed transactionNr line
  | .addTransaction _ line =>
      system.block.blockIndex.transactionNrsFileCursors.find? transactionNr ≠ none ∧
      IsLineOf environment system.pushed transactionNr line
  | .cacheAgain _ => ∀ transaction ∈ system.pushed, transaction.transactionNr = transactionNr →
      system.block.serializedTransactions.find? transactionNr ≠ none
  | .returned result => ∀ transaction ∈ system.pushed,
      transaction.transactionNr = transactionNr →
        ∃ entry, result = .ok entry ∧ SameTransaction entry transaction

/-- A phase stays right while what it found is kept. -/
theorem PhaseRight.keep {environment : ReadEnvironment} {lines : List (List UInt8)}
    {system next : WriteSystem} {transactionNr : UInt64} {phase : ReadPhase}
    (right : PhaseRight environment lines system transactionNr phase)
    (keeps : KeepsFound system next) (added : List (List UInt8)) :
    PhaseRight environment (lines ++ added) next transactionNr phase := by
  have pushed := keeps.pushed
  cases phase with
  | cache => trivial
  | openTask => trivial
  | isPending =>
      unfold PhaseRight
      rw [pushed, keeps.openEntries]
      exact right
  | observed =>
      unfold PhaseRight
      rw [pushed, keeps.openEntries]
      exact right
  | fileCursor again =>
      unfold PhaseRight
      rw [pushed]
      exact fun transaction member isNr => keeps.fileCursors _ (right transaction member isNr)
  | fileCursorWait again timeout =>
      unfold PhaseRight
      rw [pushed]
      exact fun transaction member isNr => keeps.fileCursors _ (right transaction member isNr)
  | readLine fileCursor =>
      obtain ⟨present, line, isLocated, isLine⟩ := right
      unfold PhaseRight
      rw [pushed]
      exact ⟨keeps.fileCursors _ present, line, isLocated.append added, isLine⟩
  | addTransaction fileCursor line =>
      obtain ⟨present, isLine⟩ := right
      unfold PhaseRight
      rw [pushed]
      exact ⟨keeps.fileCursors _ present, isLine⟩
  | cacheAgain fileCursor =>
      unfold PhaseRight
      rw [pushed, keeps.cache]
      exact right
  | returned result =>
      unfold PhaseRight
      rw [pushed]
      exact right

/-- The invariant of a block that is read while it is written. -/
structure Serves (environment : ReadEnvironment) (lines : List (List UInt8))
    (system : ReadSystem) : Prop where
  tracked : Tracked environment lines system
  reader : ∀ reader, system.reader = some reader →
    PhaseRight environment lines system.writes reader.transactionNr reader.phase

/-- The steps that the claim of the readers rests on: transactions are pushed as they should,
no entry that a call has just read from the file is forgotten before the call looks it up, and
the block file can be locked. -/
def ReadsUndisturbed (environment : ReadEnvironment) (system : ReadSystem) : ReadEvent → Prop
  | .write event => WritesReadably environment system.writes event ∧
      ∀ transactionNr fileCursor, event = .expire transactionNr →
        system.reader ≠ some ⟨transactionNr, .cacheAgain fileCursor⟩
  | .readLocked => False
  | _ => True

/-- A call that cannot build the entry ends. -/
theorem ReadSystem.readStep_addTransaction_of_error {environment : ReadEnvironment}
    {system next : ReadSystem} {transactionNr : UInt64} {fileCursor : Int32} {line : List UInt8}
    {exception : Exception}
    (failed : environment.transactionEntry line fileCursor = .error exception)
    (taken : system.readStep environment transactionNr (.addTransaction fileCursor line) =
      some next) : ∃ result, next = system.setPhase transactionNr (.returned result) := by
  unfold readStep at taken
  dsimp only at taken
  rw [failed] at taken
  cases taken
  unfold whileReading notFound
  split
  · exact ⟨_, rfl⟩
  · exact ⟨_, rfl⟩

/-- A call that does not find the transaction after it has read the file ends. -/
theorem ReadSystem.readStep_cacheAgain_of_none {environment : ReadEnvironment}
    {system next : ReadSystem} {transactionNr : UInt64} {fileCursor : Int32}
    (missing : system.writes.block.serializedTransactions.find? transactionNr = none)
    (taken : system.readStep environment transactionNr (.cacheAgain fileCursor) = some next) :
    ∃ result, next = system.setPhase transactionNr (.returned result) := by
  unfold readStep at taken
  dsimp only at taken
  rw [missing] at taken
  dsimp only at taken
  split at taken
  · cases taken
    exact ⟨_, rfl⟩
  · split at taken
    · cases taken
      exact ⟨_, rfl⟩
    · cases taken
      exact ⟨_, rfl⟩

section

variable {environment : ReadEnvironment} {lines : List (List UInt8)} {system : ReadSystem}

/-- Moving a reader on to a right phase keeps the reads right. -/
theorem Serves.setPhase (serves : Serves environment lines system) {transactionNr : UInt64}
    {phase : ReadPhase} (right : PhaseRight environment lines system.writes transactionNr phase) :
    Serves environment lines (system.setPhase transactionNr phase) := by
  refine ⟨⟨serves.tracked.writes, serves.tracked.consistent, serves.tracked.observed,
    serves.tracked.unfinished⟩, fun reader isReader => ?_⟩
  cases isReader
  exact right

/-- An entry that is known by its number may be cached if it is what was pushed. -/
theorem Serves.setCache (serves : Serves environment lines system) {entry : NodeTransactionEntry}
    (present : system.writes.block.blockIndex.transactionNrsFileCursors.find?
      entry.transactionNr ≠ none)
    (same : ∀ transaction ∈ system.writes.pushed,
      transaction.transactionNr = entry.transactionNr → SameTransaction entry transaction) :
    Tracked environment lines (system.setCache
      (system.writes.block.serializedTransactions.set entry.transactionNr entry)) := by
  have traceable := serves.tracked.writes
  refine ⟨?_, serves.tracked.consistent, serves.tracked.observed, serves.tracked.unfinished⟩
  refine ⟨traceable.holds, traceable.readable, traceable.running, traceable.numbers,
    traceable.fits, traceable.openPushed, traceable.openNonempty, traceable.handedPushed,
    traceable.placed, traceable.located, traceable.appended, traceable.recorded, ?_⟩
  intro transactionNr cached found
  dsimp only [ReadSystem.setCache] at found
  by_cases isNew : transactionNr = entry.transactionNr
  · subst isNew
    rw [OrderedMap.set, OrderedMap.find?_alter_self] at found
    cases found
    exact ⟨Or.inl present, same⟩
  · rw [OrderedMap.set, OrderedMap.find?_alter_of_ne _ isNew] at found
    exact traceable.cached transactionNr cached found

/-- Returning a cached transaction is right. -/
theorem PhaseRight.of_cached (serves : Serves environment lines system) {transactionNr : UInt64}
    {entry : NodeTransactionEntry}
    (found : system.writes.block.serializedTransactions.find? transactionNr = some entry) :
    PhaseRight environment lines system.writes transactionNr (.returned (.ok entry)) :=
  fun transaction member isNr =>
    ⟨entry, rfl, (serves.tracked.writes.cached transactionNr entry found).2 transaction member isNr⟩

/-- What the call has found is the only transaction with the number. -/
theorem PhaseRight.of_eq {transactionNr : UInt64} {entry : NodeTransactionEntry}
    (only : ∀ transaction ∈ system.writes.pushed, transaction.transactionNr = transactionNr →
      entry = transaction) :
    PhaseRight environment lines system.writes transactionNr (.returned (.ok entry)) :=
  fun transaction member isNr => by
    cases only transaction member isNr
    exact ⟨entry, rfl, rfl⟩

/-- With a file cursor the call waits, asks once more or reads the line. -/
theorem PhaseRight.of_fileCursor (serves : Serves environment lines system)
    {transactionNr : UInt64} {fileCursor : Int32}
    (found : system.writes.block.blockIndex.transactionNrsFileCursors.find? transactionNr =
      some fileCursor) (again : Bool) :
    PhaseRight environment lines system.writes transactionNr
      (system.fileCursorFound again transactionNr fileCursor) := by
  have present : system.writes.block.blockIndex.transactionNrsFileCursors.find? transactionNr ≠
      none := by
    rw [found]
    exact Option.some_ne_none _
  unfold ReadSystem.fileCursorFound
  split
  · exact fun _ _ _ => present
  · exact ⟨present, serves.tracked.writes.located transactionNr fileCursor found⟩

/-- Without a file cursor no transaction with the number was pushed. -/
theorem PhaseRight.of_noFileCursor {transactionNr : UInt64}
    (known : ∀ transaction ∈ system.writes.pushed, transaction.transactionNr = transactionNr →
      system.writes.block.blockIndex.transactionNrsFileCursors.find? transactionNr ≠ none)
    (missing : system.writes.block.blockIndex.transactionNrsFileCursors.find? transactionNr =
      none) (again : Bool) :
    PhaseRight environment lines system.writes transactionNr
      (ReadSystem.noFileCursor again transactionNr) := by
  have notPushed : ∀ result : Except Exception NodeTransactionEntry,
      PhaseRight environment lines system.writes transactionNr (.returned result) :=
    fun _ transaction member isNr => absurd missing (known transaction member isNr)
  unfold ReadSystem.noFileCursor ReadSystem.notFound
  split
  · exact notPushed _
  · exact notPushed _

/-- The entry that is built from the line of a transaction is that transaction. -/
theorem Serves.addLine (serves : Serves environment lines system) {transactionNr : UInt64}
    {fileCursor : Int32} {line : List UInt8} {next : ReadSystem}
    (right : PhaseRight environment lines system.writes transactionNr
      (.addTransaction fileCursor line))
    (taken : system.readStep environment transactionNr (.addTransaction fileCursor line) =
      some next) : Serves environment lines next := by
  have traceable := serves.tracked.writes
  obtain ⟨present, isLine⟩ := right
  have builds : ∀ transaction ∈ system.writes.pushed, transaction.transactionNr = transactionNr →
      ∃ entry, environment.transactionEntry line fileCursor = .ok entry ∧
        SameTransaction entry transaction := by
    intro transaction member isNr
    rw [isLine.own transaction member isNr]
    exact (traceable.fits transaction member).2.2 fileCursor
  cases built : environment.transactionEntry line fileCursor with
  | error exception =>
      obtain ⟨result, rfl⟩ := ReadSystem.readStep_addTransaction_of_error built taken
      refine serves.setPhase fun transaction member isNr => ?_
      obtain ⟨entry, alsoBuilt, _⟩ := builds transaction member isNr
      cases built.symm.trans alsoBuilt
  | ok entry =>
      have isNr := isLine.numbered fileCursor entry built
      unfold ReadSystem.readStep at taken
      dsimp only at taken
      rw [built] at taken
      dsimp only at taken
      rw [traceable.running, if_neg Bool.false_ne_true] at taken
      cases taken
      subst isNr
      have cached := serves.setCache present fun transaction member isNr => by
        obtain ⟨other, alsoBuilt, same⟩ := builds transaction member isNr
        cases built.symm.trans alsoBuilt
        exact same
      refine ⟨⟨cached.writes, cached.consistent, cached.observed, cached.unfinished⟩,
        fun reader isReader => ?_⟩
      cases isReader
      intro transaction _ _
      change (system.writes.block.serializedTransactions.set entry.transactionNr entry).find?
        entry.transactionNr ≠ none
      rw [OrderedMap.set, OrderedMap.find?_alter_self]
      exact Option.some_ne_none _

/-- Each step of a call keeps what the call knows: where the transaction is not found, it is
in one of the places that come later. -/
theorem Serves.read (serves : Serves environment lines system) {transactionNr : UInt64}
    {phase : ReadPhase} {next : ReadSystem}
    (right : PhaseRight environment lines system.writes transactionNr phase)
    (taken : system.readStep environment transactionNr phase = some next) :
    Serves environment lines next := by
  have traceable := serves.tracked.writes
  cases phase with
  | cache =>
      unfold ReadSystem.readStep at taken
      dsimp only at taken
      split at taken
      · rename_i entry found
        cases taken
        exact serves.setPhase (PhaseRight.of_cached serves found)
      · cases taken
        exact serves.setPhase trivial
  | openTask =>
      unfold ReadSystem.readStep at taken
      dsimp only at taken
      split at taken
      · rename_i entry found
        cases taken
        obtain ⟨inOpen, isEntry⟩ :=
          WriteTransactionsToBlockTask.mem_entries_of_getTransaction found
        refine serves.setPhase (PhaseRight.of_eq fun transaction member isNr => ?_)
        exact traceable.unique (traceable.openPushed entry inOpen) member (isEntry.trans isNr.symm)
      · rename_i missing
        cases taken
        refine serves.setPhase fun transaction member isNr inOpen => ?_
        subst isNr
        have found := WriteTransactionsToBlockTask.mem_entries.mp inOpen
        exact Option.some_ne_none _ (found.symm.trans missing)
  | isPending =>
      unfold ReadSystem.readStep TaskObserver.isTransactionPending OrderedMap.contains at taken
      dsimp only at taken
      split at taken
      · cases taken
        exact serves.setPhase right
      · rename_i notPending
        cases taken
        rw [Option.not_isSome_iff_eq_none] at notPending
        refine serves.setPhase fun transaction member isNr => ?_
        have notOpen := right transaction member isNr
        subst isNr
        exact serves.tracked.recorded_of_not_pending member notOpen notPending
  | observed =>
      unfold ReadSystem.readStep at taken
      rw [serves.tracked.consistent.getTransaction_eq] at taken
      dsimp only at taken
      split at taken
      · rename_i entry found
        cases taken
        refine serves.setPhase (PhaseRight.of_eq fun transaction member isNr => ?_)
        subst isNr
        exact serves.tracked.pending_eq member found
      · rename_i notPending
        cases taken
        refine serves.setPhase fun transaction member isNr => ?_
        have notOpen := right transaction member isNr
        subst isNr
        exact serves.tracked.recorded_of_not_pending member notOpen notPending
  | fileCursor again =>
      unfold ReadSystem.readStep at taken
      dsimp only at taken
      split at taken
      · rename_i missing
        cases taken
        exact serves.setPhase (PhaseRight.of_noFileCursor right missing again)
      · rename_i fileCursor found
        split at taken
        · cases taken
          exact serves.setPhase right
        · cases taken
          exact serves.setPhase (PhaseRight.of_fileCursor serves found again)
  | fileCursorWait again timeout =>
      unfold ReadSystem.readStep at taken
      dsimp only at taken
      split at taken
      · rename_i missing
        cases taken
        exact serves.setPhase (PhaseRight.of_noFileCursor right missing again)
      · rename_i fileCursor found
        split at taken
        · cases taken
          exact serves.setPhase right
        · cases taken
          exact serves.setPhase (PhaseRight.of_fileCursor serves found again)
  | readLine fileCursor =>
      obtain ⟨present, line, isLocated, isLine⟩ := right
      have lineRead := isLocated.readLine traceable.holds traceable.readable environment.blockPath
      unfold ReadSystem.readStep at taken
      dsimp only at taken
      rw [lineRead] at taken
      cases taken
      exact serves.setPhase ⟨present, isLine⟩
  | addTransaction fileCursor line => exact serves.addLine right taken
  | cacheAgain fileCursor =>
      cases found : system.writes.block.serializedTransactions.find? transactionNr with
      | some entry =>
          unfold ReadSystem.readStep at taken
          rw [found] at taken
          cases taken
          exact serves.setPhase (PhaseRight.of_cached serves found)
      | none =>
          obtain ⟨result, rfl⟩ := ReadSystem.readStep_cacheAgain_of_none found taken
          refine serves.setPhase fun transaction member isNr => ?_
          exact absurd found (right transaction member isNr)
  | returned result => cases taken

end

namespace ReadSystem

variable {environment : ReadEnvironment} {system : ReadSystem} {transactionNr : UInt64}

/-- The step is taken and brings the call nearer to its end. -/
def Advances (transactionNr : UInt64) (phase : ReadPhase) (step : Option ReadSystem) : Prop :=
  ∃ (next : ReadSystem) (after : ReadPhase), step = some next ∧
    next.reader = some ⟨transactionNr, after⟩ ∧ after.stepsLeft < phase.stepsLeft

/-- A phase with fewer steps left is an advance. -/
theorem advances_setPhase {phase after : ReadPhase} (system : ReadSystem)
    (nearer : after.stepsLeft < phase.stepsLeft) :
    Advances transactionNr phase (some (system.setPhase transactionNr after)) :=
  ⟨_, after, rfl, rfl, nearer⟩

/-- Without a file cursor the read returns. -/
theorem stepsLeft_noFileCursor (again : Bool) :
    (noFileCursor again transactionNr).stepsLeft = 0 := by
  unfold noFileCursor
  split
  · rfl
  · rfl

/-- An exception while reading returns. -/
theorem stepsLeft_whileReading (exception : Exception) :
    (whileReading transactionNr exception).stepsLeft = 0 := by
  unfold whileReading
  split
  · rfl
  · rfl

/-- Asked for a second time, the file cursor is taken as it is. -/
theorem stepsLeft_fileCursorFound (transactionNr : UInt64) (again : Bool) (fileCursor : Int32) :
    (system.fileCursorFound again transactionNr fileCursor).stepsLeft ≤
      if again then 3 else 105 := by
  unfold fileCursorFound
  cases again with
  | true =>
      rw [if_neg fun ask => absurd ask.1 Bool.false_ne_true]
      exact Nat.le_refl 3
  | false =>
      split
      · exact Nat.le_refl 105
      · exact Nat.le_of_ble_eq_true rfl

/-- A file cursor looked up leaves fewer steps than the wait for it. -/
theorem stepsLeft_fileCursorFound_lt (transactionNr : UInt64) (again : Bool) (fileCursor : Int32)
    (timeout : Nat) : (system.fileCursorFound again transactionNr fileCursor).stepsLeft <
      (ReadPhase.fileCursorWait again timeout).stepsLeft := by
  have bounded := system.stepsLeft_fileCursorFound transactionNr again fileCursor
  cases again with
  | true =>
      rw [if_pos rfl] at bounded
      change _ < 4 + timeout
      omega
  | false =>
      rw [if_neg Bool.false_ne_true] at bounded
      change _ < 106 + timeout
      omega

/-- The wait of a hundred turns leaves fewer steps than asking for the cursor. -/
theorem stepsLeft_fileCursorWait_lt (again : Bool) :
    (ReadPhase.fileCursorWait again 100).stepsLeft < (ReadPhase.fileCursor again).stepsLeft := by
  cases again with
  | true => exact Nat.lt_add_one 104
  | false => exact Nat.lt_add_one 206

/-- A read that has not returned has a step left. -/
theorem stepsLeft_pos {phase : ReadPhase} (running : ∀ result, phase ≠ .returned result) :
    0 < phase.stepsLeft := by
  cases phase with
  | returned result => exact absurd rfl (running result)
  | fileCursor again => cases again <;> exact Nat.zero_lt_succ _
  | fileCursorWait again timeout =>
      cases again with
      | true => exact Nat.add_pos_left (Nat.zero_lt_succ 3) timeout
      | false => exact Nat.add_pos_left (Nat.zero_lt_succ 105) timeout
  | _ => exact Nat.zero_lt_succ _

/-- A call that has not returned can go on, and has fewer steps left afterwards. -/
theorem readStep_advances {phase : ReadPhase} (running : ∀ result, phase ≠ .returned result) :
    Advances transactionNr phase (system.readStep environment transactionNr phase) := by
  have ends (result : Except Exception NodeTransactionEntry) :
      Advances transactionNr phase (some (system.setPhase transactionNr (.returned result))) :=
    advances_setPhase system (stepsLeft_pos running)
  cases phase with
  | cache =>
      unfold readStep
      dsimp only
      split
      · exact ends _
      · exact advances_setPhase system (Nat.lt_add_one 210)
  | openTask =>
      unfold readStep
      dsimp only
      split
      · exact ends _
      · exact advances_setPhase system (Nat.lt_add_one 209)
  | isPending =>
      unfold readStep
      dsimp only
      split
      · exact advances_setPhase system (Nat.lt_add_one 208)
      · exact advances_setPhase system (Nat.lt_add_of_pos_right (Nat.zero_lt_succ 1))
  | observed =>
      unfold readStep
      dsimp only
      split
      · exact ends _
      · exact advances_setPhase system (Nat.lt_add_one 207)
  | fileCursor again =>
      unfold readStep
      dsimp only
      split
      · apply advances_setPhase system
        rw [stepsLeft_noFileCursor]
        exact stepsLeft_pos running
      · split
        · exact advances_setPhase system (stepsLeft_fileCursorWait_lt again)
        · apply advances_setPhase system
          apply Nat.lt_trans _ (stepsLeft_fileCursorWait_lt again)
          exact system.stepsLeft_fileCursorFound_lt transactionNr again _ 100
  | fileCursorWait again timeout =>
      unfold readStep
      dsimp only
      split
      · apply advances_setPhase system
        rw [stepsLeft_noFileCursor]
        exact stepsLeft_pos running
      · split
        · rename_i waits
          apply advances_setPhase system
          cases again with
          | true =>
              change 4 + (timeout - 1) < 4 + timeout
              omega
          | false =>
              change 106 + (timeout - 1) < 106 + timeout
              omega
        · exact advances_setPhase system 
            (system.stepsLeft_fileCursorFound_lt transactionNr again _ timeout)
  | readLine fileCursor =>
      unfold readStep
      dsimp only
      split
      · apply advances_setPhase system
        rw [stepsLeft_whileReading]
        exact Nat.zero_lt_succ 2
      · exact advances_setPhase system (Nat.lt_add_one 2)
  | addTransaction fileCursor line =>
      unfold readStep
      dsimp only
      split
      · apply advances_setPhase system
        rw [stepsLeft_whileReading]
        exact Nat.zero_lt_succ 1
      · split
        · exact advances_setPhase system (Nat.lt_add_one 1)
        · exact ⟨_, .cacheAgain fileCursor, rfl, rfl, Nat.lt_add_one 1⟩
  | cacheAgain fileCursor =>
      unfold readStep
      dsimp only
      split
      · exact ends _
      · split
        · exact ends _
        · split
          · exact ends _
          · exact ends _
  | returned result => exact absurd rfl (running result)

/-- What runs beside a call neither ends it nor moves it. -/
theorem reader_of_running {event : ReadEvent} {next : ReadSystem} {reader : Reader}
    (isReader : system.reader = some reader) (running : ∀ result, reader.phase ≠ .returned result)
    (notRead : event ≠ .read) (notLocked : event ≠ .readLocked)
    (taken : system.step environment event = some next) : next.reader = some reader := by
  have locked : system.isLocked = true := by
    unfold isLocked
    rw [isReader]
    dsimp only
    split
    · rename_i result returned
      exact absurd returned (running result)
    · rfl
  cases event with
  | read => exact absurd rfl notRead
  | readLocked => exact absurd rfl notLocked
  | getTransaction _ =>
      unfold step at taken
      dsimp only at taken
      rw [if_pos locked] at taken
      cases taken
  | taskFinished position =>
      unfold step at taken
      dsimp only at taken
      split at taken
      · cases taken
      · split at taken
        · cases taken
          exact isReader
        · cases taken
  | write event =>
      obtain ⟨writes, _, written⟩ := Option.bind_eq_some_iff.mp taken
      cases event with
      | push _ =>
          dsimp only at written
          rw [if_pos locked] at written
          cases written
      | exit =>
          dsimp only at written
          rw [if_pos locked] at written
          cases written
      | timer =>
          dsimp only at written
          rw [if_pos locked] at written
          cases written
      | _ =>
          cases written
          exact isReader

end ReadSystem

section

variable {environment : ReadEnvironment} {lines : List (List UInt8)} {system next : ReadSystem}

/-- Without the mutex of the block, a call has returned. -/
theorem Serves.returned (serves : Serves environment lines system)
    (free : system.isLocked = false) {reader : Reader} (isReader : system.reader = some reader)
    {writes : WriteSystem} (samePushed : writes.pushed = system.writes.pushed) :
    PhaseRight environment lines writes reader.transactionNr reader.phase := by
  have right := serves.reader reader isReader
  unfold ReadSystem.isLocked at free
  rw [isReader] at free
  dsimp only at free
  split at free
  · rename_i result isReturned
    rw [isReturned] at right ⊢
    unfold PhaseRight
    rw [samePushed]
    exact right
  · cases free

/-- What the cache forgets is no entry that the call is about to look up. -/
theorem Serves.expire (serves : Serves environment lines system) {transactionNr : UInt64}
    (undisturbed : ∀ fileCursor, system.reader ≠ some ⟨transactionNr, .cacheAgain fileCursor⟩) :
    Serves environment lines { system with writes := { system.writes with
      block := { system.writes.block with serializedTransactions :=
        system.writes.block.serializedTransactions.erase transactionNr } } } := by
  refine ⟨⟨serves.tracked.writes.expire transactionNr, serves.tracked.consistent,
    serves.tracked.observed, serves.tracked.unfinished⟩, fun reader isReader => ?_⟩
  have right := serves.reader reader isReader
  cases reader with
  | mk wanted phase =>
      cases phase with
      | cacheAgain fileCursor =>
          have differs : wanted ≠ transactionNr := fun same =>
            undisturbed fileCursor (same ▸ isReader)
          intro transaction member isNr
          dsimp only
          rw [OrderedMap.find?_erase_of_ne _ differs]
          exact right transaction member isNr
      | _ => exact right

/-- A step of a write task keeps the reads right. -/
theorem Serves.task (serves : Serves environment lines system) {writes : WriteSystem}
    {event : WriteEvent} {position : Nat} (target : event.position? = some position)
    (readably : WritesReadably environment system.writes event)
    (taken : system.writes.step environment.genericHash environment.getCommunityIdIndex event =
      some writes) :
    ∃ added, Serves environment (lines ++ added) { system with writes := writes } := by
  obtain ⟨handed, found, stepTaken⟩ := WriteSystem.taskStep_of_step target taken
  obtain ⟨added, tracked⟩ := serves.tracked.task found readably stepTaken target
  obtain ⟨keeps, _⟩ := keepsFound_of_taskStep (WriteSystem.taskStep_sound target stepTaken)
  exact ⟨added, tracked, fun reader isReader => (serves.reader reader isReader).keep keeps added⟩

/-- A step of the writing keeps the reads right, with the lines it added. -/
theorem Serves.write (serves : Serves environment lines system) {event : WriteEvent}
    (allowed : ReadsUndisturbed environment system (.write event))
    (taken : system.writeStep environment event = some next) :
    ∃ added, Serves environment (lines ++ added) next := by
  obtain ⟨readably, undisturbed⟩ := allowed
  obtain ⟨writes, isWritten, written⟩ := Option.bind_eq_some_iff.mp taken
  cases event with
  | push transaction =>
      dsimp only at written
      split at written
      · cases written
      · cases isWritten
        cases written
        refine ⟨[], ?_⟩
        rw [List.append_nil]
        have tracked := serves.tracked.push readably
        exact ⟨⟨tracked.writes, tracked.consistent, tracked.observed, tracked.unfinished⟩, nofun⟩
  | expire transactionNr =>
      cases isWritten
      cases written
      refine ⟨[], ?_⟩
      rw [List.append_nil]
      exact serves.expire fun fileCursor => undisturbed transactionNr fileCursor rfl
  | timer =>
      dsimp only at written
      split at written
      · cases written
      · rename_i free
        cases isWritten
        cases written
        refine ⟨[], ?_⟩
        rw [List.append_nil]
        exact ⟨serves.tracked.timer, fun reader isReader =>
          serves.returned (Bool.eq_false_iff.mpr free) isReader rfl⟩
  | exit => exact readably.elim
  | take position =>
      cases written
      exact serves.task rfl readably isWritten
  | drop position =>
      cases written
      exact serves.task rfl readably isWritten
  | lockTimeout position =>
      cases written
      exact serves.task rfl readably isWritten
  | append position =>
      cases written
      exact serves.task rfl readably isWritten
  | recordFileCursor position =>
      cases written
      exact serves.task rfl readably isWritten
  | serializeIndex position =>
      cases written
      exact serves.task rfl readably isWritten
  | writeIndex position =>
      cases written
      exact serves.task rfl readably isWritten

/-- Every step lets the block serve its readers. -/
theorem Serves.step (serves : Serves environment lines system) {event : ReadEvent}
    (allowed : ReadsUndisturbed environment system event)
    (taken : system.step environment event = some next) :
    ∃ added, Serves environment (lines ++ added) next := by
  cases event with
  | write event => exact serves.write allowed taken
  | taskFinished position =>
      unfold ReadSystem.step at taken
      dsimp only at taken
      split at taken
      · cases taken
      · rename_i handed found
        split at taken
        · rename_i finished
          cases taken
          refine ⟨[], ?_⟩
          rw [List.append_nil]
          exact ⟨serves.tracked.taskFinished found finished, serves.reader⟩
        · cases taken
  | getTransaction transactionNr =>
      unfold ReadSystem.step at taken
      dsimp only at taken
      split at taken
      · cases taken
      · cases taken
        refine ⟨[], ?_⟩
        rw [List.append_nil]
        exact serves.setPhase trivial
  | read =>
      obtain ⟨reader, isReader, stepTaken⟩ := Option.bind_eq_some_iff.mp taken
      refine ⟨[], ?_⟩
      rw [List.append_nil]
      exact serves.read (serves.reader reader isReader) stepTaken
  | readLocked => exact allowed.elim

end

/-- Every call returns the transaction that was pushed under its number: until it does it can go
on, has fewer steps left after each of its own and is not moved by others. -/
structure ReadsRight (environment : ReadEnvironment) (system : ReadSystem) : Prop where
  result : ∀ transactionNr result, system.reader = some ⟨transactionNr, .returned result⟩ →
    ∀ transaction ∈ system.writes.pushed, transaction.transactionNr = transactionNr →
      ∃ entry, result = .ok entry ∧ SameTransaction entry transaction
  progress : ∀ reader, system.reader = some reader →
    (∀ result, reader.phase ≠ .returned result) →
      ReadSystem.Advances reader.transactionNr reader.phase (system.step environment .read)
  apart : ∀ reader, system.reader = some reader →
    (∀ result, reader.phase ≠ .returned result) → ∀ event next, event ≠ .read →
      event ≠ .readLocked → system.step environment event = some next →
        next.reader = some reader

/-- A block as it was opened: its file stores the lines, and the file cursors of its index lead
to lines of transactions with these numbers. -/
structure Opened (environment : ReadEnvironment) (lines : List (List UInt8))
    (index : BlockIndex) (blockFile : Files.Block) : Prop where
  holds : blockFile.Holds environment.genericHash lines
  readable : Files.Readable lines
  located : ∀ transactionNr fileCursor,
    index.transactionNrsFileCursors.find? transactionNr = some fileCursor →
      ∃ line, Located lines fileCursor line ∧ IsLineOf environment [] transactionNr line

/-- The block has just been opened, and nothing is observed. -/
def ReadSystem.start (index : BlockIndex) (blockFile : Files.Block)
    (indexDisk : Option (List UInt8)) : ReadSystem where
  writes := WriteSystem.start index blockFile indexDisk
  observer := TaskObserver.new
  reader := none

section

variable {environment : ReadEnvironment} {lines : List (List UInt8)}

/-- On an opened block the reads start right. -/
theorem Serves.start {index : BlockIndex} {blockFile : Files.Block}
    {indexDisk : Option (List UInt8)} (opened : Opened environment lines index blockFile) :
    Serves environment lines (ReadSystem.start index blockFile indexDisk) where
  tracked := {
    writes := {
      holds := opened.holds
      readable := opened.readable
      running := rfl
      numbers := List.nodup_nil
      fits := nofun
      openPushed := nofun
      openNonempty := nofun
      handedPushed := nofun
      placed := nofun
      located := opened.located
      appended := nofun
      recorded := nofun
      cached := nofun }
    consistent := TaskObserver.consistent_new
    observed := nofun
    unfinished := nofun }
  reader := nofun

/-- Reads that are served right return right. -/
theorem Serves.readsRight {system : ReadSystem} (serves : Serves environment lines system) :
    ReadsRight environment system where
  result := fun _ _ isReader => serves.reader _ isReader
  progress := by
    intro reader isReader running
    unfold ReadSystem.step
    dsimp only
    rw [isReader]
    exact ReadSystem.readStep_advances running
  apart := fun _ isReader running _ _ => ReadSystem.reader_of_running isReader running

/-- In a run in which no entry expires between the two looks of a call into the cache, every
call returns the transaction that was pushed, whatever way it has gone meanwhile. -/
theorem getTransaction_returns_pushed {index : BlockIndex} {blockFile : Files.Block}
    {indexDisk : Option (List UInt8)} (opened : Opened environment lines index blockFile)
    {events : List ReadEvent}
    (meets : StepsMeet (ReadSystem.step environment) (ReadsUndisturbed environment) events
      (ReadSystem.start index blockFile indexDisk))
    (first rest : List ReadEvent) (reached : ReadSystem) (divided : events = first ++ rest)
    (run : runEvents (ReadSystem.step environment) first
      (ReadSystem.start index blockFile indexDisk) = some reached) :
    ReadsRight environment reached := by
  subst divided
  have serving : ∃ stored, Serves environment stored reached := by
    apply invariant_of_stepsMeet _ ⟨lines, Serves.start opened⟩ meets.left run
    rintro system event next ⟨stored, serves⟩ allowed taken
    obtain ⟨added, served⟩ := serves.step allowed taken
    exact ⟨stored ++ added, served⟩
  obtain ⟨stored, serves⟩ := serving
  exact serves.readsRight

end

section Example

open WriteSystem

def oneTransactionReads : ReadEnvironment where
  genericHash := fun _ => firstHash
  getCommunityIdIndex := noCommunities
  transactionEntry := fun _ fileCursor => .ok { exampleTransaction 1 with fileCursor := fileCursor }
  deserialize := fun _ => .ok ()
  blockPath := "blk00000001.dat"

/-- The example opens an empty block. -/
theorem opened_new : Opened oneTransactionReads [] BlockIndex.new (Files.Block.new []) where
  holds := ⟨rfl, rfl⟩
  readable := ⟨nofun, nofun, Nat.two_pow_pos 31⟩
  located := nofun

/-- A transaction is pushed, written and forgotten by the cache, and the task is finished. -/
def writtenAndForgotten : List ReadEvent :=
  [.write (.push (exampleTransaction 1)), .write .timer, .write (.take 0), .write (.append 0),
    .write (.recordFileCursor 0), .write (.serializeIndex 0), .write (.writeIndex 0),
    .taskFinished 0, .write (.expire 1)]

/-- A call reads the line of the transaction and adds it to the cache. -/
def readFromFile : List ReadEvent :=
  [.getTransaction 1, .read, .read, .read, .read, .read, .read]

/-- A transaction written and dropped from the cache is read back from the file. -/
theorem readFromFile_returns :
    ∃ reached, runEvents (ReadSystem.step oneTransactionReads)
        (writtenAndForgotten ++ readFromFile ++ [.read])
        (ReadSystem.start BlockIndex.new (Files.Block.new []) none) = some reached ∧
      reached.writes.pushed = [exampleTransaction 1] ∧
      ReadsRight oneTransactionReads reached := by
  have readsBack : ReadsBack oneTransactionReads (exampleTransaction 1) :=
    fun _ => ⟨_, rfl, rfl⟩
  have meets : StepsMeet (ReadSystem.step oneTransactionReads)
      (ReadsUndisturbed oneTransactionReads) (writtenAndForgotten ++ readFromFile ++ [.read])
      (ReadSystem.start BlockIndex.new (Files.Block.new []) none) := by
    refine StepsMeet.cons
      ⟨⟨nofun, rfl, by decide, by decide, by decide, readsBack⟩, nofun⟩ rfl ?_
    refine StepsMeet.cons ⟨trivial, nofun⟩ rfl (StepsMeet.cons ⟨trivial, nofun⟩ rfl
      (StepsMeet.cons ⟨?_, nofun⟩ rfl (StepsMeet.cons ⟨trivial, nofun⟩ rfl
        (StepsMeet.cons ⟨trivial, nofun⟩ rfl (StepsMeet.cons ⟨trivial, nofun⟩ rfl ?_)))))
    · intro handed found
      cases found
      decide
    · refine StepsMeet.cons trivial rfl
        (StepsMeet.cons ⟨trivial, fun _ _ _ => nofun⟩ rfl ?_)
      refine StepsMeet.cons trivial rfl (StepsMeet.cons trivial rfl (StepsMeet.cons trivial rfl
        (StepsMeet.cons trivial rfl (StepsMeet.cons trivial rfl (StepsMeet.cons trivial rfl
          (StepsMeet.cons trivial rfl (StepsMeet.cons trivial rfl trivial)))))))
  exact ⟨_, rfl, rfl, getTransaction_returns_pushed opened_new meets
    (writtenAndForgotten ++ readFromFile ++ [.read]) [] _ (List.append_nil _).symm rfl⟩

/-- The entry expires before the call looks it up again. -/
theorem not_readFromFile_expired :
    ∃ reached, runEvents (ReadSystem.step oneTransactionReads)
        (writtenAndForgotten ++ readFromFile ++ [.write (.expire 1), .read])
        (ReadSystem.start BlockIndex.new (Files.Block.new []) none) = some reached ∧
      reached.writes.pushed = [exampleTransaction 1] ∧
      reached.reader = some ⟨1, .returned (.error (.transactionNotFound
        "transaction not found after reading from block file" 1))⟩ ∧
      ¬ ReadsRight oneTransactionReads reached := by
  refine ⟨_, rfl, rfl, rfl, fun right => ?_⟩
  obtain ⟨entry, isOk, _⟩ := right.result 1 _ rfl _ (List.mem_singleton_self _) rfl
  cases isOk

end Example

end Cache

end GradidoNode

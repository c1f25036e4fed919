import GradidoNode.Cache.WriteOrder

/-!
# File cursors of the shared index

The index holds a transaction from the moment it is pushed, and gets its file cursor
when its own task runs. Writing the index in between fails.
-/

namespace GradidoNode

open Library Tasks

namespace Cache

/-- The transactions of a task whose file cursor the index does not have for sure. -/
def HandedTask.unrecorded (handed : HandedTask) : List UInt64 :=
  match handed.phase with
  | .appended fileCursors => fileCursors.map Prod.fst
  | phase => if phase.recorded then [] else handed.task.numbers

/-- A task that has recorded has nothing left to record. -/
theorem HandedTask.unrecorded_of_recorded {handed : HandedTask}
    (recorded : handed.phase.recorded = true) : handed.unrecorded = [] := by
  unfold HandedTask.unrecorded
  split
  · rename_i fileCursors appended
    rw [appended] at recorded
    rw [List.isEmpty_iff.mp recorded]
    rfl
  · rw [if_pos recorded]

/-- Outside the loop over the file cursors, the phase says whether they are recorded. -/
theorem HandedTask.mem_unrecorded_of_not {task : WriteTransactionsToBlockTask} {phase : Phase}
    {transactionNr : UInt64} (notAppended : ∀ fileCursors, phase ≠ .appended fileCursors)
    (unrecorded : phase.recorded = false) (member : transactionNr ∈ task.numbers) :
    transactionNr ∈ HandedTask.unrecorded ⟨task, phase⟩ := by
  cases phase with
  | appended fileCursors => exact absurd rfl (notAppended fileCursors)
  | scheduled => exact member
  | dropped => exact member
  | started => exact member
  | serialized _ => cases unrecorded
  | finished => cases unrecorded
  | failed written recorded exception =>
      cases recorded with
      | true => cases unrecorded
      | false => exact member

namespace WriteSystem

/-- The index has a file cursor for every entry. -/
def FileCursorsComplete (system : WriteSystem) : Prop :=
  ∀ entry ∈ system.block.blockIndex.allEntries,
    system.block.blockIndex.transactionNrsFileCursors.find? entry.transactionNr ≠ none

instance (system : WriteSystem) : Decidable (FileCursorsComplete system) :=
  inferInstanceAs (Decidable (∀ entry ∈ system.block.blockIndex.allEntries,
    system.block.blockIndex.transactionNrsFileCursors.find? entry.transactionNr ≠ none))

/-- The lines of an appending task fit into their size fields and start below 2 GiB, and
the index is serialized only when every transaction pushed so far has been through the
loop that records its file cursor. -/
def FileCursorsInTime (system : WriteSystem) : WriteEvent → Prop
  | .append position => ∀ handed, system.handed[position]? = some handed →
      (∀ line ∈ handed.task.lines, line.length < 2 ^ 16) ∧
      system.blockFile.currentFileSize.toNat +
        (Files.encodeLines handed.task.lines).length < 2 ^ 32 ∧
      ∀ start ∈ Files.positionsFrom system.blockFile.currentFileSize.toNat handed.task.lines,
        start < 2 ^ 31
  | .serializeIndex _ => system.block.transactionWriteTask = none ∧
      ∀ handed ∈ system.handed, handed.phase.recorded = true
  | _ => True

/-- An entry without a file cursor belongs to a transaction that is still on its way. -/
structure CursorsPending (system : WriteSystem) : Prop where
  pending : ∀ entry ∈ system.block.blockIndex.allEntries,
    system.block.blockIndex.transactionNrsFileCursors.find? entry.transactionNr ≠ none ∨
    entry.transactionNr ∈ (system.block.transactionWriteTask.getD .new).numbers ∨
    ∃ handed ∈ system.handed, entry.transactionNr ∈ handed.unrecorded
  appended : ∀ handed ∈ system.handed, ∀ fileCursors, handed.phase = .appended fileCursors →
    ∀ fileCursor ∈ fileCursors,
      fileCursor.1 ∈ handed.task.numbers ∧ ¬ fileCursor.2.toInt32 < 0

variable {genericHash : List UInt8 → Digest}
  {getCommunityIdIndex : String → Except Exception UInt32}

/-- Where the index is written in time its cursors are complete. -/
theorem CursorsPending.complete {system : WriteSystem} (cursors : CursorsPending system)
    {position : Nat} (inTime : FileCursorsInTime system (.serializeIndex position)) :
    FileCursorsComplete system := by
  intro entry member
  rcases cursors.pending entry member with present | inOpen | ⟨handed, isHanded, unrecorded⟩
  · exact present
  · rw [inTime.1] at inOpen
    cases inOpen
  · rw [HandedTask.unrecorded_of_recorded (inTime.2 handed isHanded)] at unrecorded
    cases unrecorded

/-- A push keeps the cursors pending. -/
theorem CursorsPending.push {system : WriteSystem} (cursors : CursorsPending system)
    (transaction : NodeTransactionEntry) (pushed : List NodeTransactionEntry) :
    CursorsPending { system with
      block := (system.block.pushTransaction getCommunityIdIndex transaction).2
      pushed := pushed } := by
  cases called : system.block.exitCalled with
  | true =>
      rw [system.block.pushTransaction_of_exitCalled getCommunityIdIndex transaction called]
      exact ⟨cursors.pending, cursors.appended⟩
  | false =>
      have openTask := system.block.pushTransaction_openTask getCommunityIdIndex transaction called
      have index := system.block.pushTransaction_index getCommunityIdIndex transaction called
      have grows := BlockIndex.grows_addIndicesForTransactionEntry getCommunityIdIndex transaction
        system.block.blockIndex
      refine ⟨fun entry member => ?_, cursors.appended⟩
      simp only [openTask, index, Option.getD_some] at member ⊢
      rcases grows.entries entry member with old | new
      · rcases cursors.pending entry old with present | inOpen | inHanded
        · exact Or.inl (grows.fileCursors _ present)
        · exact Or.inr (Or.inl (WriteTransactionsToBlockTask.mem_numbers_insert (Or.inr inOpen)))
        · exact Or.inr (Or.inr inHanded)
      · exact Or.inr (Or.inl (WriteTransactionsToBlockTask.mem_numbers_insert (Or.inl new)))

/-- A task handed over has all its cursors pending. -/
theorem CursorsPending.handOver {system : WriteSystem} (cursors : CursorsPending system)
    {block : Block} {phase : Phase} (index : block.blockIndex = system.block.blockIndex)
    (unwritten : phase.written = false) (unrecorded : phase.recorded = false) :
    CursorsPending (system.handOver (system.block.transactionWriteTask, block) phase) := by
  have notAppended := Phase.ne_appended_of_unwritten unwritten
  constructor
  · intro entry member
    simp only [WriteSystem.handOver, index] at member ⊢
    rcases cursors.pending entry member with present | inOpen | ⟨handed, isHanded, inHanded⟩
    · exact Or.inl present
    · cases isOpen : system.block.transactionWriteTask with
      | none =>
          rw [isOpen] at inOpen
          cases inOpen
      | some task =>
          rw [isOpen] at inOpen
          exact Or.inr (Or.inr ⟨⟨task, phase⟩, List.mem_append_right _ (List.mem_singleton_self _),
            HandedTask.mem_unrecorded_of_not notAppended unrecorded inOpen⟩)
    · exact Or.inr (Or.inr ⟨handed, List.mem_append_left _ isHanded, inHanded⟩)
  · intro handed isHanded fileCursors appended
    rcases List.mem_append.mp isHanded with before | last
    · exact cursors.appended handed before fileCursors appended
    · cases isOpen : system.block.transactionWriteTask with
      | none =>
          rw [isOpen] at last
          cases last
      | some task =>
          rw [isOpen] at last
          rw [List.mem_singleton.mp last] at appended
          exact absurd appended (notAppended fileCursors)

/-- A task moves on and loses no transaction: each of its unrecorded ones has a file
cursor now, or is still unrecorded. -/
theorem CursorsPending.taskMoved {system : WriteSystem} (cursors : CursorsPending system)
    {position : Nat} {handed : HandedTask} {index : BlockIndex} (phase : Phase)
    (found : system.handed[position]? = some handed)
    (grows : ∀ other, BlockIndex.Grows other system.block.blockIndex index)
    (entries : ∀ entry ∈ index.allEntries, entry ∈ system.block.blockIndex.allEntries)
    (covered : ∀ transactionNr ∈ handed.unrecorded,
      index.transactionNrsFileCursors.find? transactionNr ≠ none ∨
        transactionNr ∈ HandedTask.unrecorded ⟨handed.task, phase⟩)
    (appended : ∀ fileCursors, phase = .appended fileCursors → ∀ fileCursor ∈ fileCursors,
      fileCursor.1 ∈ handed.task.numbers ∧ ¬ fileCursor.2.toInt32 < 0) :
    CursorsPending ((system.setIndex index).setPhase position phase) := by
  have moved (at_ : Nat) (other : HandedTask) (foundOther : system.handed[at_]? = some other) :
      ((system.setIndex index).setPhase position phase).handed[at_]? =
        some (if position = at_ then { other with phase := phase } else other) := by
    rw [getElem?_setPhase]
    change (system.handed[at_]?).map _ = _
    rw [foundOther, Option.map_some]
  constructor
  · intro entry member
    rcases cursors.pending entry (entries entry member) with
      present | inOpen | ⟨other, isHanded, unrecorded⟩
    · exact Or.inl ((grows entry.transactionNr).fileCursors _ present)
    · exact Or.inr (Or.inl inOpen)
    · obtain ⟨at_, foundOther⟩ := List.mem_iff_getElem?.mp isHanded
      have foundMoved := moved at_ other foundOther
      by_cases same : position = at_
      · subst same
        cases found.symm.trans foundOther
        rw [if_pos rfl] at foundMoved
        rcases covered _ unrecorded with present | still
        · exact Or.inl present
        · exact Or.inr (Or.inr ⟨_, List.mem_of_getElem? foundMoved, still⟩)
      · rw [if_neg same] at foundMoved
        exact Or.inr (Or.inr ⟨other, List.mem_of_getElem? foundMoved, unrecorded⟩)
  · intro other isHanded fileCursors isAppended
    obtain ⟨at_, foundMoved⟩ := List.mem_iff_getElem?.mp isHanded
    rw [getElem?_setPhase, Option.map_eq_some_iff] at foundMoved
    obtain ⟨before, foundBefore, rfl⟩ := foundMoved
    by_cases same : position = at_
    · subst same
      cases found.symm.trans foundBefore
      simp only [↓reduceIte] at isAppended ⊢
      exact appended fileCursors isAppended
    · simp only [same, ↓reduceIte] at isAppended ⊢
      exact cursors.appended before (List.mem_of_getElem? foundBefore) fileCursors isAppended

/-- A number not yet recorded belongs to its task. -/
theorem CursorsPending.of_mem_unrecorded {system : WriteSystem} (cursors : CursorsPending system)
    {handed : HandedTask} (isHanded : handed ∈ system.handed) {transactionNr : UInt64}
    (unrecorded : transactionNr ∈ handed.unrecorded) :
    transactionNr ∈ handed.task.numbers ∧ handed.phase.recorded = false := by
  have notRecorded : handed.phase.recorded = false := by
    by_contra recorded
    rw [HandedTask.unrecorded_of_recorded (Bool.not_eq_false _ ▸ recorded)] at unrecorded
    cases unrecorded
  refine ⟨?_, notRecorded⟩
  unfold HandedTask.unrecorded at unrecorded
  split at unrecorded
  · rename_i fileCursors appended
    obtain ⟨fileCursor, isPending, rfl⟩ := List.mem_map.mp unrecorded
    exact (cursors.appended handed isHanded fileCursors appended fileCursor isPending).1
  · rwa [notRecorded, if_neg Bool.false_ne_true] at unrecorded

/-- A file cursor that is not negative and not refused is in the index. -/
theorem fileCursor_present {transactionNr : UInt64} {fileCursor : Int32}
    {index next : BlockIndex} {result : Bool} (nonnegative : ¬ fileCursor < 0)
    (recorded : BlockIndex.addFileCursorForTransaction transactionNr fileCursor index =
      (.ok result, next)) :
    next.transactionNrsFileCursors.find? transactionNr ≠ none := by
  rcases BlockIndex.addFileCursorForTransaction_cases transactionNr fileCursor index with
    ⟨negative, _⟩ | ⟨_, _, _, failed⟩ | ⟨_, _, _, _, stored, found, _⟩
  · exact absurd negative nonnegative
  · rw [failed] at recorded
    cases recorded
  · cases stored.symm.trans recorded
    rw [found]
    exact Option.some_ne_none _

/-- A step of a task in time keeps the cursors pending. -/
theorem CursorsPending.task {system next : WriteSystem} (cursors : CursorsPending system)
    {position : Nat} {handed : HandedTask} {event : WriteEvent}
    (found : system.handed[position]? = some handed)
    (inTime : ∀ position, event = .append position → FileCursorsInTime system event)
    (taken : TaskStep genericHash system position handed event next) : CursorsPending next := by
  have isHanded := List.mem_of_getElem? found
  cases taken with
  | @append lines started collected =>
      have linesEq : lines = handed.task.lines :=
        WriteTransactionsToBlockTask.collectLines_ok collected
      obtain ⟨short, fits, below⟩ := inTime position rfl handed found
      rw [← linesEq] at short fits below
      have positions := @Files.Block.appendLines_positions genericHash system.blockFile lines short
      have count : handed.task.numbers.length =
          (Files.Block.appendLines genericHash lines system.blockFile).1.length := by
        rw [positions, List.length_map, Files.length_positionsFrom, linesEq]
        simp only [WriteTransactionsToBlockTask.numbers, WriteTransactionsToBlockTask.lines,
          List.length_map]
      have moved := cursors.taskMoved (.appended (handed.task.numbers.zip
          (Files.Block.appendLines genericHash lines system.blockFile).1)) found
        (fun other => BlockIndex.Grows.refl other system.block.blockIndex)
        (fun _ member => member) ?_ ?_
      · exact ⟨moved.pending, moved.appended⟩
      · intro transactionNr unrecorded
        simp only [HandedTask.unrecorded]
        rw [List.map_fst_zip (Nat.le_of_eq count)]
        exact Or.inr (cursors.of_mem_unrecorded isHanded unrecorded).1
      · intro fileCursors same fileCursor isPending
        cases same
        obtain ⟨isNumber, isPosition⟩ := List.of_mem_zip isPending
        rw [positions] at isPosition
        obtain ⟨start, isStart, same⟩ := List.mem_map.mp isPosition
        exact ⟨isNumber, same ▸ toInt32_ofNat_nonnegative (below start isStart)⟩
  | @record transactionNr fileCursor rest result index appended recorded =>
      have pending := cursors.appended handed isHanded _ appended
      refine cursors.taskMoved _ found ?_ ?_ ?_ ?_
      · intro other
        have grows := BlockIndex.grows_addFileCursorForTransaction transactionNr other
          fileCursor.toInt32 system.block.blockIndex
        rwa [recorded] at grows
      · rw [BlockIndex.allEntries_addFileCursorForTransaction recorded]
        exact fun _ member => member
      · intro other unrecorded
        simp only [HandedTask.unrecorded, appended, List.map_cons] at unrecorded ⊢
        rcases List.mem_cons.mp unrecorded with rfl | later
        · exact Or.inl (fileCursor_present (pending _ (List.mem_cons_self ..)).2 recorded)
        · exact Or.inr later
      · intro fileCursors same other isPending
        cases same
        exact pending other (List.mem_cons_of_mem _ isPending)
  | @recordFailed transactionNr fileCursor rest exception index appended failed =>
      refine cursors.taskMoved _ found ?_ ?_ ?_ fun fileCursors same => ?_
      · intro other
        have grows := BlockIndex.grows_addFileCursorForTransaction transactionNr other
          fileCursor.toInt32 system.block.blockIndex
        rwa [failed] at grows
      · rw [BlockIndex.allEntries_addFileCursorForTransaction failed]
        exact fun _ member => member
      · intro other unrecorded
        exact Or.inr (cursors.of_mem_unrecorded isHanded unrecorded).1
      · cases same
  | quiet phase indexDisk written recorded notAppended =>
      have moved := cursors.taskMoved phase found
        (fun other => BlockIndex.Grows.refl other system.block.blockIndex)
        (fun _ member => member)
        (fun transactionNr unrecorded => Or.inr (by
          have pending := cursors.of_mem_unrecorded isHanded unrecorded
          exact HandedTask.mem_unrecorded_of_not notAppended (recorded.trans pending.2) pending.1))
        (fun fileCursors same => absurd same (notAppended fileCursors))
      exact ⟨moved.pending, moved.appended⟩

/-- Every step in time keeps them pending. -/
theorem CursorsPending.step {system next : WriteSystem} {event : WriteEvent}
    (cursors : CursorsPending system)
    (inTime : ∀ position, event = .append position → FileCursorsInTime system event)
    (taken : system.step genericHash getCommunityIdIndex event = some next) :
    CursorsPending next := by
  cases step_sound taken with
  | push transaction => exact cursors.push transaction _
  | expire transactionNr => exact ⟨cursors.pending, cursors.appended⟩
  | timer =>
      cases called : system.block.exitCalled with
      | true => simpa [Block.callFromTimer, called, WriteSystem.handOver] using cursors
      | false =>
          have timed : system.block.callFromTimer =
              (system.block.transactionWriteTask,
                { system.block with transactionWriteTask := none }) := by
            simp [Block.callFromTimer, called]
          rw [timed]
          exact cursors.handOver rfl rfl rfl
  | exit => exact cursors.handOver rfl rfl rfl
  | task target found taken => exact cursors.task found inTime taken

/-- A complete index has none pending. -/
theorem CursorsPending.start {index : BlockIndex} {blockFile : Files.Block}
    {indexDisk : Option (List UInt8)}
    (complete : FileCursorsComplete (start index blockFile indexDisk)) :
    CursorsPending (start index blockFile indexDisk) :=
  ⟨fun entry member => Or.inl (complete entry member), nofun⟩

/-- In every run in which the index is written only while no transaction is between its
push and its file cursor, a task that reaches the writing finds a file cursor for every
entry, and serializing does not throw. -/
theorem fileCursorsComplete_of_run {index : BlockIndex} {blockFile : Files.Block}
    {indexDisk : Option (List UInt8)} {events : List WriteEvent} {position : Nat}
    {reached : WriteSystem} (complete : FileCursorsComplete (start index blockFile indexDisk))
    (meets : StepsMeet (WriteSystem.step genericHash getCommunityIdIndex) FileCursorsInTime
      (events ++ [.serializeIndex position]) (start index blockFile indexDisk))
    (run : runEvents (WriteSystem.step genericHash getCommunityIdIndex) events
      (start index blockFile indexDisk) = some reached) :
    FileCursorsComplete reached ∧ ∃ blocks, reached.block.blockIndex.serialize = .ok blocks := by
  have cursors : CursorsPending reached :=
    invariant_of_stepsMeet (fun _ _ _ cursors inTime taken => cursors.step (fun _ _ => inTime) taken)
      (CursorsPending.start complete) meets.left run
  have complete := cursors.complete (meets.at_event run)
  exact ⟨complete, BlockIndex.serialize_ok_iff.mpr complete⟩

section Example

/-- The tasks of two transactions overlap, and have recorded both file cursors before the index
is written. -/
theorem fileCursorsComplete_overlapping :
    ∃ reached, runEvents (WriteSystem.step (fun _ => firstHash) noCommunities)
        (writtenInTurn ++ [.recordFileCursor 1, .recordFileCursor 0])
        (start BlockIndex.new (Files.Block.new []) none) = some reached ∧
      FileCursorsComplete reached ∧ ∃ blocks, reached.block.blockIndex.serialize = .ok blocks := by
  refine ⟨_, rfl, @fileCursorsComplete_of_run (fun _ => firstHash) noCommunities BlockIndex.new
    (Files.Block.new []) none (writtenInTurn ++ [.recordFileCursor 1, .recordFileCursor 0]) 1 _
    nofun ?_ rfl⟩
  refine StepsMeet.cons trivial rfl (StepsMeet.cons trivial rfl (StepsMeet.cons trivial rfl
    (StepsMeet.cons trivial rfl (StepsMeet.cons trivial rfl (StepsMeet.cons trivial rfl ?_)))))
  refine StepsMeet.cons ?_ rfl (StepsMeet.cons ?_ rfl ?_)
  · rintro _ ⟨⟩
    decide
  · rintro _ ⟨⟩
    decide
  refine StepsMeet.cons trivial rfl (StepsMeet.cons trivial rfl ⟨⟨rfl, ?_⟩, fun _ _ => trivial⟩)
  decide

/-- A transaction is pushed while the task of its predecessor runs. -/
theorem not_fileCursorsComplete_pushed_meanwhile :
    ∃ reached, runEvents (WriteSystem.step (fun _ => firstHash) noCommunities)
        [.push (exampleTransaction 1), .timer, .take 0, .append 0, .recordFileCursor 0,
          .push (exampleTransaction 2)]
        (start BlockIndex.new (Files.Block.new []) none) = some reached ∧
      ¬ FileCursorsComplete reached ∧
      (reached.step (fun _ => firstHash) noCommunities (.serializeIndex 0)).map
          (fun next => next.handed.map HandedTask.phase) =
        some [.failed true true
          (.gradidoNodeInvalidData "missing file cursor for transaction")] := by
  refine ⟨_, rfl, ?_, rfl⟩
  decide

end Example

end WriteSystem

end Cache

end GradidoNode

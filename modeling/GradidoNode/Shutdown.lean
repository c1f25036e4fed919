import GradidoNode.MainServer

/-!
# What an orderly shutdown saves

A transaction is in the open task of its block or in a task handed over before. The
shutdown runs the open task itself, but for the others it only waits, and not forever.
-/

namespace GradidoNode

open Library Tasks Cache

namespace Cache.WriteSystem

/-- A transaction comes in under a new number and fits into its size field, and the file
stays below the 32 bits of its size. -/
def Acceptable (system : WriteSystem) : WriteEvent → Prop
  | .push transaction => system.block.exitCalled = false →
      (∀ other ∈ system.pushed, other.transactionNr ≠ transaction.transactionNr) ∧
        transaction.serializedTransaction.length < 2 ^ 16
  | .append position => ∀ handed, system.handed[position]? = some handed →
      system.blockFile.currentFileSize.toNat +
        (Files.encodeLines handed.task.lines).length < 2 ^ 32
  | _ => True

/-- The transactions of a task are in the open task or left the block in one. -/
structure Kept (genericHash : List UInt8 → Digest) (system : WriteSystem) : Prop where
  short : ∀ transaction ∈ system.pushed, transaction.serializedTransaction.length < 2 ^ 16
  pushed : ∀ transaction, transaction ∈ system.pushed ↔
    transaction ∈ system.openEntries ∨
      ∃ handed ∈ system.handed, transaction ∈ handed.task.entries
  nonempty : ∀ handed ∈ system.handed, handed.task.entries ≠ []
  openNonempty : ∀ task, system.block.transactionWriteTask = some task → task.entries ≠ []
  stored : ∃ lines, system.blockFile.Holds genericHash lines ∧
    ∀ handed ∈ system.handed, handed.phase.written = true →
      ∀ line ∈ handed.task.lines, line ∈ lines

variable {genericHash : List UInt8 → Digest}
  {getCommunityIdIndex : String → Except Exception UInt32} {system next : WriteSystem}

/-- A push that is acceptable keeps every transaction. -/
theorem Kept.push (kept : Kept genericHash system) {transaction : NodeTransactionEntry}
    (acceptable : Acceptable system (.push transaction)) :
    Kept genericHash { system with
      block := (system.block.pushTransaction getCommunityIdIndex transaction).2
      pushed := if system.block.exitCalled then system.pushed
        else system.pushed ++ [transaction] } := by
  cases called : system.block.exitCalled with
  | true =>
      have refused := system.block.pushTransaction_of_exitCalled getCommunityIdIndex transaction
        called
      simp only [refused, ↓reduceIte]
      exact kept
  | false =>
      obtain ⟨fresh, short⟩ := acceptable called
      have openTask := system.block.pushTransaction_openTask getCommunityIdIndex transaction called
      have inserted (other : NodeTransactionEntry) :
          other ∈ ((system.block.transactionWriteTask.getD .new).insert transaction).entries ↔
            other ∈ system.openEntries ∨ other = transaction :=
        WriteTransactionsToBlockTask.mem_entries_insert fun entry member =>
          fresh entry ((kept.pushed entry).mpr (Or.inl member))
      simp only [Bool.false_eq_true, ↓reduceIte]
      refine ⟨?_, ?_, kept.nonempty, ?_, kept.stored⟩
      · intro other member
        rcases List.mem_append.mp member with before | last
        · exact kept.short other before
        · rw [List.mem_singleton.mp last]
          exact short
      · intro other
        simp only [openEntries, openTask, Option.getD_some, inserted, List.mem_append,
          List.mem_singleton, kept.pushed other]
        exact or_right_comm
      · intro task isOpen none
        simp only [openTask, Option.some.injEq] at isOpen
        rw [← isOpen] at none
        have member := (inserted transaction).mpr (Or.inr rfl)
        rw [none] at member
        cases member

/-- Handing the open task over keeps its transactions. -/
theorem Kept.handOver (kept : Kept genericHash system) {block : Block} {phase : Phase}
    (unwritten : phase.written = false) (noneOpen : block.transactionWriteTask = none) :
    Kept genericHash (system.handOver (system.block.transactionWriteTask, block) phase) := by
  have noneLeft (transaction : NodeTransactionEntry) :
      transaction ∉ (system.handOver (system.block.transactionWriteTask, block)
        phase).openEntries := by
    simp only [openEntries, WriteSystem.handOver, noneOpen, Option.getD_none,
      WriteTransactionsToBlockTask.entries_new]
    exact List.not_mem_nil
  have member (handed : HandedTask) :
      handed ∈ (system.handOver (system.block.transactionWriteTask, block) phase).handed ↔
        handed ∈ system.handed ∨
          ∃ task, system.block.transactionWriteTask = some task ∧ handed = ⟨task, phase⟩ := by
    simp only [WriteSystem.handOver]
    rw [List.mem_append, Option.mem_toList, Option.map_eq_some_iff]
    exact or_congr_right (exists_congr fun task => and_congr_right fun _ => eq_comm)
  obtain ⟨lines, holds, stored⟩ := kept.stored
  refine ⟨kept.short, ?_, ?_, ?_, lines, holds, ?_⟩
  · intro transaction
    rw [or_iff_right (noneLeft transaction)]
    refine (kept.pushed transaction).trans ?_
    constructor
    · rintro (inOpen | ⟨handed, before, isEntry⟩)
      · cases isOpen : system.block.transactionWriteTask with
        | none =>
            rw [openEntries, isOpen] at inOpen
            cases inOpen
        | some task =>
            rw [openEntries, isOpen] at inOpen
            refine ⟨⟨task, phase⟩, ?_, inOpen⟩
            rw [← isOpen]
            exact (member _).mpr (Or.inr ⟨task, isOpen, rfl⟩)
      · exact ⟨handed, (member handed).mpr (Or.inl before), isEntry⟩
    · rintro ⟨handed, isHanded, isEntry⟩
      rcases (member handed).mp isHanded with before | ⟨task, isOpen, rfl⟩
      · exact Or.inr ⟨handed, before, isEntry⟩
      · apply Or.inl
        rw [openEntries, isOpen]
        exact isEntry
  · intro handed isHanded
    rcases (member handed).mp isHanded with before | ⟨task, isOpen, rfl⟩
    · exact kept.nonempty handed before
    · exact kept.openNonempty task isOpen
  · intro task isOpen
    rw [WriteSystem.handOver, noneOpen] at isOpen
    cases isOpen
  · intro handed isHanded isWritten
    rcases (member handed).mp isHanded with before | ⟨task, _, rfl⟩
    · exact stored handed before isWritten
    · rw [unwritten] at isWritten
      cases isWritten

/-- The tasks after one has moved on. -/
theorem mem_setPhase {position : Nat} {phase : Phase} {handed : HandedTask}
    (member : handed ∈ (system.setPhase position phase).handed) :
    ∃ index before, system.handed[index]? = some before ∧ handed.task = before.task ∧
      (index = position ∧ handed.phase = phase ∨ handed = before) := by
  obtain ⟨index, found⟩ := List.mem_iff_getElem?.mp member
  rw [getElem?_setPhase, Option.map_eq_some_iff] at found
  obtain ⟨before, foundBefore, rfl⟩ := found
  refine ⟨index, before, foundBefore, ?_⟩
  by_cases same : position = index
  · rw [if_pos same]
    exact ⟨rfl, Or.inl ⟨same.symm, rfl⟩⟩
  · rw [if_neg same]
    exact ⟨rfl, Or.inr rfl⟩

/-- No task is dropped when one moves on. -/
theorem exists_mem_setPhase {position : Nat} {phase : Phase} {handed : HandedTask}
    (member : handed ∈ system.handed) :
    ∃ after ∈ (system.setPhase position phase).handed, after.task = handed.task := by
  obtain ⟨index, found⟩ := List.mem_iff_getElem?.mp member
  have after := getElem?_setPhase system position index phase
  rw [found, Option.map_some] at after
  refine ⟨_, List.mem_of_getElem? after, ?_⟩
  split <;> rfl

/-- Whatever happens to the phase of a task, the transactions stay; what the file has to
hold is asked again for the task itself. -/
theorem Kept.setPhase (kept : Kept genericHash system) {position : Nat} {phase : Phase}
    {blockFile : Files.Block}
    (stored : ∃ lines, blockFile.Holds genericHash lines ∧
      (∀ handed ∈ system.handed, handed.phase.written = true →
        ∀ line ∈ handed.task.lines, line ∈ lines) ∧
      (phase.written = true → ∀ handed, system.handed[position]? = some handed →
        ∀ line ∈ handed.task.lines, line ∈ lines)) :
    Kept genericHash { system.setPhase position phase with blockFile := blockFile } := by
  obtain ⟨lines, holds, storedBefore, storedNow⟩ := stored
  refine ⟨kept.short, ?_, ?_, kept.openNonempty, lines, holds, ?_⟩
  · intro transaction
    rw [setPhase_pushed, kept.pushed]
    refine or_congr_right ⟨?_, ?_⟩
    · rintro ⟨handed, member, isEntry⟩
      obtain ⟨after, isAfter, same⟩ := @exists_mem_setPhase system position phase handed member
      exact ⟨after, isAfter, same ▸ isEntry⟩
    · rintro ⟨after, isAfter, isEntry⟩
      obtain ⟨index, handed, found, same, _⟩ := mem_setPhase isAfter
      exact ⟨handed, List.mem_of_getElem? found, same ▸ isEntry⟩
  · intro after isAfter
    obtain ⟨index, handed, found, same, _⟩ := mem_setPhase isAfter
    rw [same]
    exact kept.nonempty handed (List.mem_of_getElem? found)
  · intro after isAfter isWritten line isLine
    obtain ⟨index, handed, found, same, moved | rfl⟩ := mem_setPhase isAfter
    · rw [same] at isLine
      rw [moved.2] at isWritten
      exact storedNow isWritten handed (moved.1 ▸ found) line isLine
    · exact storedBefore after (List.mem_of_getElem? found) isWritten line isLine

/-- A step of a task that does not write leaves the file as it has to be. -/
theorem Kept.setPhase_of_written (kept : Kept genericHash system) {position : Nat}
    {handed : HandedTask} {phase : Phase} (found : system.handed[position]? = some handed)
    (written : phase.written = true → handed.phase.written = true) :
    Kept genericHash (system.setPhase position phase) := by
  obtain ⟨lines, holds, stored⟩ := kept.stored
  refine @Kept.setPhase genericHash system kept position phase system.blockFile
    ⟨lines, holds, stored, fun isWritten other foundOther => ?_⟩
  cases found.symm.trans foundOther
  exact stored handed (List.mem_of_getElem? found) (written isWritten)

/-- An append keeps every transaction. -/
theorem Kept.append (kept : Kept genericHash system) {position : Nat} {handed : HandedTask}
    {lines : List (List UInt8)} {fileCursors : List (UInt64 × UInt32)}
    (found : system.handed[position]? = some handed)
    (collected : WriteTransactionsToBlockTask.collectLines 0 handed.task.entries = .ok lines)
    (acceptable : Acceptable system (.append position)) :
    Kept genericHash { system.setPhase position (.appended fileCursors) with
      blockFile := (Files.Block.appendLines genericHash lines system.blockFile).2 } := by
  obtain ⟨before, holds, stored⟩ := kept.stored
  have isHanded := List.mem_of_getElem? found
  have linesEq : lines = handed.task.lines := WriteTransactionsToBlockTask.collectLines_ok collected
  have some : lines ≠ [] := by
    rw [linesEq, WriteTransactionsToBlockTask.lines]
    exact fun none => kept.nonempty handed isHanded (List.map_eq_nil_iff.mp none)
  have short : ∀ line ∈ lines, line.length < 2 ^ 16 := by
    intro line member
    rw [linesEq, WriteTransactionsToBlockTask.lines] at member
    obtain ⟨transaction, isEntry, rfl⟩ := List.mem_map.mp member
    exact kept.short transaction ((kept.pushed transaction).mpr (Or.inr ⟨handed, isHanded, isEntry⟩))
  have appended := Files.Block.appendLines_holds holds some short (by
    rw [Files.encodeLines_append, List.length_append, ← holds.size, linesEq]
    exact acceptable handed found)
  refine kept.setPhase ⟨before ++ lines, appended.1, ?_, ?_⟩
  · intro other isOther isWritten line isLine
    exact List.mem_append_left _ (stored other isOther isWritten line isLine)
  · intro _ other foundOther line isLine
    cases found.symm.trans foundOther
    rw [← linesEq] at isLine
    exact List.mem_append_right _ isLine

/-- Every step keeps the transactions. -/
theorem Kept.step (kept : Kept genericHash system) {event : WriteEvent}
    (acceptable : Acceptable system event)
    (taken : Step genericHash getCommunityIdIndex system event next) : Kept genericHash next := by
  cases taken with
  | push transaction => exact kept.push acceptable
  | expire transactionNr =>
      exact ⟨kept.short, kept.pushed, kept.nonempty, kept.openNonempty, kept.stored⟩
  | timer =>
      cases called : system.block.exitCalled with
      | true => simpa [Block.callFromTimer, called, WriteSystem.handOver] using kept
      | false =>
          have timed : system.block.callFromTimer =
              (system.block.transactionWriteTask,
                { system.block with transactionWriteTask := none }) := by
            simp [Block.callFromTimer, called]
          rw [timed]
          exact kept.handOver rfl rfl
  | exit => exact kept.handOver rfl rfl
  | task target found taken =>
      have ofIndex (index : BlockIndex) : Kept genericHash (system.setIndex index) :=
        ⟨kept.short, kept.pushed, kept.nonempty, kept.openNonempty, kept.stored⟩
      cases taken with
      | append started collected => exact kept.append found collected acceptable
      | record appended recorded =>
          exact (ofIndex _).setPhase_of_written found fun _ => appended ▸ rfl
      | recordFailed appended failed =>
          exact (ofIndex _).setPhase_of_written found fun _ => appended ▸ rfl
      | quiet phase indexDisk written recorded notAppended =>
          have moved := kept.setPhase_of_written found (fun isWritten => written ▸ isWritten)
          exact ⟨moved.short, moved.pushed, moved.nonempty, moved.openNonempty, moved.stored⟩

/-- Apart from the timer and `exit`, which hand over, a step keeps the tasks that left the
block, and none of them loses the lines it has written. -/
theorem Step.written_mono {event : WriteEvent} (notTimer : event ≠ .timer) (notExit : event ≠ .exit)
    (taken : Step genericHash getCommunityIdIndex system event next) {index : Nat}
    {after : HandedTask} (found : next.handed[index]? = some after) :
    ∃ before, system.handed[index]? = some before ∧
      (before.phase.written = true → after.phase.written = true) := by
  have moved {position : Nat} {phase : Phase} {handed : HandedTask}
      (isHanded : system.handed[position]? = some handed)
      (written : handed.phase.written = true → phase.written = true)
      (found : (system.setPhase position phase).handed[index]? = some after) :
      ∃ before, system.handed[index]? = some before ∧
        (before.phase.written = true → after.phase.written = true) := by
    rw [getElem?_setPhase, Option.map_eq_some_iff] at found
    obtain ⟨before, foundBefore, rfl⟩ := found
    refine ⟨before, foundBefore, fun isWritten => ?_⟩
    by_cases same : position = index
    · rw [same, foundBefore] at isHanded
      cases isHanded
      rw [if_pos same]
      exact written isWritten
    · rwa [if_neg same]
  cases taken with
  | push transaction => exact ⟨after, found, id⟩
  | expire transactionNr => exact ⟨after, found, id⟩
  | timer => exact absurd rfl notTimer
  | exit => exact absurd rfl notExit
  | task target isHanded taken =>
      cases taken with
      | append started collected => exact moved isHanded (fun _ => rfl) found
      | record appended recorded => exact moved isHanded (fun _ => rfl) found
      | recordFailed appended failed => exact moved isHanded (fun _ => rfl) found
      | quiet phase indexDisk written recorded notAppended =>
          exact moved isHanded (fun isWritten => written ▸ isWritten) found

/-- A block that is closed without an open task stays so. -/
theorem Step.closed {event : WriteEvent}
    (taken : Step genericHash getCommunityIdIndex system event next)
    (noneOpen : system.block.transactionWriteTask = none)
    (called : system.block.exitCalled = true) :
    next.block.transactionWriteTask = none ∧ next.block.exitCalled = true := by
  cases taken with
  | push transaction =>
      rw [system.block.pushTransaction_of_exitCalled getCommunityIdIndex transaction called]
      exact ⟨noneOpen, called⟩
  | expire transactionNr => exact ⟨noneOpen, called⟩
  | timer =>
      simp only [WriteSystem.handOver, Block.callFromTimer, called, ↓reduceIte]
      exact ⟨noneOpen, trivial⟩
  | exit => exact ⟨rfl, rfl⟩
  | task target found taken => cases taken <;> exact ⟨noneOpen, called⟩

end Cache.WriteSystem

namespace MainServer

open Cache.WriteSystem

variable {genericHash : List UInt8 → Digest}
  {getCommunityIdIndex : String → Except Exception UInt32} {server next : MainServer}

/-- The loop of `FileBased::exit` gives up only on tasks that have written their lines. -/
def ShutsDownInOrder (server : MainServer) : ServerEvent → Prop
  | .write event => Acceptable server.writes event
  | .timer _ => True
  | .exit => server.stage = .waiting → server.pendingTasksCount ≠ 0 →
      ∀ handed ∈ server.writes.handed, handed.phase.written = true

/-- From the end of the loop on, the task of the destructor is the only one that may not
have written yet; once the block is gone, nothing is left in it. -/
structure Accounted (genericHash : List UInt8 → Digest) (server : MainServer) : Prop where
  kept : Kept genericHash server.writes
  noExitTask : server.stage.rank < ExitStage.blocksCleared.rank → server.exitTask = none
  waited : ExitStage.waited.rank ≤ server.stage.rank →
    ∀ index handed, server.writes.handed[index]? = some handed →
      server.exitTask = some index ∨ handed.phase.written = true
  cleared : ExitStage.blocksCleared.rank ≤ server.stage.rank →
    server.writes.block.transactionWriteTask = none
  exitCalled : ExitStage.blocksCleared.rank ≤ server.stage.rank →
    server.writes.block.exitCalled = true
  returned : server.stage = .returned →
    ∀ (index : Nat) (handed : HandedTask), server.writes.handed[index]? = some handed →
      handed.phase.written = true

/-- No observed task is left: all have written. -/
theorem written_of_pendingTasksCount_zero (none : server.pendingTasksCount = 0) :
    ∀ handed ∈ server.writes.handed, handed.phase.written = true := by
  intro handed member
  by_contra unwritten
  have unfinished : handed.phase ≠ .finished := by
    intro finished
    rw [finished] at unwritten
    exact unwritten rfl
  have observed : handed ∈ server.writes.handed.filter fun handed => handed.phase ≠ .finished :=
    List.mem_filter.mpr ⟨member, decide_eq_true unfinished⟩
  rw [List.length_eq_zero_iff.mp none] at observed
  cases observed

/-- A shutdown that returned has every transaction in its file. -/
theorem Accounted.durable (accounted : Accounted genericHash server)
    (returned : server.stage = .returned) : server.Durable genericHash := by
  have late : ExitStage.blocksCleared.rank ≤ server.stage.rank := by
    rw [returned]
    decide
  obtain ⟨lines, holds, stored⟩ := accounted.kept.stored
  refine ⟨lines, holds, fun transaction pushed => ?_⟩
  rcases (accounted.kept.pushed transaction).mp pushed with inOpen | ⟨handed, member, isEntry⟩
  · rw [openEntries, accounted.cleared late] at inOpen
    cases inOpen
  · obtain ⟨index, found⟩ := List.mem_iff_getElem?.mp member
    have written := accounted.returned returned index handed found
    exact stored handed member written _ (List.mem_map_of_mem isEntry)

/-- A step of the block or of a task either does not reach the block any more, or is one
of the block and leaves the shutdown where it is. -/
theorem step_write_cases {event : WriteEvent}
    (taken : server.step genericHash getCommunityIdIndex (.write event) = some next) :
    next = server ∨ event ≠ .timer ∧ event ≠ .exit ∧ ∃ writes pendingTasks,
      server.writes.step genericHash getCommunityIdIndex event = some writes ∧
        next = { server with writes := writes, pendingTasks := pendingTasks } := by
  have ofStep {event : WriteEvent} {pendingTasks : List Nat}
      (taken : (server.writes.step genericHash getCommunityIdIndex event).map (fun writes =>
        { server with writes := writes, pendingTasks := pendingTasks }) = some next) :
      ∃ writes pendingTasks, server.writes.step genericHash getCommunityIdIndex event =
        some writes ∧ next = { server with writes := writes, pendingTasks := pendingTasks } := by
    obtain ⟨writes, stepped, rfl⟩ := Option.map_eq_some_iff.mp taken
    exact ⟨writes, pendingTasks, stepped, rfl⟩
  cases event with
  | timer => cases taken
  | exit => cases taken
  | drop position => cases taken
  | push transaction =>
      simp only [step] at taken
      split at taken
      · exact Or.inr ⟨nofun, nofun, ofStep taken⟩
      · cases taken
        exact Or.inl rfl
  | take position =>
      simp only [step] at taken
      split at taken
      · cases taken
      · exact Or.inr ⟨nofun, nofun, ofStep taken⟩
  | expire transactionNr => exact Or.inr ⟨nofun, nofun, ofStep taken⟩
  | lockTimeout position => exact Or.inr ⟨nofun, nofun, ofStep taken⟩
  | append position => exact Or.inr ⟨nofun, nofun, ofStep taken⟩
  | recordFileCursor position => exact Or.inr ⟨nofun, nofun, ofStep taken⟩
  | serializeIndex position => exact Or.inr ⟨nofun, nofun, ofStep taken⟩
  | writeIndex position => exact Or.inr ⟨nofun, nofun, ofStep taken⟩

/-- A step of the writing keeps the account. -/
theorem Accounted.write (accounted : Accounted genericHash server) {event : WriteEvent}
    (acceptable : Acceptable server.writes event)
    (taken : server.step genericHash getCommunityIdIndex (.write event) = some next) :
    Accounted genericHash next := by
  rcases step_write_cases taken with rfl | ⟨notTimer, notExit, writes, pendingTasks, stepped, rfl⟩
  · exact accounted
  · have sound := step_sound stepped
    refine ⟨accounted.kept.step acceptable sound, accounted.noExitTask, ?_, ?_, ?_, ?_⟩
    · intro late index after found
      obtain ⟨before, foundBefore, written⟩ := sound.written_mono notTimer notExit found
      exact (accounted.waited late index before foundBefore).imp_right written
    · intro late
      exact (sound.closed (accounted.cleared late) (accounted.exitCalled late)).1
    · intro late
      exact (sound.closed (accounted.cleared late) (accounted.exitCalled late)).2
    · intro returned index after found
      obtain ⟨before, foundBefore, written⟩ := sound.written_mono notTimer notExit found
      exact written (accounted.returned returned index before foundBefore)

/-- Clearing the pending list forgets tasks, but no transaction. -/
theorem kept_stopWriteScheduler (kept : Kept genericHash server.writes) :
    Kept genericHash server.stopWriteScheduler.writes := by
  unfold stopWriteScheduler
  dsimp only
  generalize server.pendingTasks = pendingTasks
  generalize server.writes = writes at kept
  induction pendingTasks generalizing writes with
  | nil => exact kept
  | cons position rest ih =>
      obtain ⟨lines, holds, stored⟩ := kept.stored
      apply ih
      exact @Kept.setPhase genericHash writes kept position .dropped writes.blockFile
        ⟨lines, holds, stored, fun isWritten => absurd isWritten Bool.false_ne_true⟩

/-- The destructor of the block takes its open task, and nothing is left. -/
theorem Accounted.clearBlocks (accounted : Accounted genericHash server)
    (stage : server.stage = .orderingManagerStopped) :
    Accounted genericHash { server.clearBlocks with stage := .blocksCleared } := by
  have waited := accounted.waited (by rw [stage]; decide)
  have noExitTask := accounted.noExitTask (by rw [stage]; decide)
  refine ⟨accounted.kept.handOver rfl rfl, fun early => absurd early (lt_irrefl _), ?_,
    fun _ => rfl, fun _ => rfl, fun returned => by cases returned⟩
  intro _ index handed found
  simp only [MainServer.clearBlocks, WriteSystem.handOver, Block.exit] at found ⊢
  rw [List.getElem?_append] at found
  split at found
  · rcases waited index handed found with isExit | written
    · rw [noExitTask] at isExit
      cases isExit
    · exact Or.inr written
  · rename_i behind
    cases isOpen : server.writes.block.transactionWriteTask with
    | none =>
        rw [isOpen] at found
        cases found
    | some task =>
        rw [isOpen] at found
        cases offset : index - server.writes.handed.length with
        | zero =>
            apply Or.inl
            rw [Option.map_some]
            congr 1
            omega
        | succ _ =>
            rw [offset] at found
            cases found

/-- Before the loop has ended, only the transactions matter. -/
theorem Accounted.of_early (stage : ExitStage) (kept : Kept genericHash server.writes)
    (noExitTask : server.exitTask = none) (isStage : server.stage = stage)
    (early : stage.rank < ExitStage.waited.rank) : Accounted genericHash server := by
  have notLate {later : ExitStage} (behind : ExitStage.waited.rank ≤ later.rank) :
      ¬ later.rank ≤ server.stage.rank := by
    rw [isStage]
    omega
  refine ⟨kept, fun _ => noExitTask, fun late => absurd late (notLate (le_refl _)),
    fun late => absurd late (notLate (by decide)), fun late => absurd late (notLate (by decide)), ?_⟩
  intro returned
  have late : ExitStage.returned.rank ≤ server.stage.rank := by rw [returned]
  exact absurd late (notLate (by decide))

/-- Between the end of the loop and the end of the block, every task has written. -/
theorem Accounted.of_waited (stage : ExitStage) (kept : Kept genericHash server.writes)
    (noExitTask : server.exitTask = none) (isStage : server.stage = stage)
    (early : stage.rank < ExitStage.blocksCleared.rank)
    (written : ∀ handed ∈ server.writes.handed, handed.phase.written = true) :
    Accounted genericHash server := by
  have notLate {later : ExitStage} (behind : ExitStage.blocksCleared.rank ≤ later.rank) :
      ¬ later.rank ≤ server.stage.rank := by
    rw [isStage]
    omega
  exact ⟨kept, fun _ => noExitTask,
    fun _ index handed found => Or.inr (written handed (List.mem_of_getElem? found)),
    fun late => absurd late (notLate (le_refl _)), fun late => absurd late (notLate (le_refl _)),
    fun _ index handed found => written handed (List.mem_of_getElem? found)⟩

/-- A step of the shutdown in order keeps the account. -/
theorem Accounted.exit (accounted : Accounted genericHash server)
    (inOrder : ShutsDownInOrder server .exit) (taken : server.exit = some next) :
    Accounted genericHash next := by
  have kept := accounted.kept
  have noExitTask {stage : ExitStage} (isStage : server.stage = stage)
      (early : stage.rank < ExitStage.blocksCleared.rank) : server.exitTask = none :=
    accounted.noExitTask (isStage ▸ early)
  unfold MainServer.exit at taken
  split at taken <;> rename_i stage
  · cases taken
    exact Accounted.of_early .timerStopped kept (noExitTask stage (by decide)) rfl (by decide)
  · cases taken
    exact Accounted.of_early .cpuSchedulerStopped kept (noExitTask stage (by decide)) rfl (by decide)
  · cases taken
    exact Accounted.of_early .writeSchedulerStopped (kept_stopWriteScheduler kept) (noExitTask stage (by decide)) rfl
      (by decide)
  · cases taken
    exact Accounted.of_early .waiting kept (noExitTask stage (by decide)) rfl (by decide)
  · cases taken
    refine Accounted.of_waited .waited kept (noExitTask stage (by decide)) rfl (by decide) ?_
    by_cases none : server.pendingTasksCount = 0
    · exact written_of_pendingTasksCount_zero none
    · exact inOrder stage none
  · cases taken
    refine Accounted.of_waited .orderingManagerStopped kept (noExitTask stage (by decide)) rfl (by decide) ?_
    intro handed member
    obtain ⟨index, found⟩ := List.mem_iff_getElem?.mp member
    rcases accounted.waited (by rw [stage]) index handed found with isExit | written
    · rw [noExitTask stage (by decide)] at isExit
      cases isExit
    · exact written
  · cases taken
    exact accounted.clearBlocks stage
  · have late : ExitStage.blocksCleared.rank ≤ server.stage.rank := by rw [stage]
    have waited := accounted.waited (Nat.le_trans (by decide) late)
    split at taken
    · rename_i finished
      cases taken
      refine ⟨kept, fun early => absurd early (Nat.not_lt_of_le (Nat.le_succ _)), fun _ => waited,
        fun _ => accounted.cleared late, fun _ => accounted.exitCalled late, ?_⟩
      intro _ index handed found
      rcases waited index handed found with isExit | written
      · simp only [exitTaskFinished, isExit, found, decide_eq_true_eq] at finished
        rw [finished]
        rfl
      · exact written
    · cases taken
  · cases taken

/-- Every step in order keeps the account. -/
theorem Accounted.step (accounted : Accounted genericHash server) {event : ServerEvent}
    (inOrder : ShutsDownInOrder server event)
    (taken : server.step genericHash getCommunityIdIndex event = some next) :
    Accounted genericHash next := by
  cases event with
  | write event => exact accounted.write inOrder taken
  | exit => exact accounted.exit inOrder taken
  | timer freeWorker =>
      simp only [MainServer.step] at taken
      split at taken
      · rename_i running
        cases taken
        have timed : Step genericHash getCommunityIdIndex server.writes .timer _ := Step.timer
        have noExitTask := accounted.noExitTask (by rw [running]; decide)
        have acceptable : Acceptable server.writes .timer := trivial
        exact Accounted.of_early .running (accounted.kept.step acceptable timed) noExitTask running
          (by decide)
      · cases taken

/-- A block opened on its own file starts accounted for. -/
theorem Accounted.start {index : BlockIndex} {blockFile : Files.Block}
    {indexDisk : Option (List UInt8)} {initial : List (List UInt8)}
    (holds : blockFile.Holds genericHash initial) :
    Accounted genericHash (start (WriteSystem.start index blockFile indexDisk)) := by
  have kept : Kept genericHash (WriteSystem.start index blockFile indexDisk) := {
    short := nofun
    pushed := fun transaction => by
      constructor
      · intro pushed
        cases pushed
      · rintro (inOpen | ⟨handed, member, _⟩)
        · cases inOpen
        · cases member
    nonempty := nofun
    openNonempty := nofun
    stored := ⟨initial, holds, nofun⟩ }
  exact Accounted.of_early .running kept rfl rfl (by decide)

/-- In every run in which the loop of `FileBased::exit` gives up on no task that has not
written its lines, every pushed transaction is in the block file when `exit` has returned. -/
theorem durable_of_run {index : BlockIndex} {blockFile : Files.Block}
    {indexDisk : Option (List UInt8)} {initial : List (List UInt8)} {events : List ServerEvent}
    {reached : MainServer} (holds : blockFile.Holds genericHash initial)
    (meets : StepsMeet (step genericHash getCommunityIdIndex) ShutsDownInOrder events
      (start (WriteSystem.start index blockFile indexDisk)))
    (run : runEvents (step genericHash getCommunityIdIndex) events
      (start (WriteSystem.start index blockFile indexDisk)) = some reached)
    (returned : reached.stage = .returned) : reached.Durable genericHash :=
  (invariant_of_stepsMeet (fun _ _ _ accounted inOrder taken => accounted.step inOrder taken)
    (Accounted.start holds) meets run).durable returned

section Example

/-- 62 bytes are the zero hash with the line of the first transaction; what else is hashed
is the index of that transaction. -/
def exampleHash (bytes : List UInt8) : Digest :=
  if bytes.length = 62 then firstHash else StoredIndex.cutOffHash

def opened : MainServer := start (WriteSystem.start BlockIndex.new (Files.Block.new []) none)

/-- The first transaction is still in the open task when the shutdown starts. -/
theorem durable_openTask :
    ∃ reached, runEvents (step exampleHash noCommunities)
        ([.write (.push (exampleTransaction 1))] ++ List.replicate 7 .exit ++
          [.write (.append 0), .write (.recordFileCursor 0), .write (.serializeIndex 0),
            .write (.writeIndex 0), .exit]) opened = some reached ∧
      reached.Durable exampleHash := by
  refine ⟨_, rfl, @durable_of_run exampleHash noCommunities BlockIndex.new (Files.Block.new [])
    none [] ([.write (.push (exampleTransaction 1))] ++ List.replicate 7 .exit ++
      [.write (.append 0), .write (.recordFileCursor 0), .write (.serializeIndex 0),
        .write (.writeIndex 0), .exit]) _ ⟨rfl, rfl⟩ ?_ rfl rfl⟩
  refine StepsMeet.cons (fun _ => ⟨nofun, by decide⟩) rfl ?_
  refine StepsMeet.cons nofun rfl (StepsMeet.cons nofun rfl (StepsMeet.cons nofun rfl
    (StepsMeet.cons nofun rfl ?_)))
  refine StepsMeet.cons (fun _ observed => absurd rfl observed) rfl ?_
  refine StepsMeet.cons nofun rfl (StepsMeet.cons nofun rfl ?_)
  refine StepsMeet.cons ?_ rfl (StepsMeet.cons trivial rfl (StepsMeet.cons trivial rfl
    (StepsMeet.cons trivial rfl (StepsMeet.cons nofun rfl trivial))))
  intro handed found
  cases found
  decide

/-- The task of the first transaction waits in the pending list when the shutdown starts. -/
theorem not_durable_pendingTask :
    ∃ reached, runEvents (step exampleHash noCommunities)
        ([.write (.push (exampleTransaction 1)), .timer false] ++ List.replicate 8 .exit)
        opened = some reached ∧ reached.stage = .returned ∧ ¬ reached.Durable exampleHash := by
  refine ⟨_, rfl, rfl, ?_⟩
  rintro ⟨lines, holds, stored⟩
  have isLine := stored (exampleTransaction 1) (List.mem_singleton_self _)
  have empty : 0 = (Files.encodeLines lines).length := holds.size
  cases lines with
  | nil => cases isLine
  | cons line rest =>
      rw [Files.length_encodeLines_cons] at empty
      omega

end Example

end MainServer

end GradidoNode

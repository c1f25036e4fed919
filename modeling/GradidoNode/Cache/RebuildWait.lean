import GradidoNode.Cache.BlockInitCorrect
import GradidoNode.Library.Run

/-!
# Waiting for the index of a block

`Block::init` waits until the queue of the task that rebuilds the index is empty. The task takes
a line out of its queue before it works on it, so an empty queue is not the end of the work.
-/

namespace GradidoNode

open Library

namespace Cache

/-- `RebuildBlockIndexTask`, at any time of its `run`. -/
structure RebuildBlockIndexTask where
  /-- `mPendingFileCursorLine`. -/
  pending : List (Int32 × List UInt8)
  /-- The line that was popped and has no entry yet. -/
  popped : Option (Int32 × List UInt8)
  threw : Bool
  transactionEntries : List NodeTransactionEntry

/-- Where `init` is. -/
inductive InitPhase
  | polls (sumWaited : Nat)
  | waited
  | checked
  | copied (transactionEntries : List NodeTransactionEntry)
  /-- A message logged as FATAL ends the process, before `Application::terminate` is called. -/
  | aborted (message : String)

/-- The thread that calls `init` and the one that runs the task. -/
structure BlockRebuild where
  task : RebuildBlockIndexTask
  phase : InitPhase

/-- A step of the task, or of `init`. -/
inductive RebuildEvent
  | pop
  | append
  | poll
  | check
  | copy

namespace RebuildBlockIndexTask

/-- `pushLine`. -/
def pushLine (task : RebuildBlockIndexTask) (fileCursor : Int32) (line : List UInt8) :
    RebuildBlockIndexTask :=
  { task with pending := task.pending ++ [(fileCursor, line)] }

def isPendingQueueEmpty (task : RebuildBlockIndexTask) : Bool := task.pending.isEmpty

/-- The next round of the loop of `run` begins. -/
def pop (task : RebuildBlockIndexTask) : Option RebuildBlockIndexTask :=
  match task.threw, task.popped, task.pending with
  | false, none, fileCursorLine :: rest =>
      some { task with popped := some fileCursorLine, pending := rest }
  | _, _, _ => none

/-- The round ends. Where the line cannot be deserialized, the whole `run` does, and the queue
stays as it is. -/
def append (environment : InitEnvironment) (task : RebuildBlockIndexTask) :
    Option RebuildBlockIndexTask :=
  match task.threw, task.popped with
  | false, some (fileCursor, line) =>
      match environment.transactionEntry line fileCursor with
      | .ok transactionEntry => some { task with
          popped := none
          transactionEntries := task.transactionEntries ++ [transactionEntry] }
      | .error _ => some { task with threw := true }
  | _, _ => none

end RebuildBlockIndexTask

namespace BlockRebuild

/-- The task has its lines when it is scheduled. -/
def start (lines : List (Int32 × List UInt8)) : BlockRebuild where
  task := lines.foldl (fun task line => task.pushLine line.1 line.2) ⟨[], none, false, []⟩
  phase := .polls 0

def isAborted (rebuild : BlockRebuild) : Bool :=
  match rebuild.phase with
  | .aborted _ => true
  | _ => false

/-- What the threads do as long as the process lives. -/
def handle (environment : InitEnvironment) (rebuild : BlockRebuild) :
    RebuildEvent → Option BlockRebuild
  | .pop => rebuild.task.pop.map fun task => { rebuild with task := task }
  | .append => (rebuild.task.append environment).map fun task => { rebuild with task := task }
  | .poll =>
      match rebuild.phase with
      | .polls sumWaited =>
          some { rebuild with
            phase := if !rebuild.task.isPendingQueueEmpty && sumWaited < 1000 then
              .polls (sumWaited + 100) else .waited }
      | _ => none
  | .check =>
      match rebuild.phase with
      | .waited => some { rebuild with
          phase := if rebuild.task.isPendingQueueEmpty then .checked else
            .aborted "rebuildBlockIndex Task isn't finished after waiting a whole second" }
      | _ => none
  | .copy =>
      match rebuild.phase with
      | .checked => some { rebuild with phase := .copied rebuild.task.transactionEntries }
      | _ => none

def step (environment : InitEnvironment) (rebuild : BlockRebuild) (event : RebuildEvent) :
    Option BlockRebuild :=
  if rebuild.isAborted then none else rebuild.handle environment event

/-- Each line has its entry, in this order, and there are no others. -/
def EntriesOf (environment : InitEnvironment) : List (Int32 × List UInt8) →
    List NodeTransactionEntry → Prop :=
  List.Forall₂ fun line transactionEntry =>
    environment.transactionEntry line.2 line.1 = .ok transactionEntry

/-- If `init` has copied the entries, it has those of all lines. -/
def CopiedAll (environment : InitEnvironment) (lines : List (Int32 × List UInt8))
    (rebuild : BlockRebuild) : Prop :=
  ∀ transactionEntries, rebuild.phase = .copied transactionEntries →
    EntriesOf environment lines transactionEntries

/-- `init` copies the entries when no line waits, and no popped line is without its entry. -/
def AfterLastLine (rebuild : BlockRebuild) (event : RebuildEvent) : Prop :=
  event = .copy → rebuild.phase = .checked →
    rebuild.task.pending = [] ∧ rebuild.task.popped = none

/-- Every line is in the queue, in the hands of the task, or among the entries. What was copied
are entries of the first lines. -/
structure Accounted (environment : InitEnvironment) (lines : List (Int32 × List UInt8))
    (rebuild : BlockRebuild) : Prop where
  task : ∃ done, lines = done ++ rebuild.task.popped.toList ++ rebuild.task.pending ∧
    EntriesOf environment done rebuild.task.transactionEntries
  copied : ∀ transactionEntries, rebuild.phase = .copied transactionEntries →
    ∃ done rest, lines = done ++ rest ∧ EntriesOf environment done transactionEntries

variable {environment : InitEnvironment} {lines : List (Int32 × List UInt8)}
  {rebuild next : BlockRebuild}

theorem handle_of_step {event : RebuildEvent} (taken : rebuild.step environment event = some next) :
    rebuild.handle environment event = some next := by
  unfold step at taken
  split at taken
  · cases taken
  · exact taken

theorem task_start (lines : List (Int32 × List UInt8)) :
    (start lines).task = ⟨lines, none, false, []⟩ := by
  have pushed (task : RebuildBlockIndexTask) :
      lines.foldl (fun task line => task.pushLine line.1 line.2) task =
        { task with pending := task.pending ++ lines } := by
    induction lines generalizing task with
    | nil => simp
    | cons line rest ih =>
        rw [List.foldl_cons, ih]
        simp [RebuildBlockIndexTask.pushLine]
  exact pushed _

theorem accounted_start (environment : InitEnvironment) (lines : List (Int32 × List UInt8)) :
    Accounted environment lines (start lines) where
  task := by
    rw [task_start]
    exact ⟨[], rfl, List.Forall₂.nil⟩
  copied transactionEntries isCopied := by cases isCopied

/-- The entries are those of all lines if no line is anywhere else. -/
theorem Accounted.entriesOf_iff (accounted : Accounted environment lines rebuild) :
    EntriesOf environment lines rebuild.task.transactionEntries ↔
      rebuild.task.pending = [] ∧ rebuild.task.popped = none := by
  obtain ⟨done, rfl, entries⟩ := accounted.task
  constructor
  · intro all
    have lengths := all.length_eq.trans entries.length_eq.symm
    simp only [List.length_append] at lengths
    exact ⟨List.eq_nil_of_length_eq_zero (by omega),
      Option.toList_eq_nil_iff.mp (List.eq_nil_of_length_eq_zero (by omega))⟩
  · rintro ⟨noPending, noPopped⟩
    rw [noPending, noPopped, Option.toList_none, List.append_nil, List.append_nil]
    exact entries

theorem Accounted.pop (accounted : Accounted environment lines rebuild)
    (taken : rebuild.handle environment .pop = some next) : Accounted environment lines next := by
  obtain ⟨task, popped, rfl⟩ := Option.map_eq_some_iff.mp taken
  obtain ⟨done, isLines, entries⟩ := accounted.task
  refine ⟨?_, accounted.copied⟩
  unfold RebuildBlockIndexTask.pop at popped
  split at popped
  · rename_i noneThrown nonePopped isPending
    cases popped
    rw [nonePopped, isPending] at isLines
    exact ⟨done, by simpa using isLines, entries⟩
  · cases popped

theorem Accounted.append (accounted : Accounted environment lines rebuild)
    (taken : rebuild.handle environment .append = some next) : Accounted environment lines next := by
  obtain ⟨task, appended, rfl⟩ := Option.map_eq_some_iff.mp taken
  obtain ⟨done, isLines, entries⟩ := accounted.task
  refine ⟨?_, accounted.copied⟩
  unfold RebuildBlockIndexTask.append at appended
  split at appended
  · rename_i fileCursor line noneThrown isPopped
    cases deserialized : environment.transactionEntry line fileCursor with
    | ok transactionEntry =>
        rw [deserialized] at appended
        cases appended
        rw [isPopped] at isLines
        refine ⟨done ++ [(fileCursor, line)], by simpa using isLines, ?_⟩
        exact List.rel_append entries (List.Forall₂.cons deserialized List.Forall₂.nil)
    | error exception =>
        rw [deserialized] at appended
        cases appended
        exact ⟨done, isLines, entries⟩
  · cases appended

theorem Accounted.step (accounted : Accounted environment lines rebuild) {event : RebuildEvent}
    (taken : rebuild.step environment event = some next) : Accounted environment lines next := by
  have handled := handle_of_step taken
  cases event with
  | pop => exact accounted.pop handled
  | append => exact accounted.append handled
  | poll =>
      dsimp only [handle] at handled
      split at handled
      · cases handled
        refine ⟨accounted.task, fun transactionEntries copied => ?_⟩
        dsimp only at copied
        split at copied
        · cases copied
        · cases copied
      · cases handled
  | check =>
      dsimp only [handle] at handled
      split at handled
      · cases handled
        refine ⟨accounted.task, fun transactionEntries copied => ?_⟩
        dsimp only at copied
        split at copied
        · cases copied
        · cases copied
      · cases handled
  | copy =>
      dsimp only [handle] at handled
      split at handled
      · cases handled
        refine ⟨accounted.task, fun transactionEntries copied => ?_⟩
        cases copied
        obtain ⟨done, isLines, entries⟩ := accounted.task
        rw [List.append_assoc] at isLines
        exact ⟨done, _, isLines, entries⟩
      · cases handled

/-- What was copied stays, and is copied once. -/
theorem copiedAll_of_step {event : RebuildEvent} (copiedAll : CopiedAll environment lines rebuild)
    (ofCopy : event = .copy → rebuild.phase = .checked →
      EntriesOf environment lines rebuild.task.transactionEntries)
    (taken : rebuild.step environment event = some next) : CopiedAll environment lines next := by
  have handled := handle_of_step taken
  cases event with
  | pop =>
      obtain ⟨task, _, rfl⟩ := Option.map_eq_some_iff.mp handled
      exact copiedAll
  | append =>
      obtain ⟨task, _, rfl⟩ := Option.map_eq_some_iff.mp handled
      exact copiedAll
  | poll =>
      dsimp only [handle] at handled
      split at handled
      · cases handled
        intro transactionEntries copied
        dsimp only at copied
        split at copied
        · cases copied
        · cases copied
      · cases handled
  | check =>
      dsimp only [handle] at handled
      split at handled
      · cases handled
        intro transactionEntries copied
        dsimp only at copied
        split at copied
        · cases copied
        · cases copied
      · cases handled
  | copy =>
      dsimp only [handle] at handled
      split at handled
      · rename_i checked
        cases handled
        intro transactionEntries copied
        cases copied
        exact ofCopy rfl checked
      · cases handled

/-- The entries of lines that all are deserialized are those the task builds of them. -/
theorem rebuiltEntries_of_entriesOf {done : List (Int32 × List UInt8)}
    {transactionEntries : List NodeTransactionEntry}
    (entries : EntriesOf environment done transactionEntries) :
    rebuiltEntries environment done = transactionEntries := by
  induction entries with
  | nil => rfl
  | cons deserialized _ ih => simp only [rebuiltEntries, deserialized, ih]

/-- Whatever the order of the steps, `init` has the entries that the task has built of so many of
the first lines. -/
theorem copied_eq_rebuiltEntries {events : List RebuildEvent}
    {transactionEntries : List NodeTransactionEntry}
    (run : runEvents (step environment) events (start lines) = some rebuild)
    (copied : rebuild.phase = .copied transactionEntries) :
    ∃ appended, transactionEntries = rebuiltEntries environment (lines.take appended) := by
  have stable (rebuild : BlockRebuild) (event : RebuildEvent) (next : BlockRebuild)
      (accounted : Accounted environment lines rebuild)
      (taken : rebuild.step environment event = some next) :
      Accounted environment lines next := accounted.step taken
  have accounted := invariant_of_run stable (accounted_start environment lines) run
  obtain ⟨done, rest, rfl, entries⟩ := accounted.copied transactionEntries copied
  refine ⟨done.length, ?_⟩
  rw [List.take_left, rebuiltEntries_of_entriesOf entries]

/-- For any lines and in any order of the steps, `init` never has other entries than those of
all lines, if and only if it copies them after the last line has got its entry. -/
theorem copiedAll_iff_afterLastLine (environment : InitEnvironment)
    (lines : List (Int32 × List UInt8)) (events : List RebuildEvent) :
    (∀ first rest reached, events = first ++ rest →
      runEvents (step environment) first (start lines) = some reached →
        CopiedAll environment lines reached) ↔
      StepsMeet (step environment) AfterLastLine events (start lines) := by
  have stable (rebuild : BlockRebuild) (event : RebuildEvent) (next : BlockRebuild)
      (valid : Accounted environment lines rebuild ∧ CopiedAll environment lines rebuild)
      (afterLast : AfterLastLine rebuild event)
      (taken : rebuild.step environment event = some next) :
      Accounted environment lines next ∧ CopiedAll environment lines next := by
    refine ⟨valid.1.step taken, copiedAll_of_step valid.2 (fun isCopy checked => ?_) taken⟩
    exact valid.1.entriesOf_iff.mpr (afterLast isCopy checked)
  have afterLast_of_good (rebuild : BlockRebuild) (event : RebuildEvent)
      (valid : Accounted environment lines rebuild ∧ CopiedAll environment lines rebuild)
      (good : ∀ next, rebuild.step environment event = some next →
        CopiedAll environment lines next) : AfterLastLine rebuild event := by
    rintro rfl checked
    have taken : rebuild.step environment .copy =
        some { rebuild with phase := .copied rebuild.task.transactionEntries } := by
      unfold step isAborted handle
      simp only [checked, Bool.false_eq_true, ↓reduceIte]
    exact valid.1.entriesOf_iff.mp (good _ taken _ rfl)
  have started : Accounted environment lines (start lines) ∧
      CopiedAll environment lines (start lines) := by
    refine ⟨accounted_start environment lines, fun transactionEntries copied => ?_⟩
    cases copied
  exact good_iff_stepsMeet stable (fun _ valid => valid.2) afterLast_of_good events started

/-- The queue is empty while the only line is being deserialized, and `init` copies no entry. -/
theorem not_copiedAll_lastLinePopped :
    (oneTransaction.rebuildBlockIndex oneTransactionEnvironment.genericHash
        oneTransactionEnvironment.hash2 oneTransactionEnvironment.blockPath).toOption =
      some [(0, (WriteSystem.exampleTransaction 1).serializedTransaction)] ∧
    ∃ reached, runEvents (step oneTransactionEnvironment) [.pop, .poll, .check, .copy, .append]
        (start [(0, (WriteSystem.exampleTransaction 1).serializedTransaction)]) = some reached ∧
      reached.phase = .copied [] ∧
      ¬ CopiedAll oneTransactionEnvironment
        [(0, (WriteSystem.exampleTransaction 1).serializedTransaction)] reached := by
  refine ⟨?_, _, rfl, rfl, fun copiedAll => ?_⟩
  · rw [Files.Block.rebuildBlockIndex_of_holds (List.cons_ne_nil _ _)
      wellFormed_oneTransaction.holds wellFormed_oneTransaction.readable.walkable]
    rfl
  · cases copiedAll [] rfl

end BlockRebuild

end Cache

end GradidoNode

import GradidoNode.Controller.SequenceNumbers
import GradidoNode.Tasks.Thread
import Mathlib.Logic.Function.Basic

/-!
# Waking the ordering thread up

A deserialize task signals the ordering thread from inside its `run`, and only afterwards the
worker marks it as finished. The thread waits without a look at its queue.
-/

namespace GradidoNode

open Library Hiero Tasks

namespace Controller

/-- How far a worker has got with a deserialize task. -/
inductive TaskPhase (Transaction : Type)
  | scheduled
  /-- `run` was called, and will end so. It has not signalled yet. -/
  | running (outcome : Except TaskFault (Option Transaction × Bool))
  /-- `run` has returned 0; the task is not marked as finished yet. -/
  | returned (transaction : Option Transaction) (success : Bool)
  | over

/-- A signal is still to come from the task. -/
def TaskPhase.notifies {Transaction : Type} : TaskPhase Transaction → Bool
  | .running (.ok (_, success)) => success
  | _ => false

/-- The manager, its thread, and the tasks by their names. -/
structure OrderingCycle (Timestamp TransactionId Transaction : Type) where
  manager : SimpleOrderingManager Timestamp TransactionId Transaction
  thread : Thread
  /-- The loop of `ThreadFunction` is to begin another round. -/
  roundDue : Bool
  tasks : Nat → TaskPhase Transaction

/-- A step of a pushing thread, a worker, or the ordering thread. -/
inductive CycleEvent (Timestamp TransactionId Transaction : Type)
  | push (environment : PushEnvironment Timestamp)
      (response : ConsensusTopicResponse Timestamp TransactionId)
  | beginTask (name : Nat) (environment : TaskEnvironment Transaction)
  | returnTask (name : Nat)
  | setTaskFinished (name : Nat)
  | round (environment : RoundEnvironment Transaction)
  | run (event : RunEvent)

namespace SimpleOrderingManager

variable {Timestamp TransactionId Transaction : Type}

/-- `setTaskFinished`, after a `run` that left this transaction and success. -/
def setTaskFinished (name : Nat) (transaction : Option Transaction) (success : Bool)
    (manager : Manager Timestamp TransactionId Transaction) :
    Manager Timestamp TransactionId Transaction :=
  { manager with
    transactions := manager.transactions.map fun entry =>
      if entry.name = name ∧ entry.deserializeTask.finished = false then
        { entry with deserializeTask :=
          { transaction := transaction, success := success, finished := true } }
      else entry }

/-- A task that is run and marked in one step is one that is marked after it ran. -/
theorem finishTask_of_run {environment : TaskEnvironment Transaction} {name : Nat}
    {transaction : Option Transaction} {success : Bool}
    (manager : Manager Timestamp TransactionId Transaction)
    (ran : HieroMessageToTransactionTask.run environment = .ok (transaction, success)) :
    manager.finishTask environment name = manager.setTaskFinished name transaction success := by
  have noFault : manager.faultOf environment name = none := by
    unfold faultOf
    rw [ran]
    exact ite_self _
  unfold finishTask setTaskFinished HieroMessageToTransactionTask.execute
  rw [ran, noFault, Option.or_none]

/-- The first message is deserialized, and its number follows the last one. -/
def Ready (manager : Manager Timestamp TransactionId Transaction) : Prop :=
  ∃ entry rest, manager.transactions = entry :: rest ∧ entry.deserializeTask.finished = true ∧
    entry.consensusTopicResponse.sequenceNumber = manager.lastSequenceNumber + 1

/-- The first message has the task of this name, and its number follows the last one. -/
def FirstInTurn (manager : Manager Timestamp TransactionId Transaction) (name : Nat) : Prop :=
  ∃ entry rest, manager.transactions = entry :: rest ∧ entry.name = name ∧
    entry.consensusTopicResponse.sequenceNumber = manager.lastSequenceNumber + 1

/-- A message that comes in is not deserialized. -/
theorem ready_of_ready_push [LinearOrder Timestamp] {environment : PushEnvironment Timestamp}
    {response : ConsensusTopicResponse Timestamp TransactionId}
    {manager : Manager Timestamp TransactionId Transaction}
    (ready : (manager.pushTransaction environment response).Ready) : manager.Ready := by
  rcases pushTransaction_cases environment response manager with
    same | failed | ⟨exception, failed⟩ | inserted
  · rwa [same] at ready
  · rwa [failed] at ready
  · rwa [failed] at ready
  · rw [inserted] at ready
    obtain ⟨entry, rest, first, finished, follows⟩ := ready
    cases queue : manager.transactions with
    | nil =>
        dsimp only at first
        rw [queue] at first
        cases first
        cases finished
    | cons head tail =>
        dsimp only [insert] at first
        rw [queue, List.orderedInsert_cons] at first
        split at first
        · cases first
          cases finished
        · obtain ⟨rfl, -⟩ := List.cons.inj first
          exact ⟨_, tail, queue, finished, follows⟩

/-- Only the mark of the first message's own task makes the queue ready. -/
theorem ready_setTaskFinished_iff {name : Nat} {transaction : Option Transaction} {success : Bool}
    {manager : Manager Timestamp TransactionId Transaction} :
    (manager.setTaskFinished name transaction success).Ready ↔
      manager.Ready ∨ manager.FirstInTurn name := by
  unfold Ready FirstInTurn setTaskFinished
  constructor
  · rintro ⟨marked, rest, first, finished, follows⟩
    obtain ⟨entry, tail, queue, rfl, -⟩ := List.map_eq_cons_iff.mp first
    by_cases isMarked : entry.name = name ∧ entry.deserializeTask.finished = false
    · rw [if_pos isMarked] at follows
      exact Or.inr ⟨entry, tail, queue, isMarked.1, follows⟩
    · rw [if_neg isMarked] at finished follows
      exact Or.inl ⟨entry, tail, queue, finished, follows⟩
  · rintro (⟨entry, rest, queue, finished, follows⟩ | ⟨entry, rest, queue, isName, follows⟩)
    · refine ⟨_, _, by rw [queue, List.map_cons], ?_⟩
      rw [if_neg (by simp [finished])]
      exact ⟨finished, follows⟩
    · refine ⟨_, _, by rw [queue, List.map_cons], ?_⟩
      by_cases unfinished : entry.deserializeTask.finished = false
      · rw [if_pos ⟨isName, unfinished⟩]
        exact ⟨rfl, follows⟩
      · rw [if_neg fun isMarked => unfinished isMarked.2]
        exact ⟨Bool.eq_true_of_not_eq_false unfinished, follows⟩

end SimpleOrderingManager

namespace OrderingCycle

open SimpleOrderingManager

variable {Timestamp TransactionId Transaction : Type} [LinearOrder Timestamp]

abbrev Cycle (Timestamp TransactionId Transaction : Type) :=
  OrderingCycle Timestamp TransactionId Transaction

/-- `init`, with the position stored by an earlier run. -/
def start (communityId : String) (lastKnownSequenceNumber : UInt64) :
    Cycle Timestamp TransactionId Transaction where
  manager := SimpleOrderingManager.start communityId lastKnownSequenceNumber
  thread := .init
  roundDue := false
  tasks _ := .scheduled

def setTask (cycle : Cycle Timestamp TransactionId Transaction) (name : Nat)
    (phase : TaskPhase Transaction) : Cycle Timestamp TransactionId Transaction :=
  { cycle with tasks := Function.update cycle.tasks name phase }

/-- The end of `run`: the last thing before a successful return is the signal. An exception
stops the application, and the task is never marked. -/
def returnTask (cycle : Cycle Timestamp TransactionId Transaction) (name : Nat) :
    Option (Cycle Timestamp TransactionId Transaction) :=
  match cycle.tasks name with
  | .running (.ok (transaction, success)) =>
      some ({ cycle with
        thread := if success then cycle.thread.condSignal else cycle.thread }.setTask name
          (.returned transaction success))
  | .running (.error _) => some (cycle.setTask name .over)
  | _ => none

/-- A step of `Thread::run`. `ThreadFunction` begins with a round, and returns 0 when no other
one is due. -/
def run (cycle : Cycle Timestamp TransactionId Transaction) (event : RunEvent) :
    Option (Cycle Timestamp TransactionId Transaction) :=
  (cycle.thread.step true event).bind fun thread =>
    match event with
    | .testAwake => some { cycle with
        thread := thread
        roundDue := true
        manager := { cycle.manager with transactionsCount := 0 } }
    | .returns ret =>
        if cycle.roundDue = false ∧ ret = 0 then some { cycle with thread := thread } else none
    | .throws => none
    | _ => some { cycle with thread := thread }

/-- Nothing happens any more once the process or the thread is down. -/
def step (cycle : Cycle Timestamp TransactionId Transaction)
    (event : CycleEvent Timestamp TransactionId Transaction) :
    Option (Cycle Timestamp TransactionId Transaction) :=
  if cycle.manager.failure.isSome then none
  else
    match event with
    | .push environment response =>
        some { cycle with manager := cycle.manager.pushTransaction environment response }
    | .beginTask name environment =>
        match cycle.tasks name with
        | .scheduled =>
            if name < cycle.manager.nextName then
              some (cycle.setTask name (.running (HieroMessageToTransactionTask.run environment)))
            else none
        | _ => none
    | .returnTask name => cycle.returnTask name
    | .setTaskFinished name =>
        match cycle.tasks name with
        | .returned transaction success =>
            some ({ cycle with
              manager := cycle.manager.setTaskFinished name transaction success }.setTask name .over)
        | _ => none
    | .round environment =>
        if cycle.thread.phase = .threadFunction ∧ cycle.roundDue then
          let manager := cycle.manager.round environment
          some { cycle with
            manager := manager
            roundDue := decide (manager.transactionsCount ≠ 0) }
        else none
    | .run event => cycle.run event

/-- The first message could go on, the thread is parked, and no signal is on its way or still to
come from a running task. -/
structure Asleep (cycle : Cycle Timestamp TransactionId Transaction) : Prop where
  ready : cycle.manager.Ready
  parked : cycle.thread.phase = .parked
  noSignal : ∀ name, (cycle.tasks name).notifies = false

/-- The first message's task is not marked as finished while the thread is parked, and the thread
does not begin to wait while the first message could go on, unless a signal is still to come. -/
def Noticed (cycle : Cycle Timestamp TransactionId Transaction) :
    CycleEvent Timestamp TransactionId Transaction → Prop
  | .setTaskFinished name => cycle.manager.failure = none →
      (∃ transaction success, cycle.tasks name = .returned transaction success) →
      cycle.thread.phase = .parked → (∀ other, (cycle.tasks other).notifies = false) →
      ¬ cycle.manager.FirstInTurn name
  | .run .wait => cycle.manager.failure = none → cycle.thread.phase = .beforeWait →
      (∀ other, (cycle.tasks other).notifies = false) → ¬ cycle.manager.Ready
  | _ => True

variable {cycle next : Cycle Timestamp TransactionId Transaction}

omit [LinearOrder Timestamp] in
/-- A task that signals no more has signalled already, or never does. -/
theorem noSignal_of_setTask {name : Nat} {phase : TaskPhase Transaction}
    (before : (cycle.tasks name).notifies = false)
    (noSignal : ∀ other, ((cycle.setTask name phase).tasks other).notifies = false) (other : Nat) :
    (cycle.tasks other).notifies = false := by
  by_cases same : other = name
  · rw [same]
    exact before
  · have still := noSignal other
    unfold setTask at still
    dsimp only at still
    rwa [Function.update_of_ne same] at still

omit [LinearOrder Timestamp] in
theorem asleep_of_returnTask {name : Nat} (taken : cycle.returnTask name = some next)
    (asleep : next.Asleep) : cycle.Asleep := by
  unfold returnTask at taken
  split at taken
  · rename_i transaction success isRunning
    cases taken
    cases success with
    | true => exact absurd asleep.parked (Thread.not_parked_condSignal _)
    | false =>
        have silent : (cycle.tasks name).notifies = false := by
          rw [isRunning]
          rfl
        exact ⟨asleep.ready, asleep.parked, noSignal_of_setTask silent asleep.noSignal⟩
  · rename_i exception isRunning
    cases taken
    have silent : (cycle.tasks name).notifies = false := by
      rw [isRunning]
      rfl
    exact ⟨asleep.ready, asleep.parked, noSignal_of_setTask silent asleep.noSignal⟩
  · cases taken

omit [LinearOrder Timestamp] in
/-- A thread falls asleep by its wait. -/
theorem not_asleep_of_run {event : RunEvent} (fine : cycle.manager.failure = none)
    (noticed : cycle.Noticed (.run event)) (taken : cycle.run event = some next) :
    ¬ next.Asleep := by
  intro asleep
  obtain ⟨thread, stepped, taken⟩ := Option.bind_eq_some_iff.mp taken
  have isThread : next.thread = thread := by
    cases event with
    | returns ret =>
      dsimp only at taken
      split at taken
      · cases taken
        rfl
      · cases taken
    | throws => cases taken
    | _ =>
      cases taken
      rfl
  obtain ⟨rfl, before⟩ := Thread.parked_of_step stepped (isThread ▸ asleep.parked)
  cases taken
  exact noticed fine before asleep.noSignal asleep.ready

theorem not_asleep_of_step {event : CycleEvent Timestamp TransactionId Transaction}
    (awake : ¬ cycle.Asleep) (noticed : cycle.Noticed event)
    (taken : cycle.step event = some next) : ¬ next.Asleep := by
  intro asleep
  unfold step at taken
  split at taken
  · cases taken
  · rename_i notFailed
    have fine : cycle.manager.failure = none := Option.not_isSome_iff_eq_none.mp notFailed
    cases event with
    | push environment response =>
        cases taken
        exact awake ⟨ready_of_ready_push asleep.ready, asleep.parked, asleep.noSignal⟩
    | beginTask name environment =>
        dsimp only at taken
        split at taken
        · rename_i isScheduled
          split at taken
          · cases taken
            have silent : (cycle.tasks name).notifies = false := by
              rw [isScheduled]
              rfl
            exact awake ⟨asleep.ready, asleep.parked, noSignal_of_setTask silent asleep.noSignal⟩
          · cases taken
        · cases taken
    | returnTask name => exact awake (asleep_of_returnTask taken asleep)
    | setTaskFinished name =>
        dsimp only at taken
        split at taken
        · rename_i transaction success hasReturned
          cases taken
          have silent : (cycle.tasks name).notifies = false := by
            rw [hasReturned]
            rfl
          have noSignal := noSignal_of_setTask silent asleep.noSignal
          rcases ready_setTaskFinished_iff.mp asleep.ready with ready | firstInTurn
          · exact awake ⟨ready, asleep.parked, noSignal⟩
          · exact noticed fine ⟨transaction, success, hasReturned⟩ asleep.parked noSignal firstInTurn
        · cases taken
    | round environment =>
        dsimp only at taken
        split at taken
        · rename_i inFunction
          cases taken
          cases inFunction.1.symm.trans asleep.parked
        · cases taken
    | run event => exact not_asleep_of_run fine noticed taken asleep

theorem noticed_of_not_asleep {event : CycleEvent Timestamp TransactionId Transaction}
    (never : ∀ next, cycle.step event = some next → ¬ next.Asleep) : cycle.Noticed event := by
  cases event with
  | setTaskFinished name =>
      rintro fine ⟨transaction, success, hasReturned⟩ parked noSignal firstInTurn
      have taken : cycle.step (.setTaskFinished name) = some ({ cycle with
          manager := cycle.manager.setTaskFinished name transaction success }.setTask name .over) := by
        unfold step
        rw [fine]
        dsimp only
        rw [hasReturned]
        rfl
      refine never _ taken ⟨ready_setTaskFinished_iff.mpr (Or.inr firstInTurn), parked, ?_⟩
      intro other
      unfold setTask
      dsimp only
      by_cases same : other = name
      · rw [same, Function.update_self]
        rfl
      · rw [Function.update_of_ne same]
        exact noSignal other
  | run event =>
      cases event with
      | wait =>
          intro fine before noSignal ready
          have taken : cycle.step (.run .wait) = some { cycle with
              thread := { cycle.thread with phase := .parked } } := by
            unfold step run Thread.step
            rw [fine, before]
            rfl
          exact never _ taken ⟨ready, rfl, noSignal⟩
      | _ => trivial
  | _ => trivial

/-- The ordering thread is asleep with work to do in no state of a run, exactly if every step of
the run that could leave it so is noticed. -/
theorem not_asleep_iff_noticed (communityId : String) (lastKnownSequenceNumber : UInt64)
    (events : List (CycleEvent Timestamp TransactionId Transaction)) :
    (∀ first rest reached, events = first ++ rest →
      runEvents step first (start communityId lastKnownSequenceNumber) = some reached →
        ¬ reached.Asleep) ↔
      StepsMeet step Noticed events (start communityId lastKnownSequenceNumber) := by
  apply good_iff_stepsMeet
  · intro cycle event next awake noticed taken
    exact not_asleep_of_step awake noticed taken
  · exact fun _ awake => awake
  · intro cycle event _ never
    exact noticed_of_not_asleep never
  · intro asleep
    cases asleep.parked

/-- A message of the right number comes, its task signals, the thread looks, finds the task
unfinished and goes to sleep, and then the task is marked as finished. -/
theorem asleep_markedAfterSignal :
    ¬ ∀ (events : List (CycleEvent Nat Nat Nat)) reached,
      runEvents step events (start "community" 0) = some reached → ¬ reached.Asleep := by
  intro never
  refine never [.run .testExit, .run .lock, .run .wait,
    .push { lastTransaction := .ok none, sameAsNull := none } (numberedMessage 1 10),
    .beginTask 0 (deserializingTask 1), .returnTask 0,
    .run .relock, .run .testAwake, .round confirmingRound, .run (.returns 0),
    .run .testExit, .run .lock, .run .wait, .setTaskFinished 0] _ rfl ?_
  refine ⟨⟨_, _, rfl, rfl, rfl⟩, rfl, fun name => ?_⟩
  cases name with
  | zero => rfl
  | succ other => rfl

end OrderingCycle

end Controller

end GradidoNode

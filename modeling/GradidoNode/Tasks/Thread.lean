import Mathlib.Tactic.Common

/-!
# Threads that wait for a signal

`Thread::run` waits on a condition variable between two calls of `ThreadFunction`. It waits
without a predicate: a signal that finds nobody waiting is lost.
-/

namespace GradidoNode

namespace Tasks

/-- Where a thread is in `run`. -/
inductive RunPhase
  /-- Before the test of `mExitCalled` at the head of the loop. -/
  | loopHead
  | beforeLock
  /-- With the mutex, before the wait. -/
  | beforeWait
  | parked
  /-- Woken up, and in need of the mutex. -/
  | notified
  /-- With the mutex, before the second test of `mExitCalled`. -/
  | awake
  | threadFunction
  | finished
  deriving DecidableEq, Repr

/-- `Thread`, without its mutex, which is held in certain phases. -/
structure Thread where
  phase : RunPhase
  exitCalled : Bool
  deriving DecidableEq

/-- The steps of `run`. A thread may wake up without a signal. -/
inductive RunEvent
  | testExit
  | lock
  | wait
  | wakeUp
  | relock
  | testAwake
  | returns (ret : Int32)
  | throws
  deriving DecidableEq

namespace Thread

/-- `init`. -/
def init : Thread where
  phase := .loopHead
  exitCalled := false

/-- Holds `mMutex`. -/
def holdsMutex (thread : Thread) : Bool :=
  thread.phase = .beforeWait || thread.phase = .awake || thread.phase = .threadFunction

/-- `notify_one`, of which one thread at most can be the one. -/
def condSignal (thread : Thread) : Thread :=
  if thread.phase = .parked then { thread with phase := .notified } else thread

/-- One step of `run`. The mutex may be free, or held by a thread that calls `exit`. -/
def step (mutexFree : Bool) (thread : Thread) (event : RunEvent) : Option Thread :=
  match thread.phase, event with
  | .loopHead, .testExit =>
      some { thread with phase := if thread.exitCalled then .finished else .beforeLock }
  | .beforeLock, .lock => if mutexFree then some { thread with phase := .beforeWait } else none
  | .beforeWait, .wait => some { thread with phase := .parked }
  | .parked, .wakeUp => some { thread with phase := .notified }
  | .notified, .relock => if mutexFree then some { thread with phase := .awake } else none
  | .awake, .testAwake =>
      some { thread with phase := if thread.exitCalled then .finished else .threadFunction }
  | .threadFunction, .returns ret =>
      some { thread with phase := if ret = 0 then .loopHead else .finished }
  | .threadFunction, .throws => some { thread with phase := .finished }
  | _, _ => none

variable {mutexFree : Bool} {thread next : Thread} {event : RunEvent}

/-- All that a step can do. -/
theorem step_cases (taken : thread.step mutexFree event = some next) :
    (event = .testExit ∧ thread.phase = .loopHead ∧
      next = { thread with phase := if thread.exitCalled then .finished else .beforeLock }) ∨
    (event = .lock ∧ thread.phase = .beforeLock ∧ mutexFree = true ∧
      next = { thread with phase := .beforeWait }) ∨
    (event = .wait ∧ thread.phase = .beforeWait ∧ next = { thread with phase := .parked }) ∨
    (event = .wakeUp ∧ thread.phase = .parked ∧ next = { thread with phase := .notified }) ∨
    (event = .relock ∧ thread.phase = .notified ∧ mutexFree = true ∧
      next = { thread with phase := .awake }) ∨
    (event = .testAwake ∧ thread.phase = .awake ∧
      next = { thread with phase := if thread.exitCalled then .finished else .threadFunction }) ∨
    (∃ ret, event = .returns ret ∧ thread.phase = .threadFunction ∧
      next = { thread with phase := if ret = 0 then .loopHead else .finished }) ∨
    (event = .throws ∧ thread.phase = .threadFunction ∧
      next = { thread with phase := .finished }) := by
  obtain ⟨phase, exitCalled⟩ := thread
  unfold step at taken
  cases phase
  all_goals cases event
  all_goals dsimp only at taken
  all_goals try split_ifs at taken
  all_goals try cases taken
  all_goals simp_all

theorem exitCalled_of_step (taken : thread.step mutexFree event = some next) :
    next.exitCalled = thread.exitCalled := by
  rcases step_cases taken with ⟨_, _, rfl⟩ | ⟨_, _, _, rfl⟩ | ⟨_, _, rfl⟩ | ⟨_, _, rfl⟩ |
    ⟨_, _, _, rfl⟩ | ⟨_, _, rfl⟩ | ⟨_, _, _, rfl⟩ | ⟨_, _, rfl⟩
  all_goals rfl

theorem not_finished_of_step (taken : thread.step mutexFree event = some next) :
    thread.phase ≠ .finished := by
  intro isFinished
  unfold step at taken
  rw [isFinished] at taken
  cases taken

/-- A thread is only parked by its wait. -/
theorem parked_of_step (taken : thread.step mutexFree event = some next)
    (parked : next.phase = .parked) : event = .wait ∧ thread.phase = .beforeWait := by
  rcases step_cases taken with ⟨_, _, rfl⟩ | ⟨_, _, _, rfl⟩ | ⟨isWait, before, _⟩ |
    ⟨_, _, rfl⟩ | ⟨_, _, _, rfl⟩ | ⟨_, _, rfl⟩ | ⟨_, _, _, rfl⟩ | ⟨_, _, rfl⟩
  · split_ifs at parked
  · cases parked
  · exact ⟨isWait, before⟩
  · cases parked
  · cases parked
  · split_ifs at parked
  · split_ifs at parked
  · cases parked

/-- `ThreadFunction` is entered by a thread that is not to exit. -/
theorem threadFunction_of_step (taken : thread.step mutexFree event = some next)
    (inFunction : next.phase = .threadFunction) :
    thread.phase = .awake ∧ thread.exitCalled = false := by
  rcases step_cases taken with ⟨_, _, rfl⟩ | ⟨_, _, _, rfl⟩ | ⟨_, _, rfl⟩ |
    ⟨_, _, rfl⟩ | ⟨_, _, _, rfl⟩ | ⟨_, isAwake, rfl⟩ | ⟨_, _, _, rfl⟩ | ⟨_, _, rfl⟩
  · split_ifs at inFunction
  · cases inFunction
  · cases inFunction
  · cases inFunction
  · cases inFunction
  · split_ifs at inFunction
    · exact ⟨isAwake, Bool.not_eq_true _ ▸ ‹_›⟩
  · split_ifs at inFunction
  · cases inFunction

/-- `ThreadFunction` is left by its end. -/
theorem leaves_of_step (taken : thread.step mutexFree event = some next)
    (inFunction : thread.phase = .threadFunction) :
    (∃ ret, event = .returns ret) ∨ event = .throws := by
  rcases step_cases taken with ⟨_, phase, _⟩ | ⟨_, phase, _⟩ | ⟨_, phase, _⟩ | ⟨_, phase, _⟩ |
    ⟨_, phase, _⟩ | ⟨_, phase, _⟩ | ⟨ret, isReturn, _⟩ | ⟨isThrow, _⟩
  all_goals try cases inFunction.symm.trans phase
  · exact Or.inl ⟨ret, isReturn⟩
  · exact Or.inr isThrow

/-- The mutex is taken where it is free. -/
theorem holdsMutex_of_step (taken : thread.step mutexFree event = some next)
    (holds : next.holdsMutex = true) : thread.holdsMutex = true ∨ mutexFree = true := by
  rcases step_cases taken with ⟨_, _, rfl⟩ | ⟨_, _, isFree, _⟩ | ⟨_, _, rfl⟩ | ⟨_, _, rfl⟩ |
    ⟨_, _, isFree, _⟩ | ⟨_, isAwake, _⟩ | ⟨_, _, isFunction, _⟩ | ⟨_, isFunction, _⟩
  · dsimp only [holdsMutex] at holds
    split_ifs at holds
    · cases holds
    · cases holds
  · exact Or.inr isFree
  · cases holds
  · cases holds
  · exact Or.inr isFree
  · exact Or.inl (by simp [holdsMutex, isAwake])
  · exact Or.inl (by simp [holdsMutex, isFunction])
  · exact Or.inl (by simp [holdsMutex, isFunction])

/-! ### Signals -/

@[simp] theorem exitCalled_condSignal (thread : Thread) :
    thread.condSignal.exitCalled = thread.exitCalled := by
  unfold condSignal
  split
  · rfl
  · rfl

/-- Nobody is parked after a signal. -/
theorem not_parked_condSignal (thread : Thread) : thread.condSignal.phase ≠ .parked := by
  unfold condSignal
  split
  · simp
  · rename_i notParked
    exact notParked

theorem condSignal_of_not_parked (notParked : thread.phase ≠ .parked) :
    thread.condSignal = thread := by
  unfold condSignal
  rw [if_neg notParked]

theorem condSignal_of_parked (parked : thread.phase = .parked) :
    thread.condSignal = { thread with phase := .notified } := by
  unfold condSignal
  rw [if_pos parked]

@[simp] theorem holdsMutex_condSignal (thread : Thread) :
    thread.condSignal.holdsMutex = thread.holdsMutex := by
  by_cases parked : thread.phase = .parked
  · rw [condSignal_of_parked parked]
    simp [holdsMutex, parked]
  · rw [condSignal_of_not_parked parked]

/-- A signal changes no other phase. -/
theorem phase_condSignal_iff {phase : RunPhase} (notParked : phase ≠ .parked)
    (notNotified : phase ≠ .notified) :
    thread.condSignal.phase = phase ↔ thread.phase = phase := by
  by_cases parked : thread.phase = .parked
  · rw [condSignal_of_parked parked, parked]
    simp [notParked.symm, notNotified.symm]
  · rw [condSignal_of_not_parked parked]

end Thread

end Tasks

end GradidoNode

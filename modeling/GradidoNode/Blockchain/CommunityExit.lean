import GradidoNode.Library.Run
import GradidoNode.Tasks.Thread

/-!
# The exit of a community

`FileBasedProvider::exit` holds the mutex of the provider while it calls `FileBased::exit`, which
holds the mutex of the community while it ends the ordering thread. In `ThreadFunction` that thread
needs both mutexes, with its own one locked.
-/

namespace GradidoNode

open Library Tasks

namespace Blockchain

/-- Which of the two mutexes `ThreadFunction` has or wants: `mWorkMutex` of the community in
`createAndAddConfirmedTransaction` and in `getListeningCommunityServer`, and that of the provider in
`findBlockchain`, which is called with and without the one of the community. -/
inductive CallPhase
  | outside
  | atWorkMutex
  | hasWorkMutex
  | atProviderMutex (withWork : Bool)
  | hasProviderMutex (withWork : Bool)
  deriving DecidableEq, Repr

/-- Where the thread that calls `FileBasedProvider::exit` is. -/
inductive ExitPhase
  /-- Before the lock of the provider's mutex. -/
  | beforeProvider
  /-- In `FileBased::exit`, before the lock of `mWorkMutex`. -/
  | before
  /-- `mWorkMutex` is locked, and tasks of the task observer are pending. -/
  | waitsForTasks
  /-- In `Thread::exit`, before the lock of `mMutex`. -/
  | atThreadMutex
  | hasThreadMutex
  /-- `mExitCalled` of the thread is set. -/
  | calledExit
  | signalled
  | joins
  | joined
  /-- `mWorkMutex` is unlocked again. -/
  | done
  /-- The provider's mutex is unlocked again. -/
  | left
  deriving DecidableEq, Repr

inductive ExitEvent
  | lockProvider
  | lockWork
  | tasksDone
  | lockThread
  | callExit
  | signal
  | unlockThread
  | join
  | unlockWork
  | unlockProvider
  deriving DecidableEq

/-- The ordering thread of a community, and the thread that ends the community. -/
structure CommunityShutdown where
  orderingThread : Thread
  call : CallPhase
  exit : ExitPhase
  /-- Another thread has locked `mWorkMutex`. -/
  otherHoldsWork : Bool
  /-- Another thread has locked the provider's mutex. -/
  otherHoldsProvider : Bool
  deriving DecidableEq

/-- A step of the ordering thread, of the thread in `exit`, or of another one. -/
inductive ShutdownEvent
  | run (event : RunEvent)
  | comesToWork
  | lockWork
  | unlockWork
  | comesToProvider
  | lockProvider
  | unlockProvider
  | exit (event : ExitEvent)
  | condSignal
  | otherLocksWork
  | otherUnlocksWork
  | otherLocksProvider
  | otherUnlocksProvider
  deriving DecidableEq

/-- The ordering thread has locked `mWorkMutex`. -/
def CallPhase.holdsWork : CallPhase → Bool
  | outside | atWorkMutex => false
  | hasWorkMutex => true
  | atProviderMutex withWork | hasProviderMutex withWork => withWork

/-- The ordering thread has locked the provider's mutex. -/
def CallPhase.holdsProvider : CallPhase → Bool
  | hasProviderMutex _ => true
  | _ => false

/-- The ordering thread is at the provider's mutex. -/
def CallPhase.wantsProvider : CallPhase → Bool
  | atProviderMutex _ => true
  | _ => false

/-- `exit` has locked the provider's mutex. -/
def ExitPhase.holdsProvider (exit : ExitPhase) : Bool := exit ≠ .beforeProvider && exit ≠ .left

/-- `exit` has locked `mWorkMutex`. -/
def ExitPhase.holdsWork (exit : ExitPhase) : Bool :=
  exit.holdsProvider && exit ≠ .before && exit ≠ .done

/-- `exit` has locked `mMutex` of the ordering thread. -/
def ExitPhase.holdsThread (exit : ExitPhase) : Bool :=
  exit = .hasThreadMutex || exit = .calledExit || exit = .signalled

/-- `mExitCalled` of the ordering thread is set. -/
def ExitPhase.exitCalled (exit : ExitPhase) : Bool :=
  exit = .calledExit || exit = .signalled || exit = .joins || exit = .joined || exit = .done ||
    exit = .left

namespace CommunityShutdown

def start : CommunityShutdown where
  orderingThread := .init
  call := .outside
  exit := .beforeProvider
  otherHoldsWork := false
  otherHoldsProvider := false

def workFree (state : CommunityShutdown) : Bool :=
  !state.exit.holdsWork && !state.call.holdsWork && !state.otherHoldsWork

def providerFree (state : CommunityShutdown) : Bool :=
  !state.exit.holdsProvider && !state.call.holdsProvider && !state.otherHoldsProvider

/-- `Thread::exit` of the ordering manager within `FileBased::exit`, within
`FileBasedProvider::exit`. The wait for the tasks ends when none is left, or when it took too
long. -/
def exitStep (state : CommunityShutdown) (event : ExitEvent) : Option CommunityShutdown :=
  match state.exit, event with
  | .beforeProvider, .lockProvider =>
      if state.providerFree then some { state with exit := .before } else none
  | .before, .lockWork => if state.workFree then some { state with exit := .waitsForTasks } else none
  | .waitsForTasks, .tasksDone => some { state with exit := .atThreadMutex }
  | .atThreadMutex, .lockThread =>
      if state.orderingThread.holdsMutex then none else some { state with exit := .hasThreadMutex }
  | .hasThreadMutex, .callExit => some { state with
      exit := .calledExit
      orderingThread := { state.orderingThread with exitCalled := true } }
  | .calledExit, .signal => some { state with
      exit := .signalled
      orderingThread := state.orderingThread.condSignal }
  | .signalled, .unlockThread => some { state with exit := .joins }
  | .joins, .join =>
      if state.orderingThread.phase = .finished then some { state with exit := .joined } else none
  | .joined, .unlockWork => some { state with exit := .done }
  | .done, .unlockProvider => some { state with exit := .left }
  | _, _ => none

/-- `ThreadFunction` calls the functions that lock any number of times before it ends, and unlocks
however a call ends. -/
def step (state : CommunityShutdown) : ShutdownEvent → Option CommunityShutdown
  | .run event =>
      if state.call = .outside then
        (state.orderingThread.step (!state.exit.holdsThread) event).map
          fun orderingThread => { state with orderingThread := orderingThread }
      else none
  | .comesToWork =>
      if state.orderingThread.phase = .threadFunction ∧ state.call = .outside then
        some { state with call := .atWorkMutex }
      else none
  | .lockWork =>
      if state.call = .atWorkMutex ∧ state.workFree then some { state with call := .hasWorkMutex }
      else none
  | .unlockWork =>
      if state.call = .hasWorkMutex then some { state with call := .outside } else none
  | .comesToProvider =>
      if state.orderingThread.phase = .threadFunction ∧
          (state.call = .outside ∨ state.call = .hasWorkMutex) then
        some { state with call := .atProviderMutex state.call.holdsWork }
      else none
  | .lockProvider =>
      if state.call.wantsProvider ∧ state.providerFree then
        some { state with call := .hasProviderMutex state.call.holdsWork }
      else none
  | .unlockProvider =>
      if state.call.holdsProvider then
        some { state with call := if state.call.holdsWork then .hasWorkMutex else .outside }
      else none
  | .exit event => state.exitStep event
  | .condSignal => some { state with orderingThread := state.orderingThread.condSignal }
  | .otherLocksWork => if state.workFree then some { state with otherHoldsWork := true } else none
  | .otherUnlocksWork =>
      if state.otherHoldsWork then some { state with otherHoldsWork := false } else none
  | .otherLocksProvider =>
      if state.providerFree then some { state with otherHoldsProvider := true } else none
  | .otherUnlocksProvider =>
      if state.otherHoldsProvider then some { state with otherHoldsProvider := false } else none

/-- The ordering thread waits for a mutex that `exit` holds. -/
def Blocked (state : CommunityShutdown) : Prop :=
  state.call = .atWorkMutex ∧ state.exit.holdsWork = true ∨
    state.call.wantsProvider = true ∧ state.exit.holdsProvider = true

instance (state : CommunityShutdown) : Decidable state.Blocked :=
  inferInstanceAs (Decidable (_ ∨ _))

/-- `exit` waits for the ordering thread: for its `mMutex` or its end, or for `mWorkMutex`. That
thread itself waits for a mutex that `exit` holds, or is parked although it is to exit, and for which
there is no signal any more. -/
def Hangs (state : CommunityShutdown) : Prop :=
  state.exit = .before ∧ state.call.holdsWork = true ∧ state.Blocked ∨
    (state.exit = .atThreadMutex ∨ state.exit = .joins) ∧
      (state.Blocked ∨
        state.orderingThread.phase = .parked ∧ state.orderingThread.exitCalled = true)

instance (state : CommunityShutdown) : Decidable state.Hangs :=
  inferInstanceAs (Decidable (_ ∨ _))

/-- `exit` does not take a mutex while the ordering thread wants it (or, for that of the community,
while it wants that of the provider), that thread does not want one while `exit` has it, and it does
not begin to wait once it is to exit. Without `mWorkMutex`, the thread may come to the provider's
mutex as long as `exit` has not locked `mWorkMutex`. -/
def OutOfTheWay (state : CommunityShutdown) : ShutdownEvent → Prop
  | .exit .lockProvider => state.exit = .beforeProvider → state.providerFree →
      state.call ≠ .atProviderMutex true
  | .exit .lockWork => state.exit = .before → state.workFree →
      state.call ≠ .atWorkMutex ∧ state.call.wantsProvider = false
  | .comesToWork => state.orderingThread.phase = .threadFunction →
      state.call = .outside → state.exit.holdsWork = false
  | .comesToProvider => state.orderingThread.phase = .threadFunction →
      (state.call = .outside → state.exit.holdsWork = false) ∧
        (state.call = .hasWorkMutex → state.exit.holdsProvider = false)
  | .run .wait => state.orderingThread.phase = .beforeWait → state.call = .outside →
      state.orderingThread.exitCalled = false
  | _ => True

/-- A step of `exit` other than the locks of the two mutexes. -/
def GoesOn (event : ShutdownEvent) : Prop :=
  ∃ ofExit, event = .exit ofExit ∧ ofExit ≠ .lockProvider ∧ ofExit ≠ .lockWork

variable {state next : CommunityShutdown}

/-- All that `exit` can do in a step. -/
theorem exitStep_cases {event : ExitEvent} (taken : state.exitStep event = some next) :
    (event = .lockProvider ∧ state.exit = .beforeProvider ∧ state.providerFree = true ∧
      next = { state with exit := .before }) ∨
    (event = .lockWork ∧ state.exit = .before ∧ state.workFree = true ∧
      next = { state with exit := .waitsForTasks }) ∨
    (event = .tasksDone ∧ state.exit = .waitsForTasks ∧
      next = { state with exit := .atThreadMutex }) ∨
    (event = .lockThread ∧ state.exit = .atThreadMutex ∧
      state.orderingThread.holdsMutex = false ∧ next = { state with exit := .hasThreadMutex }) ∨
    (event = .callExit ∧ state.exit = .hasThreadMutex ∧ next = { state with
      exit := .calledExit
      orderingThread := { state.orderingThread with exitCalled := true } }) ∨
    (event = .signal ∧ state.exit = .calledExit ∧ next = { state with
      exit := .signalled
      orderingThread := state.orderingThread.condSignal }) ∨
    (event = .unlockThread ∧ state.exit = .signalled ∧ next = { state with exit := .joins }) ∨
    (event = .join ∧ state.exit = .joins ∧ state.orderingThread.phase = .finished ∧
      next = { state with exit := .joined }) ∨
    (event = .unlockWork ∧ state.exit = .joined ∧ next = { state with exit := .done }) ∨
    (event = .unlockProvider ∧ state.exit = .done ∧ next = { state with exit := .left }) := by
  unfold exitStep at taken
  split at taken
  all_goals simp_all

/-- Who has which mutex, and what the ordering thread does no more once it is to exit. -/
structure Ordered (state : CommunityShutdown) : Prop where
  inCall : state.call ≠ .outside → state.orderingThread.phase = .threadFunction
  work : state.exit.holdsWork = true → state.call = .outside
  provider : state.exit.holdsProvider = true →
    state.call.holdsProvider = false ∧ state.call ≠ .atProviderMutex true
  threadMutex : state.exit.holdsThread = true → state.orderingThread.holdsMutex = false
  exitCalled : state.orderingThread.exitCalled = state.exit.exitCalled
  leftFunction : state.exit.exitCalled = true → state.orderingThread.phase ≠ .threadFunction
  woken : state.exit.exitCalled = true → state.exit ≠ .calledExit →
    state.orderingThread.phase ≠ .parked
  finished : state.exit = .joined ∨ state.exit = .done ∨ state.exit = .left →
    state.orderingThread.phase = .finished

/-- Nothing is locked at the start. -/
theorem ordered_start : start.Ordered where
  inCall inCall := absurd rfl inCall
  work holds := by cases holds
  provider holds := by cases holds
  threadMutex holds := by cases holds
  exitCalled := rfl
  leftFunction called := by cases called
  woken called := by cases called
  finished joined := by rcases joined with joined | joined | joined <;> cases joined

/-- A thread that holds one mutex and wants the other one is at that of the provider. -/
theorem CallPhase.eq_of_wants {call : CallPhase} (wants : call.wantsProvider = true)
    (holds : call.holdsWork = true) : call = .atProviderMutex true := by
  cases call with
  | atProviderMutex withWork =>
      cases withWork with
      | true => rfl
      | false => cases holds
  | outside | atWorkMutex | hasWorkMutex | hasProviderMutex => cases wants

/-- With `mWorkMutex`, `exit` blocks nobody. -/
theorem Ordered.not_blocked (ordered : state.Ordered) (holds : state.exit.holdsWork = true) :
    ¬ state.Blocked := by
  have outside := ordered.work holds
  rintro (⟨wants, _⟩ | ⟨wants, _⟩)
  · cases wants.symm.trans outside
  · rw [outside] at wants
    cases wants

/-- An ordered shutdown does not hang. -/
theorem Ordered.not_hangs (ordered : state.Ordered) : ¬ state.Hangs := by
  rintro (⟨isBefore, holds, ⟨wants, _⟩ | ⟨wants, locked⟩⟩ | ⟨waits, blocked | ⟨parked, called⟩⟩)
  · rw [wants] at holds
    cases holds
  · exact (ordered.provider locked).2 (CallPhase.eq_of_wants wants holds)
  · refine ordered.not_blocked ?_ blocked
    rcases waits with atMutex | joins
    · rw [atMutex]
      rfl
    · rw [joins]
      rfl
  · rw [ordered.exitCalled] at called
    rcases waits with atMutex | joins
    · rw [atMutex] at called
      cases called
    · exact ordered.woken called (by rw [joins]; decide) parked

/-- A step of the ordering thread outside the other locks keeps the order. -/
theorem Ordered.run (ordered : state.Ordered) {event : RunEvent} {thread : Thread}
    (outside : state.call = .outside)
    (taken : state.orderingThread.step (!state.exit.holdsThread) event = some thread)
    (apart : state.OutOfTheWay (.run event)) :
    Ordered { state with orderingThread := thread } where
  inCall inCall := absurd outside inCall
  work := ordered.work
  provider := ordered.provider
  threadMutex holds := by
    rw [holds] at taken
    by_contra locked
    rcases Thread.holdsMutex_of_step taken (Bool.not_eq_false _ ▸ locked) with before | free
    · exact Bool.eq_false_iff.mp (ordered.threadMutex holds) before
    · cases free
  exitCalled := (Thread.exitCalled_of_step taken).trans ordered.exitCalled
  leftFunction called inFunction := by
    have notCalled := (Thread.threadFunction_of_step taken inFunction).2
    rw [ordered.exitCalled, called] at notCalled
    cases notCalled
  woken called _ parked := by
    obtain ⟨rfl, before⟩ := Thread.parked_of_step taken parked
    have notCalled := apart before outside
    rw [ordered.exitCalled, called] at notCalled
    cases notCalled
  finished joined := absurd (ordered.finished joined) (Thread.not_finished_of_step taken)

/-- A signal keeps the order. -/
theorem Ordered.condSignal (ordered : state.Ordered) :
    Ordered { state with orderingThread := state.orderingThread.condSignal } where
  inCall inCall := (Thread.phase_condSignal_iff (by decide) (by decide)).mpr (ordered.inCall inCall)
  work := ordered.work
  provider := ordered.provider
  threadMutex holds := (Thread.holdsMutex_condSignal _).trans (ordered.threadMutex holds)
  exitCalled := (Thread.exitCalled_condSignal _).trans ordered.exitCalled
  leftFunction called inFunction := ordered.leftFunction called
    ((Thread.phase_condSignal_iff (by decide) (by decide)).mp inFunction)
  woken _ _ := Thread.not_parked_condSignal _
  finished joined :=
    (Thread.phase_condSignal_iff (by decide) (by decide)).mpr (ordered.finished joined)

/-- The community's lock is free if none of the three holds it. -/
theorem workFree_iff : state.workFree = true ↔
    state.exit.holdsWork = false ∧ state.call.holdsWork = false ∧ state.otherHoldsWork = false := by
  simp [workFree, and_assoc]

/-- And so is the provider's. -/
theorem providerFree_iff : state.providerFree = true ↔
    state.exit.holdsProvider = false ∧ state.call.holdsProvider = false ∧
      state.otherHoldsProvider = false := by
  simp [providerFree, and_assoc]

/-- Whoever has `mWorkMutex` in `exit` has the provider's mutex too. -/
theorem holdsProvider_of_holdsWork {exit : ExitPhase} (holds : exit.holdsWork = true) :
    exit.holdsProvider = true := by
  unfold ExitPhase.holdsWork at holds
  simp only [Bool.and_eq_true] at holds
  exact holds.1.1

/-- A step of `exit` that leaves the ordering thread alone. -/
theorem Ordered.moveExit (ordered : state.Ordered) {exit : ExitPhase}
    (work : exit.holdsWork = true → state.call = .outside)
    (provider : exit.holdsProvider = true →
      state.call.holdsProvider = false ∧ state.call ≠ .atProviderMutex true)
    (threadMutex : exit.holdsThread = true → state.orderingThread.holdsMutex = false)
    (exitCalled : exit.exitCalled = state.exit.exitCalled)
    (woken : exit.exitCalled = true → exit ≠ .calledExit → state.orderingThread.phase ≠ .parked)
    (finished : exit = .joined ∨ exit = .done ∨ exit = .left →
      state.orderingThread.phase = .finished) :
    Ordered { state with exit := exit } where
  inCall := ordered.inCall
  work := work
  provider := provider
  threadMutex := threadMutex
  exitCalled := ordered.exitCalled.trans exitCalled.symm
  leftFunction called := ordered.leftFunction (exitCalled.symm.trans called)
  woken := woken
  finished := finished

/-- Setting the flag keeps the order. -/
theorem Ordered.callExit (ordered : state.Ordered) (phase : state.exit = .hasThreadMutex) :
    Ordered { state with
      exit := .calledExit
      orderingThread := { state.orderingThread with exitCalled := true } } where
  inCall := ordered.inCall
  work _ := ordered.work (by rw [phase]; rfl)
  provider _ := ordered.provider (by rw [phase]; rfl)
  threadMutex _ := ordered.threadMutex (by rw [phase]; rfl)
  exitCalled := rfl
  leftFunction _ inFunction := by
    have unlocked := ordered.threadMutex (by rw [phase]; rfl)
    simp only [Thread.holdsMutex, Bool.or_eq_false_iff, decide_eq_false_iff_not] at unlocked
    exact unlocked.2 inFunction
  woken _ notCalled := absurd rfl notCalled
  finished := by simp

/-- Signalling the thread keeps the order. -/
theorem Ordered.signal (ordered : state.Ordered) (phase : state.exit = .calledExit) :
    Ordered { state with
      exit := .signalled
      orderingThread := state.orderingThread.condSignal } := by
  have called : state.exit.exitCalled = true := by
    rw [phase]
    rfl
  have signalled := ordered.condSignal
  exact {
    inCall := signalled.inCall
    work := fun _ => ordered.work (by rw [phase]; rfl)
    provider := fun _ => ordered.provider (by rw [phase]; rfl)
    threadMutex := fun _ => signalled.threadMutex (by rw [phase]; rfl)
    exitCalled := signalled.exitCalled.trans called
    leftFunction := fun _ => signalled.leftFunction called
    woken := fun _ _ => Thread.not_parked_condSignal _
    finished := by simp }

/-- A thread that neither holds nor wants a mutex is outside. -/
theorem CallPhase.eq_outside {call : CallPhase} (notAt : call ≠ .atWorkMutex)
    (work : call.holdsWork = false) (provider : call.holdsProvider = false)
    (wants : call.wantsProvider = false) : call = .outside := by
  cases call with
  | outside => rfl
  | atWorkMutex => exact absurd rfl notAt
  | hasWorkMutex => cases work
  | atProviderMutex => cases wants
  | hasProviderMutex => cases provider

/-- Every step of the exiting thread keeps the order. -/
theorem Ordered.exit (ordered : state.Ordered) {event : ExitEvent}
    (taken : state.exitStep event = some next) (apart : state.OutOfTheWay (.exit event)) :
    next.Ordered := by
  rcases exitStep_cases taken with ⟨rfl, phase, free, rfl⟩ | ⟨rfl, phase, free, rfl⟩ |
    ⟨rfl, phase, rfl⟩ | ⟨rfl, phase, unlocked, rfl⟩ | ⟨rfl, phase, rfl⟩ | ⟨rfl, phase, rfl⟩ |
    ⟨rfl, phase, rfl⟩ | ⟨rfl, phase, isFinished, rfl⟩ | ⟨rfl, phase, rfl⟩ | ⟨rfl, phase, rfl⟩
  · apply ordered.moveExit
    · simp [ExitPhase.holdsWork]
    · exact fun _ => ⟨(providerFree_iff.mp free).2.1, apart phase free⟩
    · simp [ExitPhase.holdsThread]
    · rw [phase]
      rfl
    · simp [ExitPhase.exitCalled]
    · simp
  · have provider := ordered.provider (by rw [phase]; rfl)
    have outside : state.call = .outside := by
      obtain ⟨notAt, notWants⟩ := apart phase free
      exact CallPhase.eq_outside notAt (workFree_iff.mp free).2.1 provider.1 notWants
    apply ordered.moveExit
    · exact fun _ => outside
    · exact fun _ => provider
    · simp [ExitPhase.holdsThread]
    · rw [phase]
      rfl
    · simp [ExitPhase.exitCalled]
    · simp
  · apply ordered.moveExit
    · exact fun _ => ordered.work (by rw [phase]; rfl)
    · exact fun _ => ordered.provider (by rw [phase]; rfl)
    · simp [ExitPhase.holdsThread]
    · rw [phase]
      rfl
    · simp [ExitPhase.exitCalled]
    · simp
  · apply ordered.moveExit
    · exact fun _ => ordered.work (by rw [phase]; rfl)
    · exact fun _ => ordered.provider (by rw [phase]; rfl)
    · exact fun _ => unlocked
    · rw [phase]
      rfl
    · simp [ExitPhase.exitCalled]
    · simp
  · exact ordered.callExit phase
  · exact ordered.signal phase
  · apply ordered.moveExit
    · exact fun _ => ordered.work (by rw [phase]; rfl)
    · exact fun _ => ordered.provider (by rw [phase]; rfl)
    · simp [ExitPhase.holdsThread]
    · rw [phase]
      rfl
    · exact fun _ _ => ordered.woken (by rw [phase]; rfl) (by rw [phase]; decide)
    · simp
  · apply ordered.moveExit
    · exact fun _ => ordered.work (by rw [phase]; rfl)
    · exact fun _ => ordered.provider (by rw [phase]; rfl)
    · simp [ExitPhase.holdsThread]
    · rw [phase]
      rfl
    · exact fun _ _ => ordered.woken (by rw [phase]; rfl) (by rw [phase]; decide)
    · exact fun _ => isFinished
  · apply ordered.moveExit
    · simp [ExitPhase.holdsWork]
    · exact fun _ => ordered.provider (by rw [phase]; rfl)
    · simp [ExitPhase.holdsThread]
    · rw [phase]
      rfl
    · exact fun _ _ => ordered.woken (by rw [phase]; rfl) (by rw [phase]; decide)
    · exact fun _ => ordered.finished (Or.inl phase)
  · apply ordered.moveExit
    · simp [ExitPhase.holdsWork, ExitPhase.holdsProvider]
    · simp [ExitPhase.holdsProvider]
    · simp [ExitPhase.holdsThread]
    · rw [phase]
      rfl
    · exact fun _ _ => ordered.woken (by rw [phase]; rfl) (by rw [phase]; decide)
    · exact fun _ => ordered.finished (Or.inr (Or.inl phase))

/-- A step of `ThreadFunction` to another of its phases. -/
theorem Ordered.moveCall (ordered : state.Ordered) {call : CallPhase}
    (inFunction : state.orderingThread.phase = .threadFunction)
    (work : state.exit.holdsWork = true → call = .outside)
    (provider : state.exit.holdsProvider = true →
      call.holdsProvider = false ∧ call ≠ .atProviderMutex true) :
    Ordered { state with call := call } :=
  { ordered with
    inCall := fun _ => inFunction
    work := work
    provider := provider }

/-- Every step out of the way of the locks keeps the order. -/
theorem Ordered.step (ordered : state.Ordered) {event : ShutdownEvent}
    (apart : state.OutOfTheWay event) (taken : state.step event = some next) : next.Ordered := by
  cases event with
  | run event =>
      unfold CommunityShutdown.step at taken
      dsimp only at taken
      split at taken
      · rename_i outside
        obtain ⟨thread, stepped, rfl⟩ := Option.map_eq_some_iff.mp taken
        exact ordered.run outside stepped apart
      · cases taken
  | comesToWork =>
      obtain ⟨⟨inFunction, outside⟩, same⟩ := Option.ite_none_right_eq_some.mp taken
      cases same
      have free := apart inFunction outside
      apply ordered.moveCall inFunction
      · intro holds
        rw [free] at holds
        cases holds
      · exact fun _ => ⟨rfl, by simp⟩
  | lockWork =>
      obtain ⟨⟨atWork, free⟩, same⟩ := Option.ite_none_right_eq_some.mp taken
      cases same
      apply ordered.moveCall (ordered.inCall (by rw [atWork]; simp))
      · intro holds
        rw [(workFree_iff.mp free).1] at holds
        cases holds
      · exact fun _ => ⟨rfl, by simp⟩
  | unlockWork =>
      obtain ⟨hasWork, same⟩ := Option.ite_none_right_eq_some.mp taken
      cases same
      apply ordered.moveCall (ordered.inCall (by rw [hasWork]; simp))
      · exact fun _ => rfl
      · exact fun _ => ⟨rfl, by simp⟩
  | comesToProvider =>
      obtain ⟨⟨inFunction, outside | hasWork⟩, same⟩ := Option.ite_none_right_eq_some.mp taken
      all_goals cases same
      · have free := (apart inFunction).1 outside
        apply ordered.moveCall inFunction
        · intro holds
          rw [free] at holds
          cases holds
        · rw [outside]
          exact fun _ => ⟨rfl, by simp [CallPhase.holdsWork]⟩
      · have free := (apart inFunction).2 hasWork
        apply ordered.moveCall inFunction
        · intro holds
          rw [holdsProvider_of_holdsWork holds] at free
          cases free
        · intro holds
          rw [free] at holds
          cases holds
  | lockProvider =>
      obtain ⟨⟨wants, free⟩, same⟩ := Option.ite_none_right_eq_some.mp taken
      cases same
      have notHolds := (providerFree_iff.mp free).1
      have inFunction : state.orderingThread.phase = .threadFunction := by
        apply ordered.inCall
        intro outside
        rw [outside] at wants
        cases wants
      apply ordered.moveCall inFunction
      · intro holds
        rw [holdsProvider_of_holdsWork holds] at notHolds
        cases notHolds
      · intro holds
        rw [notHolds] at holds
        cases holds
  | unlockProvider =>
      obtain ⟨hasProvider, same⟩ := Option.ite_none_right_eq_some.mp taken
      cases same
      have inFunction : state.orderingThread.phase = .threadFunction := by
        apply ordered.inCall
        intro outside
        rw [outside] at hasProvider
        cases hasProvider
      have notHolds : state.exit.holdsProvider ≠ true := fun holds => by
        rw [(ordered.provider holds).1] at hasProvider
        cases hasProvider
      apply ordered.moveCall inFunction
      · exact fun holds => absurd (holdsProvider_of_holdsWork holds) notHolds
      · exact fun holds => absurd holds notHolds
  | exit event => exact ordered.exit taken apart
  | condSignal =>
      cases taken
      exact ordered.condSignal
  | otherLocksWork | otherUnlocksWork | otherLocksProvider | otherUnlocksProvider =>
      obtain ⟨_, same⟩ := Option.ite_none_right_eq_some.mp taken
      cases same
      exact { ordered with }

/-! ## Into the windows -/

/-- A step of `exit` that locks neither mutex is in nobody's way. -/
theorem outOfTheWay_of_goesOn {event : ShutdownEvent} (goesOn : GoesOn event) :
    state.OutOfTheWay event := by
  obtain ⟨ofExit, rfl, notProvider, notWork⟩ := goesOn
  cases ofExit with
  | lockProvider => exact absurd rfl notProvider
  | lockWork => exact absurd rfl notWork
  | _ => trivial

/-- `exit` gets no further than the mutex of a thread that is in `ThreadFunction`. -/
theorem Ordered.exit_of_threadFunction (ordered : state.Ordered)
    (inFunction : state.orderingThread.phase = .threadFunction)
    (holds : state.exit.holdsProvider = true) :
    state.exit = .before ∨ state.exit = .waitsForTasks ∨ state.exit = .atThreadMutex := by
  have locked : state.orderingThread.holdsMutex = true := by
    simp [Thread.holdsMutex, inFunction]
  have notHolds : state.exit.holdsThread ≠ true := fun holds => by
    rw [ordered.threadMutex holds] at locked
    cases locked
  have notCalled : state.exit.exitCalled ≠ true := fun called =>
    ordered.leftFunction called inFunction
  cases phase : state.exit with
  | beforeProvider => simp [phase, ExitPhase.holdsProvider] at holds
  | before => exact Or.inl rfl
  | waitsForTasks => exact Or.inr (Or.inl rfl)
  | atThreadMutex => exact Or.inr (Or.inr rfl)
  | hasThreadMutex => simp [phase, ExitPhase.holdsThread] at notHolds
  | calledExit => simp [phase, ExitPhase.holdsThread] at notHolds
  | signalled => simp [phase, ExitPhase.holdsThread] at notHolds
  | joins => simp [phase, ExitPhase.exitCalled] at notCalled
  | joined => simp [phase, ExitPhase.exitCalled] at notCalled
  | done => simp [phase, ExitPhase.exitCalled] at notCalled
  | left => simp [phase, ExitPhase.exitCalled] at notCalled

/-- Only a thread that `exit` joins already begins to wait although it is to exit. -/
theorem Ordered.joins_of_beforeWait (ordered : state.Ordered)
    (before : state.orderingThread.phase = .beforeWait)
    (called : state.orderingThread.exitCalled = true) : state.exit = .joins := by
  have locked : state.orderingThread.holdsMutex = true := by
    simp [Thread.holdsMutex, before]
  have notHolds : state.exit.holdsThread ≠ true := fun holds => by
    rw [ordered.threadMutex holds] at locked
    cases locked
  rw [ordered.exitCalled] at called
  cases phase : state.exit with
  | joins => rfl
  | beforeProvider => simp [phase, ExitPhase.exitCalled] at called
  | before => simp [phase, ExitPhase.exitCalled] at called
  | waitsForTasks => simp [phase, ExitPhase.exitCalled] at called
  | atThreadMutex => simp [phase, ExitPhase.exitCalled] at called
  | hasThreadMutex => simp [phase, ExitPhase.exitCalled] at called
  | calledExit => simp [phase, ExitPhase.holdsThread] at notHolds
  | signalled => simp [phase, ExitPhase.holdsThread] at notHolds
  | joined => cases before.symm.trans (ordered.finished (Or.inl phase))
  | done => cases before.symm.trans (ordered.finished (Or.inr (Or.inl phase)))
  | left => cases before.symm.trans (ordered.finished (Or.inr (Or.inr phase)))

/-- With the ordering thread at a mutex that `exit` has, `exit` hangs at the end of its wait for
tasks. -/
theorem hangs_of_tasksDone (state : CommunityShutdown) (phase : state.exit = .waitsForTasks)
    (blocked : state.Blocked) : ∃ reached,
    runEvents step [.exit .tasksDone] state = some reached ∧ reached.Hangs := by
  have stillBlocked : Blocked { state with exit := .atThreadMutex } := by
    rcases blocked with ⟨atWork, _⟩ | ⟨wants, _⟩
    · exact Or.inl ⟨atWork, rfl⟩
    · exact Or.inr ⟨wants, rfl⟩
  refine ⟨{ state with exit := .atThreadMutex }, ?_, Or.inr ⟨Or.inl rfl, Or.inl stillBlocked⟩⟩
  apply runEvents_cons.mpr
  refine ⟨{ state with exit := .atThreadMutex }, ?_, rfl⟩
  unfold CommunityShutdown.step exitStep
  dsimp only
  rw [phase]

/-- Nobody takes a step after which `exit` can hang by its own steps. -/
def NeverHangs (state : CommunityShutdown) (event : ShutdownEvent) : Prop :=
  ∀ next ending reached, state.step event = some next → (∀ last ∈ ending, GoesOn last) →
    runEvents CommunityShutdown.step ending next = some reached → ¬ reached.Hangs

/-- A shutdown that never hangs does not hang behind its next step. -/
theorem NeverHangs.not_hangs {event : ShutdownEvent} (never : state.NeverHangs event)
    (taken : state.step event = some next) : ¬ next.Hangs :=
  never next [] next taken (fun _ member => by cases member) rfl

/-- Nor does it wait for a thread that waits for it. -/
theorem NeverHangs.not_blocked {event : ShutdownEvent} (never : state.NeverHangs event)
    (taken : state.step event = some next) (waits : next.exit = .waitsForTasks) :
    ¬ next.Blocked := by
  intro blocked
  obtain ⟨reached, run, hangs⟩ := hangs_of_tasksDone next waits blocked
  refine never next _ reached taken ?_ run hangs
  intro last member
  exact ⟨.tasksDone, List.mem_singleton.mp member, by decide, by decide⟩

/-- A thread that comes to a mutex in `exit`'s hands hangs `exit`. -/
theorem Ordered.not_comes (ordered : state.Ordered) {event : ShutdownEvent} {call : CallPhase}
    (never : state.NeverHangs event)
    (inFunction : state.orderingThread.phase = .threadFunction)
    (taken : state.step event = some { state with call := call })
    (blocked : Blocked { state with call := call })
    (holds : state.exit.holdsWork = true ∨ call.holdsWork = true) : False := by
  have provider : state.exit.holdsProvider = true := by
    rcases blocked with ⟨_, work⟩ | ⟨_, provider⟩
    · exact holdsProvider_of_holdsWork work
    · exact provider
  rcases ordered.exit_of_threadFunction inFunction provider with isBefore | waits | atMutex
  · refine never.not_hangs taken (Or.inl ⟨isBefore, ?_, blocked⟩)
    rcases holds with work | work
    · rw [isBefore] at work
      cases work
    · exact work
  · exact never.not_blocked taken waits blocked
  · exact never.not_hangs taken (Or.inr ⟨Or.inl atMutex, Or.inl blocked⟩)

/-- In an ordered shutdown that never hangs every event is out of the way. -/
theorem Ordered.outOfTheWay (ordered : state.Ordered) {event : ShutdownEvent}
    (never : state.NeverHangs event) : state.OutOfTheWay event := by
  cases event with
  | exit event =>
      cases event with
      | lockProvider =>
          intro isBefore free atProvider
          have taken : state.step (.exit .lockProvider) = some { state with exit := .before } := by
            unfold CommunityShutdown.step exitStep
            dsimp only
            rw [isBefore, free]
            rfl
          have wants : state.call.wantsProvider = true := by
            rw [atProvider]
            rfl
          refine never.not_hangs taken (Or.inl ⟨rfl, ?_, Or.inr ⟨wants, rfl⟩⟩)
          change state.call.holdsWork = true
          rw [atProvider]
          rfl
      | lockWork =>
          intro isBefore free
          have taken : state.step (.exit .lockWork) =
              some { state with exit := .waitsForTasks } := by
            unfold CommunityShutdown.step exitStep
            dsimp only
            rw [isBefore, free]
            rfl
          have notBlocked := never.not_blocked taken rfl
          constructor
          · exact fun atWork => notBlocked (Or.inl ⟨atWork, rfl⟩)
          · by_contra wants
            exact notBlocked (Or.inr ⟨Bool.not_eq_false _ ▸ wants, rfl⟩)
      | _ => trivial
  | comesToWork =>
      intro inFunction outside
      by_contra holds
      rw [Bool.not_eq_false] at holds
      have taken : state.step .comesToWork = some { state with call := .atWorkMutex } :=
        if_pos ⟨inFunction, outside⟩
      exact ordered.not_comes never inFunction taken (Or.inl ⟨rfl, holds⟩) (Or.inl holds)
  | comesToProvider =>
      intro inFunction
      constructor
      · intro outside
        by_contra holds
        rw [Bool.not_eq_false] at holds
        have taken : state.step .comesToProvider =
            some { state with call := .atProviderMutex state.call.holdsWork } :=
          if_pos ⟨inFunction, Or.inl outside⟩
        exact ordered.not_comes never inFunction taken
          (Or.inr ⟨rfl, holdsProvider_of_holdsWork holds⟩) (Or.inl holds)
      · intro hasWork
        by_contra holds
        rw [Bool.not_eq_false] at holds
        have taken : state.step .comesToProvider =
            some { state with call := .atProviderMutex state.call.holdsWork } :=
          if_pos ⟨inFunction, Or.inr hasWork⟩
        refine ordered.not_comes never inFunction taken (Or.inr ⟨rfl, holds⟩) (Or.inr ?_)
        rw [hasWork]
        rfl
  | run event =>
      cases event with
      | wait =>
          intro isBefore outside
          by_contra called
          have joins := ordered.joins_of_beforeWait isBefore (Bool.not_eq_false _ ▸ called)
          have taken : state.step (.run .wait) = some { state with
              orderingThread := { state.orderingThread with phase := .parked } } := by
            unfold CommunityShutdown.step
            dsimp only
            rw [if_pos outside]
            unfold Thread.step
            rw [isBefore]
            rfl
          exact never.not_hangs taken
            (Or.inr ⟨Or.inr joins, Or.inr ⟨rfl, Bool.not_eq_false _ ▸ called⟩⟩)
      | _ => trivial
  | _ => trivial

/-- However far `exit` gets by its own steps after any of the events, it does not hang, exactly if
every step is out of the way. -/
theorem not_hangs_iff_outOfTheWay (events : List ShutdownEvent) :
    (∀ first rest ending reached, events = first ++ rest → (∀ last ∈ ending, GoesOn last) →
      runEvents step (first ++ ending) start = some reached → ¬ reached.Hangs) ↔
      StepsMeet step OutOfTheWay events start := by
  apply ahead_good_iff_stepsMeet _ _ _ _ events ordered_start
  · intro state event next ordered apart taken
    exact ordered.step apart taken
  · intro state ordered
    exact ordered.not_hangs
  · intro state event _ goesOn
    exact outOfTheWay_of_goesOn goesOn
  · intro state event ordered never
    exact ordered.outOfTheWay never

/-- `exit` comes while the ordering thread is on its way to a transaction. -/
theorem hangs_onItsWay : ¬ ∀ events reached, runEvents step events start = some reached →
    ¬ reached.Hangs := by
  intro never
  refine never [.run .testExit, .run .lock, .run .wait, .condSignal, .run .relock,
    .run .testAwake, .exit .lockProvider, .exit .lockWork, .comesToWork, .exit .tasksDone] _ rfl ?_
  decide

/-- `exit` comes between the test of the loop and the wait. -/
example : (runEvents step [.run .testExit, .exit .lockProvider, .exit .lockWork, .exit .tasksDone,
    .exit .lockThread, .exit .callExit, .exit .signal, .exit .unlockThread, .run .lock,
    .run .wait] start).any (fun reached => decide reached.Hangs) = true := by
  decide

end CommunityShutdown

end Blockchain

end GradidoNode

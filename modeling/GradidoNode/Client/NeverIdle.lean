import GradidoNode.Client.TopicMessageQuery
import Mathlib.Data.List.Basic

/-!
# A finished call is not started again

A call that finishes with an error that is worth a retry leaves its thread with the queue that
it has shut down. SHUTDOWN is then delivered for ever, and each time the thread only waits.
-/

namespace GradidoNode

open Library Data

namespace Client

open Hiero

namespace TopicMessageQuery

variable {TransactionId : Type}
  {onMessageArrived : ConsensusTopicResponse Timestamp TransactionId → Except Exception Unit}
  {thread next : TopicMessageQuery} {event : ThreadEvent TransactionId}

/-- Without a call to exit the thread goes on. -/
theorem whileNotExit_of_noExit (thread : TopicMessageQuery) (noExit : thread.exitCalled = false) :
    thread.whileNotExit = thread := by
  unfold whileNotExit
  rw [if_neg]
  simp [noExit]

/-- The thread returns once it was told to exit. -/
theorem whileNotExit_of_exit (thread : TopicMessageQuery) (running : thread.ended = none)
    (exits : thread.exitCalled = true) :
    thread.whileNotExit = { thread with ended := some (.returned 0) } := by
  unfold whileNotExit
  rw [if_pos ⟨running, exits⟩]

/-- The attempts are none when a call finishes, so that a retry is only refused for its
status. -/
theorem finishCall_of_shouldRetry (thread : TopicMessageQuery) {grpcStatus : StatusCode}
    (first : thread.attempt = 0) (retry : shouldRetry grpcStatus = true) :
    thread.finishCall grpcStatus = { thread with queueShutdown := true } := by
  have failed : grpcStatus ≠ .ok := by
    rintro rfl
    cases retry
  have goesOn : ¬ (thread.attempt ≥ defaultMaxAttempts ∨ shouldRetry grpcStatus = false) := by
    rw [first, retry]
    decide
  unfold finishCall
  rw [if_neg failed, if_neg goesOn]

/-- A shutdown before the limit waits longer and asks again. -/
theorem handleShutdown_of_notComplete (notComplete : thread.complete = false) :
    thread.handleShutdown = { thread with
      backoff := longerBackoff thread.backoff
      attempt := thread.attempt + 1
      isClosed := true
      shutdowns := thread.shutdowns + 1 } := by
  unfold handleShutdown
  rw [if_neg (Bool.eq_false_iff.mp notComplete)]

/-- The event behind `Finish` ends the call. -/
theorem handleGotEvent_finish (isFinish : thread.callStatus = .finish) (ok : Bool)
    (message : Option (ConsensusTopicResponseMessage Timestamp TransactionId))
    (grpcStatus : StatusCode) : thread.handleGotEvent onMessageArrived ok message grpcStatus =
      finishCall grpcStatus { thread with backoff := shorterBackoff thread.backoff } := by
  unfold handleGotEvent
  dsimp only
  rw [isFinish]

/-! ## Threads that return at the first SHUTDOWN -/

/-- Before the queue is shut down nothing was retried, and afterwards the call is complete or
the thread has ended. -/
structure Completes (thread : TopicMessageQuery) : Prop where
  beforeShutdown : thread.queueShutdown = false →
    thread.attempt = 0 ∧ thread.complete = false ∧ thread.shutdowns = 0
  afterShutdown : thread.queueShutdown = true → thread.ended = none →
    thread.complete = true ∧ thread.shutdowns = 0
  shutdowns : thread.shutdowns ≤ 1
  newCalls : thread.newCalls = []

/-- A fresh query completes. -/
theorem completes_start (limit : UInt64) : (start limit).Completes where
  beforeShutdown _ := ⟨rfl, rfl, rfl⟩
  afterShutdown isShutdown := by cases isShutdown
  shutdowns := Nat.zero_le 1
  newCalls := rfl

/-- A query that completes never idles. -/
theorem Completes.neverIdle (completes : thread.Completes) : thread.NeverIdle where
  shutdowns := completes.shutdowns.trans (by decide)
  resumes call started := by
    rw [completes.newCalls] at started
    cases started

/-- Only the members that `Completes` speaks of count, and it does not matter that a thread
ends. -/
theorem Completes.congr (completes : thread.Completes)
    (queueShutdown : next.queueShutdown = thread.queueShutdown)
    (attempt : next.attempt = thread.attempt) (complete : next.complete = thread.complete)
    (shutdowns : next.shutdowns = thread.shutdowns) (newCalls : next.newCalls = thread.newCalls)
    (ended : next.ended = none → thread.ended = none) : next.Completes where
  beforeShutdown := by
    rw [queueShutdown, attempt, complete, shutdowns]
    exact completes.beforeShutdown
  afterShutdown isShutdown running := by
    rw [queueShutdown] at isShutdown
    rw [complete, shutdowns]
    exact completes.afterShutdown isShutdown (ended running)
  shutdowns := by
    rw [shutdowns]
    exact completes.shutdowns
  newCalls := by
    rw [newCalls]
    exact completes.newCalls

/-- The head of the loop keeps it so. -/
theorem Completes.whileNotExit (completes : thread.Completes) :
    thread.whileNotExit.Completes := by
  unfold TopicMessageQuery.whileNotExit
  split
  · exact completes.congr rfl rfl rfl rfl rfl (fun running => by cases running)
  · exact completes

/-- So does a response. -/
theorem Completes.processResponse (completes : thread.Completes) (running : thread.ended = none)
    (message : Option (ConsensusTopicResponseMessage Timestamp TransactionId)) :
    (thread.processResponse onMessageArrived message).Completes := by
  unfold TopicMessageQuery.processResponse
  split
  · exact completes.congr rfl rfl rfl rfl rfl (fun _ => running)
  · dsimp only
    split
    · exact completes.congr rfl rfl rfl rfl rfl (fun _ => running)
    · exact completes.congr rfl rfl rfl rfl rfl (fun _ => running)

/-- A call that has failed for good is complete. -/
theorem Completes.finishCall (completes : thread.Completes)
    (isOpen : thread.queueShutdown = false) {grpcStatus : StatusCode}
    (notRetried : shouldRetry grpcStatus = false) : (thread.finishCall grpcStatus).Completes := by
  obtain ⟨_, _, noShutdown⟩ := completes.beforeShutdown isOpen
  unfold TopicMessageQuery.finishCall
  rw [if_pos (Or.inr notRetried), ite_self]
  exact {
    beforeShutdown := fun isOpen => by cases isOpen
    afterShutdown := fun _ _ => ⟨rfl, noShutdown⟩
    shutdowns := completes.shutdowns
    newCalls := completes.newCalls }

/-- Where the destructor waits for the thread, the round of the finished call is the last. -/
theorem Completes.finishCall_of_exit (completes : thread.Completes)
    (running : thread.ended = none) (exits : thread.exitCalled = true)
    (grpcStatus : StatusCode) : (thread.finishCall grpcStatus).whileNotExit.Completes := by
  obtain ⟨complete, finished⟩ := finishCall_eq thread grpcStatus
  rw [finished, whileNotExit_of_exit
    { thread with queueShutdown := true, complete := complete } running exits]
  exact {
    beforeShutdown := fun isOpen => by cases isOpen
    afterShutdown := fun _ running => by cases running
    shutdowns := completes.shutdowns
    newCalls := completes.newCalls }

/-- So does a shutdown. -/
theorem Completes.handleShutdown (completes : thread.Completes)
    (isShutdown : thread.queueShutdown = true) (running : thread.ended = none) :
    thread.handleShutdown.Completes := by
  obtain ⟨isComplete, noShutdown⟩ := completes.afterShutdown isShutdown running
  unfold TopicMessageQuery.handleShutdown
  rw [if_pos isComplete, noShutdown]
  exact {
    beforeShutdown := fun isOpen => by cases isShutdown.symm.trans isOpen
    afterShutdown := fun _ running => by cases running
    shutdowns := Nat.le_refl 1
    newCalls := completes.newCalls }

/-- So does an event of the queue whose call needs no retry. -/
theorem Completes.gotEvent (completes : thread.Completes) (running : thread.ended = none)
    (isOpen : thread.queueShutdown = false) {ok : Bool}
    {message : Option (ConsensusTopicResponseMessage Timestamp TransactionId)}
    {grpcStatus : StatusCode} (notRetried : thread.NotRetried (.gotEvent ok message grpcStatus)) :
    (thread.handleGotEvent onMessageArrived ok message grpcStatus).whileNotExit.Completes := by
  have faster : Completes { thread with backoff := shorterBackoff thread.backoff } :=
    completes.congr rfl rfl rfl rfl rfl id
  rcases handleGotEvent_cases thread ok message grpcStatus with
    ⟨callStatus, handled⟩ | handled | ⟨isFinish, handled⟩
  · have moved : Completes { thread with
        backoff := shorterBackoff thread.backoff, callStatus := callStatus } :=
      completes.congr rfl rfl rfl rfl rfl id
    rw [handled]
    exact moved.whileNotExit
  · rw [handled]
    exact (faster.processResponse running message).whileNotExit
  · rw [handled]
    by_cases exits : thread.exitCalled = true
    · exact faster.finishCall_of_exit running exits grpcStatus
    · have failed := notRetried running isOpen isFinish (Bool.not_eq_true _ ▸ exits)
      exact (faster.finishCall isOpen failed).whileNotExit

/-- So does every step whose call needs no retry. -/
theorem Completes.step (completes : thread.Completes) (notRetried : thread.NotRetried event)
    (taken : thread.step onMessageArrived event = some next) : next.Completes := by
  obtain ⟨delivered, rfl⟩ := step_eq_some taken
  cases event with
  | timeout =>
      have slower : Completes { thread with backoff := longerBackoff thread.backoff } :=
        completes.congr rfl rfl rfl rfl rfl id
      exact slower.whileNotExit
  | gotEvent ok message grpcStatus =>
      obtain ⟨running, isOpen⟩ := Bool.and_eq_true_iff.mp delivered
      exact completes.gotEvent (Option.isNone_iff_eq_none.mp running)
        (Bool.not_eq_eq_eq_not.mp isOpen) notRetried
  | shutdown =>
      obtain ⟨running, isShutdown⟩ := Bool.and_eq_true_iff.mp delivered
      exact (completes.handleShutdown isShutdown
        (Option.isNone_iff_eq_none.mp running)).whileNotExit
  | exit => exact completes.congr rfl rfl rfl rfl rfl id

/-! ## Threads that wait for ever -/

/-- The queue is shut down, and nothing says that the call is complete. -/
structure Spins (thread : TopicMessageQuery) : Prop where
  running : thread.ended = none
  queueShutdown : thread.queueShutdown = true
  notComplete : thread.complete = false
  noExit : thread.exitCalled = false

/-- A spinning query sees one shutdown after the other and spins on. -/
theorem Spins.shutdown
    (onMessageArrived : ConsensusTopicResponse Timestamp TransactionId → Except Exception Unit)
    (spins : thread.Spins) : ∃ next,
    thread.step onMessageArrived .shutdown = some next ∧ next.Spins ∧
      next.shutdowns = thread.shutdowns + 1 := by
  have delivered : thread.delivers (.shutdown : ThreadEvent TransactionId) = true := by
    unfold delivers
    rw [spins.running, spins.queueShutdown]
    rfl
  have handled := handleShutdown_of_notComplete spins.notComplete
  refine ⟨thread.handleShutdown, ?_, ?_, ?_⟩
  · unfold TopicMessageQuery.step handle
    rw [if_pos delivered]
    dsimp only
    rw [handled]
    exact congrArg some (whileNotExit_of_noExit _ spins.noExit)
  · rw [handled]
    exact ⟨spins.running, spins.queueShutdown, spins.notComplete, spins.noExit⟩
  · rw [handled]

/-- Any number of SHUTDOWN events are handled. -/
theorem Spins.run (spins : thread.Spins) (count : Nat) : ∃ reached,
    runEvents (step onMessageArrived) (List.replicate count .shutdown) thread = some reached ∧
      reached.Spins ∧ reached.shutdowns = thread.shutdowns + count := by
  induction count generalizing thread with
  | zero => exact ⟨thread, rfl, spins, rfl⟩
  | succ count ih =>
      obtain ⟨next, taken, spinsNext, one⟩ := spins.shutdown onMessageArrived
      obtain ⟨reached, run, spinsReached, more⟩ := ih spinsNext
      refine ⟨reached, runEvents_cons.mpr ⟨next, taken, run⟩, spinsReached, ?_⟩
      rw [more, one]
      omega

/-- A call that is to be retried leaves its thread spinning. -/
theorem Completes.spins_of_shouldRetry (completes : thread.Completes)
    (running : thread.ended = none) (isOpen : thread.queueShutdown = false)
    (isFinish : thread.callStatus = .finish) (noExit : thread.exitCalled = false)
    {grpcStatus : StatusCode} (retry : shouldRetry grpcStatus = true) (ok : Bool)
    (message : Option (ConsensusTopicResponseMessage Timestamp TransactionId)) : ∃ next,
    thread.step onMessageArrived (.gotEvent ok message grpcStatus) = some next ∧ next.Spins := by
  obtain ⟨first, notComplete, _⟩ := completes.beforeShutdown isOpen
  have delivered : thread.delivers (.gotEvent ok message grpcStatus) = true := by
    unfold delivers
    rw [running, isOpen]
    rfl
  have finished := finishCall_of_shouldRetry
    { thread with backoff := shorterBackoff thread.backoff } first retry
  refine ⟨{ thread with backoff := shorterBackoff thread.backoff, queueShutdown := true }, ?_, ?_⟩
  · unfold TopicMessageQuery.step handle
    rw [if_pos delivered]
    dsimp only
    rw [handleGotEvent_finish isFinish, finished]
    exact congrArg some (whileNotExit_of_noExit _ noExit)
  · exact ⟨running, rfl, notComplete, noExit⟩

/-! ## The limit of the attempts -/

/-- If no ending of shutdowns idles behind an event, its call needs no retry. -/
theorem Completes.notRetried (completes : thread.Completes)
    (limited : ∀ next ending reached, thread.step onMessageArrived event = some next →
      (∀ last ∈ ending, last = .shutdown) →
      runEvents (TopicMessageQuery.step onMessageArrived) ending next = some reached →
        reached.NeverIdle) : thread.NotRetried event := by
  cases event with
  | gotEvent ok message grpcStatus =>
      intro running isOpen isFinish noExit
      by_contra retry
      obtain ⟨next, taken, spins⟩ := completes.spins_of_shouldRetry running isOpen isFinish noExit
        (Bool.not_eq_false _ ▸ retry) ok message
      obtain ⟨reached, run, _, handled⟩ := spins.run (defaultMaxAttempts.toNat + 1)
      have kept := (limited next _ reached taken
        (fun _ member => List.eq_of_mem_replicate member) run).shutdowns
      omega
  | timeout => trivial
  | shutdown => trivial
  | exit => trivial

/-- Whatever the events so far, a thread that gets SHUTDOWN from then on handles no more of them
than attempts are allowed, exactly if no call has finished with a status to retry. -/
theorem neverIdle_iff_notRetried
    (onMessageArrived : ConsensusTopicResponse Timestamp TransactionId → Except Exception Unit)
    (limit : UInt64) (events : List (ThreadEvent TransactionId)) :
    (∀ first rest count reached, events = first ++ rest →
      runEvents (step onMessageArrived) (first ++ List.replicate count .shutdown)
        (start limit) = some reached → reached.NeverIdle) ↔
      StepsMeet (step onMessageArrived) NotRetried events (start limit) := by
  have limited : (∀ first rest ending reached, events = first ++ rest →
      (∀ last ∈ ending, last = .shutdown) →
      runEvents (step onMessageArrived) (first ++ ending) (start limit) = some reached →
        reached.NeverIdle) ↔ StepsMeet (step onMessageArrived) NotRetried events (start limit) := by
    apply ahead_good_iff_stepsMeet _ _ _ _ events (completes_start limit)
    · intro thread event next completes notRetried taken
      exact completes.step notRetried taken
    · intro thread completes
      exact completes.neverIdle
    · rintro thread event _ rfl
      trivial
    · intro thread event completes limited
      exact completes.notRetried limited
  rw [← limited]
  constructor
  · intro counted first rest ending reached split onlyShutdown run
    rw [List.eq_replicate_of_mem onlyShutdown] at run
    exact counted first rest ending.length reached split run
  · intro anyEnding first rest count reached split run
    exact anyEnding first rest _ reached split
      (fun _ member => List.eq_of_mem_replicate member) run

/-- The mirror node is unavailable once, and the eleventh SHUTDOWN is handled like the first. -/
theorem not_neverIdle_unavailable : ¬ ∀ events reached,
    runEvents (step (MessageListenerQuery.onMessageArrived
      fun _ : ConsensusTopicResponse Timestamp String => .ok ())) events (start 0) = some reached →
        reached.NeverIdle := by
  intro always
  have limited := (always ([.gotEvent true none .ok, .gotEvent true none .ok,
    .gotEvent false none .ok, .gotEvent true none .unavailable] ++
      List.replicate 11 .shutdown) _ rfl).shutdowns
  exact absurd limited (by decide)

end TopicMessageQuery

end Client

end GradidoNode

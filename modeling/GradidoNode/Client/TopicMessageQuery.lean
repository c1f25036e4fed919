import GradidoNode.Data.Timestamp
import GradidoNode.Hiero.ConsensusTopicResponse
import GradidoNode.Library.Run

/-!
# The live subscription to a topic

One thread takes the events of a completion queue. It drives a call through its states until the
call is finished, and then waits for the end of the queue.
-/

namespace GradidoNode

open Library Data

namespace Hiero

/-- The members that the thread of a subscription changes. -/
structure ConsensusTopicQuery where
  consensusStartTime : Timestamp
  limit : UInt64
  deriving DecidableEq

end Hiero

namespace Client

open Hiero

/-- The default minimum duration before a retry, in milliseconds. -/
def defaultMinBackoff : Nat := 250

/-- The default maximum duration before a retry, in milliseconds. -/
def defaultMaxBackoff : Nat := 8000

/-- The number of attempts before a request is considered failed. -/
def defaultMaxAttempts : UInt64 := 10

inductive CallStatus
  | create
  | write
  | processing
  | finish
  deriving DecidableEq, Repr

/-- `grpc::StatusCode`. -/
inductive StatusCode
  | ok
  | cancelled
  | unknown
  | invalidArgument
  | deadlineExceeded
  | notFound
  | alreadyExists
  | permissionDenied
  | resourceExhausted
  | failedPrecondition
  | aborted
  | outOfRange
  | unimplemented
  | internal
  | unavailable
  | dataLoss
  | unauthenticated
  deriving DecidableEq, Repr

/-- What ends the thread: a value of `ThreadFunction`, an exception that nobody catches, or a
message that is logged as FATAL. The last two end the process. -/
inductive ThreadEnd
  | returned (value : Int32)
  | terminated (exception : Exception)
  | aborted (message : String)
  deriving DecidableEq

/-- What `AsyncNext` delivers, and the destructor of the query, which only sets a flag. With the
end of an operation come the message that a read has found and the status that a finished call
has left. -/
inductive ThreadEvent (TransactionId : Type)
  | timeout
  | gotEvent (ok : Bool)
      (message : Option (ConsensusTopicResponseMessage Timestamp TransactionId))
      (grpcStatus : StatusCode)
  | shutdown
  | exit

/-- The query and its thread, which waits for the next event. -/
structure TopicMessageQuery where
  exitCalled : Bool
  callStatus : CallStatus
  /-- `Shutdown` was called on the completion queue. -/
  queueShutdown : Bool
  /-- `mIsClosed` of the listener. -/
  isClosed : Bool
  query : ConsensusTopicQuery
  backoff : Nat
  attempt : UInt64
  complete : Bool
  ended : Option ThreadEnd
  /-- The time of the last message that was handed to `onMessageArrived`. -/
  lastArrived : Option Timestamp
  /-- The calls that the thread has started, each with `lastArrived` as it was. -/
  newCalls : List (ConsensusTopicQuery × Option Timestamp)
  /-- How many SHUTDOWN events were handled since the last call was started. -/
  shutdowns : Nat
  deriving DecidableEq

namespace TopicMessageQuery

/-- The constructor, and the beginning of `ThreadFunction`. The local query is not the start
query, and its limit is not initialized. -/
def start (limit : UInt64) : TopicMessageQuery where
  exitCalled := false
  callStatus := .create
  queueShutdown := false
  isClosed := false
  query := ⟨default, limit⟩
  backoff := defaultMinBackoff
  attempt := 0
  complete := false
  ended := none
  lastArrived := none
  newCalls := []
  shutdowns := 0

def shouldRetry (status : StatusCode) : Bool :=
  status == .notFound || status == .resourceExhausted || status == .unavailable ||
    status == .internal

def longerBackoff (backoff : Nat) : Nat :=
  if backoff * 2 > defaultMaxBackoff then defaultMaxBackoff else backoff * 2

def shorterBackoff (backoff : Nat) : Nat :=
  if backoff / 2 < defaultMinBackoff then defaultMinBackoff else backoff / 2

/-- The query is adjusted, in case a retry is triggered. -/
def adjustQuery (consensusTimestamp : Timestamp) (query : ConsensusTopicQuery) :
    ConsensusTopicQuery where
  consensusStartTime := if consensusTimestamp.empty then query.consensusStartTime else
    ⟨consensusTimestamp.seconds, consensusTimestamp.nanos + 1⟩
  limit := if query.limit > 0 then query.limit - 1 else query.limit

section ThreadFunction

variable {TransactionId : Type}
  (onMessageArrived : ConsensusTopicResponse Timestamp TransactionId → Except Exception Unit)

/-- The read of `STATUS_PROCESSING` was successful. -/
def processResponse (message : Option (ConsensusTopicResponseMessage Timestamp TransactionId))
    (thread : TopicMessageQuery) : TopicMessageQuery :=
  match ConsensusTopicResponse.deserialize message with
  | .error exception => { thread with ended := some (.terminated exception) }
  | .ok response =>
      let query := adjustQuery response.consensusTimestamp thread.query
      if response.chunkInfo.empty || response.chunkInfo.total == 1 then
        { thread with
          query := query
          lastArrived := some response.consensusTimestamp
          ended := match onMessageArrived response with
            | .ok _ => thread.ended
            | .error exception => some (.terminated exception) }
      else
        { thread with
          query := query
          ended := some (.aborted "Chunked Messages not implemented yet") }

/-- `STATUS_FINISH`. -/
def finishCall (grpcStatus : StatusCode) (thread : TopicMessageQuery) : TopicMessageQuery :=
  if grpcStatus = .ok then
    { thread with queueShutdown := true, complete := true }
  else if thread.attempt ≥ defaultMaxAttempts ∨ shouldRetry grpcStatus = false then
    { thread with queueShutdown := true, complete := true }
  else
    { thread with queueShutdown := true }

/-- The case `GOT_EVENT`. -/
def handleGotEvent (ok : Bool)
    (message : Option (ConsensusTopicResponseMessage Timestamp TransactionId))
    (grpcStatus : StatusCode) (thread : TopicMessageQuery) : TopicMessageQuery :=
  let thread := { thread with backoff := shorterBackoff thread.backoff }
  match thread.callStatus with
  | .create => if ok then { thread with callStatus := .write } else thread
  | .write => if ok then { thread with callStatus := .processing } else thread
  | .processing =>
      if ok then thread.processResponse onMessageArrived message
      else { thread with callStatus := .finish }
  | .finish => thread.finishCall grpcStatus

/-- The case `SHUTDOWN`. That the RPC needs to be retried is a comment: the lines that would send
the query again are commented out. -/
def handleShutdown (thread : TopicMessageQuery) : TopicMessageQuery :=
  if thread.complete then
    { thread with ended := some (.returned 0), shutdowns := thread.shutdowns + 1 }
  else
    { thread with
      backoff := longerBackoff thread.backoff
      attempt := thread.attempt + 1
      isClosed := true
      shutdowns := thread.shutdowns + 1 }

/-- The condition of the loop is tested after an event was handled. -/
def whileNotExit (thread : TopicMessageQuery) : TopicMessageQuery :=
  if thread.ended = none ∧ thread.exitCalled then
    { thread with ended := some (.returned 0) }
  else thread

/-- The queue delivers SHUTDOWN and nothing else once it is shut down, and to a thread that has
ended nothing. -/
def delivers (thread : TopicMessageQuery) : ThreadEvent TransactionId → Bool
  | .timeout => thread.ended.isNone && !thread.queueShutdown
  | .gotEvent .. => thread.ended.isNone && !thread.queueShutdown
  | .shutdown => thread.ended.isNone && thread.queueShutdown
  | .exit => true

/-- One round of the loop of `ThreadFunction`. -/
def handle (thread : TopicMessageQuery) : ThreadEvent TransactionId → TopicMessageQuery
  | .timeout => whileNotExit { thread with backoff := longerBackoff thread.backoff }
  | .gotEvent ok message grpcStatus =>
      whileNotExit (thread.handleGotEvent onMessageArrived ok message grpcStatus)
  | .shutdown => whileNotExit thread.handleShutdown
  | .exit => { thread with exitCalled := true }

def step (thread : TopicMessageQuery) (event : ThreadEvent TransactionId) :
    Option TopicMessageQuery :=
  if thread.delivers event then some (thread.handle onMessageArrived event) else none

end ThreadFunction

/-- No more SHUTDOWN events were handled than attempts are allowed, and new calls resume right
behind the last message. -/
structure NeverIdle (thread : TopicMessageQuery) : Prop where
  shutdowns : thread.shutdowns ≤ defaultMaxAttempts.toNat
  resumes : ∀ call ∈ thread.newCalls, ∀ last, call.2 = some last →
    last.ImmediateSuccessor call.1.consensusStartTime

/-- A call that finishes while the thread goes on was successful, or failed for good. -/
def NotRetried {TransactionId : Type} (thread : TopicMessageQuery) :
    ThreadEvent TransactionId → Prop
  | .gotEvent _ _ grpcStatus => thread.ended = none → thread.queueShutdown = false →
      thread.callStatus = .finish → thread.exitCalled = false → shouldRetry grpcStatus = false
  | _ => True

section Steps

variable {TransactionId : Type}
  {onMessageArrived : ConsensusTopicResponse Timestamp TransactionId → Except Exception Unit}
  {thread next : TopicMessageQuery} {event : ThreadEvent TransactionId}

/-- A step is an event delivered and handled. -/
theorem step_eq_some (taken : thread.step onMessageArrived event = some next) :
    thread.delivers event = true ∧ thread.handle onMessageArrived event = next := by
  unfold step at taken
  split at taken
  · rename_i delivered
    exact ⟨delivered, Option.some.inj taken⟩
  · cases taken

/-- The test of the loop changes nothing but the end. -/
theorem whileNotExit_eq (thread : TopicMessageQuery) :
    ∃ ended, thread.whileNotExit = { thread with ended := ended } := by
  unfold whileNotExit
  split
  · exact ⟨some (.returned 0), rfl⟩
  · exact ⟨thread.ended, rfl⟩

/-- A finished call always shuts the queue down. -/
theorem finishCall_eq (thread : TopicMessageQuery) (grpcStatus : StatusCode) :
    ∃ complete, thread.finishCall grpcStatus =
      { thread with queueShutdown := true, complete := complete } := by
  unfold finishCall
  split
  · exact ⟨true, rfl⟩
  · split
    · exact ⟨true, rfl⟩
    · exact ⟨thread.complete, rfl⟩

/-- What a read changes is the query, the last message and the end. -/
theorem processResponse_eq (thread : TopicMessageQuery)
    (message : Option (ConsensusTopicResponseMessage Timestamp TransactionId)) :
    ∃ query lastArrived ended, thread.processResponse onMessageArrived message =
      { thread with query := query, lastArrived := lastArrived, ended := ended } := by
  unfold processResponse
  split
  · exact ⟨_, _, _, rfl⟩
  · dsimp only
    split
    · exact ⟨_, _, _, rfl⟩
    · exact ⟨_, _, _, rfl⟩

/-- All that the end of an operation can do. -/
theorem handleGotEvent_cases (thread : TopicMessageQuery) (ok : Bool)
    (message : Option (ConsensusTopicResponseMessage Timestamp TransactionId))
    (grpcStatus : StatusCode) :
    (∃ callStatus, thread.handleGotEvent onMessageArrived ok message grpcStatus =
      { thread with backoff := shorterBackoff thread.backoff, callStatus := callStatus }) ∨
    thread.handleGotEvent onMessageArrived ok message grpcStatus =
      processResponse onMessageArrived message
        { thread with backoff := shorterBackoff thread.backoff } ∨
    (thread.callStatus = .finish ∧
      thread.handleGotEvent onMessageArrived ok message grpcStatus =
        finishCall grpcStatus { thread with backoff := shorterBackoff thread.backoff }) := by
  unfold handleGotEvent
  dsimp only
  split
  · split
    · exact Or.inl ⟨.write, rfl⟩
    · exact Or.inl ⟨thread.callStatus, rfl⟩
  · split
    · exact Or.inl ⟨.processing, rfl⟩
    · exact Or.inl ⟨thread.callStatus, rfl⟩
  · split
    · exact Or.inr (Or.inl rfl)
    · exact Or.inl ⟨.finish, rfl⟩
  · rename_i isFinish
    exact Or.inr (Or.inr ⟨isFinish, rfl⟩)

/-! ### The backoff -/

def BackoffBounded (thread : TopicMessageQuery) : Prop :=
  defaultMinBackoff ≤ thread.backoff ∧ thread.backoff ≤ defaultMaxBackoff

/-- A longer wait stays between the bounds. -/
theorem longerBackoff_bounded {backoff : Nat} (least : defaultMinBackoff ≤ backoff) :
    defaultMinBackoff ≤ longerBackoff backoff ∧ longerBackoff backoff ≤ defaultMaxBackoff := by
  unfold longerBackoff
  split
  · decide
  · omega

/-- And so does a shorter one. -/
theorem shorterBackoff_bounded {backoff : Nat} (most : backoff ≤ defaultMaxBackoff) :
    defaultMinBackoff ≤ shorterBackoff backoff ∧ shorterBackoff backoff ≤ defaultMaxBackoff := by
  unfold shorterBackoff
  split
  · decide
  · omega

/-- An event of the queue keeps the wait within its bounds. -/
theorem BackoffBounded.handleGotEvent (bounded : thread.BackoffBounded) (ok : Bool)
    (message : Option (ConsensusTopicResponseMessage Timestamp TransactionId))
    (grpcStatus : StatusCode) :
    (thread.handleGotEvent onMessageArrived ok message grpcStatus).BackoffBounded := by
  have shorter := shorterBackoff_bounded bounded.2
  rcases handleGotEvent_cases thread ok message grpcStatus with
    ⟨_, handled⟩ | handled | ⟨_, handled⟩
  · rw [handled]
    exact shorter
  · obtain ⟨_, _, _, processed⟩ := processResponse_eq
      { thread with backoff := shorterBackoff thread.backoff } message
    rw [handled, processed]
    exact shorter
  · obtain ⟨_, finished⟩ := finishCall_eq
      { thread with backoff := shorterBackoff thread.backoff } grpcStatus
    rw [handled, finished]
    exact shorter

/-- The head of the loop keeps it. -/
theorem BackoffBounded.whileNotExit (bounded : thread.BackoffBounded) :
    thread.whileNotExit.BackoffBounded := by
  obtain ⟨_, tested⟩ := whileNotExit_eq thread
  rw [tested]
  exact bounded

/-- Every step keeps it. -/
theorem BackoffBounded.step (bounded : thread.BackoffBounded)
    (taken : thread.step onMessageArrived event = some next) : next.BackoffBounded := by
  obtain ⟨_, rfl⟩ := step_eq_some taken
  have longer := longerBackoff_bounded bounded.1
  cases event with
  | timeout =>
      have waited : BackoffBounded { thread with backoff := longerBackoff thread.backoff } := longer
      exact waited.whileNotExit
  | gotEvent ok message grpcStatus =>
      exact (bounded.handleGotEvent ok message grpcStatus).whileNotExit
  | shutdown =>
      have handled : thread.handleShutdown.BackoffBounded := by
        unfold handleShutdown
        split
        · exact bounded
        · exact longer
      exact handled.whileNotExit
  | exit => exact bounded

/-- The thread never waits less than the default minimum or more than the default maximum. -/
theorem backoffBounded_of_run {events : List (ThreadEvent TransactionId)} {limit : UInt64}
    {reached : TopicMessageQuery}
    (run : runEvents (step onMessageArrived) events (start limit) = some reached) :
    reached.BackoffBounded := by
  have started : (start limit).BackoffBounded := by
    have ordered : defaultMinBackoff ≤ defaultMaxBackoff := by decide
    exact ⟨Nat.le_refl _, ordered⟩
  exact invariant_of_run (fun _ _ _ bounded taken => bounded.step taken) started run

/-! ### The position to resume at -/

/-- Unless a part of a message has ended the process, the query that would be sent again begins
right behind the last message. -/
def ResumesBehindLast (thread : TopicMessageQuery) : Prop :=
  (∀ text, thread.ended ≠ some (.aborted text)) → ∀ last, thread.lastArrived = some last →
    last.ImmediateSuccessor thread.query.consensusStartTime

/-- The nanosecond behind the message that is read is in the same second. -/
def ReadsWithinSecond (_ : TopicMessageQuery) : ThreadEvent TransactionId → Prop
  | .gotEvent _ message _ => ∀ response, ConsensusTopicResponse.deserialize message = .ok response →
      response.consensusTimestamp.empty = false ∧ response.consensusTimestamp.Canonical ∧
      response.consensusTimestamp.nanos ≠ 999999999
  | _ => True

/-- A response within the second moves the start behind itself. -/
theorem ResumesBehindLast.processResponse (resumes : thread.ResumesBehindLast)
    (running : thread.ended = none)
    {message : Option (ConsensusTopicResponseMessage Timestamp TransactionId)}
    (within : ∀ response, ConsensusTopicResponse.deserialize message = .ok response →
      response.consensusTimestamp.empty = false ∧ response.consensusTimestamp.Canonical ∧
      response.consensusTimestamp.nanos ≠ 999999999) :
    (thread.processResponse onMessageArrived message).ResumesBehindLast := by
  unfold TopicMessageQuery.processResponse
  split
  · refine fun _ => resumes fun text isAborted => ?_
    rw [running] at isAborted
    cases isAborted
  · rename_i response deserialized
    obtain ⟨isSet, canonical, room⟩ := within response deserialized
    dsimp only
    split
    · intro _ last arrived
      cases arrived
      have behind := (Timestamp.immediateSuccessor_add_nano_iff canonical).mpr room
      unfold adjustQuery
      dsimp only
      rw [isSet]
      exact behind
    · exact fun goesOn => absurd rfl (goesOn "Chunked Messages not implemented yet")

/-- The head of the loop keeps the start. -/
theorem ResumesBehindLast.whileNotExit (resumes : thread.ResumesBehindLast) :
    thread.whileNotExit.ResumesBehindLast := by
  unfold TopicMessageQuery.whileNotExit
  split
  · rename_i exits
    refine fun _ => resumes fun text isAborted => ?_
    rw [exits.1] at isAborted
    cases isAborted
  · exact resumes

/-- Every step within the second keeps the start behind the last message. -/
theorem ResumesBehindLast.step (resumes : thread.ResumesBehindLast)
    (within : thread.ReadsWithinSecond event)
    (taken : thread.step onMessageArrived event = some next) : next.ResumesBehindLast := by
  obtain ⟨delivered, rfl⟩ := step_eq_some taken
  cases event with
  | timeout =>
      have waited : ResumesBehindLast { thread with backoff := longerBackoff thread.backoff } :=
        resumes
      exact waited.whileNotExit
  | gotEvent ok message grpcStatus =>
      have handled : (thread.handleGotEvent onMessageArrived ok message
          grpcStatus).ResumesBehindLast := by
        have faster : ResumesBehindLast
            { thread with backoff := shorterBackoff thread.backoff } := resumes
        rcases handleGotEvent_cases thread ok message grpcStatus with
          ⟨_, handled⟩ | handled | ⟨_, handled⟩
        · rw [handled]
          exact resumes
        · have running := Option.isNone_iff_eq_none.mp (Bool.and_eq_true_iff.mp delivered).1
          rw [handled]
          exact faster.processResponse running within
        · obtain ⟨_, finished⟩ := finishCall_eq
            { thread with backoff := shorterBackoff thread.backoff } grpcStatus
          rw [handled, finished]
          exact resumes
      exact handled.whileNotExit
  | shutdown =>
      have handled : thread.handleShutdown.ResumesBehindLast := by
        have running := Option.isNone_iff_eq_none.mp (Bool.and_eq_true_iff.mp delivered).1
        have goesOn (text : String) : thread.ended ≠ some (.aborted text) := by
          rw [running]
          exact Option.some_ne_none _ ∘ Eq.symm
        unfold handleShutdown
        split
        · exact fun _ => resumes goesOn
        · exact fun _ => resumes goesOn
      exact handled.whileNotExit
  | exit => exact resumes

/-- The thread keeps the position to resume at, and would have it if it sent the query. -/
theorem resumesBehindLast_of_run {events : List (ThreadEvent TransactionId)} {limit : UInt64}
    {reached : TopicMessageQuery}
    (readWithin : StepsMeet (step onMessageArrived) ReadsWithinSecond events (start limit))
    (run : runEvents (step onMessageArrived) events (start limit) = some reached) :
    reached.ResumesBehindLast := by
  have started : (start limit).ResumesBehindLast := by
    intro _ last arrived
    cases arrived
  exact invariant_of_stepsMeet
    (fun _ _ _ resumes within taken => resumes.step within taken) started readWithin run

end Steps

end TopicMessageQuery

end Client

namespace Hiero

namespace MessageListenerQuery

variable {TransactionId : Type}

/-- `onMessageArrived`, which hands the message to the ordering manager of the community. -/
def onMessageArrived
    (pushTransaction : ConsensusTopicResponse Timestamp TransactionId → Except Exception Unit)
    (response : ConsensusTopicResponse Timestamp TransactionId) : Except Exception Unit :=
  if !response.chunkInfo.empty && decide (response.chunkInfo.total > 1) then
    .error (.gradidoNotImplemented "Chunked Message processing")
  else pushTransaction response

/-- The thread hands on no message that would not be pushed. -/
theorem onMessageArrived_of_whole
    (pushTransaction : ConsensusTopicResponse Timestamp TransactionId → Except Exception Unit)
    {response : ConsensusTopicResponse Timestamp TransactionId}
    (whole : (response.chunkInfo.empty || response.chunkInfo.total == 1) = true) :
    onMessageArrived pushTransaction response = pushTransaction response := by
  unfold onMessageArrived
  rcases Bool.or_eq_true_iff.mp whole with isEmpty | isOne
  · simp [isEmpty]
  · simp [eq_of_beq isOne]

end MessageListenerQuery

end Hiero

end GradidoNode

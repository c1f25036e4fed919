import GradidoNode.Hiero.ConsensusTopicResponse
import GradidoNode.Tasks.HieroMessageToTransactionTask
import GradidoNode.Library.Run
import Mathlib.Data.List.Sort

/-!
# The ordering manager

Topic messages come in over several connections and are queued by their consensus time.
The ordering thread takes them from the front of the queue, in the order of their sequence
numbers, as soon as they are deserialized.
-/

namespace GradidoNode

open Library Hiero Tasks

namespace Controller

/-- What ends the ordering thread or the whole process. -/
inductive Failure
  | nullPointer
  /-- An exception that leaves `ThreadFunction` or `pushTransaction`. -/
  | escaped (exception : Exception)
  /-- The exception of `updateSequenceNumber`, which leaves `ThreadFunction` too. -/
  | sequenceRefused (exception : Exception)
  /-- The thread locks a mutex that it holds. -/
  | lockedTwice
  /-- A deserialize task stops the application. -/
  | deserializing (fault : TaskFault)
  deriving DecidableEq

/-- `TopicResponseDeserializer`. The name stands for the pointer to the task. -/
structure TopicResponseDeserializer (Timestamp TransactionId Transaction : Type) where
  consensusTopicResponse : ConsensusTopicResponse Timestamp TransactionId
  name : Nat
  deserializeTask : HieroMessageToTransactionTask Transaction
  deriving DecidableEq

inductive CrossGroupType
  | local
  | inbound
  | outbound
  | cross
  deriving DecidableEq

/-- The members of a transaction body that the ordering manager reads. -/
structure TransactionBody where
  type : CrossGroupType
  otherGroup : String
  deriving DecidableEq

/-- What `pushTransaction` is told by the library. -/
structure PushEnvironment (Timestamp : Type) where
  /-- `mLastTransactions.get`: the cache forgets after a while, and the octet of a short
  hash may throw. -/
  lastTransaction : Except Exception (Option Timestamp)
  /-- `isTheSame` of a block with a null pointer, if it returns. -/
  sameAsNull : Option Bool

/-- What `ThreadFunction` asks the node and the blockchain library in one round, and what it
is told. -/
structure RoundEnvironment (Transaction : Type) where
  /-- `findBlockchain` of the own community: it may throw or return null. -/
  blockchain : Except Exception Bool
  /-- `getTransactionBody`: it may throw or return null. -/
  getTransactionBody : Transaction → Except Exception (Option TransactionBody)
  /-- `notificateFailedTransaction`, which reaches the community server. -/
  notified : Except Exception Unit
  /-- The time for finding the pair is over. -/
  timeouted : Bool
  /-- `findBlockchain` of the other group: the own community's or another one's, or null. -/
  otherBlockchain : String → Except Exception (Option Bool)
  isHieroTransactionId : Transaction → Except Exception Bool
  /-- `findCrossGroupTransactionPair` of the other ordering manager. -/
  pairTask : Option (HieroMessageToTransactionTask Transaction)
  isPairing : Transaction → Transaction → Except Exception Bool
  createAndAddConfirmedTransaction : Except Exception Bool
  /-- Storing a state, for `updateLastKnownSequenceNumber`. -/
  updateState : Except Exception Unit

/-- The manager, and what has become of the messages so far. -/
structure SimpleOrderingManager (Timestamp TransactionId Transaction : Type) where
  communityId : String
  transactions : List (TopicResponseDeserializer Timestamp TransactionId Transaction)
  lastSequenceNumber : UInt64
  exitCalled : Bool
  /-- The local that decides whether `ThreadFunction` starts another round. -/
  transactionsCount : Nat
  nextName : Nat
  /-- `LAST_HIERO_TOPIC_SEQUENCE_NUMBER`. -/
  lastKnownSequenceNumber : UInt64
  /-- The sequence numbers that were put into the queue. -/
  pushed : List UInt64
  /-- The sequence numbers that the thread has taken up. -/
  takenUp : List UInt64
  /-- The sequence numbers for which `processTransaction` was called. -/
  processed : List UInt64
  /-- The sequence numbers passed to `updateSequenceNumber`. -/
  consumed : List UInt64
  failure : Option Failure
  deriving DecidableEq

namespace SimpleOrderingManager

variable {Timestamp TransactionId Transaction : Type} [LinearOrder Timestamp]

abbrev Manager (Timestamp TransactionId Transaction : Type) :=
  SimpleOrderingManager Timestamp TransactionId Transaction

/-- `init`, with the position stored by an earlier run. -/
def start (communityId : String) (lastKnownSequenceNumber : UInt64) :
    Manager Timestamp TransactionId Transaction where
  communityId := communityId
  transactions := []
  lastSequenceNumber := lastKnownSequenceNumber
  exitCalled := false
  transactionsCount := 0
  nextName := 0
  lastKnownSequenceNumber := lastKnownSequenceNumber
  pushed := []
  takenUp := []
  processed := []
  consumed := []
  failure := none

def fail (manager : Manager Timestamp TransactionId Transaction) (failure : Failure) :
    Manager Timestamp TransactionId Transaction :=
  { manager with failure := some failure }

/-- `isMessageSame`; nothing where a null pointer is read. -/
def isMessageSame (environment : PushEnvironment Timestamp)
    (present other : ConsensusTopicResponse Timestamp TransactionId) : Option Bool :=
  match present.message, other.message with
  | none, _ => none
  | some _, none => environment.sameAsNull
  | some data, some otherData => some (data = otherData)

/-- The search among the messages of the same consensus time. -/
def anyMessageSame (environment : PushEnvironment Timestamp)
    (response : ConsensusTopicResponse Timestamp TransactionId) :
    List (TopicResponseDeserializer Timestamp TransactionId Transaction) → Option Bool
  | [] => some false
  | entry :: rest =>
      match isMessageSame environment entry.consensusTopicResponse response with
      | none => none
      | some true => some true
      | some false => anyMessageSame environment response rest

/-- `mTransactions.insert`: behind the messages of the same consensus time. -/
def insert (entry : TopicResponseDeserializer Timestamp TransactionId Transaction)
    (entries : List (TopicResponseDeserializer Timestamp TransactionId Transaction)) :
    List (TopicResponseDeserializer Timestamp TransactionId Transaction) :=
  entries.orderedInsert (fun first second =>
    first.consensusTopicResponse.consensusTimestamp <
      second.consensusTopicResponse.consensusTimestamp) entry

def pushTransaction (environment : PushEnvironment Timestamp)
    (response : ConsensusTopicResponse Timestamp TransactionId)
    (manager : Manager Timestamp TransactionId Transaction) :
    Manager Timestamp TransactionId Transaction :=
  if manager.exitCalled then manager
  else
    match response.runningHash with
    | none => manager.fail .nullPointer
    | some _ =>
        match environment.lastTransaction with
        | .error exception => manager.fail (.escaped exception)
        | .ok existing =>
            if existing = some response.consensusTimestamp then manager
            else
              match anyMessageSame environment response (manager.transactions.filter fun entry =>
                  entry.consensusTopicResponse.consensusTimestamp =
                    response.consensusTimestamp) with
              | none => manager.fail .nullPointer
              | some true => manager
              | some false => { manager with
                  transactions := insert {
                    consensusTopicResponse := response
                    name := manager.nextName
                    deserializeTask := .new } manager.transactions
                  nextName := manager.nextName + 1
                  pushed := manager.pushed ++ [response.sequenceNumber] }

/-- The task of a name is still to be run. -/
def isScheduled (name : Nat) (manager : Manager Timestamp TransactionId Transaction) : Bool :=
  manager.transactions.any fun entry =>
    decide (entry.name = name) && !entry.deserializeTask.finished

/-- What takes the application down when the task of a name is run. -/
def faultOf (environment : TaskEnvironment Transaction) (name : Nat)
    (manager : Manager Timestamp TransactionId Transaction) : Option Failure :=
  if manager.isScheduled name then
    match HieroMessageToTransactionTask.run environment with
    | .ok _ => none
    | .error fault => some (.deserializing fault)
  else none

/-- A worker runs the deserialize task of a name. -/
def finishTask (environment : TaskEnvironment Transaction) (name : Nat)
    (manager : Manager Timestamp TransactionId Transaction) :
    Manager Timestamp TransactionId Transaction :=
  { manager with
    transactions := manager.transactions.map fun entry =>
      if entry.name = name ∧ entry.deserializeTask.finished = false then
        { entry with deserializeTask := entry.deserializeTask.execute environment }
      else entry
    failure := manager.failure.or (manager.faultOf environment name) }

omit [LinearOrder Timestamp] in
/-- The application stays up if it was and the task does not take it down. -/
theorem finishTask_running {environment : TaskEnvironment Transaction} {name : Nat}
    {manager : Manager Timestamp TransactionId Transaction} :
    (manager.finishTask environment name).failure = none ↔
      manager.failure = none ∧ manager.faultOf environment name = none :=
  Option.or_eq_none_iff

omit [LinearOrder Timestamp] in
/-- The fault of a task is a failure of its own. -/
theorem exists_fault {environment : TaskEnvironment Transaction} {name : Nat}
    {manager : Manager Timestamp TransactionId Transaction} {failure : Failure}
    (faults : manager.faultOf environment name = some failure) :
    ∃ fault, failure = .deserializing fault := by
  unfold faultOf at faults
  split at faults
  · split at faults
    · cases faults
    · cases faults
      exact ⟨_, rfl⟩
  · cases faults

def updateSequenceNumber (newSequenceNumber : UInt64)
    (manager : Manager Timestamp TransactionId Transaction) :
    Manager Timestamp TransactionId Transaction :=
  let manager := { manager with consumed := manager.consumed ++ [newSequenceNumber] }
  if manager.lastSequenceNumber = 0 then
    { manager with lastSequenceNumber := newSequenceNumber }
  else if manager.lastSequenceNumber + 1 = newSequenceNumber ∨ 1 = newSequenceNumber then
    { manager with lastSequenceNumber := newSequenceNumber }
  else manager.fail
    (.sequenceRefused (.gradidoNodeInvalidData "invalid value for newSequenceNumber"))

/-- The try block of `processTransaction`; serializing the id is part of the confirming. -/
def confirm (environment : RoundEnvironment Transaction) : Except Exception Unit := do
  let _ ← environment.createAndAddConfirmedTransaction
  environment.updateState

def processTransaction (environment : RoundEnvironment Transaction)
    (entry : TopicResponseDeserializer Timestamp TransactionId Transaction)
    (manager : Manager Timestamp TransactionId Transaction) :
    Manager Timestamp TransactionId Transaction :=
  let manager := { manager with
    processed := manager.processed ++ [entry.consensusTopicResponse.sequenceNumber] }
  match environment.blockchain with
  | .error exception => manager.fail (.escaped exception)
  | .ok false =>
      manager.fail (.escaped (.communityNotFound "couldn't find group" manager.communityId))
  | .ok true =>
      match entry.consensusTopicResponse.chunkInfo.initialTransactionId with
      | none => manager.fail
          (.escaped (.gradidoNodeInvalidData "missing transaction id in hiero response"))
      | some _ =>
          match confirm environment with
          | .ok _ => { manager with lastKnownSequenceNumber := manager.lastSequenceNumber }
          | .error exception =>
              if exception.isGradidoBlockchainException then
                match environment.notified with
                | .error exception => manager.fail (.escaped exception)
                | .ok _ =>
                    -- the handler tries to store the position, whatever comes of it
                    match environment.updateState with
                    | .ok _ =>
                        { manager with lastKnownSequenceNumber := manager.lastSequenceNumber }
                    | .error _ => manager
              else manager.fail (.escaped exception)

/-- What `ThreadFunction` does with the message whose turn it is. -/
inductive Decision
  | fail (failure : Failure)
  | skip
  | wait
  | process
  deriving DecidableEq

/-- Skip a transaction and tell the community server, if the own blockchain is there. -/
def skipNotified (environment : RoundEnvironment Transaction) (found : Bool) : Decision :=
  if found then
    match environment.notified with
    | .ok _ => .skip
    | .error exception => .fail (.escaped exception)
  else .skip

/-- What the task of the pair leads to, as far as it is there and finished. -/
def decidePair (environment : RoundEnvironment Transaction) (found : Bool)
    (transaction : Transaction) : Decision :=
  match environment.pairTask with
  | none => .wait
  | some pairTask =>
      if pairTask.finished then
        match pairTask.transaction with
        | none => .fail .nullPointer
        | some pair =>
            match environment.isPairing pair transaction with
            | .error exception => .fail (.escaped exception)
            | .ok false => skipNotified environment found
            | .ok true => .process
      else .wait

/-- The branch for an inbound cross group transaction. Its pair is looked for under the
mutex of the other manager, which may be this one. -/
def decideInbound (environment : RoundEnvironment Transaction) (exitCalled : Bool)
    (transaction : Transaction) (body : TransactionBody) : Decision :=
  match environment.blockchain with
  | .error exception => .fail (.escaped exception)
  | .ok found =>
      if environment.timeouted then skipNotified environment found
      else
        match environment.otherBlockchain body.otherGroup with
        | .error exception => .fail (.escaped exception)
        | .ok none => skipNotified environment found
        | .ok (some own) =>
            match environment.isHieroTransactionId transaction with
            | .error exception => .fail (.escaped exception)
            | .ok false => skipNotified environment found
            | .ok true =>
                if own && exitCalled then .wait
                else if own then .fail .lockedTwice
                else decidePair environment found transaction

/-- From `getGradidoTransaction` to the end of the cross group check. -/
def turnDecision (environment : RoundEnvironment Transaction) (exitCalled : Bool)
    (entry : TopicResponseDeserializer Timestamp TransactionId Transaction) : Decision :=
  match entry.deserializeTask.transaction with
  | none => .fail .nullPointer
  | some transaction =>
      match environment.getTransactionBody transaction with
      | .error exception => .fail (.escaped exception)
      | .ok none => .fail .nullPointer
      | .ok (some body) =>
          if body.type = .inbound then decideInbound environment exitCalled transaction body
          else .process

/-- `return 0`. -/
def returned (manager : Manager Timestamp TransactionId Transaction) :
    Manager Timestamp TransactionId Transaction :=
  { manager with transactionsCount := 0 }

/-- The end of a round, which an exception does not reach: the message leaves the queue. -/
def finishRound (currentSequenceNumber : UInt64)
    (rest : List (TopicResponseDeserializer Timestamp TransactionId Transaction))
    (manager : Manager Timestamp TransactionId Transaction) :
    Manager Timestamp TransactionId Transaction :=
  if manager.failure.isSome then manager
  else
    { { manager with transactions := rest }.updateSequenceNumber currentSequenceNumber with
      transactionsCount := rest.length }

/-- The message at the front, whose turn it is. -/
def takeUp (environment : RoundEnvironment Transaction)
    (entry : TopicResponseDeserializer Timestamp TransactionId Transaction)
    (rest : List (TopicResponseDeserializer Timestamp TransactionId Transaction))
    (manager : Manager Timestamp TransactionId Transaction) :
    Manager Timestamp TransactionId Transaction :=
  let currentSequenceNumber := entry.consensusTopicResponse.sequenceNumber
  let takenUp := { manager with takenUp := manager.takenUp ++ [currentSequenceNumber] }
  match turnDecision environment manager.exitCalled entry with
  | .wait => manager
  | .fail failure => takenUp.fail failure
  | .skip => { takenUp with transactions := rest }.updateSequenceNumber currentSequenceNumber
  | .process =>
      if entry.deserializeTask.success then
        (takenUp.processTransaction environment entry).finishRound currentSequenceNumber rest
      else takenUp.finishRound currentSequenceNumber rest

/-- One round of the loop of `ThreadFunction`, which holds the mutex of the queue. Another
round follows at once if `transactionsCount` is not 0, else with the next call. -/
def round (environment : RoundEnvironment Transaction)
    (manager : Manager Timestamp TransactionId Transaction) :
    Manager Timestamp TransactionId Transaction :=
  match manager.transactions with
  | [] => manager.returned
  | entry :: rest =>
      if entry.deserializeTask.finished = false then manager.returned
      else if manager.lastSequenceNumber + 1 < entry.consensusTopicResponse.sequenceNumber then
        manager.returned
      else if manager.lastSequenceNumber ≠ 0 ∧
          manager.lastSequenceNumber ≥ entry.consensusTopicResponse.sequenceNumber then
        { manager with transactions := rest }
      else manager.takeUp environment entry rest

end SimpleOrderingManager

/-- What happens to a manager, in any order. -/
inductive OrderingEvent (Timestamp TransactionId Transaction : Type)
  | push (environment : PushEnvironment Timestamp)
      (response : ConsensusTopicResponse Timestamp TransactionId)
  | finishTask (environment : TaskEnvironment Transaction) (name : Nat)
  | round (environment : RoundEnvironment Transaction)
  | exit

namespace SimpleOrderingManager

variable {Timestamp TransactionId Transaction : Type} [LinearOrder Timestamp]

/-- Nothing happens any more once the process or the thread is down. -/
def step (manager : Manager Timestamp TransactionId Transaction)
    (event : OrderingEvent Timestamp TransactionId Transaction) :
    Option (Manager Timestamp TransactionId Transaction) :=
  if manager.failure.isSome then none
  else
    match event with
    | .push environment response => some (manager.pushTransaction environment response)
    | .finishTask environment name => some (manager.finishTask environment name)
    | .round environment => some (manager.round environment)
    | .exit => some { manager with exitCalled := true }

end SimpleOrderingManager

end Controller

end GradidoNode

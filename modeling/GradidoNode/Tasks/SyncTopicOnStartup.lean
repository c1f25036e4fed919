import GradidoNode.Data.Timestamp
import GradidoNode.Hiero.ConsensusTopicResponse
import GradidoNode.Library.Ascending

/-!
# Catching up with a topic

At startup the messages behind the last confirmed transaction are loaded from the mirror node,
in batches, and handed to the ordering manager. Then a live subscription takes over.
-/

namespace GradidoNode

open Library Data Hiero

namespace Tasks

/-- What is known of the last transaction. -/
inductive LastTransactionState
  | IDENTICAL
  | NONE
  | NOT_FOUND
  | INVALID
  | NOT_IDENTICAL
  deriving DecidableEq

abbrev TopicResponse (TransactionId : Type) := ConsensusTopicResponse Timestamp TransactionId

/-- What `run` asks the blockchain, the mirror node and the blockchain library. -/
structure SyncEnvironment (TopicId TransactionId : Type) where
  /-- The confirmation of the last transaction, if there is one. -/
  lastTransaction : Option Timestamp
  getTopicMessageByConsensusTimestamp : Timestamp → TopicResponse TransactionId
  isGradidoTransaction : List UInt8 → Bool
  /-- The transaction has the fingerprint of the last transaction. -/
  hasSameFingerprint : List UInt8 → Bool
  listTopicMessagesById : TopicId → Timestamp → Nat → List (TopicResponse TransactionId)
  /-- The topic id of the topic info, if it is not empty. -/
  topicInfo : Option TopicId

/-- The task, with the messages it has pushed so far. -/
structure SyncTopicOnStartup (TopicId TransactionId : Type) where
  lastKnownSequenceNumber : UInt64
  lastKnowTopicId : TopicId
  confirmedAtLastReadedTransaction : Timestamp
  pushed : List (TopicResponse TransactionId)

/-- What the task leaves: the position the ordering manager was started with, the messages of
the topics that were pushed, and the time the live subscription begins with. -/
structure Synced (TransactionId : Type) where
  lastKnownSequenceNumber : UInt64
  previousTopic : List (TopicResponse TransactionId)
  currentTopic : List (TopicResponse TransactionId)
  listenFrom : Timestamp

namespace SyncTopicOnStartup

variable {TopicId TransactionId : Type}

/-- `MAGIC_NUMBER_MIRROR_API_GET_TOPIC_MESSAGES_BULK_SIZE`. -/
def bulkSize : Nat := 25

/-- Where the last transaction is found on the mirror node, its sequence number is the last
known one. -/
def checkLastTransaction (environment : SyncEnvironment TopicId TransactionId)
    (task : SyncTopicOnStartup TopicId TransactionId) :
    LastTransactionState × SyncTopicOnStartup TopicId TransactionId :=
  match environment.lastTransaction with
  | none => (.NONE, task)
  | some confirmedAt =>
      let transactionFromMirror := environment.getTopicMessageByConsensusTimestamp confirmedAt
      match transactionFromMirror.message with
      | none => (.NOT_FOUND, task)
      | some lastTransactionMirrorRaw =>
          if !environment.isGradidoTransaction lastTransactionMirrorRaw then (.INVALID, task)
          else if !environment.hasSameFingerprint lastTransactionMirrorRaw then
            (.NOT_IDENTICAL, task)
          else (.IDENTICAL,
            { task with lastKnownSequenceNumber := transactionFromMirror.sequenceNumber })

section Loading

variable (listTopicMessagesById : Timestamp → Nat → List (TopicResponse TransactionId))

/-- The loop, which may run out of fuel. It yields how many messages it has loaded. -/
def loadTransactionsFromMirrorNode : (fuel addedTransactionsSum : Nat) →
    SyncTopicOnStartup TopicId TransactionId →
      Option (Nat × SyncTopicOnStartup TopicId TransactionId)
  | 0, _, _ => none
  | fuel + 1, addedTransactionsSum, task =>
      let responses := listTopicMessagesById task.confirmedAtLastReadedTransaction bulkSize
      match responses.getLast? with
      | none => some (addedTransactionsSum, task)
      | some last =>
          let loaded := { task with
            confirmedAtLastReadedTransaction := last.consensusTimestamp
            pushed := task.pushed ++ responses }
          if responses.length = bulkSize then
            loadTransactionsFromMirrorNode fuel (addedTransactionsSum + responses.length) loaded
          else some (addedTransactionsSum + responses.length, loaded)

end Loading

/-- `startListening`: the live subscription begins one nanosecond later. -/
def listenFrom (lastTransactionConfirmedAt : Timestamp) : Timestamp where
  seconds := lastTransactionConfirmedAt.seconds
  nanos := lastTransactionConfirmedAt.nanos + 1

/-- The position up to which the last transaction is known, and the time to load from. -/
def checked (environment : SyncEnvironment TopicId TransactionId)
    (task : SyncTopicOnStartup TopicId TransactionId) :
    SyncTopicOnStartup TopicId TransactionId :=
  let lastTransaction := task.checkLastTransaction environment
  { lastTransaction.2 with
    confirmedAtLastReadedTransaction :=
      if lastTransaction.1 = .IDENTICAL then environment.lastTransaction.getD ⟨0, 0⟩ else ⟨0, 0⟩
    pushed := [] }

/-- Was there a topic reset? Then the messages of the present topic are loaded too. -/
def loadCurrentTopic [DecidableEq TopicId] (environment : SyncEnvironment TopicId TransactionId)
    (fuel : Nat) (task : SyncTopicOnStartup TopicId TransactionId) :
    Option (Nat × SyncTopicOnStartup TopicId TransactionId) :=
  match environment.topicInfo with
  | none => some (0, task)
  | some topicId =>
      if topicId = task.lastKnowTopicId then some (0, task)
      else loadTransactionsFromMirrorNode (environment.listTopicMessagesById topicId) fuel 0 task

/-- The messages of the last known topic are loaded first. -/
def run [DecidableEq TopicId] (environment : SyncEnvironment TopicId TransactionId) (fuel : Nat)
    (task : SyncTopicOnStartup TopicId TransactionId) : Option (Synced TransactionId) := do
  let started := task.checked environment
  let previous ← loadTransactionsFromMirrorNode
    (environment.listTopicMessagesById started.lastKnowTopicId) fuel 0 started
  let current ← loadCurrentTopic environment fuel { previous.2 with pushed := [] }
  return {
    lastKnownSequenceNumber := started.lastKnownSequenceNumber
    previousTopic := previous.2.pushed
    currentTopic := current.2.pushed
    listenFrom := listenFrom current.2.confirmedAtLastReadedTransaction }

end SyncTopicOnStartup

end Tasks

end GradidoNode

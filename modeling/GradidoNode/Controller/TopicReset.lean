import GradidoNode.Controller.SequenceNumbers
import GradidoNode.Tasks.SyncTopicOnStartup

/-!
# The sequence numbers after a topic reset

The messages of a new topic count from 1 again. `updateSequenceNumber` would accept that, but
the round has dropped the message before, as one that was consumed already.
-/

namespace GradidoNode

open Library Hiero Tasks

namespace Controller

namespace SimpleOrderingManager

section

variable {Timestamp TransactionId Transaction : Type}

/-- The responses that are pushed, in the order of the pushes. -/
def pushedResponses (events : List (OrderingEvent Timestamp TransactionId Transaction)) :
    List (ConsensusTopicResponse Timestamp TransactionId) :=
  events.filterMap fun event =>
    match event with
    | .push _ response => some response
    | _ => none

theorem numbered_of_pushedResponses
    {events : List (OrderingEvent Timestamp TransactionId Transaction)}
    (numbered : ∀ response ∈ pushedResponses events, 1 ≤ response.sequenceNumber) :
    ∀ event ∈ events, Numbered event := by
  intro event member
  cases event with
  | push environment response =>
      exact numbered response (List.mem_filterMap.mpr ⟨_, member, rfl⟩)
  | finishTask _ _ => trivial
  | round _ => trivial
  | exit => trivial

/-- Once something is consumed, a message with number 1 is dropped. -/
theorem InSequence.round_reset {lastKnownSequenceNumber : UInt64}
    {manager : Manager Timestamp TransactionId Transaction}
    (inSequence : InSequence lastKnownSequenceNumber manager) (before : manager.consumed ≠ [])
    {entry : TopicResponseDeserializer Timestamp TransactionId Transaction}
    {rest : List (TopicResponseDeserializer Timestamp TransactionId Transaction)}
    (queue : manager.transactions = entry :: rest)
    (finished : entry.deserializeTask.finished = true)
    (first : entry.consensusTopicResponse.sequenceNumber = 1)
    (room : manager.lastSequenceNumber.toNat + 1 < 2 ^ 64)
    (environment : RoundEnvironment Transaction) :
    manager.round environment = { manager with transactions := rest } := by
  have counted := inSequence.last
  have someConsumed := List.length_pos_of_ne_nil before
  have notZero : manager.lastSequenceNumber ≠ 0 := by
    intro zero
    rw [zero, UInt64.toNat_zero] at counted
    omega
  have behind : manager.lastSequenceNumber ≥ 1 := by
    change 1 ≤ manager.lastSequenceNumber
    rw [UInt64.le_iff_toNat_le]
    change 1 ≤ manager.lastSequenceNumber.toNat
    omega
  have notBeyond : ¬ manager.lastSequenceNumber + 1 < 1 := by
    intro below
    rw [UInt64.lt_iff_toNat_lt, UInt64.toNat_add] at below
    change (manager.lastSequenceNumber.toNat + 1) % 2 ^ 64 < 1 at below
    omega
  unfold SimpleOrderingManager.round
  rw [queue]
  dsimp only
  rw [finished, first, if_neg Bool.noConfusion, if_neg notBeyond, if_pos ⟨notZero, behind⟩]

end

variable {TopicId TransactionId Transaction : Type}

/-- The messages of the old topic are consumed, and then all those of the new one. -/
def LosesNothing (synced : Synced TransactionId)
    (manager : Manager Data.Timestamp TransactionId Transaction) : Prop :=
  manager.consumed = (synced.previousTopic ++ synced.currentTopic).map
    ConsensusTopicResponse.sequenceNumber

/-- A message of the new topic is dropped where its number is 1 and something was consumed. -/
def DropsFirst (manager : Manager Data.Timestamp TransactionId Transaction) : Prop :=
  ∀ entry rest, manager.transactions = entry :: rest →
    entry.deserializeTask.finished = true → entry.consensusTopicResponse.sequenceNumber = 1 →
    ∀ environment : RoundEnvironment Transaction,
      manager.round environment = { manager with transactions := rest }

/-- Whatever the startup loads of the topics and however tasks and rounds interleave with the
pushes, where old messages are followed by a new topic that counts from 1 it is never consumed
behind them: its first message is dropped. -/
theorem topicReset_loses_of_run {count : Nat} {synced : Synced TransactionId}
    (someOld : synced.previousTopic ≠ [])
    (numbered : ∀ response ∈ synced.previousTopic, 1 ≤ response.sequenceNumber)
    (restarted : synced.currentTopic.map (fun response => response.sequenceNumber.toNat) =
      List.range' 1 (count + 1))
    {communityId : String} {events : List (OrderingEvent Data.Timestamp TransactionId Transaction)}
    {manager : Manager Data.Timestamp TransactionId Transaction}
    (pushes : pushedResponses events = synced.previousTopic ++ synced.currentTopic)
    (reached : runEvents step events (start communityId synced.lastKnownSequenceNumber) =
      some manager) :
    ¬ LosesNothing synced manager ∧
      (manager.consumed ≠ [] → manager.lastSequenceNumber.toNat + 1 < 2 ^ 64 →
        DropsFirst manager) := by
  have allNumbered : ∀ response ∈ pushedResponses events, 1 ≤ response.sequenceNumber := by
    intro response member
    rw [pushes] at member
    rcases List.mem_append.mp member with old | new
    · exact numbered response old
    · have inRange : response.sequenceNumber.toNat ∈ List.range' 1 (count + 1) := by
        rw [← restarted]
        exact List.mem_map_of_mem new
      rw [UInt64.le_iff_toNat_le]
      exact (List.mem_range'_1.mp inRange).1
  have inSequence : InSequence synced.lastKnownSequenceNumber manager :=
    invariant_of_stepsMeet (fun _ _ _ inSequence isNumbered taken =>
        InSequence.step inSequence isNumbered taken)
      (InSequence.start communityId synced.lastKnownSequenceNumber)
      (stepsMeet_of_forall (numbered_of_pushedResponses allNumbered) _) reached
  refine ⟨fun losesNothing => ?_, fun consumed room entry rest queue finished first environment =>
    inSequence.round_reset consumed queue finished first room environment⟩
  have gapless := inSequence.consumed
  rw [losesNothing, List.map_append, List.map_append, List.map_map, List.map_map] at gapless
  have newNumbers : synced.currentTopic.map (UInt64.toNat ∘ ConsensusTopicResponse.sequenceNumber) =
      List.range' 1 (count + 1) := restarted
  rw [newNumbers] at gapless
  have oldLength := List.length_pos_of_ne_nil someOld
  have atReset := congrArg (fun numbers => numbers[synced.previousTopic.length]?) gapless
  rw [List.getElem?_append_right (by rw [List.length_map]), List.length_map, Nat.sub_self,
    List.getElem?_range' (Nat.succ_pos count), List.getElem?_range'] at atReset
  · have same := Option.some.inj atReset
    omega
  · rw [List.length_append, List.length_map, List.length_map]
    have newLength : synced.currentTopic.length = count + 1 := by
      rw [← @List.length_map _ _ _ fun response => response.sequenceNumber.toNat, restarted,
        List.length_range']
    omega

section Example

/-- The first message of a topic, confirmed in this second. -/
def firstMessage (seconds : Int64) : ConsensusTopicResponse Data.Timestamp Nat where
  consensusTimestamp := ⟨seconds, 0⟩
  message := some [1]
  runningHash := some [1]
  sequenceNumber := 1
  runningHashVersion := 3
  chunkInfo := { initialTransactionId := some 1, total := 1, number := 1 }

/-- Topic 1 was replaced by topic 2, and each has one message. -/
def resetTopics : SyncEnvironment Nat Nat where
  lastTransaction := none
  getTopicMessageByConsensusTimestamp _ := .new
  isGradidoTransaction _ := false
  hasSameFingerprint _ := false
  listTopicMessagesById topicId confirmedAt limit :=
    (laterThan ConsensusTopicResponse.consensusTimestamp confirmedAt
      [firstMessage (if topicId = 1 then 10 else 20)]).take limit
  topicInfo := some 2

def syncTask : SyncTopicOnStartup Nat Nat where
  lastKnownSequenceNumber := 0
  lastKnowTopicId := 1
  confirmedAtLastReadedTransaction := ⟨0, 0⟩
  pushed := []

/-- Both messages are deserialized and taken up one after the other. -/
def bothTopics : List (OrderingEvent Data.Timestamp Nat Nat) :=
  [.push { lastTransaction := .ok none, sameAsNull := none } (firstMessage 10),
   .push { lastTransaction := .ok none, sameAsNull := none } (firstMessage 20),
   .finishTask (deserializingTask 1) 0, .finishTask (deserializingTask 1) 1,
   .round confirmingRound, .round confirmingRound]

theorem synced_resetTopics : ∃ synced, syncTask.run resetTopics 2 = some synced ∧
    synced.lastKnownSequenceNumber = 0 ∧ synced.previousTopic = [firstMessage 10] ∧
      synced.currentTopic = [firstMessage 20] :=
  ⟨_, rfl, rfl, rfl, rfl⟩

theorem reached_bothTopics :
    ∃ manager : Manager Data.Timestamp Nat Nat,
      runEvents step bothTopics (start "community" 0) = some manager ∧
      manager.transactions = [] ∧ manager.consumed = [1] :=
  ⟨_, rfl, rfl, rfl⟩

/-- Both queued messages are gone, and only the old one was consumed. -/
theorem not_losesNothing_bothTopics :
    ∃ (synced : Synced Nat) (manager : Manager Data.Timestamp Nat Nat),
      syncTask.run resetTopics 2 = some synced ∧
      pushedResponses bothTopics = synced.previousTopic ++ synced.currentTopic ∧
      runEvents step bothTopics (start "community" synced.lastKnownSequenceNumber) =
        some manager ∧
      manager.transactions = [] ∧ ¬ LosesNothing synced manager := by
  obtain ⟨synced, isSynced, known, previous, current⟩ := synced_resetTopics
  obtain ⟨manager, reached, empty, consumed⟩ := reached_bothTopics
  refine ⟨synced, manager, isSynced, ?_, ?_, empty, fun losesNothing => ?_⟩
  · rw [previous, current]
    rfl
  · rw [known]
    exact reached
  · unfold LosesNothing at losesNothing
    rw [consumed, previous, current] at losesNothing
    exact absurd (congrArg List.length losesNothing) (by decide)

/-- The startup loads one message of either topic, and the second is lost. -/
theorem topicReset_loses_bothTopics :
    ∃ (synced : Synced Nat) (manager : Manager Data.Timestamp Nat Nat),
      syncTask.run resetTopics 2 = some synced ∧ manager.consumed = [1] ∧
      ¬ LosesNothing synced manager ∧
      (manager.consumed ≠ [] → manager.lastSequenceNumber.toNat + 1 < 2 ^ 64 →
        DropsFirst manager) := by
  obtain ⟨synced, isSynced, known, previous, current⟩ := synced_resetTopics
  obtain ⟨manager, reached, _, consumed⟩ := reached_bothTopics
  refine ⟨synced, manager, isSynced, consumed,
    @topicReset_loses_of_run _ _ 0 synced ?_ ?_ ?_ "community" bothTopics _ ?_ ?_⟩
  · rw [previous]
    exact List.cons_ne_nil _ _
  · rw [previous]
    intro response member
    rw [List.mem_singleton.mp member]
    exact UInt64.le_refl 1
  · rw [current]
    rfl
  · rw [previous, current]
    rfl
  · rw [known]
    exact reached

end Example

end SimpleOrderingManager

end Controller

end GradidoNode

import GradidoNode.Controller.PairedInbound
import GradidoNode.Controller.TopicReset
import GradidoNode.Tasks.TopicCoverage

/-!
# A restart resumes behind the last known message

At startup the messages behind the last transaction are loaded and the ordering manager is started
with its sequence number. Whatever the live subscription delivers besides, in whatever order: what
the ordering thread consumes are the messages that follow, one after the other, and once the queue
is empty all that were loaded.
-/

namespace GradidoNode

open Library Hiero Tasks

namespace Controller

namespace SimpleOrderingManager

section Round

variable {Timestamp TransactionId Transaction : Type}
  {manager : Manager Timestamp TransactionId Transaction}

/-- What a round does to the records of a manager: at most, a message of the queue is consumed. -/
structure RoundFrame (manager next : Manager Timestamp TransactionId Transaction) : Prop where
  pushed : next.pushed = manager.pushed
  exitCalled : next.exitCalled = manager.exitCalled
  consumed : next.consumed = manager.consumed ∨ ∃ entry ∈ manager.transactions,
    next.consumed = manager.consumed ++ [entry.consensusTopicResponse.sequenceNumber]

/-- Counting a sequence number up records it as consumed and leaves what was pushed. -/
theorem updateSequenceNumber_frame (newSequenceNumber : UInt64)
    (manager : Manager Timestamp TransactionId Transaction) :
    (manager.updateSequenceNumber newSequenceNumber).pushed = manager.pushed ∧
      (manager.updateSequenceNumber newSequenceNumber).exitCalled = manager.exitCalled ∧
      (manager.updateSequenceNumber newSequenceNumber).consumed =
        manager.consumed ++ [newSequenceNumber] := by
  unfold updateSequenceNumber
  dsimp only
  split
  · exact ⟨rfl, rfl, rfl⟩
  · split
    · exact ⟨rfl, rfl, rfl⟩
    · exact ⟨rfl, rfl, rfl⟩

/-- Processing a transaction does not ask the thread to end. -/
theorem processTransaction_exitCalled (environment : RoundEnvironment Transaction)
    (entry : TopicResponseDeserializer Timestamp TransactionId Transaction)
    (manager : Manager Timestamp TransactionId Transaction) :
    (manager.processTransaction environment entry).exitCalled = manager.exitCalled := by
  unfold processTransaction
  dsimp only
  repeat' split
  all_goals rfl

/-- The end of a round leaves what was pushed and consumes at most the current number. -/
theorem finishRound_frame (currentSequenceNumber : UInt64)
    (rest : List (TopicResponseDeserializer Timestamp TransactionId Transaction))
    (manager : Manager Timestamp TransactionId Transaction) :
    (manager.finishRound currentSequenceNumber rest).pushed = manager.pushed ∧
      (manager.finishRound currentSequenceNumber rest).exitCalled = manager.exitCalled ∧
      ((manager.finishRound currentSequenceNumber rest).consumed = manager.consumed ∨
        (manager.finishRound currentSequenceNumber rest).consumed =
          manager.consumed ++ [currentSequenceNumber]) := by
  unfold finishRound
  split
  · exact ⟨rfl, rfl, Or.inl rfl⟩
  · obtain ⟨pushed, exitCalled, consumed⟩ :=
      updateSequenceNumber_frame currentSequenceNumber { manager with transactions := rest }
    exact ⟨pushed, exitCalled, Or.inr consumed⟩

/-- Taking up a queued message keeps what was pushed and adds at most that message to what was
consumed. -/
theorem takeUp_frame (environment : RoundEnvironment Transaction)
    {entry : TopicResponseDeserializer Timestamp TransactionId Transaction}
    (rest : List (TopicResponseDeserializer Timestamp TransactionId Transaction))
    (member : entry ∈ manager.transactions) :
    RoundFrame manager (manager.takeUp environment entry rest) := by
  unfold takeUp
  dsimp only
  cases turnDecision environment manager.exitCalled entry with
  | fail failure => exact ⟨rfl, rfl, Or.inl rfl⟩
  | wait => exact ⟨rfl, rfl, Or.inl rfl⟩
  | skip =>
      obtain ⟨pushed, exitCalled, consumed⟩ := updateSequenceNumber_frame
        entry.consensusTopicResponse.sequenceNumber { manager with
          takenUp := manager.takenUp ++ [entry.consensusTopicResponse.sequenceNumber]
          transactions := rest }
      exact ⟨pushed, exitCalled, Or.inr ⟨entry, member, consumed⟩⟩
  | process =>
      dsimp only
      split
      · have processed := processTransaction_processed environment entry { manager with
          takenUp := manager.takenUp ++ [entry.consensusTopicResponse.sequenceNumber] }
        obtain ⟨pushed, exitCalled, consumed⟩ := finishRound_frame
          entry.consensusTopicResponse.sequenceNumber rest ({ manager with
            takenUp := manager.takenUp ++ [entry.consensusTopicResponse.sequenceNumber]
            }.processTransaction environment entry)
        rw [processed.consumed] at consumed
        exact ⟨pushed.trans processed.pushed,
          exitCalled.trans (processTransaction_exitCalled _ _ _),
          consumed.imp_right fun isNext => ⟨entry, member, isNext⟩⟩
      · obtain ⟨pushed, exitCalled, consumed⟩ := finishRound_frame
          entry.consensusTopicResponse.sequenceNumber rest { manager with
            takenUp := manager.takenUp ++ [entry.consensusTopicResponse.sequenceNumber] }
        exact ⟨pushed, exitCalled, consumed.imp_right fun isNext => ⟨entry, member, isNext⟩⟩

/-- The same of a whole round of the thread. -/
theorem round_frame (environment : RoundEnvironment Transaction)
    (manager : Manager Timestamp TransactionId Transaction) :
    RoundFrame manager (manager.round environment) := by
  unfold round
  split
  · exact ⟨rfl, rfl, Or.inl rfl⟩
  · rename_i entry rest queue
    split
    · exact ⟨rfl, rfl, Or.inl rfl⟩
    · split
      · exact ⟨rfl, rfl, Or.inl rfl⟩
      · split
        · exact ⟨rfl, rfl, Or.inl rfl⟩
        · exact takeUp_frame environment rest (queue ▸ List.mem_cons_self ..)

/-- Where a round calls `processTransaction`, then for the number that follows the last one. -/
theorem processed_of_round [LinearOrder Timestamp] {lastKnownSequenceNumber : UInt64}
    (inSequence : InSequence lastKnownSequenceNumber manager)
    (environment : RoundEnvironment Transaction) :
    ∀ number ∈ (manager.round environment).processed,
      number ∈ manager.processed ∨ number.toNat = manager.lastSequenceNumber.toNat + 1 := by
  intro number member
  by_cases grown : (manager.round environment).processed = manager.processed
  · exact Or.inl (grown ▸ member)
  · obtain ⟨entry, isTurn, _, processed⟩ := exists_turn_of_round_processed grown
    rw [processed] at member
    obtain ⟨rest, queue, _, notBeyond, notBehind⟩ := turn_eq_some_iff.mp isTurn
    rcases List.mem_append.mp member with before | last
    · exact Or.inl before
    · rw [List.mem_singleton.mp last]
      have positive := inSequence.queued entry (queue ▸ List.mem_cons_self ..)
      exact Or.inr (follows_of_turn positive notBeyond notBehind)

end Round

section Topic

variable {TransactionId Transaction : Type}
  {manager next : Manager Data.Timestamp TransactionId Transaction}
  {messages : List (TopicResponse TransactionId)} {lastKnownSequenceNumber : UInt64}

/-- The messages of a topic: numbered from 1, and one confirmed after the other. -/
structure NumberedTopic (messages : List (TopicResponse TransactionId)) : Prop where
  ascending : messages.Pairwise fun first second =>
    first.consensusTimestamp < second.consensusTimestamp
  numbers : messages.map (fun response => response.sequenceNumber.toNat) =
    List.range' 1 messages.length
  delivered : ∀ response ∈ messages, Delivered response

/-- Messages of the topic are pushed, as often as they come, and the cache of the last
transactions remembers only what was pushed. -/
def FromTopic (messages : List (TopicResponse TransactionId))
    (manager : Manager Data.Timestamp TransactionId Transaction) :
    OrderingEvent Data.Timestamp TransactionId Transaction → Prop
  | .push environment response => response ∈ messages ∧
      ∀ known, environment.lastTransaction = .ok (some known) →
        ∃ other ∈ messages, other.consensusTimestamp = known ∧
          other.sequenceNumber ∈ manager.pushed
  | _ => True

/-- The mirror node numbers a topic's messages from 1 on. -/
theorem NumberedTopic.positive (topic : NumberedTopic messages) {response : TopicResponse TransactionId}
    (member : response ∈ messages) : 1 ≤ response.sequenceNumber := by
  have inRange : response.sequenceNumber.toNat ∈ List.range' 1 messages.length := by
    rw [← topic.numbers]
    exact List.mem_map_of_mem member
  exact UInt64.le_iff_toNat_le.mpr (List.mem_range'_1.mp inRange).1

/-- The consensus time tells the messages of a topic apart. -/
theorem NumberedTopic.same_of_time (topic : NumberedTopic messages)
    {first second : TopicResponse TransactionId} (isFirst : first ∈ messages)
    (isSecond : second ∈ messages) (same : first.consensusTimestamp = second.consensusTimestamp) :
    first = second := by
  have distinct : (messages.map ConsensusTopicResponse.consensusTimestamp).Nodup :=
    (List.pairwise_map.mpr topic.ascending).imp fun earlier => ne_of_lt earlier
  exact List.inj_on_of_nodup_map distinct isFirst isSecond same

/-- All that is known of a manager whose messages come from the topic. -/
structure Accounted (messages : List (TopicResponse TransactionId))
    (lastKnownSequenceNumber : UInt64)
    (manager : Manager Data.Timestamp TransactionId Transaction) : Prop where
  inSequence : InSequence lastKnownSequenceNumber manager
  following : Following manager
  queued : ∀ entry ∈ manager.transactions, entry.consensusTopicResponse ∈ messages ∧
    entry.consensusTopicResponse.sequenceNumber ∈ manager.pushed
  consumed : ∀ number ∈ manager.consumed, ∃ response ∈ messages, response.sequenceNumber = number
  processed : ∀ number ∈ manager.processed, lastKnownSequenceNumber < number

/-- At the start every message above the last known number is still to come. -/
theorem Accounted.start (messages : List (TopicResponse TransactionId)) (communityId : String)
    (lastKnownSequenceNumber : UInt64) :
    Accounted messages lastKnownSequenceNumber (start communityId lastKnownSequenceNumber :
      Manager Data.Timestamp TransactionId Transaction) :=
  ⟨InSequence.start .., Following.start .., nofun, nofun, nofun⟩

/-- A round of the thread keeps the account. -/
theorem Accounted.round (accounted : Accounted messages lastKnownSequenceNumber manager)
    (fine : manager.failure = none) (environment : RoundEnvironment Transaction) :
    Accounted messages lastKnownSequenceNumber (manager.round environment) := by
  have frame := round_frame environment manager
  refine ⟨accounted.inSequence.round fine environment,
    (accounted.following.round fine environment).1, fun entry member => ?_, fun number member => ?_,
    fun number member => ?_⟩
  · rw [frame.pushed]
    exact accounted.queued entry (mem_of_mem_round member)
  · rcases frame.consumed with same | ⟨entry, isQueued, consumed⟩
    · exact accounted.consumed number (same ▸ member)
    · rw [consumed] at member
      rcases List.mem_append.mp member with before | last
      · exact accounted.consumed number before
      · rw [List.mem_singleton.mp last]
        exact ⟨_, (accounted.queued entry isQueued).1, rfl⟩
  · rcases processed_of_round accounted.inSequence environment number member with before | follows
    · exact accounted.processed number before
    · rw [UInt64.lt_iff_toNat_lt, follows, accounted.inSequence.last]
      omega

/-- A push of a message of the topic keeps it. -/
theorem Accounted.push (accounted : Accounted messages lastKnownSequenceNumber manager)
    (topic : NumberedTopic messages) (fine : manager.failure = none)
    (environment : PushEnvironment Data.Timestamp) {response : TopicResponse TransactionId}
    (member : response ∈ messages) :
    Accounted messages lastKnownSequenceNumber (manager.pushTransaction environment response) := by
  have inSequence : InSequence lastKnownSequenceNumber
      (manager.pushTransaction environment response) :=
    accounted.inSequence.push (topic.positive member)
  have following := (accounted.following.push fine environment (topic.delivered response member)).1
  rcases pushTransaction_cases environment response manager with
    same | failed | ⟨exception, failed⟩ | inserted
  · rwa [same]
  · rw [failed] at inSequence following ⊢
    exact ⟨inSequence, following, accounted.queued, accounted.consumed, accounted.processed⟩
  · rw [failed] at inSequence following ⊢
    exact ⟨inSequence, following, accounted.queued, accounted.consumed, accounted.processed⟩
  · rw [inserted] at inSequence following ⊢
    refine ⟨inSequence, following, fun entry isQueued => ?_, accounted.consumed,
      accounted.processed⟩
    rcases (List.mem_orderedInsert ..).mp isQueued with rfl | before
    · exact ⟨member, List.mem_append_right _ (List.mem_singleton_self _)⟩
    · exact ⟨(accounted.queued entry before).1,
        List.mem_append_left _ (accounted.queued entry before).2⟩

/-- A finished task keeps it. -/
theorem Accounted.finishTask (accounted : Accounted messages lastKnownSequenceNumber manager)
    (environment : TaskEnvironment Transaction) (name : Nat) :
    Accounted messages lastKnownSequenceNumber (manager.finishTask environment name) := by
  refine ⟨accounted.inSequence.finishTask environment name,
    accounted.following.finishTask environment name, fun entry member => ?_, accounted.consumed,
    accounted.processed⟩
  obtain ⟨before, isBefore, rfl⟩ := List.mem_map.mp member
  have queued := accounted.queued before isBefore
  split <;> exact queued

/-- A failed node takes no step. -/
theorem failure_of_step {event : OrderingEvent Data.Timestamp TransactionId Transaction}
    (taken : manager.step event = some next) : manager.failure = none := by
  unfold step at taken
  split at taken
  · cases taken
  · rename_i running
    exact Option.not_isSome_iff_eq_none.mp running

/-- An event of the topic is a numbered one whose pushes are delivered. -/
theorem NumberedTopic.numbered (topic : NumberedTopic messages)
    {event : OrderingEvent Data.Timestamp TransactionId Transaction}
    (fromTopic : FromTopic messages manager event) :
    Numbered event ∧ PushesDelivered event := by
  cases event with
  | push environment response =>
      exact ⟨topic.positive fromTopic.1, topic.delivered response fromTopic.1⟩
  | finishTask | round | exit => exact ⟨trivial, trivial⟩

/-- Every step of the node on the topic keeps the account. -/
theorem Accounted.step (accounted : Accounted messages lastKnownSequenceNumber manager)
    (topic : NumberedTopic messages)
    {event : OrderingEvent Data.Timestamp TransactionId Transaction}
    (fromTopic : FromTopic messages manager event) (taken : manager.step event = some next) :
    Accounted messages lastKnownSequenceNumber next := by
  have fine := failure_of_step taken
  obtain ⟨numbered, delivered⟩ := topic.numbered fromTopic
  have inSequence := accounted.inSequence.step numbered taken
  have following := (accounted.following.step fine delivered taken).1
  unfold SimpleOrderingManager.step at taken
  rw [if_neg (Option.not_isSome_iff_eq_none.mpr fine)] at taken
  cases event with
  | push environment response =>
      cases taken
      exact accounted.push topic fine environment fromTopic.1
  | finishTask environment name =>
      cases taken
      exact accounted.finishTask environment name
  | round environment =>
      cases taken
      exact accounted.round fine environment
  | exit =>
      cases taken
      exact ⟨inSequence, following, accounted.queued, accounted.consumed, accounted.processed⟩

/-! ## No message is lost between the push and the end -/

/-- The number is on record, unless the manager is told to exit. -/
def Recorded (number : UInt64) (manager : Manager Data.Timestamp TransactionId Transaction) : Prop :=
  manager.exitCalled = false → number ∈ manager.pushed

/-- A number once recorded stays recorded. -/
theorem Recorded.step {number : UInt64} (recorded : Recorded number manager)
    {event : OrderingEvent Data.Timestamp TransactionId Transaction}
    (taken : manager.step event = some next) : Recorded number next := by
  have fine := failure_of_step taken
  unfold SimpleOrderingManager.step at taken
  rw [if_neg (Option.not_isSome_iff_eq_none.mpr fine)] at taken
  intro up
  cases event with
  | push environment response =>
      cases taken
      rcases pushTransaction_cases environment response manager with
        same | failed | ⟨exception, failed⟩ | inserted
      · rw [same] at up ⊢
        exact recorded up
      · rw [failed] at up ⊢
        exact recorded up
      · rw [failed] at up ⊢
        exact recorded up
      · rw [inserted] at up ⊢
        exact List.mem_append_left _ (recorded up)
  | finishTask environment name =>
      cases taken
      exact recorded up
  | round environment =>
      cases taken
      have frame := round_frame environment manager
      rw [frame.pushed]
      exact recorded (frame.exitCalled ▸ up)
  | exit =>
      cases taken
      cases up

/-- A message found in the queue makes the queue non-empty. -/
theorem ne_nil_of_anyMessageSame {environment : PushEnvironment Data.Timestamp}
    {response : TopicResponse TransactionId}
    {entries : List (TopicResponseDeserializer Data.Timestamp TransactionId Transaction)}
    (same : anyMessageSame environment response entries = some true) : entries ≠ [] := by
  rintro rfl
  cases same

/-- A message of the topic is on record after the push, unless the thread is down. -/
theorem Accounted.recorded_of_push (accounted : Accounted messages lastKnownSequenceNumber manager)
    (topic : NumberedTopic messages) {environment : PushEnvironment Data.Timestamp}
    {response : TopicResponse TransactionId}
    (fromTopic : FromTopic messages manager (.push environment response))
    (fine : (manager.pushTransaction environment response).failure = none) :
    Recorded response.sequenceNumber (manager.pushTransaction environment response) := by
  obtain ⟨member, honest⟩ := fromTopic
  intro up
  unfold pushTransaction at fine up ⊢
  split at up
  · rename_i exiting
    cases exiting.symm.trans up
  · rename_i running
    rw [if_neg running] at fine ⊢
    cases hashed : response.runningHash with
    | none => simp [hashed, fail] at fine
    | some runningHash =>
        simp only [hashed] at fine ⊢
        cases asked : environment.lastTransaction with
        | error exception => simp [asked, fail] at fine
        | ok existing =>
            simp only [asked] at fine ⊢
            by_cases known : existing = some response.consensusTimestamp
            · rw [if_pos known]
              obtain ⟨other, isOther, sameTime, isPushed⟩ :=
                honest response.consensusTimestamp (known ▸ asked)
              rwa [← topic.same_of_time isOther member sameTime]
            · rw [if_neg known] at fine ⊢
              split at fine
              · cases fine
              · rename_i compared
                -- a message of this time is in the queue, and the topic has only one
                obtain ⟨entry, isEntry⟩ :=
                  List.exists_mem_of_ne_nil _ (ne_nil_of_anyMessageSame compared)
                obtain ⟨isQueued, sameTime⟩ := List.mem_filter.mp isEntry
                obtain ⟨ofTopic, isPushed⟩ := accounted.queued entry isQueued
                simp only [decide_eq_true_eq] at sameTime
                rwa [topic.same_of_time ofTopic member sameTime] at isPushed
              · exact List.mem_append_right _ (List.mem_singleton_self _)

/-- What is pushed in a run is on record at its end. -/
theorem Accounted.recorded_of_run (accounted : Accounted messages lastKnownSequenceNumber manager)
    (topic : NumberedTopic messages)
    {events : List (OrderingEvent Data.Timestamp TransactionId Transaction)}
    (fromTopic : StepsMeet SimpleOrderingManager.step (FromTopic messages) events manager)
    (reached : runEvents SimpleOrderingManager.step events manager = some next)
    (fine : next.failure = none) {response : TopicResponse TransactionId}
    (pushed : response ∈ pushedResponses events) : Recorded response.sequenceNumber next := by
  obtain ⟨event, member, isPush⟩ := List.mem_filterMap.mp pushed
  obtain ⟨first, rest, rfl⟩ := List.append_of_mem member
  obtain ⟨middle, before, after⟩ := runEvents_append.mp reached
  obtain ⟨queued, taken, last⟩ := runEvents_cons.mp after
  have stable (state : Manager Data.Timestamp TransactionId Transaction)
      (event : OrderingEvent Data.Timestamp TransactionId Transaction)
      (after : Manager Data.Timestamp TransactionId Transaction)
      (accounted : Accounted messages lastKnownSequenceNumber state)
      (fromTopic : FromTopic messages state event) (taken : state.step event = some after) :
      Accounted messages lastKnownSequenceNumber after :=
    accounted.step topic fromTopic taken
  have accountedThen := invariant_of_stepsMeet stable accounted fromTopic.left before
  have stillUp : queued.failure = none := by
    cases rest with
    | nil =>
        cases last
        exact fine
    | cons other rest =>
        obtain ⟨_, goesOn, _⟩ := runEvents_cons.mp last
        exact failure_of_step goesOn
  cases event with
  | finishTask | round | exit => cases isPush
  | push environment delivered =>
      cases isPush
      have running := failure_of_step taken
      unfold SimpleOrderingManager.step at taken
      rw [if_neg (Option.not_isSome_iff_eq_none.mpr running)] at taken
      cases taken
      exact invariant_of_run (fun _ _ _ recorded taken => recorded.step taken)
        (accountedThen.recorded_of_push topic (fromTopic.at_event before) stillUp) last

/-- The message at a position has the next number. -/
theorem NumberedTopic.number_getElem (topic : NumberedTopic messages) {index : Nat}
    (inside : index < messages.length) : messages[index].sequenceNumber.toNat = index + 1 := by
  have number := congrArg (fun numbers => numbers[index]?) topic.numbers
  simp only [List.getElem?_map, List.getElem?_eq_getElem inside, Option.map_some,
    List.getElem?_range' inside, Option.some.injEq] at number
  omega

/-- What is confirmed later has the greater number. -/
theorem NumberedTopic.later_iff (topic : NumberedTopic messages)
    {first second : TopicResponse TransactionId} (isFirst : first ∈ messages)
    (isSecond : second ∈ messages) :
    first.consensusTimestamp < second.consensusTimestamp ↔
      first.sequenceNumber < second.sequenceNumber := by
  obtain ⟨i, insideFirst, rfl⟩ := List.mem_iff_getElem.mp isFirst
  obtain ⟨j, insideSecond, rfl⟩ := List.mem_iff_getElem.mp isSecond
  have ordered := List.pairwise_iff_getElem.mp topic.ascending
  rw [UInt64.lt_iff_toNat_lt, topic.number_getElem insideFirst, topic.number_getElem insideSecond]
  constructor
  · intro later
    by_contra notLess
    rcases Nat.lt_or_eq_of_le (by omega : j ≤ i) with less | rfl
    · exact lt_asymm later (ordered j i insideSecond insideFirst less)
    · exact lt_irrefl _ later
  · exact fun less => ordered i j insideFirst insideSecond (by omega)

/-- What the ordering thread has made of the topic behind the known number. -/
structure Resumed (messages : List (TopicResponse TransactionId)) (lastKnownSequenceNumber : UInt64)
    (manager : Manager Data.Timestamp TransactionId Transaction) : Prop where
  /-- The numbers that follow are consumed, one after the other. -/
  consecutive : manager.consumed.map UInt64.toNat =
    List.range' (lastKnownSequenceNumber.toNat + 1) manager.consumed.length
  ofTopic : ∀ number ∈ manager.consumed, ∃ response ∈ messages, response.sequenceNumber = number
  /-- Nothing up to the known number is handed over again. -/
  fresh : ∀ number ∈ manager.processed, lastKnownSequenceNumber < number

/-- The account of all messages is what resuming asks for. -/
theorem Accounted.resumed (accounted : Accounted messages lastKnownSequenceNumber manager) :
    Resumed messages lastKnownSequenceNumber manager :=
  ⟨accounted.inSequence.consumed, accounted.consumed, accounted.processed⟩

/-- Behind the known number, what is on record is consumed once the queue is empty. -/
theorem Accounted.mem_consumed (accounted : Accounted messages lastKnownSequenceNumber manager)
    (empty : manager.transactions = []) {number : UInt64} (isPushed : number ∈ manager.pushed)
    (behind : lastKnownSequenceNumber < number) : number ∈ manager.consumed := by
  rcases accounted.following.kept number isPushed with ⟨entry, isQueued, _⟩ | passed
  · rw [empty] at isQueued
    cases isQueued
  · rw [UInt64.le_iff_toNat_le, accounted.inSequence.last] at passed
    rw [UInt64.lt_iff_toNat_lt] at behind
    have inRange : number.toNat ∈ manager.consumed.map UInt64.toNat := by
      rw [accounted.inSequence.consumed, List.mem_range'_1]
      omega
    obtain ⟨other, isConsumed, same⟩ := List.mem_map.mp inRange
    rwa [← UInt64.toNat_inj.mp same]

end Topic

end SimpleOrderingManager

end Controller

namespace Tasks

namespace SyncTopicOnStartup

open Controller SimpleOrderingManager

variable {TopicId TransactionId Transaction : Type} {messages : List (TopicResponse TransactionId)}
  {environment : SyncEnvironment TopicId TransactionId}
  {task : SyncTopicOnStartup TopicId TransactionId}

/-- The mirror node has the first messages of the topic at startup, and finds them by their
consensus time. -/
structure MirrorsTopic (environment : SyncEnvironment TopicId TransactionId) (topicId : TopicId)
    (messages : List (TopicResponse TransactionId)) (count : Nat) : Prop where
  lists : ListsTopic (environment.listTopicMessagesById topicId) (messages.take count)
  finds : ∀ confirmedAt, (environment.getTopicMessageByConsensusTimestamp confirmedAt).message ≠ none →
    environment.getTopicMessageByConsensusTimestamp confirmedAt ∈ messages.take count ∧
      (environment.getTopicMessageByConsensusTimestamp confirmedAt).consensusTimestamp = confirmedAt

/-- Everything the check of the last transaction leads to. -/
theorem checkLastTransaction_cases (environment : SyncEnvironment TopicId TransactionId)
    (task : SyncTopicOnStartup TopicId TransactionId) :
    (∃ confirmedAt, environment.lastTransaction = some confirmedAt ∧
      (environment.getTopicMessageByConsensusTimestamp confirmedAt).message ≠ none ∧
      task.checkLastTransaction environment = (.IDENTICAL, { task with
        lastKnownSequenceNumber :=
          (environment.getTopicMessageByConsensusTimestamp confirmedAt).sequenceNumber })) ∨
    (task.checkLastTransaction environment).1 ≠ .IDENTICAL ∧
      (task.checkLastTransaction environment).2 = task := by
  unfold checkLastTransaction
  cases environment.lastTransaction with
  | none => exact Or.inr ⟨nofun, rfl⟩
  | some confirmedAt =>
      dsimp only
      cases found : (environment.getTopicMessageByConsensusTimestamp confirmedAt).message with
      | none => exact Or.inr ⟨nofun, rfl⟩
      | some lastTransactionMirrorRaw =>
          dsimp only
          split
          · exact Or.inr ⟨nofun, rfl⟩
          · split
            · exact Or.inr ⟨nofun, rfl⟩
            · exact Or.inl ⟨confirmedAt, rfl, found ▸ nofun, rfl⟩

/-- Without a reset the task loads what is later than the last transaction. -/
theorem run_of_sameTopic [DecidableEq TopicId] {topic : List (TopicResponse TransactionId)}
    {fuel : Nat}
    (sameTopic : ∀ topicId, environment.topicInfo = some topicId → topicId = task.lastKnowTopicId)
    (lists : ListsTopic (environment.listTopicMessagesById task.lastKnowTopicId) topic)
    (ascending : topic.Pairwise fun first second =>
      first.consensusTimestamp < second.consensusTimestamp)
    (enough : topic.length < fuel) :
    ∃ synced, run environment fuel task = some synced ∧
      synced.lastKnownSequenceNumber = (task.checked environment).lastKnownSequenceNumber ∧
      synced.previousTopic = laterThan ConsensusTopicResponse.consensusTimestamp
        (task.checked environment).confirmedAtLastReadedTransaction topic := by
  have known : (task.checked environment).lastKnowTopicId = task.lastKnowTopicId := by
    unfold checked
    rcases checkLastTransaction_cases environment task with ⟨_, _, _, same⟩ | ⟨_, same⟩
    · simp only [same]
    · simp only [same]
  have nothingElse (confirmedAt : Data.Timestamp) (pushed : List (TopicResponse TransactionId)) :
      loadCurrentTopic environment fuel { task.checked environment with
        confirmedAtLastReadedTransaction := confirmedAt
        pushed := pushed } = some (0, { task.checked environment with
          confirmedAtLastReadedTransaction := confirmedAt
          pushed := pushed }) := by
    unfold loadCurrentTopic
    cases isInfo : environment.topicInfo with
    | none => rfl
    | some topicId =>
        dsimp only
        rw [if_pos ((sameTopic topicId isInfo).trans known.symm)]
  obtain ⟨_, loads⟩ := loadTransactionsFromMirrorNode_of_fuel (known ▸ lists) ascending fuel 0
    (task.checked environment) (lt_of_le_of_lt (List.length_filter_le _ _) enough)
  unfold run
  dsimp only
  rw [loads]
  dsimp only [Option.bind_eq_bind, Option.bind_some]
  rw [nothingElse]
  exact ⟨_, rfl, rfl, rfl⟩

/-- Where the startup begins: behind the message of the last transaction, or if this was not found,
behind the stored number, with the whole topic to load. -/
theorem checked_of_mirrors {count : Nat} (topic : NumberedTopic messages)
    (afterStart : ∀ response ∈ messages, ⟨0, 0⟩ < response.consensusTimestamp)
    (mirrors : MirrorsTopic environment task.lastKnowTopicId messages count)
    {response : TopicResponse TransactionId} (member : response ∈ messages.take count)
    (behind : (task.checked environment).lastKnownSequenceNumber < response.sequenceNumber) :
    (task.checked environment).confirmedAtLastReadedTransaction < response.consensusTimestamp := by
  have isMessage := List.mem_of_mem_take member
  unfold checked at behind ⊢
  rcases checkLastTransaction_cases environment task with
    ⟨confirmedAt, isLast, present, identical⟩ | ⟨different, same⟩
  · obtain ⟨isFound, sameTime⟩ := mirrors.finds confirmedAt present
    simp only [identical, isLast] at behind ⊢
    rw [if_pos trivial, Option.getD_some, ← sameTime]
    exact (topic.later_iff (List.mem_of_mem_take isFound) isMessage).mpr behind
  · dsimp only
    rw [if_neg different]
    exact afterStart response isMessage

/-- Whatever the check of the last transaction says: with the messages of one topic loaded, and
whatever messages of it are delivered in whatever order besides, the thread consumes the messages
that follow the known number, one after the other. Once all that were loaded are pushed and the
queue is empty, none of them is missing. -/
theorem resumed_of_run [DecidableEq TopicId] {count fuel : Nat} (topic : NumberedTopic messages)
    (afterStart : ∀ response ∈ messages, ⟨0, 0⟩ < response.consensusTimestamp)
    (mirrors : MirrorsTopic environment task.lastKnowTopicId messages count)
    (sameTopic : ∀ topicId, environment.topicInfo = some topicId → topicId = task.lastKnowTopicId)
    (enough : messages.length < fuel) :
    ∃ synced, task.run environment fuel = some synced ∧
      ((task.checkLastTransaction environment).1 = .IDENTICAL → ∃ last ∈ messages.take count,
        environment.lastTransaction = some last.consensusTimestamp ∧
          synced.lastKnownSequenceNumber = last.sequenceNumber) ∧
      ((task.checkLastTransaction environment).1 ≠ .IDENTICAL →
        synced.lastKnownSequenceNumber = task.lastKnownSequenceNumber) ∧
      ∀ (communityId : String)
        (events : List (OrderingEvent Data.Timestamp TransactionId Transaction))
        (manager : Manager Data.Timestamp TransactionId Transaction),
        StepsMeet step (FromTopic messages) events
          (start communityId synced.lastKnownSequenceNumber) →
        runEvents step events (start communityId synced.lastKnownSequenceNumber) = some manager →
        Resumed messages synced.lastKnownSequenceNumber manager ∧
          (synced.previousTopic ⊆ pushedResponses events → manager.transactions = [] →
            manager.failure = none → manager.exitCalled = false →
            ∀ response ∈ messages.take count,
              synced.lastKnownSequenceNumber < response.sequenceNumber →
                response.sequenceNumber ∈ manager.consumed) := by
  obtain ⟨synced, isSynced, known, loaded⟩ := run_of_sameTopic sameTopic mirrors.lists
    (topic.ascending.sublist (List.take_sublist _ _))
    (lt_of_le_of_lt (List.length_take_le' _ _) enough)
  refine ⟨synced, isSynced, ?identical, ?other, ?resumes⟩
  case identical =>
    intro identical
    rw [known]
    unfold checked
    rcases checkLastTransaction_cases environment task with
      ⟨confirmedAt, isLast, present, same⟩ | ⟨different, _⟩
    · obtain ⟨isFound, sameTime⟩ := mirrors.finds confirmedAt present
      exact ⟨_, isFound, isLast.trans (congrArg some sameTime.symm), by simp only [same]⟩
    · exact absurd identical different
  case other =>
    intro different
    rw [known]
    unfold checked
    rcases checkLastTransaction_cases environment task with ⟨_, _, _, same⟩ | ⟨_, same⟩
    · rw [same] at different
      exact absurd rfl different
    · simp only [same]
  case resumes =>
    intro communityId events manager fromTopic reached
    have started : Accounted messages synced.lastKnownSequenceNumber
        (start communityId synced.lastKnownSequenceNumber :
          Manager Data.Timestamp TransactionId Transaction) :=
      Accounted.start messages communityId _
    have accounted : Accounted messages synced.lastKnownSequenceNumber manager :=
      invariant_of_stepsMeet (fun _ _ _ accounted isFrom taken => accounted.step topic isFrom taken)
        started fromTopic reached
    refine ⟨accounted.resumed, fun allPushed empty fine up response member behind => ?_⟩
    have isLoaded : response ∈ synced.previousTopic := by
      rw [loaded]
      exact mem_laterThan.mpr ⟨member, checked_of_mirrors topic afterStart mirrors member
        (known ▸ behind)⟩
    have isPushed := started.recorded_of_run topic fromTopic reached fine (allPushed isLoaded) up
    exact accounted.mem_consumed empty isPushed behind

section Example

/-- The message of a topic with this number. -/
def topicMessage (sequenceNumber : Int64) : TopicResponse Nat :=
  .ofJson ⟨10 * sequenceNumber, 0⟩ [sequenceNumber.toUInt64.toUInt8]
    [sequenceNumber.toUInt64.toUInt8] 3 sequenceNumber
    (some { initialTransactionId := some 1, total := 1, number := 1 })

def threeMessages : List (TopicResponse Nat) := [topicMessage 1, topicMessage 2, topicMessage 3]

/-- The last transaction before the restart was the first of three messages. -/
def afterFirst : SyncEnvironment Nat Nat where
  lastTransaction := some ⟨10, 0⟩
  getTopicMessageByConsensusTimestamp confirmedAt :=
    if confirmedAt = ⟨10, 0⟩ then topicMessage 1 else .new
  isGradidoTransaction _ := true
  hasSameFingerprint _ := true
  listTopicMessagesById _ confirmedAt limit :=
    (laterThan ConsensusTopicResponse.consensusTimestamp confirmedAt threeMessages).take limit
  topicInfo := some 1

/-- The live subscription delivers the last message before it is loaded. -/
def restarted : List (OrderingEvent Data.Timestamp Nat Nat) :=
  [.push { lastTransaction := .ok none, sameAsNull := none } (topicMessage 3),
   .push { lastTransaction := .ok none, sameAsNull := none } (topicMessage 2),
   .push { lastTransaction := .ok (some ⟨30, 0⟩), sameAsNull := none } (topicMessage 3),
   .finishTask (deserializingTask 3) 0, .round confirmingRound,
   .finishTask (deserializingTask 2) 1, .round confirmingRound, .round confirmingRound]

/-- Three messages, numbered 1 to 3. -/
theorem numberedTopic_threeMessages : NumberedTopic threeMessages where
  ascending := by decide
  numbers := rfl
  delivered response member := by
    rcases List.mem_cons.mp member with rfl | member
    · exact Or.inr ⟨_, _, _, _, _, _, rfl⟩
    · rcases List.mem_cons.mp member with rfl | member
      · exact Or.inr ⟨_, _, _, _, _, _, rfl⟩
      · rw [List.mem_singleton.mp member]
        exact Or.inr ⟨_, _, _, _, _, _, rfl⟩

/-- A node that stored the first message sees that topic at its mirror node. -/
theorem mirrorsTopic_afterFirst :
    MirrorsTopic afterFirst syncTask.lastKnowTopicId threeMessages 3 where
  lists _ _ := rfl
  finds confirmedAt present := by
    unfold afterFirst at present ⊢
    dsimp only at present ⊢
    split at present
    · rename_i isFirst
      rw [if_pos isFirst]
      exact ⟨List.mem_cons_self .., isFirst.symm⟩
    · exact absurd rfl present

/-- Every event of the example run brings a message of the topic. -/
theorem fromTopic_restarted :
    StepsMeet step (FromTopic threeMessages) restarted (start "community" 1) := by
  refine StepsMeet.cons ⟨by decide, nofun⟩ rfl ?_
  refine StepsMeet.cons ⟨by decide, nofun⟩ rfl ?_
  refine StepsMeet.cons ⟨by decide, ?_⟩ rfl ?_
  · rintro known ⟨⟩
    exact ⟨topicMessage 3, by decide, rfl, by decide⟩
  · exact ⟨trivial, fun _ _ => ⟨trivial, fun _ _ => ⟨trivial, fun _ _ => ⟨trivial, fun _ _ =>
      ⟨trivial, fun _ _ => trivial⟩⟩⟩⟩⟩

/-- The example run ends with an empty queue and no failure. -/
theorem reached_restarted : ∃ manager : Manager Data.Timestamp Nat Nat,
    runEvents step restarted (start "community" 1) = some manager ∧ manager.transactions = [] ∧
      manager.failure = none ∧ manager.exitCalled = false :=
  ⟨_, rfl, rfl, rfl, rfl⟩

/-- A restart behind the first message: the sync keeps its number, and the second and third are
consumed. -/
theorem resumed_restarted :
    ∃ synced, syncTask.run afterFirst 4 = some synced ∧ synced.lastKnownSequenceNumber = 1 ∧
      ∃ manager : Manager Data.Timestamp Nat Nat,
        runEvents step restarted (start "community" 1) = some manager ∧
        Resumed threeMessages 1 manager ∧ 2 ∈ manager.consumed ∧ 3 ∈ manager.consumed := by
  obtain ⟨synced, isSynced, _, _, resumes⟩ := @resumed_of_run Nat Nat Nat threeMessages afterFirst
    syncTask _ 3 4 numberedTopic_threeMessages (by decide) mirrorsTopic_afterFirst
    (fun _ isTopic => Option.some.inj isTopic.symm) (by decide)
  cases isSynced
  obtain ⟨manager, reached, empty, fine, up⟩ := reached_restarted
  obtain ⟨resumed, complete⟩ := resumes "community" restarted manager fromTopic_restarted reached
  have consumed := complete (by decide) empty fine up
  exact ⟨_, rfl, rfl, manager, reached, resumed,
    consumed (topicMessage 2) (by decide) (by decide),
    consumed (topicMessage 3) (by decide) (by decide)⟩

end Example

end SyncTopicOnStartup

end Tasks

end GradidoNode

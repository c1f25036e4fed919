import GradidoNode.Controller.SequenceNumbers
import GradidoNode.Library.ExceptList

/-!
# Messages that take the ordering thread down

The ordering thread reads what the deserialize task and the response leave behind without
looking whether it is there. A run leaves the thread up, with every message consumed that it
took up, exactly if no message is pushed and no message gets its turn with a part missing
that is read, and no answer is an exception that nothing catches.
-/

namespace GradidoNode

open Library Hiero Tasks

namespace Controller

namespace SimpleOrderingManager

variable {Timestamp TransactionId Transaction : Type}
  {manager : Manager Timestamp TransactionId Transaction}

/-- The responses that the mirror node can deliver over REST or gRPC. -/
def Delivered [Inhabited Timestamp]
    (response : ConsensusTopicResponse Timestamp TransactionId) : Prop :=
  (∃ decoded, ConsensusTopicResponse.deserialize decoded = .ok response) ∨
  ∃ consensusTimestamp message runningHash runningHashVersion sequenceNumber chunkInfo,
    response = ConsensusTopicResponse.ofJson consensusTimestamp message runningHash
      runningHashVersion sequenceNumber chunkInfo

/-- A response with a running hash has a message. -/
theorem Delivered.message [Inhabited Timestamp]
    {response : ConsensusTopicResponse Timestamp TransactionId} (delivered : Delivered response)
    (hashed : response.runningHash.isSome = true) : response.message.isSome = true := by
  rcases delivered with ⟨decoded, deserialized⟩ | ⟨_, message, _, _, _, _, rfl⟩
  · cases decoded with
    | none =>
        cases deserialized
        cases hashed
    | some message =>
        obtain ⟨consensusTimestamp, -, rest⟩ := bind_ok_iff.mp deserialized
        obtain ⟨data, -, rest⟩ := bind_ok_iff.mp rest
        dsimp only at rest
        split at rest
        · obtain ⟨version, -, rest⟩ := bind_ok_iff.mp rest
          cases rest
          rfl
        · cases rest
          rfl
  · rfl

/-- The thread is up, it has consumed every message that it took up, and every message that
was queued still is or its number is passed. -/
structure Undisturbed (manager : Manager Timestamp TransactionId Transaction) : Prop where
  running : manager.failure = none
  consumed : manager.takenUp = manager.consumed
  kept : ∀ number ∈ manager.pushed,
    (∃ entry ∈ manager.transactions, entry.consensusTopicResponse.sequenceNumber = number) ∨
      number ≤ manager.lastSequenceNumber

/-- Telling the community server does not throw. -/
def Notifies (environment : RoundEnvironment Transaction) (found : Bool) : Prop :=
  found = true → environment.notified = .ok ()

/-- The exception is one that `processTransaction` catches and can tell about. -/
def Reported (environment : RoundEnvironment Transaction) (exception : Exception) : Prop :=
  exception.isGradidoBlockchainException = true ∧ environment.notified = .ok ()

/-- A message that is handed to `processTransaction` has an initial transaction id, the own
blockchain is there, and no foreign exception is thrown while it is confirmed. -/
def Processable (environment : RoundEnvironment Transaction)
    (entry : TopicResponseDeserializer Timestamp TransactionId Transaction) : Prop :=
  entry.deserializeTask.success = true →
    environment.blockchain = .ok true ∧
    entry.consensusTopicResponse.chunkInfo.initialTransactionId.isSome = true ∧
    (∀ exception, environment.createAndAddConfirmedTransaction = .error exception →
      Reported environment exception) ∧
    ∀ added exception, environment.createAndAddConfirmedTransaction = .ok added →
      environment.updateState = .error exception → Reported environment exception

/-- The task of the pair, once it is finished, has left a transaction that can be compared. -/
def Pairable (environment : RoundEnvironment Transaction)
    (entry : TopicResponseDeserializer Timestamp TransactionId Transaction)
    (transaction : Transaction) (found : Bool) : Prop :=
  ∀ pairTask, environment.pairTask = some pairTask → pairTask.finished = true →
    ∃ pair, pairTask.transaction = some pair ∧
      ((environment.isPairing pair transaction = .ok true ∧ Processable environment entry) ∨
        (environment.isPairing pair transaction = .ok false ∧ Notifies environment found))

/-- What an inbound transaction needs: its other group is not the own community, unless the
node is going down. -/
def HarmlessInbound (environment : RoundEnvironment Transaction) (exitCalled : Bool)
    (entry : TopicResponseDeserializer Timestamp TransactionId Transaction)
    (transaction : Transaction) (body : TransactionBody) : Prop :=
  ∃ found, environment.blockchain = .ok found ∧
    ((environment.timeouted = true ∧ Notifies environment found) ∨
    (environment.timeouted = false ∧
      ((environment.otherBlockchain body.otherGroup = .ok none ∧ Notifies environment found) ∨
      ∃ own, environment.otherBlockchain body.otherGroup = .ok (some own) ∧
        ((environment.isHieroTransactionId transaction = .ok false ∧ Notifies environment found) ∨
        (environment.isHieroTransactionId transaction = .ok true ∧
          (own = true → exitCalled = true) ∧
          (own = false → Pairable environment entry transaction found))))))

/-- The message was deserialized to a transaction with a body, and what is done with it does
not throw. -/
def HarmlessTurn (environment : RoundEnvironment Transaction) (exitCalled : Bool)
    (entry : TopicResponseDeserializer Timestamp TransactionId Transaction) : Prop :=
  ∃ transaction body, entry.deserializeTask.transaction = some transaction ∧
    environment.getTransactionBody transaction = .ok (some body) ∧
    (body.type = .inbound → HarmlessInbound environment exitCalled entry transaction body) ∧
    (body.type ≠ .inbound → Processable environment entry)

/-- The transaction has a signature, and one that is cached under its octet can be read. -/
def Comparable (environment : TaskEnvironment Transaction) (transaction : Transaction) : Prop :=
  ∃ firstSignature rest, environment.signatures transaction = firstSignature :: rest ∧
    (environment.cachedTransactionNr firstSignature = .ok none ∨
      ∃ transactionNr signature,
        environment.cachedTransactionNr firstSignature = .ok (some transactionNr) ∧
        environment.storedSignature transactionNr = .ok (some signature))

/-- The checks of a new transaction throw nothing but what is caught and can be told. -/
def Checkable (environment : TaskEnvironment Transaction) (transaction : Transaction) : Prop :=
  (∀ exception, environment.validated transaction = .error exception →
    exception.isGradidoBlockchainException = true ∧ environment.notified = .ok ()) ∧
  (environment.validated transaction = .ok () →
    environment.fromPast = .ok false ∨
      environment.fromPast = .ok true ∧ environment.notified = .ok ())

/-- A deserialize task reads nothing that is missing, and no answer is an exception that nothing
catches. -/
def HarmlessTask (environment : TaskEnvironment Transaction) : Prop :=
  ∃ found, environment.blockchain = .ok found ∧ (found = true →
    ∃ decoded, environment.deserialized = .ok decoded ∧ ∀ transaction, decoded = some transaction →
      Comparable environment transaction ∧
        (environment.isTransactionExist transaction = .ok false →
          Checkable environment transaction))

/-- What a step may not meet. -/
def Harmless (manager : Manager Timestamp TransactionId Transaction) :
    OrderingEvent Timestamp TransactionId Transaction → Prop
  | .push environment response => manager.exitCalled = false →
      response.runningHash.isSome = true ∧
      ∃ existing, environment.lastTransaction = .ok existing
  | .finishTask environment name => manager.isScheduled name = true → HarmlessTask environment
  | .round environment => ∀ entry rest, manager.transactions = entry :: rest →
      entry.deserializeTask.finished = true →
      ¬ manager.lastSequenceNumber + 1 < entry.consensusTopicResponse.sequenceNumber →
      ¬ (manager.lastSequenceNumber ≠ 0 ∧
        manager.lastSequenceNumber ≥ entry.consensusTopicResponse.sequenceNumber) →
      HarmlessTurn environment manager.exitCalled entry
  | .exit => True

/-- Whether a transaction is there already can be told exactly if it is comparable. -/
theorem comparable_iff (environment : TaskEnvironment Transaction) (transaction : Transaction) :
    Comparable environment transaction ↔
      ∃ exist, environment.isTransactionExist transaction = .ok exist := by
  unfold Comparable TaskEnvironment.isTransactionExist
  cases environment.signatures transaction with
  | nil => simp
  | cons firstSignature rest =>
      cases cached : environment.cachedTransactionNr firstSignature with
      | error exception =>
          simp [cached, TaskEnvironment.ask, bind, Except.bind]
      | ok found =>
          cases found with
          | none => simp [cached, TaskEnvironment.ask, bind, Except.bind, pure, Except.pure]
          | some transactionNr =>
              cases stored : environment.storedSignature transactionNr with
              | error exception =>
                  simp [cached, stored, TaskEnvironment.ask, bind, Except.bind]
              | ok signature =>
                  cases signature with
                  | none =>
                      simp [cached, stored, TaskEnvironment.ask, bind, Except.bind, throw,
                        throwThe, MonadExceptOf.throw]
                  | some signature =>
                      simp [cached, stored, TaskEnvironment.ask, bind, Except.bind, pure,
                        Except.pure]

/-- A task returns exactly if it is harmless. -/
theorem harmlessTask_iff (environment : TaskEnvironment Transaction) :
    HarmlessTask environment ↔
      ∃ left, HieroMessageToTransactionTask.run environment = .ok left := by
  unfold HarmlessTask HieroMessageToTransactionTask.run
  cases environment.blockchain with
  | error exception => simp [TaskEnvironment.ask, bind, Except.bind]
  | ok found =>
      cases found with
      | false => simp [TaskEnvironment.ask, bind, Except.bind, pure, Except.pure]
      | true =>
          cases environment.deserialized with
          | error exception => simp [TaskEnvironment.ask, bind, Except.bind]
          | ok decoded =>
              cases decoded with
              | none => simp [TaskEnvironment.ask, bind, Except.bind, pure, Except.pure]
              | some transaction =>
                  simp only [TaskEnvironment.ask, bind, Except.bind, Except.ok.injEq,
                    exists_eq_left', forall_const, Option.some.injEq, forall_eq',
                    comparable_iff, Bool.not_true, Bool.false_eq_true, ↓reduceIte]
                  unfold Checkable
                  cases environment.isTransactionExist transaction with
                  | error fault => simp
                  | ok exist =>
                      cases exist with
                      | true => simp [pure, Except.pure]
                      | false =>
                          cases environment.validated transaction with
                          | error exception =>
                              cases caught : exception.isGradidoBlockchainException <;>
                                cases environment.notified <;>
                                  simp [caught, pure, Except.pure, throw, throwThe,
                                    MonadExceptOf.throw]
                          | ok _ =>
                              cases environment.fromPast with
                              | error exception => simp
                              | ok past =>
                                  cases past <;> cases environment.notified <;>
                                    simp [pure, Except.pure]

/-- What a decision needs to leave the thread up. -/
def Decision.Harmless (environment : RoundEnvironment Transaction)
    (entry : TopicResponseDeserializer Timestamp TransactionId Transaction) : Decision → Prop
  | .fail _ => False
  | .skip => True
  | .wait => True
  | .process => Processable environment entry

/-- Skipping a transaction the listener hears of is harmless if it can be notified. -/
theorem skipNotified_harmless (environment : RoundEnvironment Transaction)
    (entry : TopicResponseDeserializer Timestamp TransactionId Transaction) (found : Bool) :
    Decision.Harmless environment entry (skipNotified environment found) ↔
      Notifies environment found := by
  unfold skipNotified Notifies
  cases found with
  | false => simp [Decision.Harmless]
  | true =>
      cases environment.notified with
      | error exception => simp [Decision.Harmless]
      | ok _ => simp [Decision.Harmless]

/-- Deciding about a pair is harmless if the two can be paired. -/
theorem decidePair_harmless (environment : RoundEnvironment Transaction) (found : Bool)
    (entry : TopicResponseDeserializer Timestamp TransactionId Transaction)
    (transaction : Transaction) :
    Decision.Harmless environment entry (decidePair environment found transaction) ↔
      Pairable environment entry transaction found := by
  unfold decidePair Pairable
  cases asked : environment.pairTask with
  | none => simp [Decision.Harmless]
  | some pairTask =>
      cases finished : pairTask.finished with
      | false => simp [Decision.Harmless, finished]
      | true =>
          cases left : pairTask.transaction with
          | none => simp [Decision.Harmless, finished, left]
          | some pair =>
              cases compared : environment.isPairing pair transaction with
              | error exception => simp [Decision.Harmless, finished, left, compared]
              | ok pairing =>
                  cases pairing with
                  | false => simp [finished, left, compared, skipNotified_harmless]
                  | true => simp [Decision.Harmless, finished, left, compared]

/-- Deciding about an inbound transaction is harmless if its pair can be looked up. -/
theorem decideInbound_harmless (environment : RoundEnvironment Transaction) (exitCalled : Bool)
    (entry : TopicResponseDeserializer Timestamp TransactionId Transaction)
    (transaction : Transaction) (body : TransactionBody) :
    Decision.Harmless environment entry (decideInbound environment exitCalled transaction body) ↔
      HarmlessInbound environment exitCalled entry transaction body := by
  unfold decideInbound HarmlessInbound
  cases environment.blockchain with
  | error exception => simp [Decision.Harmless]
  | ok found =>
      cases environment.timeouted with
      | true => simp [skipNotified_harmless]
      | false =>
          cases environment.otherBlockchain body.otherGroup with
          | error exception => simp [Decision.Harmless]
          | ok other =>
              cases other with
              | none => simp [skipNotified_harmless]
              | some own =>
                  cases environment.isHieroTransactionId transaction with
                  | error exception => simp [Decision.Harmless]
                  | ok isId =>
                      cases isId with
                      | false => simp [skipNotified_harmless]
                      | true =>
                          cases own with
                          | false => simp [decidePair_harmless]
                          | true =>
                              cases exitCalled with
                              | false => simp [Decision.Harmless]
                              | true => simp [Decision.Harmless]

/-- A decision is harmless exactly if the turn is. -/
theorem turnDecision_harmless (environment : RoundEnvironment Transaction) (exitCalled : Bool)
    (entry : TopicResponseDeserializer Timestamp TransactionId Transaction) :
    Decision.Harmless environment entry (turnDecision environment exitCalled entry) ↔
      HarmlessTurn environment exitCalled entry := by
  unfold turnDecision HarmlessTurn
  cases entry.deserializeTask.transaction with
  | none => simp [Decision.Harmless]
  | some transaction =>
      cases read : environment.getTransactionBody transaction with
      | error exception => simp [Decision.Harmless, read]
      | ok body =>
          cases body with
          | none => simp [Decision.Harmless, read]
          | some body =>
              by_cases inbound : body.type = .inbound
              · simp [read, inbound, decideInbound_harmless]
              · simp [Decision.Harmless, read, inbound]

/-- Processing a deserialized transaction lets the node run on exactly if adding it does not throw.
-/
theorem processTransaction_running (manager : Manager Timestamp TransactionId Transaction)
    (environment : RoundEnvironment Transaction)
    {entry : TopicResponseDeserializer Timestamp TransactionId Transaction}
    (success : entry.deserializeTask.success = true) (fine : manager.failure = none) :
    (manager.processTransaction environment entry).failure = none ↔
      Processable environment entry := by
  unfold processTransaction Processable confirm Reported
  cases environment.blockchain with
  | error exception => simp [SimpleOrderingManager.fail, success]
  | ok found =>
      cases found with
      | false => simp [SimpleOrderingManager.fail, success]
      | true =>
          cases entry.consensusTopicResponse.chunkInfo.initialTransactionId with
          | none => simp [SimpleOrderingManager.fail, success]
          | some transactionId =>
              cases environment.createAndAddConfirmedTransaction with
              | error exception =>
                  cases caught : exception.isGradidoBlockchainException <;>
                    cases environment.notified <;> cases environment.updateState <;>
                      simp [SimpleOrderingManager.fail, success, fine, caught, bind, Except.bind]
              | ok added =>
                  cases environment.updateState with
                  | ok _ => simp [success, fine, bind, Except.bind]
                  | error exception =>
                      cases caught : exception.isGradidoBlockchainException <;>
                        cases environment.notified <;>
                          simp [SimpleOrderingManager.fail, success, fine, caught, bind,
                            Except.bind]

/-- Messages that are all there can be compared. -/
theorem exists_anyMessageSame (environment : PushEnvironment Timestamp)
    {response : ConsensusTopicResponse Timestamp TransactionId}
    (present : response.message.isSome = true)
    {entries : List (TopicResponseDeserializer Timestamp TransactionId Transaction)}
    (messages : ∀ entry ∈ entries, entry.consensusTopicResponse.message.isSome = true) :
    ∃ same, anyMessageSame environment response entries = some same := by
  induction entries with
  | nil => exact ⟨false, rfl⟩
  | cons entry rest ih =>
      obtain ⟨data, isData⟩ := Option.isSome_iff_exists.mp (messages entry (List.mem_cons_self ..))
      obtain ⟨otherData, isOther⟩ := Option.isSome_iff_exists.mp present
      have remaining := ih fun other member => messages other (List.mem_cons_of_mem _ member)
      unfold anyMessageSame isMessageSame
      rw [isData, isOther]
      by_cases same : data = otherData
      · exact ⟨true, by simp only [same, decide_true]⟩
      · simpa only [same, decide_false] using remaining

/-- At its turn a number is accepted, and it does not lie behind the last one. -/
theorem updateSequenceNumber_turn (manager : Manager Timestamp TransactionId Transaction)
    {current : UInt64}
    (notBeyond : ¬ manager.lastSequenceNumber + 1 < current)
    (notBehind : ¬ (manager.lastSequenceNumber ≠ 0 ∧ manager.lastSequenceNumber ≥ current)) :
    manager.updateSequenceNumber current = { manager with
      consumed := manager.consumed ++ [current]
      lastSequenceNumber := current } ∧ manager.lastSequenceNumber ≤ current := by
  by_cases zero : manager.lastSequenceNumber = 0
  · refine ⟨?_, zero ▸ UInt64.zero_le⟩
    unfold updateSequenceNumber
    simp only [zero, ↓reduceIte]
  · have above : manager.lastSequenceNumber < current :=
      not_le.mp fun behind => notBehind ⟨zero, behind⟩
    have positive : 1 ≤ current := by
      rw [UInt64.le_iff_toNat_le]
      rw [UInt64.lt_iff_toNat_lt] at above
      exact Nat.lt_of_le_of_lt (Nat.zero_le _) above
    exact ⟨updateSequenceNumber_next (follows_of_turn positive notBeyond notBehind),
      le_of_lt above⟩

/-- What holds in every state, also after the thread went down. -/
structure Following (manager : Manager Timestamp TransactionId Transaction) : Prop where
  messages : ∀ entry ∈ manager.transactions, entry.consensusTopicResponse.message.isSome = true
  consumed : manager.failure = none → manager.takenUp = manager.consumed
  kept : ∀ number ∈ manager.pushed,
    (∃ entry ∈ manager.transactions, entry.consensusTopicResponse.sequenceNumber = number) ∨
      number ≤ manager.lastSequenceNumber

/-- A node that follows its topic is undisturbed exactly if it has not failed. -/
theorem Following.undisturbed_iff (following : Following manager) :
    Undisturbed manager ↔ manager.failure = none :=
  ⟨Undisturbed.running, fun fine => ⟨fine, following.consumed fine, following.kept⟩⟩

/-- A failure leaves the account of the messages. -/
theorem Following.fail (following : Following manager) (failure : Failure) :
    Following (manager.fail failure) :=
  ⟨following.messages, nofun, following.kept⟩

/-- Leaving out the first message, whose number is passed. -/
theorem Following.kept_rest (following : Following manager)
    {entry : TopicResponseDeserializer Timestamp TransactionId Transaction}
    {rest : List (TopicResponseDeserializer Timestamp TransactionId Transaction)}
    (queue : manager.transactions = entry :: rest) {last : UInt64}
    (ahead : manager.lastSequenceNumber ≤ last)
    (passed : entry.consensusTopicResponse.sequenceNumber ≤ last) :
    ∀ number ∈ manager.pushed,
      (∃ other ∈ rest, other.consensusTopicResponse.sequenceNumber = number) ∨
        number ≤ last := by
  intro number member
  rcases following.kept number member with ⟨other, isQueued, rfl⟩ | behind
  · rw [queue] at isQueued
    rcases List.mem_cons.mp isQueued with rfl | isLater
    · exact Or.inr passed
    · exact Or.inl ⟨other, isLater, rfl⟩
  · exact Or.inr (le_trans behind ahead)

/-- The end of a round is reached unless the thread is down, and does not take it down. -/
theorem finishRound_following (manager : Manager Timestamp TransactionId Transaction)
    {newSequenceNumber : UInt64}
    {rest : List (TopicResponseDeserializer Timestamp TransactionId Transaction)}
    (messages : ∀ entry ∈ manager.transactions,
      entry.consensusTopicResponse.message.isSome = true)
    (kept : ∀ number ∈ manager.pushed,
      (∃ entry ∈ manager.transactions,
        entry.consensusTopicResponse.sequenceNumber = number) ∨
        number ≤ manager.lastSequenceNumber)
    (takenUp : manager.takenUp = manager.consumed ++ [newSequenceNumber])
    (notBeyond : ¬ manager.lastSequenceNumber + 1 < newSequenceNumber)
    (notBehind : ¬ (manager.lastSequenceNumber ≠ 0 ∧
      manager.lastSequenceNumber ≥ newSequenceNumber))
    (restMessages : ∀ entry ∈ rest, entry.consensusTopicResponse.message.isSome = true)
    (restKept : ∀ number ∈ manager.pushed,
      (∃ entry ∈ rest, entry.consensusTopicResponse.sequenceNumber = number) ∨
        number ≤ newSequenceNumber) :
    Following (manager.finishRound newSequenceNumber rest) ∧
      ((manager.finishRound newSequenceNumber rest).failure = none ↔ manager.failure = none) := by
  unfold finishRound
  by_cases down : manager.failure.isSome = true
  · rw [if_pos down]
    refine ⟨⟨messages, fun fine => ?_, kept⟩, Iff.rfl⟩
    rw [fine] at down
    cases down
  · rw [if_neg down, (updateSequenceNumber_turn { manager with transactions := rest }
      notBeyond notBehind).1]
    exact ⟨⟨restMessages, fun _ => takenUp, restKept⟩, Iff.rfl⟩

/-- The message at its turn: what it needs is exactly what keeps the thread up. -/
theorem Following.takeUp (following : Following manager) (fine : manager.failure = none)
    (environment : RoundEnvironment Transaction)
    {entry : TopicResponseDeserializer Timestamp TransactionId Transaction}
    {rest : List (TopicResponseDeserializer Timestamp TransactionId Transaction)}
    (queue : manager.transactions = entry :: rest)
    (notBeyond : ¬ manager.lastSequenceNumber + 1 < entry.consensusTopicResponse.sequenceNumber)
    (notBehind : ¬ (manager.lastSequenceNumber ≠ 0 ∧
      manager.lastSequenceNumber ≥ entry.consensusTopicResponse.sequenceNumber)) :
    Following (manager.takeUp environment entry rest) ∧
      ((manager.takeUp environment entry rest).failure = none ↔
        HarmlessTurn environment manager.exitCalled entry) := by
  rw [← turnDecision_harmless]
  have restMessages : ∀ other ∈ rest, other.consensusTopicResponse.message.isSome = true :=
    fun other member => following.messages other (queue ▸ List.mem_cons_of_mem _ member)
  have ahead := (updateSequenceNumber_turn manager notBeyond notBehind).2
  have restKept := following.kept_rest queue ahead (le_refl _)
  have appended := congrArg (· ++ [entry.consensusTopicResponse.sequenceNumber])
    (following.consumed fine)
  unfold SimpleOrderingManager.takeUp
  dsimp only
  cases turnDecision environment manager.exitCalled entry with
  | wait => exact ⟨following, iff_of_true fine trivial⟩
  | fail failure =>
      exact ⟨⟨following.messages, nofun, following.kept⟩, iff_of_false nofun id⟩
  | skip =>
      dsimp only
      rw [(updateSequenceNumber_turn { manager with
        takenUp := manager.takenUp ++ [entry.consensusTopicResponse.sequenceNumber]
        transactions := rest } notBeyond notBehind).1]
      exact ⟨⟨restMessages, fun _ => appended, restKept⟩, iff_of_true fine trivial⟩
  | process =>
      dsimp only
      by_cases success : entry.deserializeTask.success = true
      · rw [if_pos success]
        have frame := processTransaction_processed environment entry { manager with
          takenUp := manager.takenUp ++ [entry.consensusTopicResponse.sequenceNumber] }
        rw [Decision.Harmless, ← processTransaction_running { manager with
          takenUp := manager.takenUp ++ [entry.consensusTopicResponse.sequenceNumber] }
          environment success fine]
        apply finishRound_following
        · rw [frame.transactions]
          exact following.messages
        · rw [frame.transactions, frame.pushed, frame.lastSequenceNumber]
          exact following.kept
        · rw [frame.takenUp, frame.consumed]
          exact appended
        · rw [frame.lastSequenceNumber]
          exact notBeyond
        · rw [frame.lastSequenceNumber]
          exact notBehind
        · exact restMessages
        · rw [frame.pushed]
          exact restKept
      · rw [if_neg success]
        obtain ⟨finished, running⟩ := finishRound_following { manager with
          takenUp := manager.takenUp ++ [entry.consensusTopicResponse.sequenceNumber] }
          following.messages following.kept appended notBeyond notBehind restMessages restKept
        refine ⟨finished, running.trans (iff_of_true fine fun succeeded => ?_)⟩
        exact absurd succeeded success

/-- A round keeps the account, and runs on exactly if the turn it takes is harmless. -/
theorem Following.round (following : Following manager) (fine : manager.failure = none)
    (environment : RoundEnvironment Transaction) :
    Following (manager.round environment) ∧
      ((manager.round environment).failure = none ↔ ∀ entry rest,
        manager.transactions = entry :: rest → entry.deserializeTask.finished = true →
        ¬ manager.lastSequenceNumber + 1 < entry.consensusTopicResponse.sequenceNumber →
        ¬ (manager.lastSequenceNumber ≠ 0 ∧
          manager.lastSequenceNumber ≥ entry.consensusTopicResponse.sequenceNumber) →
        HarmlessTurn environment manager.exitCalled entry) := by
  have returned : Following manager.returned :=
    ⟨following.messages, following.consumed, following.kept⟩
  unfold SimpleOrderingManager.round
  cases queue : manager.transactions with
  | nil => exact ⟨returned, iff_of_true fine nofun⟩
  | cons entry rest =>
      simp only
      by_cases unfinished : entry.deserializeTask.finished = false
      · rw [if_pos unfinished]
        refine ⟨returned, iff_of_true fine ?_⟩
        rintro _ _ ⟨⟩ finished
        rw [unfinished] at finished
        cases finished
      · rw [if_neg unfinished]
        by_cases beyond :
            manager.lastSequenceNumber + 1 < entry.consensusTopicResponse.sequenceNumber
        · rw [if_pos beyond]
          refine ⟨returned, iff_of_true fine ?_⟩
          rintro _ _ ⟨⟩ _ notBeyond
          exact absurd beyond notBeyond
        · rw [if_neg beyond]
          by_cases behind : manager.lastSequenceNumber ≠ 0 ∧
              manager.lastSequenceNumber ≥ entry.consensusTopicResponse.sequenceNumber
          · rw [if_pos behind]
            refine ⟨⟨fun other member => ?_, following.consumed,
              following.kept_rest queue (le_refl _) behind.2⟩, iff_of_true fine ?_⟩
            · exact following.messages other (queue ▸ List.mem_cons_of_mem _ member)
            · rintro _ _ ⟨⟩ _ _ notBehind
              exact absurd behind notBehind
          · rw [if_neg behind]
            obtain ⟨kept, running⟩ := following.takeUp fine environment queue beyond behind
            refine ⟨kept, running.trans ⟨?_, fun harmless => ?_⟩⟩
            · rintro harmless _ _ ⟨⟩ _ _ _
              exact harmless
            · exact harmless entry rest rfl (Bool.eq_true_of_not_eq_false unfinished) beyond behind

/-- A finished task keeps the account. -/
theorem Following.finishTask (following : Following manager)
    (environment : TaskEnvironment Transaction) (name : Nat) :
    Following (manager.finishTask environment name) := by
  refine ⟨fun entry member => ?_,
    fun fine => following.consumed (finishTask_running.mp fine).1, fun number member => ?_⟩
  · obtain ⟨before, isBefore, rfl⟩ := List.mem_map.mp member
    have present := following.messages before isBefore
    split <;> exact present
  · rcases following.kept number member with ⟨entry, isQueued, numbered⟩ | behind
    · refine Or.inl ⟨_, List.mem_map_of_mem isQueued, ?_⟩
      rw [← numbered]
      split <;> rfl
    · exact Or.inr behind

/-- A task that is still to be run takes nothing down exactly if it is harmless. -/
theorem faultOf_eq_none_iff {environment : TaskEnvironment Transaction} {name : Nat} :
    manager.faultOf environment name = none ↔
      (manager.isScheduled name = true → HarmlessTask environment) := by
  rw [harmlessTask_iff]
  unfold faultOf
  cases scheduled : manager.isScheduled name with
  | false => simp
  | true =>
      cases HieroMessageToTransactionTask.run environment with
      | ok left => simp
      | error fault => simp

/-- A delivered message put into the queue keeps it. -/
theorem Following.insert [LinearOrder Timestamp] (following : Following manager)
    {response : ConsensusTopicResponse Timestamp TransactionId}
    (present : response.message.isSome = true) :
    Following { manager with
      transactions := SimpleOrderingManager.insert {
        consensusTopicResponse := response
        name := manager.nextName
        deserializeTask := .new } manager.transactions
      nextName := manager.nextName + 1
      pushed := manager.pushed ++ [response.sequenceNumber] } := by
  refine ⟨fun entry member => ?_, following.consumed, fun number member => ?_⟩
  · rcases (List.mem_orderedInsert ..).mp member with rfl | before
    · exact present
    · exact following.messages entry before
  · rcases List.mem_append.mp member with before | new
    · rcases following.kept number before with ⟨entry, isQueued, numbered⟩ | behind
      · exact Or.inl ⟨entry, (List.mem_orderedInsert ..).mpr (Or.inr isQueued), numbered⟩
      · exact Or.inr behind
    · rw [List.mem_singleton] at new
      exact Or.inl ⟨_, (List.mem_orderedInsert ..).mpr (Or.inl rfl), new.symm⟩

/-- A push of a delivered message keeps it. -/
theorem Following.push [LinearOrder Timestamp] [Inhabited Timestamp]
    (following : Following manager)
    (fine : manager.failure = none) (environment : PushEnvironment Timestamp)
    {response : ConsensusTopicResponse Timestamp TransactionId} (delivered : Delivered response) :
    Following (manager.pushTransaction environment response) ∧
      ((manager.pushTransaction environment response).failure = none ↔
        (manager.exitCalled = false → response.runningHash.isSome = true ∧
          ∃ existing, environment.lastTransaction = .ok existing)) := by
  unfold pushTransaction
  by_cases exiting : manager.exitCalled = true
  · rw [if_pos exiting]
    refine ⟨following, iff_of_true fine fun up => ?_⟩
    cases exiting.symm.trans up
  · rw [if_neg exiting]
    have up := Bool.eq_false_of_not_eq_true exiting
    cases hashed : response.runningHash with
    | none =>
        refine ⟨following.fail _, iff_of_false nofun fun harmless => ?_⟩
        obtain ⟨present, -⟩ := harmless up
        cases present
    | some runningHash =>
        cases asked : environment.lastTransaction with
        | error exception =>
            refine ⟨following.fail _, iff_of_false nofun fun harmless => ?_⟩
            obtain ⟨-, existing, answer⟩ := harmless up
            cases answer
        | ok existing =>
            have present := delivered.message (hashed ▸ rfl)
            have messages : ∀ entry ∈ manager.transactions.filter (fun entry =>
                entry.consensusTopicResponse.consensusTimestamp = response.consensusTimestamp),
                entry.consensusTopicResponse.message.isSome = true :=
              fun entry member => following.messages entry (List.mem_of_mem_filter member)
            obtain ⟨same, compared⟩ := exists_anyMessageSame environment present messages
            refine ⟨?_, iff_of_true ?_ fun _ => ⟨rfl, existing, rfl⟩⟩
            all_goals
              dsimp only
              rw [compared]
              split
            · exact following
            · cases same with
              | true => exact following
              | false => exact following.insert present
            · exact fine
            · cases same with
              | true => exact fine
              | false => exact fine

/-- At the start no message is accounted for. -/
theorem Following.start (communityId : String) (lastKnownSequenceNumber : UInt64) :
    Following (start communityId lastKnownSequenceNumber :
      Manager Timestamp TransactionId Transaction) :=
  ⟨nofun, fun _ => rfl, nofun⟩

/-- A push delivers a response of the mirror node. -/
def PushesDelivered [Inhabited Timestamp] :
    OrderingEvent Timestamp TransactionId Transaction → Prop
  | .push _ response => Delivered response
  | _ => True

variable [LinearOrder Timestamp] [Inhabited Timestamp]

/-- Every step keeps the account, and fails exactly on a disturbance. -/
theorem Following.step {next : Manager Timestamp TransactionId Transaction}
    {event : OrderingEvent Timestamp TransactionId Transaction} (following : Following manager)
    (fine : manager.failure = none) (delivered : PushesDelivered event)
    (taken : manager.step event = some next) :
    Following next ∧ (next.failure = none ↔ Harmless manager event) := by
  have up : ¬ manager.failure.isSome = true := by rw [fine]; nofun
  unfold SimpleOrderingManager.step at taken
  rw [if_neg up] at taken
  cases event with
  | push environment response =>
      cases taken
      exact following.push fine environment delivered
  | finishTask environment name =>
      cases taken
      refine ⟨following.finishTask environment name, ?_⟩
      rw [finishTask_running, and_iff_right fine, faultOf_eq_none_iff]
      rfl
  | round environment =>
      cases taken
      exact following.round fine environment
  | exit =>
      cases taken
      exact ⟨⟨following.messages, following.consumed, following.kept⟩, iff_of_true fine trivial⟩

omit [Inhabited Timestamp] in
/-- Nothing follows once the thread is down. -/
theorem runEvents_of_failure {final : Manager Timestamp TransactionId Transaction}
    {events : List (OrderingEvent Timestamp TransactionId Transaction)}
    (down : manager.failure ≠ none) (reached : runEvents step events manager = some final) :
    final = manager := by
  cases events with
  | nil =>
      cases reached
      rfl
  | cons event events =>
      obtain ⟨next, taken, -⟩ := runEvents_cons.mp reached
      unfold SimpleOrderingManager.step at taken
      rw [if_pos (Option.isSome_iff_ne_none.mpr down)] at taken
      cases taken

/-- So does every run. -/
theorem Following.run {final : Manager Timestamp TransactionId Transaction}
    {events : List (OrderingEvent Timestamp TransactionId Transaction)}
    (following : Following manager) (fine : manager.failure = none)
    (delivered : ∀ event ∈ events, PushesDelivered event)
    (reached : runEvents SimpleOrderingManager.step events manager = some final) :
    Following final ∧
      (final.failure = none ↔ StepsMeet SimpleOrderingManager.step Harmless events manager) := by
  induction events generalizing manager with
  | nil =>
      cases reached
      exact ⟨following, iff_of_true fine trivial⟩
  | cons event events ih =>
      obtain ⟨next, taken, rest⟩ := runEvents_cons.mp reached
      obtain ⟨nextFollowing, running⟩ :=
        following.step fine (delivered event (List.mem_cons_self ..)) taken
      by_cases harmless : Harmless manager event
      · obtain ⟨finalFollowing, finalRunning⟩ := ih nextFollowing (running.mpr harmless)
          (fun other member => delivered other (List.mem_cons_of_mem _ member)) rest
        refine ⟨finalFollowing, finalRunning.trans ⟨StepsMeet.cons harmless taken, ?_⟩⟩
        exact fun meets => meets.2 next taken
      · have down : next.failure ≠ none := fun up => harmless (running.mp up)
        rw [runEvents_of_failure down rest]
        exact ⟨nextFollowing, iff_of_false down fun meets => harmless meets.1⟩

/-- Whatever the mirror node delivers: the thread is up and has lost no message exactly if every
step was harmless. -/
theorem undisturbed_iff_of_run (communityId : String) (lastKnownSequenceNumber : UInt64)
    {events : List (OrderingEvent Timestamp TransactionId Transaction)}
    {manager : Manager Timestamp TransactionId Transaction}
    (delivered : ∀ event ∈ events, PushesDelivered event)
    (reached : runEvents step events
      (SimpleOrderingManager.start communityId lastKnownSequenceNumber) = some manager) :
    Undisturbed manager ↔ StepsMeet step Harmless events
      (SimpleOrderingManager.start communityId lastKnownSequenceNumber) := by
  obtain ⟨following, running⟩ := (Following.start communityId lastKnownSequenceNumber).run rfl
    delivered reached
  exact following.undisturbed_iff.trans running

/-- A message that comes over REST. -/
def deliveredMessage : ConsensusTopicResponse Nat Nat :=
  .ofJson 10 [1] [1] 3 1 (some { initialTransactionId := some 10, total := 1, number := 1 })

/-- The message is pushed, and its turn comes with what its bytes deserialize to. -/
def deliveryOf (deserialized : Option Nat) : List (OrderingEvent Nat Nat Nat) :=
  [.push { lastTransaction := .ok none, sameAsNull := none } deliveredMessage,
   .finishTask { deserializingTask 1 with deserialized := .ok deserialized } 0,
   .round confirmingRound]

/-- The example delivers a message. -/
theorem deliveryOf_delivered (deserialized : Option Nat) :
    ∀ event ∈ deliveryOf deserialized, PushesDelivered event :=
  List.forall_mem_cons.mpr ⟨Or.inr ⟨_, _, _, _, _, _, rfl⟩,
    List.forall_mem_cons.mpr ⟨trivial, List.forall_mem_singleton.mpr trivial⟩⟩

/-- A message whose bytes are a transaction runs through undisturbed. -/
theorem undisturbed_deserialized :
    ∃ manager, runEvents step (deliveryOf (some 1)) (start "community" 0) = some manager ∧
      Undisturbed manager := by
  refine ⟨_, rfl, (undisturbed_iff_of_run "community" 0 (deliveryOf_delivered (some 1)) rfl).mpr ?_⟩
  refine StepsMeet.cons (fun _ => ⟨rfl, none, rfl⟩) rfl ?_
  refine StepsMeet.cons (fun _ => (harmlessTask_iff _).mpr ⟨_, rfl⟩) rfl ?_
  refine StepsMeet.cons ?_ rfl trivial
  rintro entry rest ⟨⟩ - - -
  refine ⟨1, { type := .local, otherGroup := "" }, rfl, rfl, nofun, fun _ _ => ?_⟩
  exact ⟨rfl, rfl, nofun, nofun⟩

/-- A message whose bytes are no transaction takes the thread down. -/
theorem not_undisturbed_undecodable :
    ¬ ∀ (events : List (OrderingEvent Nat Nat Nat)) (manager : Manager Nat Nat Nat),
      (∀ event ∈ events, PushesDelivered event) →
      runEvents step events (start "community" 0) = some manager → Undisturbed manager := by
  intro always
  have undisturbed := always (deliveryOf none) _ (deliveryOf_delivered none) rfl
  have down := undisturbed.running
  cases down

end SimpleOrderingManager

end Controller

end GradidoNode

import GradidoNode.Controller.SimpleOrderingManager
import GradidoNode.Library.FixedWidth

/-!
# The sequence numbers the ordering thread consumes

The queue is in the order of the consensus times, yet a message is consumed only when its
sequence number follows the last one. So the consumed numbers have no gap, whatever comes
in and in whatever order.
-/

namespace GradidoNode

open Library Hiero Tasks

namespace Controller

namespace SimpleOrderingManager

variable {Timestamp TransactionId Transaction : Type}
  {manager : Manager Timestamp TransactionId Transaction}

/-- Everything a push can do. -/
theorem pushTransaction_cases [LinearOrder Timestamp] (environment : PushEnvironment Timestamp)
    (response : ConsensusTopicResponse Timestamp TransactionId)
    (manager : Manager Timestamp TransactionId Transaction) :
    manager.pushTransaction environment response = manager ∨
    manager.pushTransaction environment response = manager.fail .nullPointer ∨
    (∃ exception, manager.pushTransaction environment response =
      manager.fail (.escaped exception)) ∨
    manager.pushTransaction environment response = { manager with
      transactions := insert {
        consensusTopicResponse := response
        name := manager.nextName
        deserializeTask := .new } manager.transactions
      nextName := manager.nextName + 1
      pushed := manager.pushed ++ [response.sequenceNumber] } := by
  unfold pushTransaction
  split
  · exact Or.inl rfl
  · split
    · exact Or.inr (Or.inl rfl)
    · split
      · rename_i exception _
        exact Or.inr (Or.inr (Or.inl ⟨exception, rfl⟩))
      · split
        · exact Or.inl rfl
        · split
          · exact Or.inr (Or.inl rfl)
          · exact Or.inl rfl
          · exact Or.inr (Or.inr (Or.inr rfl))

/-- A number that follows the last one is accepted. -/
theorem updateSequenceNumber_next {newSequenceNumber : UInt64}
    (next : newSequenceNumber.toNat = manager.lastSequenceNumber.toNat + 1) :
    manager.updateSequenceNumber newSequenceNumber = { manager with
      consumed := manager.consumed ++ [newSequenceNumber]
      lastSequenceNumber := newSequenceNumber } := by
  have follows : manager.lastSequenceNumber + 1 = newSequenceNumber := by
    apply UInt64.toNat_inj.mp
    rw [UInt64.toNat_add, next]
    exact Nat.mod_eq_of_lt (next ▸ newSequenceNumber.toNat_lt)
  unfold updateSequenceNumber
  by_cases zero : manager.lastSequenceNumber = 0
  · simp only [zero, ↓reduceIte]
  · simp only [zero, follows, true_or, ↓reduceIte]

/-- The checks of a round leave only the number that follows the last one. -/
theorem follows_of_turn {last current : UInt64} (positive : 1 ≤ current)
    (notBeyond : ¬ last + 1 < current) (notBehind : ¬ (last ≠ 0 ∧ last ≥ current)) :
    current.toNat = last.toNat + 1 := by
  have lower : 1 ≤ current.toNat := UInt64.le_iff_toNat_le.mp positive
  have upper := not_lt.mp notBeyond
  rw [UInt64.le_iff_toNat_le, UInt64.toNat_add] at upper
  change current.toNat ≤ (last.toNat + 1) % 2 ^ 64 at upper
  have wrapped := Nat.mod_le (last.toNat + 1) (2 ^ 64)
  by_cases zero : last = 0
  · rw [zero, UInt64.toNat_zero] at upper wrapped
    rw [zero, UInt64.toNat_zero]
    omega
  · have behind : ¬ last ≥ current := fun above => notBehind ⟨zero, above⟩
    have above := not_le.mp behind
    rw [UInt64.lt_iff_toNat_lt] at above
    omega

/-- Processing a transaction touches neither the queue nor the numbers. -/
structure Processed (sequenceNumber : UInt64)
    (manager next : Manager Timestamp TransactionId Transaction) : Prop where
  transactions : next.transactions = manager.transactions
  lastSequenceNumber : next.lastSequenceNumber = manager.lastSequenceNumber
  pushed : next.pushed = manager.pushed
  takenUp : next.takenUp = manager.takenUp
  consumed : next.consumed = manager.consumed
  processed : next.processed = manager.processed ++ [sequenceNumber]
  failure : next.failure = manager.failure ∨ ∃ exception, next.failure = some (.escaped exception)

/-- Processing an entry records its number, or fails. -/
theorem processTransaction_processed (environment : RoundEnvironment Transaction)
    (entry : TopicResponseDeserializer Timestamp TransactionId Transaction)
    (manager : Manager Timestamp TransactionId Transaction) :
    Processed entry.consensusTopicResponse.sequenceNumber manager
      (manager.processTransaction environment entry) := by
  unfold processTransaction
  dsimp only
  split
  · exact ⟨rfl, rfl, rfl, rfl, rfl, rfl, Or.inr ⟨_, rfl⟩⟩
  · exact ⟨rfl, rfl, rfl, rfl, rfl, rfl, Or.inr ⟨_, rfl⟩⟩
  · split
    · exact ⟨rfl, rfl, rfl, rfl, rfl, rfl, Or.inr ⟨_, rfl⟩⟩
    · split
      · exact ⟨rfl, rfl, rfl, rfl, rfl, rfl, Or.inl rfl⟩
      · split
        · split
          · exact ⟨rfl, rfl, rfl, rfl, rfl, rfl, Or.inr ⟨_, rfl⟩⟩
          · split
            · exact ⟨rfl, rfl, rfl, rfl, rfl, rfl, Or.inl rfl⟩
            · exact ⟨rfl, rfl, rfl, rfl, rfl, rfl, Or.inl rfl⟩
        · exact ⟨rfl, rfl, rfl, rfl, rfl, rfl, Or.inr ⟨_, rfl⟩⟩

/-- Skipping refuses no number. -/
theorem skipNotified_ne_sequenceRefused (environment : RoundEnvironment Transaction) (found : Bool)
    (exception : Exception) :
    skipNotified environment found ≠ .fail (.sequenceRefused exception) := by
  unfold skipNotified
  intro same
  split at same
  · split at same <;> cases same
  · cases same

/-- Deciding on a message does not ask `updateSequenceNumber`. -/
theorem turnDecision_ne_sequenceRefused (environment : RoundEnvironment Transaction)
    (exitCalled : Bool) (entry : TopicResponseDeserializer Timestamp TransactionId Transaction)
    (exception : Exception) :
    turnDecision environment exitCalled entry ≠ .fail (.sequenceRefused exception) := by
  have skipped (found : Bool) := skipNotified_ne_sequenceRefused environment found exception
  have pair (found : Bool) (transaction : Transaction) :
      decidePair environment found transaction ≠ .fail (.sequenceRefused exception) := by
    unfold decidePair
    repeat' split
    all_goals first
      | exact skipped _
      | (intro same; cases same)
  have inbound (transaction : Transaction) (body : TransactionBody) :
      decideInbound environment exitCalled transaction body ≠
        .fail (.sequenceRefused exception) := by
    unfold decideInbound
    repeat' split
    all_goals first
      | exact skipped _
      | exact pair _ _
      | (intro same; cases same)
  unfold turnDecision
  repeat' split
  all_goals first
    | exact inbound _ _
    | (intro same; cases same)

/-- The consumed numbers are the next ones, `updateSequenceNumber` has not thrown, and
transactions were processed in the order of their numbers. -/
structure ConsumedInSequence (lastKnownSequenceNumber : UInt64)
    (manager : Manager Timestamp TransactionId Transaction) : Prop where
  consumed : ∃ count, manager.consumed.map UInt64.toNat =
    List.range' (lastKnownSequenceNumber.toNat + 1) count
  accepted : ∀ exception, manager.failure ≠ some (.sequenceRefused exception)
  processed : manager.processed.Pairwise (· < ·)

/-- The last number counts the consumed ones. -/
structure Counted (lastKnownSequenceNumber : UInt64)
    (manager : Manager Timestamp TransactionId Transaction) : Prop where
  queued : ∀ entry ∈ manager.transactions, 1 ≤ entry.consensusTopicResponse.sequenceNumber
  consumed : manager.consumed.map UInt64.toNat =
    List.range' (lastKnownSequenceNumber.toNat + 1) manager.consumed.length
  last : manager.lastSequenceNumber.toNat =
    lastKnownSequenceNumber.toNat + manager.consumed.length
  accepted : ∀ exception, manager.failure ≠ some (.sequenceRefused exception)
  processed : manager.processed.Pairwise (· < ·)

/-- Nothing beyond the last number has been processed. -/
structure InSequence (lastKnownSequenceNumber : UInt64)
    (manager : Manager Timestamp TransactionId Transaction) : Prop
    extends Counted lastKnownSequenceNumber manager where
  through : manager.failure = none → ∀ number ∈ manager.processed,
    number ≤ manager.lastSequenceNumber

variable {lastKnownSequenceNumber : UInt64}

/-- A failure that refuses no number keeps the sequence. -/
theorem Counted.fail (counted : Counted lastKnownSequenceNumber manager) {failure : Failure}
    (other : ∀ exception, failure ≠ .sequenceRefused exception) :
    InSequence lastKnownSequenceNumber (manager.fail failure) where
  toCounted := ⟨counted.queued, counted.consumed, counted.last,
    fun exception same => other exception (Option.some.inj same), counted.processed⟩
  through fine := by cases fine

/-- The next number is consumed. -/
theorem Counted.consume (counted : Counted lastKnownSequenceNumber manager)
    {newSequenceNumber : UInt64}
    (next : newSequenceNumber.toNat = manager.lastSequenceNumber.toNat + 1)
    (through : ∀ number ∈ manager.processed, number ≤ newSequenceNumber) :
    InSequence lastKnownSequenceNumber (manager.updateSequenceNumber newSequenceNumber) := by
  rw [updateSequenceNumber_next next]
  refine ⟨⟨counted.queued, ?_, ?_, counted.accepted, counted.processed⟩, fun _ => through⟩
  · rw [List.map_append, counted.consumed, List.length_append, List.map_cons, List.map_nil, next,
      counted.last, List.length_singleton, List.range'_concat, Nat.one_mul]
    congr 2
    omega
  · rw [List.length_append, List.length_singleton]
    change newSequenceNumber.toNat = _
    rw [next, counted.last]
    omega

/-- A push keeps the sequence. -/
theorem InSequence.push [LinearOrder Timestamp]
    (inSequence : InSequence lastKnownSequenceNumber manager)
    {environment : PushEnvironment Timestamp}
    {response : ConsensusTopicResponse Timestamp TransactionId}
    (numbered : 1 ≤ response.sequenceNumber) :
    InSequence lastKnownSequenceNumber (manager.pushTransaction environment response) := by
  rcases pushTransaction_cases environment response manager with
    same | down | ⟨exception, down⟩ | queued
  · rwa [same]
  · rw [down]
    exact inSequence.toCounted.fail nofun
  · rw [down]
    exact inSequence.toCounted.fail nofun
  · rw [queued]
    refine ⟨⟨?_, inSequence.consumed, inSequence.last, inSequence.accepted,
      inSequence.processed⟩, inSequence.through⟩
    intro entry member
    rcases (List.mem_orderedInsert ..).mp member with rfl | before
    · exact numbered
    · exact inSequence.queued entry before

/-- A finished task keeps it. -/
theorem InSequence.finishTask (inSequence : InSequence lastKnownSequenceNumber manager)
    (environment : TaskEnvironment Transaction) (name : Nat) :
    InSequence lastKnownSequenceNumber (manager.finishTask environment name) := by
  refine ⟨⟨?_, inSequence.consumed, inSequence.last, ?_, inSequence.processed⟩,
    fun running => inSequence.through (Iff.mp finishTask_running running).1⟩
  · intro entry member
    obtain ⟨before, isBefore, rfl⟩ := List.mem_map.mp member
    have numbered := inSequence.queued before isBefore
    split <;> exact numbered
  · intro exception refused
    rcases Option.or_eq_some_iff.mp refused with before | ⟨_, faults⟩
    · exact inSequence.accepted exception before
    · obtain ⟨fault, isFault⟩ := exists_fault faults
      cases isFault

/-- Processing the transaction with the next number. -/
theorem InSequence.process (inSequence : InSequence lastKnownSequenceNumber manager)
    (fine : manager.failure = none) (environment : RoundEnvironment Transaction)
    {entry : TopicResponseDeserializer Timestamp TransactionId Transaction}
    (next : entry.consensusTopicResponse.sequenceNumber.toNat =
      manager.lastSequenceNumber.toNat + 1) :
    Counted lastKnownSequenceNumber (manager.processTransaction environment entry) ∧
      ∀ number ∈ (manager.processTransaction environment entry).processed,
        number ≤ entry.consensusTopicResponse.sequenceNumber := by
  have frame := processTransaction_processed environment entry manager
  have below : ∀ number ∈ manager.processed,
      number < entry.consensusTopicResponse.sequenceNumber := by
    intro number member
    have bounded := inSequence.through fine number member
    rw [UInt64.le_iff_toNat_le] at bounded
    rw [UInt64.lt_iff_toNat_lt]
    omega
  refine ⟨⟨?_, ?_, ?_, ?_, ?_⟩, ?_⟩
  · rw [frame.transactions]
    exact inSequence.queued
  · rw [frame.consumed]
    exact inSequence.consumed
  · rw [frame.lastSequenceNumber, frame.consumed]
    exact inSequence.last
  · intro exception refused
    rcases frame.failure with same | ⟨other, escaped⟩
    · exact inSequence.accepted exception (same ▸ refused)
    · rw [escaped] at refused
      cases refused
  · rw [frame.processed]
    refine List.pairwise_append.mpr ⟨inSequence.processed, List.pairwise_singleton _ _, ?_⟩
    intro number member other isLast
    rw [List.mem_singleton.mp isLast]
    exact below number member
  · intro number member
    rw [frame.processed] at member
    rcases List.mem_append.mp member with before | last
    · exact le_of_lt (below number before)
    · rw [List.mem_singleton.mp last]

/-- The end of a round keeps the sequence, also where the thread is down before it. -/
theorem Counted.finishRound (counted : Counted lastKnownSequenceNumber manager)
    {newSequenceNumber : UInt64}
    (next : newSequenceNumber.toNat = manager.lastSequenceNumber.toNat + 1)
    (through : ∀ number ∈ manager.processed, number ≤ newSequenceNumber)
    {rest : List (TopicResponseDeserializer Timestamp TransactionId Transaction)}
    (restQueued : ∀ other ∈ rest, 1 ≤ other.consensusTopicResponse.sequenceNumber) :
    InSequence lastKnownSequenceNumber (manager.finishRound newSequenceNumber rest) := by
  unfold SimpleOrderingManager.finishRound
  by_cases down : manager.failure.isSome = true
  · rw [if_pos down]
    refine ⟨counted, fun fine => ?_⟩
    rw [fine] at down
    cases down
  · rw [if_neg down]
    have remaining : Counted lastKnownSequenceNumber { manager with transactions := rest } :=
      ⟨restQueued, counted.consumed, counted.last, counted.accepted, counted.processed⟩
    have consumed := remaining.consume next through
    exact ⟨⟨consumed.queued, consumed.consumed, consumed.last, consumed.accepted,
      consumed.processed⟩, consumed.through⟩

/-- The message whose turn it is. -/
theorem InSequence.takeUp (inSequence : InSequence lastKnownSequenceNumber manager)
    (fine : manager.failure = none) (environment : RoundEnvironment Transaction)
    {entry : TopicResponseDeserializer Timestamp TransactionId Transaction}
    {rest : List (TopicResponseDeserializer Timestamp TransactionId Transaction)}
    (queue : manager.transactions = entry :: rest)
    (next : entry.consensusTopicResponse.sequenceNumber.toNat =
      manager.lastSequenceNumber.toNat + 1) :
    InSequence lastKnownSequenceNumber (manager.takeUp environment entry rest) := by
  have restQueued : ∀ other ∈ rest, 1 ≤ other.consensusTopicResponse.sequenceNumber :=
    fun other member => inSequence.queued other (queue ▸ List.mem_cons_of_mem _ member)
  have passed : ∀ number ∈ manager.processed,
      number ≤ entry.consensusTopicResponse.sequenceNumber := by
    intro number member
    have bounded := inSequence.through fine number member
    rw [UInt64.le_iff_toNat_le] at bounded ⊢
    omega
  have takenUp : InSequence lastKnownSequenceNumber { manager with
      takenUp := manager.takenUp ++ [entry.consensusTopicResponse.sequenceNumber] } :=
    ⟨⟨inSequence.queued, inSequence.consumed, inSequence.last, inSequence.accepted,
      inSequence.processed⟩, inSequence.through⟩
  unfold SimpleOrderingManager.takeUp
  dsimp only
  cases decided : turnDecision environment manager.exitCalled entry with
  | wait => exact inSequence
  | fail failure =>
      apply takenUp.toCounted.fail
      rintro exception rfl
      exact turnDecision_ne_sequenceRefused environment manager.exitCalled entry exception decided
  | skip =>
      have remaining : Counted lastKnownSequenceNumber { manager with
          takenUp := manager.takenUp ++ [entry.consensusTopicResponse.sequenceNumber]
          transactions := rest } :=
        ⟨restQueued, takenUp.consumed, takenUp.last, takenUp.accepted, takenUp.processed⟩
      exact remaining.consume next passed
  | process =>
      dsimp only
      by_cases success : entry.deserializeTask.success = true
      · rw [if_pos success]
        obtain ⟨counted, through⟩ := takenUp.process fine environment next
        apply counted.finishRound _ through restQueued
        rw [(processTransaction_processed environment entry _).lastSequenceNumber]
        exact next
      · rw [if_neg success]
        exact takenUp.toCounted.finishRound next passed restQueued

/-- A round keeps it. -/
theorem InSequence.round (inSequence : InSequence lastKnownSequenceNumber manager)
    (fine : manager.failure = none) (environment : RoundEnvironment Transaction) :
    InSequence lastKnownSequenceNumber (manager.round environment) := by
  have returned : InSequence lastKnownSequenceNumber manager.returned :=
    ⟨⟨inSequence.queued, inSequence.consumed, inSequence.last, inSequence.accepted,
      inSequence.processed⟩, inSequence.through⟩
  unfold SimpleOrderingManager.round
  split
  · exact returned
  · rename_i entry rest queue
    have member : entry ∈ manager.transactions := queue ▸ List.mem_cons_self ..
    split
    · exact returned
    · split
      · exact returned
      · rename_i notBeyond
        split
        · refine ⟨⟨fun other isOther => ?_, inSequence.consumed, inSequence.last,
            inSequence.accepted, inSequence.processed⟩, inSequence.through⟩
          exact inSequence.queued other (queue ▸ List.mem_cons_of_mem _ isOther)
        · rename_i notBehind
          apply inSequence.takeUp fine environment queue
          exact follows_of_turn (inSequence.queued entry member) notBeyond notBehind

/-- A push delivers a message with a sequence number. -/
def Numbered : OrderingEvent Timestamp TransactionId Transaction → Prop
  | .push _ response => 1 ≤ response.sequenceNumber
  | _ => True

variable [LinearOrder Timestamp]

/-- Every step keeps it. -/
theorem InSequence.step {manager next : Manager Timestamp TransactionId Transaction}
    {event : OrderingEvent Timestamp TransactionId Transaction}
    (inSequence : InSequence lastKnownSequenceNumber manager) (numbered : Numbered event)
    (taken : manager.step event = some next) : InSequence lastKnownSequenceNumber next := by
  unfold SimpleOrderingManager.step at taken
  split at taken
  · cases taken
  · rename_i running
    have fine : manager.failure = none := Option.not_isSome_iff_eq_none.mp running
    cases event with
    | push environment response =>
        cases taken
        exact inSequence.push numbered
    | finishTask environment name =>
        cases taken
        exact inSequence.finishTask environment name
    | round environment =>
        cases taken
        exact inSequence.round fine environment
    | exit =>
        cases taken
        exact ⟨⟨inSequence.queued, inSequence.consumed, inSequence.last, inSequence.accepted,
          inSequence.processed⟩, inSequence.through⟩

omit [LinearOrder Timestamp] in
/-- At the start nothing was consumed. -/
theorem InSequence.start (communityId : String) (lastKnownSequenceNumber : UInt64) :
    InSequence lastKnownSequenceNumber
      (start communityId lastKnownSequenceNumber :
        Manager Timestamp TransactionId Transaction) where
  queued := nofun
  consumed := rfl
  last := rfl
  accepted := nofun
  processed := List.Pairwise.nil
  through := nofun

/-- However messages, rounds and tasks interleave, the thread consumes the numbers that follow
the known one, without gap and repetition. -/
theorem consumedInSequence_of_run (communityId : String) (lastKnownSequenceNumber : UInt64)
    {events : List (OrderingEvent Timestamp TransactionId Transaction)}
    {manager : Manager Timestamp TransactionId Transaction}
    (numbered : ∀ event ∈ events, Numbered event)
    (reached : runEvents step events (SimpleOrderingManager.start communityId
      lastKnownSequenceNumber) = some manager) :
    ConsumedInSequence lastKnownSequenceNumber manager := by
  have stable (before : Manager Timestamp TransactionId Transaction)
      (event : OrderingEvent Timestamp TransactionId Transaction)
      (after : Manager Timestamp TransactionId Transaction)
      (inSequence : InSequence lastKnownSequenceNumber before) (isNumbered : Numbered event)
      (taken : before.step event = some after) : InSequence lastKnownSequenceNumber after :=
    inSequence.step isNumbered taken
  have inSequence := invariant_of_stepsMeet stable
    (InSequence.start communityId lastKnownSequenceNumber)
    (stepsMeet_of_forall numbered _) reached
  exact ⟨⟨_, inSequence.consumed⟩, inSequence.accepted, inSequence.processed⟩

/-- A message with this sequence number and consensus time. -/
def numberedMessage (sequenceNumber : UInt64) (consensusTimestamp : Nat) :
    ConsensusTopicResponse Nat Nat where
  consensusTimestamp := consensusTimestamp
  message := some [sequenceNumber.toUInt8]
  runningHash := some [sequenceNumber.toUInt8]
  sequenceNumber := sequenceNumber
  runningHashVersion := 3
  chunkInfo := { initialTransactionId := some consensusTimestamp, total := 1, number := 1 }

/-- Every transaction is local and is confirmed. -/
def confirmingRound : RoundEnvironment Nat where
  blockchain := .ok true
  getTransactionBody _ := .ok (some { type := .local, otherGroup := "" })
  notified := .ok ()
  timeouted := false
  otherBlockchain _ := .ok none
  isHieroTransactionId _ := .ok false
  pairTask := none
  isPairing _ _ := .ok false
  createAndAddConfirmedTransaction := .ok true
  updateState := .ok ()

def deserializingTask (transaction : Nat) : TaskEnvironment Nat where
  blockchain := .ok true
  deserialized := .ok (some transaction)
  signatures transaction := [[UInt8.ofNat transaction]]
  cachedTransactionNr _ := .ok none
  storedSignature _ := .ok none
  validated _ := .ok ()
  fromPast := .ok false
  notified := .ok ()

/-- The second message comes first, and once more after the first one. -/
def swappedDeliveries : List (OrderingEvent Nat Nat Nat) :=
  [.push { lastTransaction := .ok none, sameAsNull := none } (numberedMessage 2 20),
   .finishTask (deserializingTask 2) 0,
   .round confirmingRound,
   .push { lastTransaction := .ok none, sameAsNull := none } (numberedMessage 1 10),
   .push { lastTransaction := .ok none, sameAsNull := none } (numberedMessage 2 20),
   .round confirmingRound,
   .finishTask (deserializingTask 1) 1,
   .round confirmingRound,
   .round confirmingRound]

/-- The second message delivered first is consumed second. -/
theorem consumedInSequence_swappedDeliveries :
    ∃ manager, runEvents step swappedDeliveries (start "community" 0) = some manager ∧
      manager.processed = [1, 2] ∧ ConsumedInSequence 0 manager := by
  obtain ⟨manager, reached, processed⟩ :
      ∃ manager, runEvents step swappedDeliveries (start "community" 0) = some manager ∧
        manager.processed = [1, 2] :=
    ⟨_, rfl, rfl⟩
  refine ⟨manager, reached, processed, consumedInSequence_of_run "community" 0 ?_ reached⟩
  simp [swappedDeliveries, Numbered, numberedMessage]

end SimpleOrderingManager

end Controller

end GradidoNode

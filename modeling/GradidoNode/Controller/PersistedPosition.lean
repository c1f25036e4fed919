import GradidoNode.Controller.TopicMessages

/-!
# The position that is stored

`processTransaction` stores the last sequence number, and the round moves it on afterwards. A
round that skips its message stores nothing. So the stored position stays behind.
-/

namespace GradidoNode

open Library Hiero Tasks

namespace Controller

namespace SimpleOrderingManager

variable {Timestamp TransactionId Transaction : Type}
  {manager : Manager Timestamp TransactionId Transaction}

/-- The stored position is not ahead. -/
def Behind (manager : Manager Timestamp TransactionId Transaction) : Prop :=
  manager.lastKnownSequenceNumber ≤ manager.lastSequenceNumber

/-- What processing a transaction stores is the number of the message before it. -/
theorem processTransaction_position (environment : RoundEnvironment Transaction)
    (entry : TopicResponseDeserializer Timestamp TransactionId Transaction)
    (manager : Manager Timestamp TransactionId Transaction) :
    (manager.processTransaction environment entry).lastKnownSequenceNumber =
        manager.lastKnownSequenceNumber ∨
      (manager.processTransaction environment entry).lastKnownSequenceNumber =
        manager.lastSequenceNumber := by
  unfold processTransaction
  dsimp only
  split
  · exact Or.inl rfl
  · exact Or.inl rfl
  · split
    · exact Or.inl rfl
    · split
      · exact Or.inr rfl
      · split
        · split
          · exact Or.inl rfl
          · split
            · exact Or.inr rfl
            · exact Or.inl rfl
        · exact Or.inl rfl

/-- What a round leaves of the position: it has consumed nothing, or it has moved on to the
number of the first message and stored at most the number before. -/
inductive Moves (manager next : Manager Timestamp TransactionId Transaction) : Prop
  | stays (consumed : next.consumed = manager.consumed) (behind : Behind next)
  | consumes (entry : TopicResponseDeserializer Timestamp TransactionId Transaction)
      (rest : List (TopicResponseDeserializer Timestamp TransactionId Transaction))
      (queue : manager.transactions = entry :: rest)
      (consumed : next.consumed =
        manager.consumed ++ [entry.consensusTopicResponse.sequenceNumber])
      (moved : next.lastSequenceNumber = entry.consensusTopicResponse.sequenceNumber)
      (ahead : manager.lastSequenceNumber ≤ entry.consensusTopicResponse.sequenceNumber)
      (further : entry.consensusTopicResponse.sequenceNumber ≠ 0 →
        manager.lastSequenceNumber < entry.consensusTopicResponse.sequenceNumber)
      (stored : next.lastKnownSequenceNumber ≤ manager.lastSequenceNumber)

/-- A number at its turn is the next one, or 0 where nothing was consumed. -/
theorem lt_of_turn {last current : UInt64} (positive : current ≠ 0)
    (notBeyond : ¬ last + 1 < current) (notBehind : ¬ (last ≠ 0 ∧ last ≥ current)) :
    last < current := by
  have atLeastOne : 1 ≤ current := by
    rw [UInt64.le_iff_toNat_le]
    have notZero : current.toNat ≠ 0 := fun zero => positive (UInt64.toNat_inj.mp zero)
    change 1 ≤ current.toNat
    omega
  have next := follows_of_turn atLeastOne notBeyond notBehind
  rw [UInt64.lt_iff_toNat_lt]
  omega

/-- The message at its turn. -/
theorem Behind.takeUp (behind : Behind manager) (environment : RoundEnvironment Transaction)
    {entry : TopicResponseDeserializer Timestamp TransactionId Transaction}
    {rest : List (TopicResponseDeserializer Timestamp TransactionId Transaction)}
    (queue : manager.transactions = entry :: rest)
    (notBeyond : ¬ manager.lastSequenceNumber + 1 < entry.consensusTopicResponse.sequenceNumber)
    (notBehind : ¬ (manager.lastSequenceNumber ≠ 0 ∧
      manager.lastSequenceNumber ≥ entry.consensusTopicResponse.sequenceNumber)) :
    Moves manager (manager.takeUp environment entry rest) := by
  have further := fun positive => lt_of_turn positive notBeyond notBehind
  -- a manager that differs in what was taken up, processed and stored moves on the same way
  have consumes (before : Manager Timestamp TransactionId Transaction)
      (sameLast : before.lastSequenceNumber = manager.lastSequenceNumber)
      (sameConsumed : before.consumed = manager.consumed)
      (stored : before.lastKnownSequenceNumber ≤ manager.lastSequenceNumber) :
      Moves manager { before with
        consumed := before.consumed ++ [entry.consensusTopicResponse.sequenceNumber]
        lastSequenceNumber := entry.consensusTopicResponse.sequenceNumber } := by
    obtain ⟨-, ahead⟩ := updateSequenceNumber_turn manager notBeyond notBehind
    refine Moves.consumes entry rest queue ?_ rfl ahead further stored
    rw [sameConsumed]
  have finishes (before : Manager Timestamp TransactionId Transaction)
      (sameLast : before.lastSequenceNumber = manager.lastSequenceNumber)
      (sameConsumed : before.consumed = manager.consumed)
      (stored : before.lastKnownSequenceNumber ≤ manager.lastSequenceNumber) :
      Moves manager
        (before.finishRound entry.consensusTopicResponse.sequenceNumber rest) := by
    unfold finishRound
    split
    · refine Moves.stays sameConsumed ?_
      unfold Behind
      rw [sameLast]
      exact stored
    · rw [(updateSequenceNumber_turn { before with transactions := rest }
        (sameLast ▸ notBeyond) (sameLast ▸ notBehind)).1]
      exact consumes { before with
        transactions := rest
        transactionsCount := rest.length } sameLast sameConsumed stored
  unfold SimpleOrderingManager.takeUp
  dsimp only
  cases turnDecision environment manager.exitCalled entry with
  | wait => exact Moves.stays rfl behind
  | fail failure => exact Moves.stays rfl behind
  | skip =>
      rw [(updateSequenceNumber_turn { manager with
        takenUp := manager.takenUp ++ [entry.consensusTopicResponse.sequenceNumber]
        transactions := rest } notBeyond notBehind).1]
      exact consumes { manager with
        takenUp := manager.takenUp ++ [entry.consensusTopicResponse.sequenceNumber]
        transactions := rest } rfl rfl behind
  | process =>
      dsimp only
      by_cases success : entry.deserializeTask.success = true
      · rw [if_pos success]
        have frame := processTransaction_processed environment entry { manager with
          takenUp := manager.takenUp ++ [entry.consensusTopicResponse.sequenceNumber] }
        apply finishes _ frame.lastSequenceNumber frame.consumed
        rcases processTransaction_position environment entry { manager with
            takenUp := manager.takenUp ++ [entry.consensusTopicResponse.sequenceNumber] } with
          kept | stored
        · rw [kept]
          exact behind
        · rw [stored]
      · rw [if_neg success]
        exact finishes _ rfl rfl behind

theorem Behind.round (behind : Behind manager) (environment : RoundEnvironment Transaction) :
    Moves manager (manager.round environment) := by
  unfold SimpleOrderingManager.round
  split
  · exact Moves.stays rfl behind
  · rename_i entry rest queue
    split
    · exact Moves.stays rfl behind
    · split
      · exact Moves.stays rfl behind
      · rename_i notBeyond
        split
        · exact Moves.stays rfl behind
        · rename_i notBehind
          exact behind.takeUp environment queue notBeyond notBehind

theorem Moves.behind {next : Manager Timestamp TransactionId Transaction}
    (moves : Moves manager next) : Behind next := by
  cases moves with
  | stays consumed behind => exact behind
  | consumes entry rest queue consumed moved ahead further stored =>
      unfold Behind
      rw [moved]
      exact le_trans stored ahead

section

variable [LinearOrder Timestamp]

theorem Behind.step {next : Manager Timestamp TransactionId Transaction}
    {event : OrderingEvent Timestamp TransactionId Transaction} (behind : Behind manager)
    (taken : manager.step event = some next) : Behind next := by
  unfold SimpleOrderingManager.step at taken
  split at taken
  · cases taken
  · cases event with
    | push environment response =>
        cases taken
        rcases pushTransaction_cases environment response manager with
          same | down | ⟨exception, down⟩ | queued
        · rwa [same]
        · rw [down]
          exact behind
        · rw [down]
          exact behind
        · rw [queued]
          exact behind
    | finishTask environment name =>
        cases taken
        exact behind
    | round environment =>
        cases taken
        exact (behind.round environment).behind
    | exit =>
        cases taken
        exact behind

end

end SimpleOrderingManager

end Controller

end GradidoNode

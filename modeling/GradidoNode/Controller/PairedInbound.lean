import GradidoNode.Controller.CrossGroupPairs

/-!
# No inbound transaction without its pair

Whatever the order in which the ordering threads run: an inbound transaction is handed to
`processTransaction` only in a round that has searched the queue of the other manager, and has
found there a deserialized transaction that is pairing with it.
-/

namespace GradidoNode

open Library Hiero Tasks

namespace Controller

namespace SimpleOrderingManager

variable {Timestamp TransactionId Transaction : Type} [LinearOrder Timestamp]
  {manager : Manager Timestamp TransactionId Transaction}

/-- A round that calls `processTransaction` does so for the message whose turn it is. -/
theorem exists_turn_of_round_processed {environment : RoundEnvironment Transaction}
    (grown : (manager.round environment).processed ≠ manager.processed) :
    ∃ entry, manager.turn = some entry ∧
      turnDecision environment manager.exitCalled entry = .process ∧
      (manager.round environment).processed =
        manager.processed ++ [entry.consensusTopicResponse.sequenceNumber] := by
  cases isTurn : manager.turn with
  | some entry =>
      obtain ⟨rest, isRound⟩ := round_of_turn isTurn environment
      rw [isRound, takeUp_processed] at grown ⊢
      split at grown
      · rename_i handed
        exact ⟨entry, rfl, handed.1, if_pos handed⟩
      · exact absurd rfl grown
  | none =>
      -- without a turn the round returns, or drops a message that comes too late
      refine absurd ?_ grown
      unfold round
      unfold turn at isTurn
      cases queue : manager.transactions with
      | nil => rfl
      | cons entry rest =>
          rw [queue] at isTurn
          dsimp only at isTurn ⊢
          split at isTurn
          · rename_i unfinished
            rw [if_pos unfinished]
            rfl
          · rename_i finished
            rw [if_neg finished]
            split at isTurn
            · rename_i gap
              rw [if_pos gap]
              rfl
            · rename_i noGap
              rw [if_neg noGap]
              split at isTurn
              · rename_i stale
                rw [if_pos stale]
              · cases isTurn

end SimpleOrderingManager

namespace CrossGroupNode

open SimpleOrderingManager

variable {Timestamp TransactionId Transaction : Type} [LinearOrder Timestamp]
  [DecidableEq TransactionId] {library : CrossGroupLibrary TransactionId Transaction}
  {node next : Node Timestamp TransactionId Transaction} {communityId : String}

/-! ## Rounds that search -/

/-- A round that goes on with a search knows for which message, and was told about the groups by
this node. -/
structure Examined (library : CrossGroupLibrary TransactionId Transaction)
    (node : Node Timestamp TransactionId Transaction) (communityId : String)
    (environment : RoundEnvironment Transaction) (otherGroup : String) : Prop where
  body : environment.getTransactionBody = library.getTransactionBody
  own : ∀ group own, environment.otherBlockchain group = .ok (some own) →
    own = decide (group = communityId)
  target : ∃ manager transaction, node.managers communityId = some manager ∧
    manager.searchTarget environment = some (transaction, otherGroup)

omit [LinearOrder Timestamp] [DecidableEq TransactionId] in
theorem examined_of_told {manager : Manager Timestamp TransactionId Transaction}
    {environment : RoundEnvironment Transaction} {transaction : Transaction} {otherGroup : String}
    (isManager : node.managers communityId = some manager)
    (target : manager.searchTarget (node.told library communityId environment) =
      some (transaction, otherGroup)) :
    Examined library node communityId (node.told library communityId environment) otherGroup where
  body := rfl
  own group own isOwn := by
    dsimp only [told] at isOwn
    cases found : environment.otherBlockchain group with
    | error exception =>
        rw [found] at isOwn
        cases isOwn
    | ok present =>
        rw [found] at isOwn
        simp only [Except.map, Except.ok.injEq] at isOwn
        split at isOwn
        · exact (Option.some.inj isOwn).symm
        · cases isOwn
  target := ⟨manager, transaction, isManager, target⟩

theorem Examined.of_step {environment : RoundEnvironment Transaction} {otherGroup : String}
    (examined : Examined library node communityId environment otherGroup) (locked : Locked node)
    {event : CrossGroupEvent Timestamp TransactionId Transaction}
    (inRound : node.phase communityId ≠ .outside) (stillInRound : next.phase communityId ≠ .outside)
    (taken : node.step library event = some next) :
    Examined library next communityId environment otherGroup where
  body := examined.body
  own := examined.own
  target := by
    obtain ⟨manager, transaction, isManager, target⟩ := examined.target
    obtain ⟨entry, _, isTurn, _⟩ := searchTarget_eq_some target
    obtain ⟨after, isAfter, sameTurn⟩ :=
      locked.turn_of_step inRound stillInRound isManager isTurn taken
    refine ⟨after, transaction, isAfter, ?_⟩
    rw [searchTarget_congr environment (sameTurn.trans isTurn.symm)]
    exact target

/-- The message in its turn after a step had it before. -/
theorem Examined.turn_back {environment : RoundEnvironment Transaction} {otherGroup : String}
    (examined : Examined library node communityId environment otherGroup) (locked : Locked node)
    {event : CrossGroupEvent Timestamp TransactionId Transaction}
    {after : Manager Timestamp TransactionId Transaction}
    {entry : TopicResponseDeserializer Timestamp TransactionId Transaction}
    (inRound : node.phase communityId ≠ .outside) (stillInRound : next.phase communityId ≠ .outside)
    (taken : node.step library event = some next)
    (isAfter : next.managers communityId = some after) (isTurn : after.turn = some entry) :
    ∃ manager, node.managers communityId = some manager ∧ manager.turn = some entry := by
  obtain ⟨manager, _, isManager, target⟩ := examined.target
  obtain ⟨before, _, wasTurn, _⟩ := searchTarget_eq_some target
  obtain ⟨present, isPresent, sameTurn⟩ :=
    locked.turn_of_step inRound stillInRound isManager wasTurn taken
  cases isAfter.symm.trans isPresent
  cases isTurn.symm.trans sameTurn
  exact ⟨manager, isManager, wasTurn⟩

/-- Every thread that searches, or has searched, has examined its queue. -/
structure Examining (library : CrossGroupLibrary TransactionId Transaction)
    (node : Node Timestamp TransactionId Transaction) : Prop where
  locked : Locked node
  waits : ∀ communityId otherGroup environment,
    node.phase communityId = .waits otherGroup environment →
      Examined library node communityId environment otherGroup
  searches : ∀ communityId otherGroup environment,
    node.phase communityId = .searches otherGroup environment →
      Examined library node communityId environment otherGroup
  found : ∀ communityId environment, node.phase communityId = .found environment →
    ∃ otherGroup, Examined library node communityId environment otherGroup

omit [LinearOrder Timestamp] [DecidableEq TransactionId] in
/-- The result of the search does not matter for what was examined. -/
theorem Examined.withPairTask {environment : RoundEnvironment Transaction} {otherGroup : String}
    (examined : Examined library node communityId environment otherGroup)
    (pairTask : Option (HieroMessageToTransactionTask Transaction)) :
    Examined library node communityId { environment with pairTask := pairTask } otherGroup :=
  ⟨examined.body, examined.own, examined.target⟩

theorem Examining.step (examining : Examining library node)
    {event : CrossGroupEvent Timestamp TransactionId Transaction}
    (taken : node.step library event = some next) : Examining library next where
  locked := examining.locked.step taken
  waits communityId otherGroup environment waiting := by
    have stillInRound : next.phase communityId ≠ .outside := by simp [waiting]
    rcases phase_of_step taken communityId with same | moves
    · have before := same.symm.trans waiting
      exact (examining.waits communityId otherGroup environment before).of_step examining.locked
        (by simp [before]) stillInRound taken
    · rw [waiting] at moves
      cases moves with
      | waits manager told transaction _ isManager inside target =>
          exact (examined_of_told isManager target).of_step examining.locked (by simp [inside])
            stillInRound taken
  searches communityId otherGroup environment searching := by
    have stillInRound : next.phase communityId ≠ .outside := by simp [searching]
    rcases phase_of_step taken communityId with same | moves
    · have before := same.symm.trans searching
      exact (examining.searches communityId otherGroup environment before).of_step examining.locked
        (by simp [before]) stillInRound taken
    · rw [searching] at moves
      cases moves with
      | searches _ _ waiting =>
          exact (examining.waits communityId otherGroup environment waiting).of_step
            examining.locked (by simp [waiting]) stillInRound taken
  found communityId environment isFound := by
    have stillInRound : next.phase communityId ≠ .outside := by simp [isFound]
    rcases phase_of_step taken communityId with same | moves
    · have before := same.symm.trans isFound
      obtain ⟨otherGroup, examined⟩ := examining.found communityId environment before
      exact ⟨otherGroup, examined.of_step examining.locked (by simp [before]) stillInRound taken⟩
    · rw [isFound] at moves
      cases moves with
      | unsearched manager told transaction otherGroup isManager inside target =>
          exact ⟨otherGroup, ((examined_of_told isManager target).withPairTask none).of_step
            examining.locked (by simp [inside]) stillInRound taken⟩
      | found manager otherGroup told transaction namedGroup other isManager searching target =>
          exact ⟨otherGroup, ((examining.searches communityId otherGroup told searching).withPairTask
            _).of_step examining.locked (by simp [searching]) stillInRound taken⟩

/-! ## The search that has found the pair -/

/-- The search that gets this task for a message. -/
def Finds (library : CrossGroupLibrary TransactionId Transaction) (communityId : String)
    (environment : RoundEnvironment Transaction)
    (pairTask : HieroMessageToTransactionTask Transaction)
    (entry : TopicResponseDeserializer Timestamp TransactionId Transaction)
    (node : Node Timestamp TransactionId Transaction)
    (event : CrossGroupEvent Timestamp TransactionId Transaction) : Prop :=
  event = .search communityId ∧
    (∃ manager, node.managers communityId = some manager ∧ manager.turn = some entry) ∧
    ∃ otherGroup told transaction other, node.phase communityId = .searches otherGroup told ∧
      environment = { told with pairTask := some pairTask } ∧
      entry.deserializeTask.transaction = some transaction ∧
      Examined library node communityId told otherGroup ∧
      node.managers otherGroup = some other ∧
      other.findTask (library.paringMessageId transaction) = some pairTask

end CrossGroupNode

end Controller

end GradidoNode

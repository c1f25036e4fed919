import GradidoNode.Controller.CrossGroupLocks

/-!
# Rounds that keep their turn

As long as an ordering thread is in a round, it holds the mutex of its queue, and the message at
the front keeps its turn. A round hands an inbound transaction over if its search has found the
pair.
-/

namespace GradidoNode

open Library Hiero Tasks

namespace Controller

namespace SimpleOrderingManager

variable {Timestamp TransactionId Transaction : Type}
  {manager next : Manager Timestamp TransactionId Transaction}
  {entry : TopicResponseDeserializer Timestamp TransactionId Transaction}

/-! ## Turns -/

/-- The message whose turn it is, is the first one, deserialized and neither too early nor too
late. -/
theorem turn_eq_some_iff : manager.turn = some entry ↔
    ∃ rest, manager.transactions = entry :: rest ∧ entry.deserializeTask.finished = true ∧
      ¬ manager.lastSequenceNumber + 1 < entry.consensusTopicResponse.sequenceNumber ∧
      ¬ (manager.lastSequenceNumber ≠ 0 ∧
        manager.lastSequenceNumber ≥ entry.consensusTopicResponse.sequenceNumber) := by
  unfold turn
  cases queue : manager.transactions with
  | nil => simp
  | cons first rest =>
      dsimp only
      split
      · rename_i unfinished
        simp only [reduceCtorEq, List.cons.injEq, false_iff, not_exists, not_and]
        rintro _ ⟨rfl, _⟩ finished
        cases unfinished.symm.trans finished
      · rename_i finished
        split
        · rename_i gap
          simp only [reduceCtorEq, List.cons.injEq, false_iff, not_exists, not_and]
          rintro _ ⟨rfl, _⟩ _ noGap
          exact absurd gap noGap
        · rename_i noGap
          split
          · rename_i stale
            simp only [reduceCtorEq, List.cons.injEq, false_iff, not_exists, not_and]
            rintro _ ⟨rfl, _⟩ _ _ fresh
            exact absurd stale.2 (fresh stale.1)
          · rename_i fresh
            constructor
            · rintro same
              cases same
              exact ⟨rest, rfl, Bool.not_eq_false _ ▸ finished, noGap, fresh⟩
            · rintro ⟨_, same, _⟩
              cases same
              rfl

/-- The message whose turn it is has been deserialized. -/
theorem turn_finished (isTurn : manager.turn = some entry) :
    entry.deserializeTask.finished = true := by
  obtain ⟨_, _, finished, _⟩ := turn_eq_some_iff.mp isTurn
  exact finished

/-- The worker of another message does not take the turn away. -/
theorem turn_finishTask (isTurn : manager.turn = some entry)
    (environment : TaskEnvironment Transaction) (name : Nat) :
    (manager.finishTask environment name).turn = some entry := by
  obtain ⟨rest, queue, finished, noGap, fresh⟩ := turn_eq_some_iff.mp isTurn
  apply turn_eq_some_iff.mpr
  unfold finishTask
  dsimp only
  rw [queue, List.map_cons, if_neg (by simp [finished])]
  exact ⟨_, rfl, finished, noGap, fresh⟩

/-- A round whose turn has come takes that message up. -/
theorem round_of_turn [LinearOrder Timestamp] (isTurn : manager.turn = some entry)
    (environment : RoundEnvironment Transaction) :
    ∃ rest, manager.round environment = manager.takeUp environment entry rest := by
  obtain ⟨rest, queue, finished, noGap, fresh⟩ := turn_eq_some_iff.mp isTurn
  refine ⟨rest, ?_⟩
  unfold round
  rw [queue]
  dsimp only
  rw [if_neg (by simp [finished]), if_neg noGap, if_neg fresh]

/-- The community searched depends on the turn only. -/
theorem searchTarget_congr (environment : RoundEnvironment Transaction)
    (turn : next.turn = manager.turn) :
    next.searchTarget environment = manager.searchTarget environment := by
  unfold searchTarget
  rw [turn]

/-! ## Rounds that hand over -/

/-- What the thread needs before it looks at the task of the pair. -/
structure Asks (environment : RoundEnvironment Transaction) (transaction : Transaction)
    (otherGroup : String) (own : Bool) : Prop where
  blockchain : ∃ found, environment.blockchain = .ok found
  inTime : environment.timeouted = false
  otherBlockchain : environment.otherBlockchain otherGroup = .ok (some own)
  identified : environment.isHieroTransactionId transaction = .ok true

/-- The search is for what the thread asks about. -/
theorem searchTarget_eq_some_iff {environment : RoundEnvironment Transaction}
    {transaction : Transaction} {body : TransactionBody} (isTurn : manager.turn = some entry)
    (isTransaction : entry.deserializeTask.transaction = some transaction)
    (isBody : environment.getTransactionBody transaction = .ok (some body))
    (inbound : body.type = .inbound) :
    manager.searchTarget environment = some (transaction, body.otherGroup) ↔
      ∃ own, Asks environment transaction body.otherGroup own := by
  have isSearched : manager.searchTarget environment =
      if environment.blockchain.toOption.isSome ∧ environment.timeouted = false ∧
          (environment.otherBlockchain body.otherGroup).toOption.join.isSome ∧
          (environment.isHieroTransactionId transaction).toOption = some true then
        some (transaction, body.otherGroup)
      else none := by
    have read : (environment.getTransactionBody transaction).toOption.join = some body := by
      rw [isBody]
      rfl
    unfold searchTarget
    simp [isTurn, isTransaction, read, inbound]
  rw [isSearched]
  constructor
  · intro target
    split at target
    · rename_i asks
      obtain ⟨blockchain, inTime, otherBlockchain, identified⟩ := asks
      cases found : environment.blockchain with
      | error exception => simp [found, Except.toOption] at blockchain
      | ok present =>
        cases other : environment.otherBlockchain body.otherGroup with
        | error exception => simp [other, Except.toOption] at otherBlockchain
        | ok target =>
          cases target with
          | none => simp [other, Except.toOption] at otherBlockchain
          | some own =>
            cases valid : environment.isHieroTransactionId transaction with
            | error exception => simp [valid, Except.toOption] at identified
            | ok isId =>
              simp only [valid, Except.toOption, Option.some.injEq] at identified
              subst identified
              exact ⟨own, ⟨present, found⟩, inTime, other, valid⟩
    · cases target
  · rintro ⟨own, ⟨found, blockchain⟩, inTime, otherBlockchain, identified⟩
    simp [blockchain, inTime, otherBlockchain, identified, Except.toOption]

@[simp] theorem updateSequenceNumber_processed (newSequenceNumber : UInt64)
    (manager : Manager Timestamp TransactionId Transaction) :
    (manager.updateSequenceNumber newSequenceNumber).processed = manager.processed := by
  unfold updateSequenceNumber
  dsimp only
  split
  · rfl
  · split
    · rfl
    · rfl

@[simp] theorem finishRound_processed (currentSequenceNumber : UInt64)
    (rest : List (TopicResponseDeserializer Timestamp TransactionId Transaction))
    (manager : Manager Timestamp TransactionId Transaction) :
    (manager.finishRound currentSequenceNumber rest).processed = manager.processed := by
  unfold finishRound
  split
  · rfl
  · exact updateSequenceNumber_processed _ _

/-- `processTransaction` is called for the message whose turn it is, or not at all. -/
theorem takeUp_processed (environment : RoundEnvironment Transaction)
    (entry : TopicResponseDeserializer Timestamp TransactionId Transaction)
    (rest : List (TopicResponseDeserializer Timestamp TransactionId Transaction))
    (manager : Manager Timestamp TransactionId Transaction) :
    (manager.takeUp environment entry rest).processed =
      if turnDecision environment manager.exitCalled entry = .process ∧
          entry.deserializeTask.success = true then
        manager.processed ++ [entry.consensusTopicResponse.sequenceNumber]
      else manager.processed := by
  unfold takeUp
  dsimp only
  cases decision : turnDecision environment manager.exitCalled entry with
  | wait => simp
  | fail failure => simp [fail]
  | skip => simp
  | process =>
    dsimp only
    split
    · rename_i success
      rw [finishRound_processed, if_pos ⟨rfl, success⟩]
      exact (processTransaction_processed environment entry { manager with
        takenUp := manager.takenUp ++ [entry.consensusTopicResponse.sequenceNumber] }).processed
    · rename_i noSuccess
      rw [finishRound_processed, if_neg (fun handed => noSuccess handed.2)]

/-- What was handed over stays on record. -/
theorem processed_prefix_round [LinearOrder Timestamp] (environment : RoundEnvironment Transaction)
    (manager : Manager Timestamp TransactionId Transaction) :
    manager.processed <+: (manager.round environment).processed := by
  unfold round
  split
  · exact List.prefix_rfl
  · split
    · exact List.prefix_rfl
    · split
      · exact List.prefix_rfl
      · split
        · exact List.prefix_rfl
        · rw [takeUp_processed]
          split
          · exact List.prefix_append _ _
          · exact List.prefix_rfl

end SimpleOrderingManager

namespace CrossGroupNode

open SimpleOrderingManager

variable {Timestamp TransactionId Transaction : Type} [LinearOrder Timestamp]
  [DecidableEq TransactionId] {library : CrossGroupLibrary TransactionId Transaction}
  {node next : Node Timestamp TransactionId Transaction}

/-! ## Mutexes -/

/-- A thread in a round holds the mutex of its queue, and of the one that it searches. -/
structure Locked (node : Node Timestamp TransactionId Transaction) : Prop where
  own : ∀ communityId, node.phase communityId ≠ .outside →
    node.holder communityId = some (.orderingThread communityId)
  searched : ∀ communityId otherGroup environment,
    node.phase communityId = .searches otherGroup environment →
      otherGroup ≠ communityId ∧ node.holder otherGroup = some (.orderingThread communityId)

omit [LinearOrder Timestamp] [DecidableEq TransactionId] in
/-- A node at rest holds no lock. -/
theorem locked_of_resting (resting : Resting node) : Locked node where
  own communityId moved := absurd (resting.phase communityId) moved
  searched communityId otherGroup environment searches := by
    rw [resting.phase] at searches
    cases searches

omit [LinearOrder Timestamp] [DecidableEq TransactionId] in
/-- Who holds which lock does not depend on the managers. -/
theorem Locked.setManager (locked : Locked node) (communityId : String)
    (manager : Manager Timestamp TransactionId Transaction) :
    Locked (node.setManager communityId manager) :=
  ⟨locked.own, locked.searched⟩

omit [LinearOrder Timestamp] [DecidableEq TransactionId] in
/-- A thread in a round goes on in its round. -/
theorem Locked.setPhase (locked : Locked node) {communityId : String}
    {phase : ThreadPhase Transaction} (inRound : node.phase communityId ≠ .outside)
    (notSearching : ∀ otherGroup environment, phase ≠ .searches otherGroup environment) :
    Locked (node.setPhase communityId phase) where
  own other moved := by
    by_cases same : other = communityId
    · subst same
      exact locked.own other inRound
    · rw [phase_setPhase_of_ne _ _ _ same] at moved
      exact locked.own other moved
  searched other otherGroup environment searches := by
    by_cases same : other = communityId
    · subst same
      rw [phase_setPhase_self] at searches
      exact absurd searches (notSearching otherGroup environment)
    · rw [phase_setPhase_of_ne _ _ _ same] at searches
      exact locked.searched other otherGroup environment searches

omit [LinearOrder Timestamp] [DecidableEq TransactionId] in
/-- A mutex that no ordering thread holds can change hands. -/
theorem Locked.setHolder (locked : Locked node) {communityId : String} {holder : Option Holder}
    (free : ∀ thread, node.holder communityId ≠ some (.orderingThread thread)) :
    Locked (node.setHolder communityId holder) where
  own other moved := by
    have differ : other ≠ communityId := by
      rintro rfl
      exact free other (locked.own other moved)
    rw [holder_setHolder_of_ne _ _ _ differ]
    exact locked.own other moved
  searched other otherGroup environment searches := by
    obtain ⟨notOwn, held⟩ := locked.searched other otherGroup environment searches
    have differ : otherGroup ≠ communityId := by
      rintro rfl
      exact free other held
    rw [holder_setHolder_of_ne _ _ _ differ]
    exact ⟨notOwn, held⟩

omit [LinearOrder Timestamp] [DecidableEq TransactionId] in
/-- The end of a round, which is not a search. -/
theorem Locked.endRound (locked : Locked node) {communityId : String}
    (manager : Manager Timestamp TransactionId Transaction)
    (environment : RoundEnvironment Transaction)
    (held : node.holder communityId = some (.orderingThread communityId)) :
    Locked (node.endRound communityId manager environment) where
  own other moved := by
    have differ : other ≠ communityId := by
      rintro rfl
      exact moved (phase_setPhase_self _ _ _)
    exact (holder_setHolder_of_ne _ _ _ differ).trans
      (locked.own other ((phase_setPhase_of_ne (node.setManager communityId _) _ _ differ) ▸ moved))
  searched other otherGroup present searches := by
    have differ : other ≠ communityId := by
      rintro rfl
      cases (phase_setPhase_self _ _ _).symm.trans searches
    obtain ⟨notOwn, holds⟩ := locked.searched other otherGroup present
      ((phase_setPhase_of_ne (node.setManager communityId _) _ _ differ) ▸ searches)
    have free : otherGroup ≠ communityId := by
      rintro rfl
      cases held.symm.trans holds
      exact differ rfl
    exact ⟨notOwn, (holder_setHolder_of_ne _ _ _ free).trans holds⟩

omit [LinearOrder Timestamp] [DecidableEq TransactionId] in
/-- Taking its own free lock. -/
theorem Locked.lock (locked : Locked node) {communityId : String}
    (free : node.holder communityId = none) :
    Locked ((node.setPhase communityId .inside).setHolder communityId
      (some (.orderingThread communityId))) where
  own other moved := by
    by_cases same : other = communityId
    · subst same
      exact holder_setHolder_self _ _ _
    · rw [phase_setHolder, phase_setPhase_of_ne _ _ _ same] at moved
      exact (holder_setHolder_of_ne _ _ _ same).trans (locked.own other moved)
  searched other otherGroup environment searches := by
    have differ : other ≠ communityId := by
      rintro rfl
      cases (phase_setPhase_self _ _ _).symm.trans searches
    rw [phase_setHolder, phase_setPhase_of_ne _ _ _ differ] at searches
    obtain ⟨notOwn, held⟩ := locked.searched other otherGroup environment searches
    have another : otherGroup ≠ communityId := by
      rintro rfl
      cases free.symm.trans held
    exact ⟨notOwn, (holder_setHolder_of_ne _ _ _ another).trans held⟩

omit [LinearOrder Timestamp] [DecidableEq TransactionId] in
/-- Taking the free lock of the other community. -/
theorem Locked.lockOther (locked : Locked node) {communityId otherGroup : String}
    {environment : RoundEnvironment Transaction}
    (waiting : node.phase communityId = .waits otherGroup environment)
    (free : node.holder otherGroup = none) :
    Locked ((node.setPhase communityId (.searches otherGroup environment)).setHolder otherGroup
      (some (.orderingThread communityId))) where
  own other moved := by
    have before : node.phase other ≠ .outside := by
      by_cases same : other = communityId
      · rw [same, waiting]
        simp
      · rw [phase_setHolder, phase_setPhase_of_ne _ _ _ same] at moved
        exact moved
    have differ : other ≠ otherGroup := by
      rintro rfl
      cases free.symm.trans (locked.own other before)
    exact (holder_setHolder_of_ne _ _ _ differ).trans (locked.own other before)
  searched other named present searches := by
    by_cases same : other = communityId
    · subst same
      rw [phase_setHolder, phase_setPhase_self] at searches
      cases searches
      refine ⟨?_, holder_setHolder_self _ _ _⟩
      rintro rfl
      cases free.symm.trans (locked.own otherGroup (by simp [waiting]))
    · rw [phase_setHolder, phase_setPhase_of_ne _ _ _ same] at searches
      obtain ⟨notOwn, held⟩ := locked.searched other named present searches
      have another : named ≠ otherGroup := by
        rintro rfl
        cases free.symm.trans held
      exact ⟨notOwn, (holder_setHolder_of_ne _ _ _ another).trans held⟩

omit [LinearOrder Timestamp] [DecidableEq TransactionId] in
/-- Giving the other community's lock back after the search. -/
theorem Locked.search (locked : Locked node) {communityId otherGroup : String}
    {environment result : RoundEnvironment Transaction}
    (searching : node.phase communityId = .searches otherGroup environment) :
    Locked ((node.setPhase communityId (.found result)).setHolder otherGroup none) where
  own other moved := by
    obtain ⟨notOwn, holds⟩ := locked.searched communityId otherGroup environment searching
    have before : node.phase other ≠ .outside := by
      by_cases same : other = communityId
      · rw [same, searching]
        simp
      · rw [phase_setHolder, phase_setPhase_of_ne _ _ _ same] at moved
        exact moved
    have differ : other ≠ otherGroup := by
      rintro rfl
      cases holds.symm.trans (locked.own other before)
      exact notOwn rfl
    exact (holder_setHolder_of_ne _ _ _ differ).trans (locked.own other before)
  searched other named present searches := by
    have differ : other ≠ communityId := by
      rintro rfl
      cases (phase_setPhase_self _ _ _).symm.trans searches
    rw [phase_setHolder, phase_setPhase_of_ne _ _ _ differ] at searches
    obtain ⟨notOwn, held⟩ := locked.searched other named present searches
    have another : named ≠ otherGroup := by
      rintro rfl
      cases held.symm.trans (locked.searched communityId named environment searching).2
      exact differ rfl
    exact ⟨notOwn, (holder_setHolder_of_ne _ _ _ another).trans held⟩

/-- Every step keeps the account of the locks. -/
theorem Locked.step (locked : Locked node)
    {event : CrossGroupEvent Timestamp TransactionId Transaction}
    (taken : node.step library event = some next) : Locked next := by
  cases moves_of_step taken with
  | lock communityId manager isManager outside free => exact locked.lock free
  | ends communityId manager environment isManager inside target =>
      exact locked.endRound _ _ (locked.own communityId (by simp [inside]))
  | unsearched communityId manager environment transaction otherGroup other isManager inside =>
      exact locked.setPhase (by simp [inside]) (by simp)
  | waits communityId manager environment transaction otherGroup other isManager inside =>
      exact locked.setPhase (by simp [inside]) (by simp)
  | lockOther communityId otherGroup environment waiting free => exact locked.lockOther waiting free
  | search communityId manager otherGroup environment transaction namedGroup other isManager searches =>
      exact locked.search searches
  | finish communityId manager environment isManager found =>
      exact locked.endRound _ _ (locked.own communityId (by simp [found]))
  | lockPush communityId free => exact locked.setHolder (by simp [free])
  | push communityId manager environment response isManager pushing =>
      exact (locked.setManager _ _).setHolder (by simp [pushing])
  | finishTask communityId manager environment name isManager => exact locked.setManager _ _
  | exit communityId manager isManager => exact locked.setManager _ _

/-! ## Turns in a round -/

/-- What a thread in its round looks at stays as it is until the end of the round. -/
theorem Locked.turn_of_step (locked : Locked node) {communityId : String}
    {manager : Manager Timestamp TransactionId Transaction}
    {entry : TopicResponseDeserializer Timestamp TransactionId Transaction}
    {event : CrossGroupEvent Timestamp TransactionId Transaction}
    (inRound : node.phase communityId ≠ .outside) (stillInRound : next.phase communityId ≠ .outside)
    (isManager : node.managers communityId = some manager) (isTurn : manager.turn = some entry)
    (taken : node.step library event = some next) :
    ∃ after, next.managers communityId = some after ∧ after.turn = some entry := by
  have held := locked.own communityId inRound
  have kept (other : String) (changed : Manager Timestamp TransactionId Transaction)
      (differ : other ≠ communityId) (same : next.managers = (node.setManager other changed).managers) :
      ∃ after, next.managers communityId = some after ∧ after.turn = some entry := by
    rw [same, managers_setManager_of_ne _ _ _ differ.symm]
    exact ⟨manager, isManager, isTurn⟩
  cases moves_of_step taken with
  | lock | unsearched | waits | lockOther | search | lockPush => exact ⟨manager, isManager, isTurn⟩
  | ends other changed environment =>
      apply kept other _ _ rfl
      rintro rfl
      exact stillInRound (phase_setPhase_self _ _ _)
  | finish other changed environment =>
      apply kept other _ _ rfl
      rintro rfl
      exact stillInRound (phase_setPhase_self _ _ _)
  | push other changed environment response isChanged pushing =>
      apply kept other _ _ rfl
      rintro rfl
      cases held.symm.trans pushing
  | finishTask other changed environment name isChanged =>
      by_cases same : other = communityId
      · subst same
        cases isManager.symm.trans isChanged
        exact ⟨_, managers_setManager_self _ _ _, turn_finishTask isTurn environment name⟩
      · exact kept other _ same rfl
  | exit other changed isChanged =>
      by_cases same : other = communityId
      · subst same
        cases isManager.symm.trans isChanged
        exact ⟨_, managers_setManager_self _ _ _, isTurn⟩
      · exact kept other _ same rfl

/-- No step takes a message from the record of those that were handed over. -/
theorem processed_prefix_of_step {communityId : String}
    {manager : Manager Timestamp TransactionId Transaction}
    {event : CrossGroupEvent Timestamp TransactionId Transaction}
    (isManager : node.managers communityId = some manager)
    (taken : node.step library event = some next) :
    ∃ after, next.managers communityId = some after ∧ manager.processed <+: after.processed := by
  have changes (other : String) (present changed : Manager Timestamp TransactionId Transaction)
      (isPresent : node.managers other = some present)
      (same : next.managers = (node.setManager other changed).managers)
      (longer : present.processed <+: changed.processed) :
      ∃ after, next.managers communityId = some after ∧ manager.processed <+: after.processed := by
    rw [same]
    by_cases isOther : communityId = other
    · subst isOther
      cases isManager.symm.trans isPresent
      exact ⟨changed, managers_setManager_self _ _ _, longer⟩
    · rw [managers_setManager_of_ne _ _ _ isOther]
      exact ⟨manager, isManager, List.prefix_rfl⟩
  cases moves_of_step taken with
  | lock | unsearched | waits | lockOther | search | lockPush =>
      exact ⟨manager, isManager, List.prefix_rfl⟩
  | ends other present environment isPresent =>
      exact changes other present _ isPresent rfl (processed_prefix_round _ _)
  | finish other present environment isPresent =>
      exact changes other present _ isPresent rfl (processed_prefix_round _ _)
  | push other present environment response isPresent =>
      apply changes other present _ isPresent rfl
      rcases pushTransaction_cases environment response present with
        same | failed | ⟨exception, failed⟩ | inserted
      · rw [same]
      · rw [failed]
        exact List.prefix_rfl
      · rw [failed]
        exact List.prefix_rfl
      · rw [inserted]
  | finishTask other present environment name isPresent =>
      exact changes other present _ isPresent rfl List.prefix_rfl
  | exit other present isPresent =>
      exact changes other present _ isPresent rfl List.prefix_rfl

/-- A run only appends to what a manager processed. -/
theorem processed_prefix_of_run {communityId : String}
    {manager : Manager Timestamp TransactionId Transaction}
    {events : List (CrossGroupEvent Timestamp TransactionId Transaction)}
    (isManager : node.managers communityId = some manager)
    (reached : runEvents (step library) events node = some next) :
    ∃ after, next.managers communityId = some after ∧ manager.processed <+: after.processed := by
  induction events generalizing node manager with
  | nil =>
      cases reached
      exact ⟨manager, isManager, List.prefix_rfl⟩
  | cons event events ih =>
      obtain ⟨middle, taken, rest⟩ := runEvents_cons.mp reached
      obtain ⟨between, isBetween, longer⟩ := processed_prefix_of_step isManager taken
      obtain ⟨after, isAfter, evenLonger⟩ := ih isBetween rest
      exact ⟨after, isAfter, longer.trans evenLonger⟩

end CrossGroupNode

end Controller

end GradidoNode

import GradidoNode.Controller.CrossGroupTurns

/-!
# Inbound transactions and their pairs

The pair of an inbound transaction is looked for in the queue of the other manager. It is there
only as long as that manager has not taken it up.
-/

namespace GradidoNode

open Library Hiero Tasks

namespace Controller

open SimpleOrderingManager

/-- An outbound transaction of one community, and the inbound one of another that belongs to it. -/
structure CrossGroupPair (TransactionId Transaction : Type) where
  /-- The community of the inbound transaction. -/
  communityId : String
  /-- The community of the outbound transaction. -/
  otherGroup : String
  /-- The name of the task of the inbound message. -/
  name : Nat
  inbound : Transaction
  outbound : Transaction
  /-- The id of the outbound transaction. -/
  transactionId : TransactionId

namespace CrossGroupNode

variable {Timestamp TransactionId Transaction : Type} [LinearOrder Timestamp]
  [DecidableEq TransactionId] (library : CrossGroupLibrary TransactionId Transaction)
  (pair : CrossGroupPair TransactionId Transaction)

/-- The inbound transaction names the other community and the id of the outbound one. -/
structure Pairs : Prop where
  differ : pair.otherGroup ≠ pair.communityId
  body : library.getTransactionBody pair.inbound = .ok (some ⟨.inbound, pair.otherGroup⟩)
  paringMessageId : library.paringMessageId pair.inbound = pair.transactionId

/-- The inbound message carries the inbound transaction and is valid, messages with the id of the
outbound transaction carry that one, and the two are pairing. -/
def Carries (node : Node Timestamp TransactionId Transaction) :
    CrossGroupEvent Timestamp TransactionId Transaction → Prop
  | .examine communityId environment => communityId = pair.communityId →
      environment.isPairing pair.outbound pair.inbound = .ok true
  | .finishTask communityId environment name => ∀ manager, node.managers communityId = some manager →
      ∀ entry ∈ manager.transactions, entry.name = name →
        ∀ transaction success,
          HieroMessageToTransactionTask.run environment = .ok (transaction, success) →
            (communityId = pair.communityId → name = pair.name →
              transaction = some pair.inbound ∧ success = true) ∧
            (communityId = pair.otherGroup →
              entry.consensusTopicResponse.chunkInfo.initialTransactionId = some pair.transactionId →
                transaction = some pair.outbound)
  | _ => True

/-- The step hands the inbound message to `processTransaction`. -/
def HandsOver (node next : Node Timestamp TransactionId Transaction) : Prop :=
  ∃ manager entry after, node.managers pair.communityId = some manager ∧
    manager.turn = some entry ∧ entry.name = pair.name ∧
    next.managers pair.communityId = some after ∧
    after.processed = manager.processed ++ [entry.consensusTopicResponse.sequenceNumber]

/-- A step of the run hands the inbound message over. -/
def HandedOver (start : Node Timestamp TransactionId Transaction)
    (events : List (CrossGroupEvent Timestamp TransactionId Transaction)) : Prop :=
  ∃ first event rest node next, events = first ++ event :: rest ∧
    runEvents (step library) first start = some node ∧ node.step library event = some next ∧
    HandsOver pair node next

variable {library} {pair} {node next : Node Timestamp TransactionId Transaction}

/-! ## Queues -/

/-- What is known of the finished messages in a queue. -/
def Queued (communityId : String)
    (holds : TopicResponseDeserializer Timestamp TransactionId Transaction → Prop)
    (node : Node Timestamp TransactionId Transaction) : Prop :=
  ∀ manager, node.managers communityId = some manager → ∀ entry ∈ manager.transactions,
    entry.deserializeTask.finished = true → holds entry

/-- A new message is not finished, and a message that gets finished is deserialized then. -/
theorem Queued.step {communityId : String}
    {holds : TopicResponseDeserializer Timestamp TransactionId Transaction → Prop}
    (queued : Queued communityId holds node)
    {event : CrossGroupEvent Timestamp TransactionId Transaction}
    (deserialized : ∀ environment name, event = .finishTask communityId environment name →
      ∀ manager, node.managers communityId = some manager → ∀ entry ∈ manager.transactions,
        entry.name = name → ∀ transaction success,
          HieroMessageToTransactionTask.run environment = .ok (transaction, success) →
            holds { entry with deserializeTask := {
              transaction := transaction
              success := success
              finished := true } })
    (taken : node.step library event = some next) : Queued communityId holds next := by
  have kept (other : String) (changed : Manager Timestamp TransactionId Transaction)
      (same : next.managers = (node.setManager other changed).managers)
      (subset : communityId = other → ∀ entry ∈ changed.transactions,
        entry.deserializeTask.finished = true → holds entry) : Queued communityId holds next := by
    intro manager isManager
    rw [same] at isManager
    by_cases isOther : communityId = other
    · subst isOther
      rw [managers_setManager_self] at isManager
      cases isManager
      exact subset rfl
    · rw [managers_setManager_of_ne _ _ _ isOther] at isManager
      exact queued manager isManager
  cases moves_of_step taken with
  | lock | unsearched | waits | lockOther | search | lockPush => exact queued
  | ends other manager environment isManager =>
      apply kept other _ rfl
      rintro rfl entry member
      exact queued manager isManager entry (mem_of_mem_round member)
  | finish other manager environment isManager =>
      apply kept other _ rfl
      rintro rfl entry member
      exact queued manager isManager entry (mem_of_mem_round member)
  | push other manager environment response isManager =>
      apply kept other _ rfl
      rintro rfl entry member finished
      rcases pushTransaction_cases environment response manager with
        same | failed | ⟨exception, failed⟩ | inserted
      · rw [same] at member
        exact queued manager isManager entry member finished
      · rw [failed] at member
        exact queued manager isManager entry member finished
      · rw [failed] at member
        exact queued manager isManager entry member finished
      · rw [inserted] at member
        rcases (List.mem_orderedInsert _).mp member with rfl | present
        · cases finished
        · exact queued manager isManager entry present finished
  | finishTask other manager environment name isManager =>
      apply kept other _ rfl
      rintro rfl entry member finished
      obtain ⟨before, present, rfl⟩ := List.mem_map.mp member
      by_cases runs : before.name = name ∧ before.deserializeTask.finished = false
      · rw [if_pos runs] at finished ⊢
        unfold HieroMessageToTransactionTask.execute at finished ⊢
        dsimp only at finished ⊢
        cases ran : HieroMessageToTransactionTask.run environment with
        | error exception =>
            rw [ran] at finished
            cases runs.2.symm.trans finished
        | ok result =>
            exact deserialized environment name rfl manager isManager before present runs.1 result.1
              result.2 ran
      · rw [if_neg runs] at finished ⊢
        exact queued manager isManager before present finished
  | exit other manager isManager =>
      apply kept other _ rfl
      rintro rfl
      exact queued manager isManager

/-! ## Phases -/

/-- The ways of a thread from one phase to the next. -/
inductive PhaseMoves (library : CrossGroupLibrary TransactionId Transaction)
    (node : Node Timestamp TransactionId Transaction) (communityId : String) :
    CrossGroupEvent Timestamp TransactionId Transaction → ThreadPhase Transaction → Prop
  | inside : PhaseMoves library node communityId (.lock communityId) .inside
  | outside event : PhaseMoves library node communityId event .outside
  | unsearched manager environment transaction otherGroup
      (isManager : node.managers communityId = some manager) (inside : node.phase communityId = .inside)
      (target : manager.searchTarget (node.told library communityId environment) =
        some (transaction, otherGroup)) :
      PhaseMoves library node communityId (.examine communityId environment)
        (.found { node.told library communityId environment with pairTask := none })
  | waits manager environment transaction otherGroup
      (isManager : node.managers communityId = some manager) (inside : node.phase communityId = .inside)
      (target : manager.searchTarget (node.told library communityId environment) =
        some (transaction, otherGroup)) :
      PhaseMoves library node communityId (.examine communityId environment)
        (.waits otherGroup (node.told library communityId environment))
  | searches otherGroup environment
      (waiting : node.phase communityId = .waits otherGroup environment) :
      PhaseMoves library node communityId (.lockOther communityId) (.searches otherGroup environment)
  | found manager otherGroup environment transaction namedGroup other
      (isManager : node.managers communityId = some manager)
      (searching : node.phase communityId = .searches otherGroup environment)
      (target : manager.searchTarget environment = some (transaction, namedGroup))
      (isOther : node.managers otherGroup = some other) :
      PhaseMoves library node communityId (.search communityId)
        (.found { environment with
          pairTask := other.findTask (library.paringMessageId transaction) })

/-- A step moves at most one thread of each community on. -/
theorem phase_of_step {event : CrossGroupEvent Timestamp TransactionId Transaction}
    (taken : node.step library event = some next) (communityId : String) :
    next.phase communityId = node.phase communityId ∨
      PhaseMoves library node communityId event (next.phase communityId) := by
  have moved (other : String) (phase : ThreadPhase Transaction)
      (same : next.phase = (node.setPhase other phase).phase)
      (moves : PhaseMoves library node other event phase) :
      next.phase communityId = node.phase communityId ∨
        PhaseMoves library node communityId event (next.phase communityId) := by
    rw [same]
    by_cases isOther : communityId = other
    · subst isOther
      rw [phase_setPhase_self]
      exact Or.inr moves
    · exact Or.inl (phase_setPhase_of_ne _ _ _ isOther)
  cases moves_of_step taken with
  | lockPush | push | finishTask | exit => exact Or.inl rfl
  | lock other => exact moved other _ rfl .inside
  | ends other => exact moved other _ rfl (.outside _)
  | finish other => exact moved other _ rfl (.outside _)
  | unsearched other manager environment transaction otherGroup _ isManager inside target =>
      exact moved other _ rfl
        (.unsearched manager environment transaction otherGroup isManager inside target)
  | waits other manager environment transaction otherGroup _ isManager inside target =>
      exact moved other _ rfl
        (.waits manager environment transaction otherGroup isManager inside target)
  | lockOther other otherGroup environment waiting =>
      exact moved other _ rfl (.searches otherGroup environment waiting)
  | search other manager otherGroup environment transaction namedGroup searched isManager searching
      target isOther =>
      exact moved other _ rfl (.found manager otherGroup environment transaction namedGroup searched
        isManager searching target isOther)

/-! ## Rounds for the inbound transaction -/

/-- What a round was told that has come as far as the search. -/
structure Asked (library : CrossGroupLibrary TransactionId Transaction)
    (pair : CrossGroupPair TransactionId Transaction)
    (node : Node Timestamp TransactionId Transaction) (environment : RoundEnvironment Transaction)
    (otherGroup : String) : Prop where
  body : environment.getTransactionBody = library.getTransactionBody
  own : ∀ group own, environment.otherBlockchain group = .ok (some own) →
    own = decide (group = pair.communityId)
  isPairing : environment.isPairing pair.outbound pair.inbound = .ok true
  target : ∃ manager transaction, node.managers pair.communityId = some manager ∧
    manager.searchTarget environment = some (transaction, otherGroup)

omit [LinearOrder Timestamp] [DecidableEq TransactionId] in
/-- A round that was told to look for its pair asks the community the transaction names. -/
theorem asked_of_told {manager : Manager Timestamp TransactionId Transaction}
    {environment : RoundEnvironment Transaction} {transaction : Transaction} {otherGroup : String}
    (isPairing : environment.isPairing pair.outbound pair.inbound = .ok true)
    (isManager : node.managers pair.communityId = some manager)
    (target : manager.searchTarget (node.told library pair.communityId environment) =
      some (transaction, otherGroup)) :
    Asked library pair node (node.told library pair.communityId environment) otherGroup where
  body := rfl
  own group own isOwn := by
    dsimp only [told] at isOwn
    cases found : environment.otherBlockchain group with
    | error exception =>
        rw [found] at isOwn
        cases isOwn
    | ok present =>
        rw [found] at isOwn
        simp only [Except.map, Except.ok.injEq] at isOwn
        split at isOwn
        · exact (Option.some.inj isOwn).symm
        · cases isOwn
  isPairing := isPairing
  target := ⟨manager, transaction, isManager, target⟩

/-- A thread goes on asking what it asked. -/
theorem Asked.of_step {environment : RoundEnvironment Transaction} {otherGroup : String}
    (asked : Asked library pair node environment otherGroup) (locked : Locked node)
    {event : CrossGroupEvent Timestamp TransactionId Transaction}
    (inRound : node.phase pair.communityId ≠ .outside)
    (stillInRound : next.phase pair.communityId ≠ .outside)
    (taken : node.step library event = some next) :
    Asked library pair next environment otherGroup where
  body := asked.body
  own := asked.own
  isPairing := asked.isPairing
  target := by
    obtain ⟨manager, transaction, isManager, target⟩ := asked.target
    obtain ⟨entry, _, isTurn, _⟩ := searchTarget_eq_some target
    obtain ⟨after, isAfter, sameTurn⟩ :=
      locked.turn_of_step inRound stillInRound isManager isTurn taken
    refine ⟨after, transaction, isAfter, ?_⟩
    rw [searchTarget_congr environment (sameTurn.trans isTurn.symm)]
    exact target

/-- The message in its turn after a step had it before. -/
theorem Asked.turn_back {environment : RoundEnvironment Transaction} {otherGroup : String}
    (asked : Asked library pair node environment otherGroup) (locked : Locked node)
    {event : CrossGroupEvent Timestamp TransactionId Transaction}
    {after : Manager Timestamp TransactionId Transaction}
    {entry : TopicResponseDeserializer Timestamp TransactionId Transaction}
    (inRound : node.phase pair.communityId ≠ .outside)
    (stillInRound : next.phase pair.communityId ≠ .outside)
    (taken : node.step library event = some next)
    (isAfter : next.managers pair.communityId = some after) (isTurn : after.turn = some entry) :
    ∃ manager, node.managers pair.communityId = some manager ∧ manager.turn = some entry := by
  obtain ⟨manager, transaction, isManager, target⟩ := asked.target
  obtain ⟨before, _, wasTurn, _⟩ := searchTarget_eq_some target
  obtain ⟨present, isPresent, sameTurn⟩ :=
    locked.turn_of_step inRound stillInRound isManager wasTurn taken
  cases isAfter.symm.trans isPresent
  cases isTurn.symm.trans sameTurn
  exact ⟨manager, isManager, wasTurn⟩

/-- What holds of the pair, whatever the order of the steps. -/
structure Paired (library : CrossGroupLibrary TransactionId Transaction)
    (pair : CrossGroupPair TransactionId Transaction)
    (node : Node Timestamp TransactionId Transaction) : Prop where
  locked : Locked node
  inbound : Queued pair.communityId (fun entry => entry.name = pair.name →
    entry.deserializeTask.transaction = some pair.inbound ∧
      entry.deserializeTask.success = true) node
  outbound : Queued pair.otherGroup (fun entry =>
    entry.consensusTopicResponse.chunkInfo.initialTransactionId = some pair.transactionId →
      entry.deserializeTask.transaction = some pair.outbound) node
  waits : ∀ otherGroup environment, node.phase pair.communityId = .waits otherGroup environment →
    Asked library pair node environment otherGroup
  searches : ∀ otherGroup environment,
    node.phase pair.communityId = .searches otherGroup environment →
      Asked library pair node environment otherGroup
  found : ∀ environment, node.phase pair.communityId = .found environment →
    ∃ otherGroup, Asked library pair node environment otherGroup
  pairTask : ∀ environment pairTask manager entry,
    node.phase pair.communityId = .found environment → environment.pairTask = some pairTask →
      pairTask.finished = true → node.managers pair.communityId = some manager →
        manager.turn = some entry → entry.name = pair.name →
          pairTask.transaction = some pair.outbound

omit [LinearOrder Timestamp] [DecidableEq TransactionId] in
/-- The inbound message in its turn names the other community. -/
theorem Paired.asks (paired : Paired library pair node) (pairs : Pairs library pair)
    {manager : Manager Timestamp TransactionId Transaction}
    {entry : TopicResponseDeserializer Timestamp TransactionId Transaction}
    {environment : RoundEnvironment Transaction} {otherGroup : String}
    (isManager : node.managers pair.communityId = some manager)
    (isTurn : manager.turn = some entry) (isNamed : entry.name = pair.name)
    (asked : Asked library pair node environment otherGroup) :
    otherGroup = pair.otherGroup ∧
      manager.searchTarget environment = some (pair.inbound, pair.otherGroup) ∧
      Asks environment pair.inbound pair.otherGroup false := by
  have isTransaction := (paired.inbound manager isManager entry (turn_mem isTurn)
    (turn_finished isTurn) isNamed).1
  have isBody : environment.getTransactionBody pair.inbound =
      .ok (some ⟨.inbound, pair.otherGroup⟩) := by
    rw [asked.body]
    exact pairs.body
  obtain ⟨present, transaction, isPresent, target⟩ := asked.target
  cases isManager.symm.trans isPresent
  obtain ⟨first, body, isFirst, isFirstTransaction, isFirstBody, _, isGroup, _⟩ :=
    searchTarget_eq_some target
  cases isTurn.symm.trans isFirst
  cases isTransaction.symm.trans isFirstTransaction
  cases isBody.symm.trans isFirstBody
  obtain rfl : pair.otherGroup = otherGroup := isGroup
  obtain ⟨own, asks⟩ := (searchTarget_eq_some_iff isTurn isTransaction isBody rfl).mp target
  have notOwn : own = false := by
    rw [asked.own pair.otherGroup own asks.otherBlockchain]
    exact decide_eq_false pairs.differ
  subst notOwn
  exact ⟨rfl, target, asks⟩

omit [LinearOrder Timestamp] in
/-- What the search for the pair of the inbound message has found. -/
theorem Paired.searched (paired : Paired library pair node) (pairs : Pairs library pair)
    {manager other : Manager Timestamp TransactionId Transaction}
    {entry : TopicResponseDeserializer Timestamp TransactionId Transaction}
    {environment : RoundEnvironment Transaction} {transaction : Transaction}
    {otherGroup namedGroup : String} {pairTask : HieroMessageToTransactionTask Transaction}
    (isManager : node.managers pair.communityId = some manager)
    (isTurn : manager.turn = some entry) (isNamed : entry.name = pair.name)
    (searching : node.phase pair.communityId = .searches otherGroup environment)
    (target : manager.searchTarget environment = some (transaction, namedGroup))
    (isOther : node.managers otherGroup = some other)
    (isFound : other.findTask (library.paringMessageId transaction) = some pairTask) :
    node.managers pair.otherGroup = some other ∧
      node.phase pair.communityId = .searches pair.otherGroup environment ∧
      ∃ outbound, other.transactions.find? (fun message =>
          message.consensusTopicResponse.chunkInfo.initialTransactionId =
            some pair.transactionId) = some outbound ∧
        outbound.deserializeTask = pairTask := by
  obtain ⟨rfl, isTarget, _⟩ :=
    paired.asks pairs isManager isTurn isNamed (paired.searches otherGroup environment searching)
  cases isTarget.symm.trans target
  rw [pairs.paringMessageId] at isFound
  exact ⟨isOther, searching, Option.map_eq_some_iff.mp isFound⟩

/-- Every step keeps the account of the pair. -/
theorem Paired.step (paired : Paired library pair node) (pairs : Pairs library pair)
    {event : CrossGroupEvent Timestamp TransactionId Transaction} (carries : Carries pair node event)
    (taken : node.step library event = some next) : Paired library pair next where
  locked := paired.locked.step taken
  inbound := by
    apply paired.inbound.step _ taken
    rintro environment name rfl manager isManager entry member rfl transaction success ran isNamed
    exact (carries manager isManager entry member rfl transaction success ran).1 rfl isNamed
  outbound := by
    apply paired.outbound.step _ taken
    rintro environment name rfl manager isManager entry member rfl transaction success ran hasId
    exact (carries manager isManager entry member rfl transaction success ran).2 rfl hasId
  waits otherGroup environment waiting := by
    rcases phase_of_step taken pair.communityId with same | moves
    · rw [same] at waiting
      exact (paired.waits otherGroup environment waiting).of_step paired.locked (by simp [waiting])
        (by simp [same, waiting]) taken
    · rw [waiting] at moves
      cases moves with
      | waits manager environment transaction _ isManager inside target =>
          exact (asked_of_told (carries rfl) isManager target).of_step paired.locked
            (by simp [inside]) (by simp [waiting]) taken
  searches otherGroup environment searching := by
    rcases phase_of_step taken pair.communityId with same | moves
    · rw [same] at searching
      exact (paired.searches otherGroup environment searching).of_step paired.locked
        (by simp [searching]) (by simp [same, searching]) taken
    · rw [searching] at moves
      cases moves with
      | searches _ _ waiting =>
          exact (paired.waits otherGroup environment waiting).of_step paired.locked
            (by simp [waiting]) (by simp [searching]) taken
  found environment isFound := by
    rcases phase_of_step taken pair.communityId with same | moves
    · rw [same] at isFound
      obtain ⟨otherGroup, asked⟩ := paired.found environment isFound
      exact ⟨otherGroup, asked.of_step paired.locked (by simp [isFound]) (by simp [same, isFound])
        taken⟩
    · rw [isFound] at moves
      cases moves with
      | unsearched manager environment transaction otherGroup isManager inside target =>
          have asked := (asked_of_told (carries rfl) isManager target).of_step paired.locked
            (by simp [inside]) (by simp [isFound]) taken
          exact ⟨otherGroup, asked.body, asked.own, asked.isPairing, asked.target⟩
      | found manager otherGroup environment transaction namedGroup other isManager searching =>
          have asked := (paired.searches otherGroup environment searching).of_step paired.locked
            (by simp [searching]) (by simp [isFound]) taken
          exact ⟨otherGroup, asked.body, asked.own, asked.isPairing, asked.target⟩
  pairTask environment pairTask after entry isFound isTask finished isAfter isTurn isNamed := by
    rcases phase_of_step taken pair.communityId with same | moves
    · rw [same] at isFound
      obtain ⟨otherGroup, asked⟩ := paired.found environment isFound
      obtain ⟨manager, isManager, wasTurn⟩ := asked.turn_back paired.locked (by simp [isFound])
        (by simp [same, isFound]) taken isAfter isTurn
      exact paired.pairTask environment pairTask manager entry isFound isTask finished isManager
        wasTurn isNamed
    · rw [isFound] at moves
      cases moves with
      | unsearched => cases isTask
      | found manager otherGroup environment transaction namedGroup other isManager searching target
          isOther =>
          obtain ⟨present, isPresent, wasTurn⟩ :=
            (paired.searches otherGroup environment searching).turn_back paired.locked
              (by simp [searching]) (by simp [isFound]) taken isAfter isTurn
          cases isManager.symm.trans isPresent
          obtain ⟨isOther, _, outbound, first, rfl⟩ := paired.searched pairs isManager wasTurn isNamed
            searching target isOther isTask
          have hasId := List.find?_some first
          exact paired.outbound other isOther outbound (List.mem_of_find?_eq_some first) finished
            (of_decide_eq_true hasId)

/-! ## Rounds that have found the pair -/

/-- A node between rounds whose queues are empty. -/
structure Started (node : Node Timestamp TransactionId Transaction) : Prop where
  resting : Resting node
  empty : ∀ communityId manager, node.managers communityId = some manager →
    manager.transactions = []

omit [LinearOrder Timestamp] [DecidableEq TransactionId] in
/-- At the start the pair is in no round. -/
theorem Started.paired (started : Started node) : Paired library pair node where
  locked := locked_of_resting started.resting
  inbound manager isManager entry member := by
    rw [started.empty _ manager isManager] at member
    cases member
  outbound manager isManager entry member := by
    rw [started.empty _ manager isManager] at member
    cases member
  waits otherGroup environment waiting := by
    rw [started.resting.phase] at waiting
    cases waiting
  searches otherGroup environment searching := by
    rw [started.resting.phase] at searching
    cases searching
  found environment isFound := by
    rw [started.resting.phase] at isFound
    cases isFound
  pairTask environment pairTask manager entry isFound := by
    rw [started.resting.phase] at isFound
    cases isFound

/-- A message that was handed over is on record at the end of the run. -/
theorem HandedOver.recorded {start final : Node Timestamp TransactionId Transaction}
    {events : List (CrossGroupEvent Timestamp TransactionId Transaction)}
    (handedOver : HandedOver library pair start events)
    (reached : runEvents (step library) events start = some final) :
    ∃ manager, final.managers pair.communityId = some manager ∧ manager.processed ≠ [] := by
  obtain ⟨first, event, rest, node, next, rfl, before, taken, handsOver⟩ := handedOver
  obtain ⟨manager, entry, after, _, _, _, isAfter, handed⟩ := handsOver
  obtain ⟨middle, isMiddle, after⟩ := runEvents_append.mp reached
  cases before.symm.trans isMiddle
  obtain ⟨other, takenThen, run⟩ := runEvents_cons.mp after
  cases taken.symm.trans takenThen
  obtain ⟨last, isLast, longer⟩ := processed_prefix_of_run isAfter run
  refine ⟨last, isLast, fun empty => ?_⟩
  rw [empty, handed] at longer
  simp at longer

/-! ## An outbound transaction that is confirmed first -/

/-- The task of a valid message with this transaction. -/
def validTask (transaction : TransactionBody) : TaskEnvironment TransactionBody where
  blockchain := .ok true
  deserialized := .ok (some transaction)
  signatures _ := [[1]]
  cachedTransactionNr _ := .ok none
  storedSignature _ := .ok none
  validated _ := .ok ()
  fromPast := .ok false
  notified := .ok ()

/-- A message comes in and is deserialized. -/
def deliver (communityId : String) (consensusTimestamp : Nat) (transaction : TransactionBody) :
    List (CrossGroupEvent Nat Nat TransactionBody) :=
  [.lockPush communityId,
   .push communityId { lastTransaction := .ok none, sameAsNull := none }
     (numberedMessage 1 consensusTimestamp),
   .finishTask communityId (validTask transaction) 0]

end CrossGroupNode

end Controller

end GradidoNode

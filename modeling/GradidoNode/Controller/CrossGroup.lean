import GradidoNode.Controller.ThreadFunction
import Mathlib.Logic.Function.Basic

/-!
# Ordering managers that look into each other's queues

The managers of all communities of a node, each with its thread. For an inbound transaction
the thread looks for the outbound one in the queue of another manager, and locks its mutex
while it still holds its own.
-/

namespace GradidoNode

open Library Hiero Tasks

namespace Controller

open SimpleOrderingManager

/-- Where an ordering thread is in a round, and what the round was told so far. -/
inductive ThreadPhase (Transaction : Type)
  | outside
  /-- It holds the mutex of its own queue. -/
  | inside
  /-- It is about to lock the mutex of another manager. -/
  | waits (otherGroup : String) (environment : RoundEnvironment Transaction)
  | searches (otherGroup : String) (environment : RoundEnvironment Transaction)
  /-- The search is over; its result is the pair of the environment. -/
  | found (environment : RoundEnvironment Transaction)

/-- Who holds the mutex of a queue. -/
inductive Holder
  | orderingThread (communityId : String)
  | pushing
  deriving DecidableEq

/-- What the blockchain library knows of a transaction. -/
structure CrossGroupLibrary (TransactionId Transaction : Type) where
  getTransactionBody : Transaction → Except Exception (Option TransactionBody)
  /-- `getParingMessageId`, where it is the id of a transaction. -/
  paringMessageId : Transaction → TransactionId

structure CrossGroupNode (Timestamp TransactionId Transaction : Type) where
  managers : String → Option (Manager Timestamp TransactionId Transaction)
  phase : String → ThreadPhase Transaction
  holder : String → Option Holder

/-- What happens on the node. The first five are the steps of the ordering thread of a
community in one round. -/
inductive CrossGroupEvent (Timestamp TransactionId Transaction : Type)
  | lock (communityId : String)
  | examine (communityId : String) (environment : RoundEnvironment Transaction)
  | lockOther (communityId : String)
  | search (communityId : String)
  | finish (communityId : String)
  | lockPush (communityId : String)
  | push (communityId : String) (environment : PushEnvironment Timestamp)
      (response : ConsensusTopicResponse Timestamp TransactionId)
  | finishTask (communityId : String) (environment : TaskEnvironment Transaction) (name : Nat)
  | exit (communityId : String)

namespace SimpleOrderingManager

variable {Timestamp TransactionId Transaction : Type}

/-- The message whose turn it is, if one has it. -/
def turn (manager : Manager Timestamp TransactionId Transaction) :
    Option (TopicResponseDeserializer Timestamp TransactionId Transaction) :=
  match manager.transactions with
  | [] => none
  | entry :: _ =>
      if entry.deserializeTask.finished = false then none
      else if manager.lastSequenceNumber + 1 < entry.consensusTopicResponse.sequenceNumber then none
      else if manager.lastSequenceNumber ≠ 0 ∧
          manager.lastSequenceNumber ≥ entry.consensusTopicResponse.sequenceNumber then
        none
      else some entry

/-- The inbound transaction for whose pair the round calls `findCrossGroupTransactionPair`, with
the group it names. -/
def searchTarget (environment : RoundEnvironment Transaction)
    (manager : Manager Timestamp TransactionId Transaction) : Option (Transaction × String) := do
  let entry ← manager.turn
  let transaction ← entry.deserializeTask.transaction
  let body ← (environment.getTransactionBody transaction).toOption.join
  if body.type = .inbound ∧ environment.blockchain.toOption.isSome ∧ environment.timeouted = false ∧
      (environment.otherBlockchain body.otherGroup).toOption.join.isSome ∧
      (environment.isHieroTransactionId transaction).toOption = some true then
    some (transaction, body.otherGroup)
  else none

/-- The search of `findCrossGroupTransactionPair`. -/
def findTask [DecidableEq TransactionId] (transactionId : TransactionId)
    (manager : Manager Timestamp TransactionId Transaction) :
    Option (HieroMessageToTransactionTask Transaction) :=
  (manager.transactions.find? fun entry =>
    entry.consensusTopicResponse.chunkInfo.initialTransactionId = some transactionId).map
      TopicResponseDeserializer.deserializeTask

/-- The message whose turn it is stands in the queue. -/
theorem turn_mem {manager : Manager Timestamp TransactionId Transaction}
    {entry : TopicResponseDeserializer Timestamp TransactionId Transaction}
    (isTurn : manager.turn = some entry) : entry ∈ manager.transactions := by
  unfold turn at isTurn
  cases queue : manager.transactions with
  | nil =>
      rw [queue] at isTurn
      cases isTurn
  | cons first rest =>
      rw [queue] at isTurn
      dsimp only at isTurn
      split at isTurn
      · cases isTurn
      · split at isTurn
        · cases isTurn
        · split at isTurn
          · cases isTurn
          · rw [← Option.some.inj isTurn]
            exact List.mem_cons_self ..

/-- What a search is for: an inbound transaction in the queue names the group. -/
theorem searchTarget_eq_some {environment : RoundEnvironment Transaction}
    {manager : Manager Timestamp TransactionId Transaction} {transaction : Transaction}
    {otherGroup : String}
    (target : manager.searchTarget environment = some (transaction, otherGroup)) :
    ∃ entry body, manager.turn = some entry ∧ entry.deserializeTask.transaction = some transaction ∧
      environment.getTransactionBody transaction = .ok (some body) ∧ body.type = .inbound ∧
      body.otherGroup = otherGroup ∧ environment.timeouted = false := by
  unfold searchTarget at target
  obtain ⟨entry, isTurn, target⟩ := Option.bind_eq_some_iff.mp target
  obtain ⟨found, isTransaction, target⟩ := Option.bind_eq_some_iff.mp target
  obtain ⟨body, isBody, target⟩ := Option.bind_eq_some_iff.mp target
  by_cases searches : body.type = .inbound ∧ environment.blockchain.toOption.isSome ∧
      environment.timeouted = false ∧
      (environment.otherBlockchain body.otherGroup).toOption.join.isSome ∧
      (environment.isHieroTransactionId found).toOption = some true
  · rw [if_pos searches] at target
    cases target
    refine ⟨entry, body, isTurn, isTransaction, ?_, searches.1, rfl, searches.2.2.1⟩
    cases read : environment.getTransactionBody transaction with
    | error exception => simp [read, Except.toOption] at isBody
    | ok found =>
        rw [read] at isBody
        cases found with
        | none => cases isBody
        | some present =>
            cases isBody
            rfl
  · rw [if_neg searches] at target
    cases target

/-- The end of a round leaves the queue or drops its front. -/
theorem finishRound_transactions (currentSequenceNumber : UInt64)
    (rest : List (TopicResponseDeserializer Timestamp TransactionId Transaction))
    (manager : Manager Timestamp TransactionId Transaction) :
    (manager.finishRound currentSequenceNumber rest).transactions = manager.transactions ∨
      (manager.finishRound currentSequenceNumber rest).transactions = rest := by
  unfold finishRound
  split
  · exact Or.inl rfl
  · exact Or.inr (updateSequenceNumber_transactions _ _)

/-- A round takes at most the first message out of the queue. -/
theorem round_transactions (environment : RoundEnvironment Transaction)
    (manager : Manager Timestamp TransactionId Transaction) :
    (manager.round environment).transactions = manager.transactions ∨
      (manager.round environment).transactions = manager.transactions.tail := by
  unfold round
  cases queue : manager.transactions with
  | nil => exact Or.inl queue
  | cons entry rest =>
      dsimp only
      rw [List.tail_cons]
      split
      · exact Or.inl queue
      · split
        · exact Or.inl queue
        · split
          · exact Or.inr rfl
          · unfold takeUp
            dsimp only
            cases turnDecision environment manager.exitCalled entry with
            | wait => exact Or.inl queue
            | fail failure => exact Or.inl queue
            | skip => exact Or.inr (updateSequenceNumber_transactions _ _)
            | process =>
                dsimp only
                split
                · have processed := (processTransaction_processed environment entry { manager with
                    takenUp := manager.takenUp ++
                      [entry.consensusTopicResponse.sequenceNumber] }).transactions
                  refine (finishRound_transactions _ _ _).imp_left fun same => ?_
                  exact same.trans (processed.trans queue)
                · exact (finishRound_transactions _ _ _).imp_left fun same => same.trans queue

/-- A round puts nothing into the queue. -/
theorem mem_of_mem_round {environment : RoundEnvironment Transaction}
    {manager : Manager Timestamp TransactionId Transaction}
    {entry : TopicResponseDeserializer Timestamp TransactionId Transaction}
    (member : entry ∈ (manager.round environment).transactions) : entry ∈ manager.transactions := by
  rcases round_transactions environment manager with same | tail
  · rwa [same] at member
  · rw [tail] at member
    exact List.mem_of_mem_tail member

end SimpleOrderingManager

namespace CrossGroupNode

variable {Timestamp TransactionId Transaction : Type} [LinearOrder Timestamp]
  [DecidableEq TransactionId] (library : CrossGroupLibrary TransactionId Transaction)

abbrev Node (Timestamp TransactionId Transaction : Type) :=
  CrossGroupNode Timestamp TransactionId Transaction

/-- What a round of a community is told on this node: bodies are read by the library, and a
blockchain that is found has its manager. -/
def told (node : Node Timestamp TransactionId Transaction) (communityId : String)
    (environment : RoundEnvironment Transaction) : RoundEnvironment Transaction :=
  { environment with
    getTransactionBody := library.getTransactionBody
    otherBlockchain := fun otherGroup => (environment.otherBlockchain otherGroup).map fun found =>
      if found.isSome ∧ (node.managers otherGroup).isSome then some (decide (otherGroup = communityId))
      else none }

def setManager (node : Node Timestamp TransactionId Transaction) (communityId : String)
    (manager : Manager Timestamp TransactionId Transaction) :
    Node Timestamp TransactionId Transaction :=
  { node with managers := Function.update node.managers communityId (some manager) }

def setPhase (node : Node Timestamp TransactionId Transaction) (communityId : String)
    (phase : ThreadPhase Transaction) : Node Timestamp TransactionId Transaction :=
  { node with phase := Function.update node.phase communityId phase }

def setHolder (node : Node Timestamp TransactionId Transaction) (communityId : String)
    (holder : Option Holder) : Node Timestamp TransactionId Transaction :=
  { node with holder := Function.update node.holder communityId holder }

section Fields

omit [LinearOrder Timestamp] [DecidableEq TransactionId]

variable (node : Node Timestamp TransactionId Transaction) (communityId : String)
  (manager : Manager Timestamp TransactionId Transaction) (phase : ThreadPhase Transaction)
  (holder : Option Holder) {other : String}

@[simp] theorem managers_setManager_self :
    (node.setManager communityId manager).managers communityId = some manager :=
  Function.update_self ..

/-- Setting one community's manager leaves the others. -/
theorem managers_setManager_of_ne (differ : other ≠ communityId) :
    (node.setManager communityId manager).managers other = node.managers other :=
  Function.update_of_ne differ ..

@[simp] theorem phase_setManager : (node.setManager communityId manager).phase = node.phase := rfl

@[simp] theorem holder_setManager : (node.setManager communityId manager).holder = node.holder := rfl

@[simp] theorem phase_setPhase_self :
    (node.setPhase communityId phase).phase communityId = phase := Function.update_self ..

/-- Setting one community's phase leaves the others. -/
theorem phase_setPhase_of_ne (differ : other ≠ communityId) :
    (node.setPhase communityId phase).phase other = node.phase other :=
  Function.update_of_ne differ ..

@[simp] theorem managers_setPhase : (node.setPhase communityId phase).managers = node.managers := rfl

@[simp] theorem holder_setPhase : (node.setPhase communityId phase).holder = node.holder := rfl

@[simp] theorem holder_setHolder_self :
    (node.setHolder communityId holder).holder communityId = holder := Function.update_self ..

/-- Setting the holder of one lock leaves the others. -/
theorem holder_setHolder_of_ne (differ : other ≠ communityId) :
    (node.setHolder communityId holder).holder other = node.holder other :=
  Function.update_of_ne differ ..

@[simp] theorem managers_setHolder :
    (node.setHolder communityId holder).managers = node.managers := rfl

@[simp] theorem phase_setHolder : (node.setHolder communityId holder).phase = node.phase := rfl

end Fields

/-- The round comes to its end, and the mutex of the queue is released. -/
def endRound (node : Node Timestamp TransactionId Transaction) (communityId : String)
    (manager : Manager Timestamp TransactionId Transaction)
    (environment : RoundEnvironment Transaction) : Node Timestamp TransactionId Transaction :=
  ((node.setManager communityId (manager.round environment)).setPhase communityId
    .outside).setHolder communityId none

/-- The thread looks at the message at the front of its queue. A manager that is shutting down
is not searched. -/
def examine (node : Node Timestamp TransactionId Transaction) (communityId : String)
    (manager : Manager Timestamp TransactionId Transaction)
    (environment : RoundEnvironment Transaction) :
    Option (Node Timestamp TransactionId Transaction) :=
  match manager.searchTarget environment with
  | none => some (node.endRound communityId manager environment)
  | some (_, otherGroup) =>
      (node.managers otherGroup).map fun other =>
        node.setPhase communityId (if other.exitCalled then .found { environment with pairTask := none }
          else .waits otherGroup environment)

/-- The search of the other manager's queue, and the release of its mutex. -/
def searchPair (node : Node Timestamp TransactionId Transaction) (communityId otherGroup : String)
    (manager : Manager Timestamp TransactionId Transaction)
    (environment : RoundEnvironment Transaction) :
    Option (Node Timestamp TransactionId Transaction) := do
  let (transaction, _) ← manager.searchTarget environment
  let other ← node.managers otherGroup
  return (node.setPhase communityId (.found { environment with
    pairTask := other.findTask (library.paringMessageId transaction) })).setHolder otherGroup none

/-- The steps; a mutex can be locked while nobody holds it. -/
def step (node : Node Timestamp TransactionId Transaction) :
    CrossGroupEvent Timestamp TransactionId Transaction →
      Option (Node Timestamp TransactionId Transaction)
  | .lock communityId => do
      let manager ← node.managers communityId
      match node.phase communityId with
      | .outside =>
          if node.holder communityId = none ∧ manager.failure = none then
            return (node.setPhase communityId .inside).setHolder communityId
              (some (.orderingThread communityId))
          else none
      | _ => none
  | .examine communityId environment => do
      let manager ← node.managers communityId
      match node.phase communityId with
      | .inside => node.examine communityId manager (node.told library communityId environment)
      | _ => none
  | .lockOther communityId =>
      match node.phase communityId with
      | .waits otherGroup environment =>
          if node.holder otherGroup = none then
            some ((node.setPhase communityId (.searches otherGroup environment)).setHolder otherGroup
              (some (.orderingThread communityId)))
          else none
      | _ => none
  | .search communityId => do
      let manager ← node.managers communityId
      match node.phase communityId with
      | .searches otherGroup environment =>
          node.searchPair library communityId otherGroup manager environment
      | _ => none
  | .finish communityId => do
      let manager ← node.managers communityId
      match node.phase communityId with
      | .found environment => some (node.endRound communityId manager environment)
      | _ => none
  | .lockPush communityId =>
      if node.holder communityId = none then some (node.setHolder communityId (some .pushing))
      else none
  | .push communityId environment response => do
      let manager ← node.managers communityId
      if node.holder communityId = some .pushing then
        some ((node.setManager communityId (manager.pushTransaction environment response)).setHolder
          communityId none)
      else none
  | .finishTask communityId environment name =>
      (node.managers communityId).map fun manager =>
        node.setManager communityId (manager.finishTask environment name)
  | .exit communityId =>
      (node.managers communityId).map fun manager =>
        node.setManager communityId { manager with exitCalled := true }

/-- Everything a step can do. -/
inductive Moves (node : Node Timestamp TransactionId Transaction) :
    CrossGroupEvent Timestamp TransactionId Transaction →
      Node Timestamp TransactionId Transaction → Prop
  | lock communityId manager (isManager : node.managers communityId = some manager)
      (outside : node.phase communityId = .outside) (free : node.holder communityId = none)
      (running : manager.failure = none) :
      Moves node (.lock communityId) ((node.setPhase communityId .inside).setHolder communityId
        (some (.orderingThread communityId)))
  | ends communityId manager environment (isManager : node.managers communityId = some manager)
      (inside : node.phase communityId = .inside)
      (target : manager.searchTarget (node.told library communityId environment) = none) :
      Moves node (.examine communityId environment)
        (node.endRound communityId manager (node.told library communityId environment))
  | unsearched communityId manager environment transaction otherGroup other
      (isManager : node.managers communityId = some manager)
      (inside : node.phase communityId = .inside)
      (target : manager.searchTarget (node.told library communityId environment) =
        some (transaction, otherGroup))
      (isOther : node.managers otherGroup = some other) (exitCalled : other.exitCalled = true) :
      Moves node (.examine communityId environment) (node.setPhase communityId
        (.found { node.told library communityId environment with pairTask := none }))
  | waits communityId manager environment transaction otherGroup other
      (isManager : node.managers communityId = some manager)
      (inside : node.phase communityId = .inside)
      (target : manager.searchTarget (node.told library communityId environment) =
        some (transaction, otherGroup))
      (isOther : node.managers otherGroup = some other) (running : other.exitCalled = false) :
      Moves node (.examine communityId environment) (node.setPhase communityId
        (.waits otherGroup (node.told library communityId environment)))
  | lockOther communityId otherGroup environment
      (waits : node.phase communityId = .waits otherGroup environment)
      (free : node.holder otherGroup = none) :
      Moves node (.lockOther communityId)
        ((node.setPhase communityId (.searches otherGroup environment)).setHolder otherGroup
          (some (.orderingThread communityId)))
  | search communityId manager otherGroup environment transaction namedGroup other
      (isManager : node.managers communityId = some manager)
      (searches : node.phase communityId = .searches otherGroup environment)
      (target : manager.searchTarget environment = some (transaction, namedGroup))
      (isOther : node.managers otherGroup = some other) :
      Moves node (.search communityId) ((node.setPhase communityId (.found { environment with
        pairTask := other.findTask (library.paringMessageId transaction) })).setHolder otherGroup
          none)
  | finish communityId manager environment (isManager : node.managers communityId = some manager)
      (found : node.phase communityId = .found environment) :
      Moves node (.finish communityId) (node.endRound communityId manager environment)
  | lockPush communityId (free : node.holder communityId = none) :
      Moves node (.lockPush communityId) (node.setHolder communityId (some .pushing))
  | push communityId manager environment response
      (isManager : node.managers communityId = some manager)
      (pushing : node.holder communityId = some .pushing) :
      Moves node (.push communityId environment response) ((node.setManager communityId
        (manager.pushTransaction environment response)).setHolder communityId none)
  | finishTask communityId manager environment name
      (isManager : node.managers communityId = some manager) :
      Moves node (.finishTask communityId environment name)
        (node.setManager communityId (manager.finishTask environment name))
  | exit communityId manager (isManager : node.managers communityId = some manager) :
      Moves node (.exit communityId) (node.setManager communityId { manager with exitCalled := true })

variable {library}

/-- Every step of the node is one of the moves. -/
theorem moves_of_step {node next : Node Timestamp TransactionId Transaction}
    {event : CrossGroupEvent Timestamp TransactionId Transaction}
    (taken : node.step library event = some next) : Moves library node event next := by
  cases event with
  | lock communityId =>
      obtain ⟨manager, isManager, taken⟩ := Option.bind_eq_some_iff.mp taken
      cases phase : node.phase communityId with
      | outside =>
          rw [phase] at taken
          dsimp only at taken
          split at taken
          · rename_i free
            cases taken
            exact .lock communityId manager isManager phase free.1 free.2
          · cases taken
      | _ => simp [phase] at taken
  | examine communityId environment =>
      obtain ⟨manager, isManager, taken⟩ := Option.bind_eq_some_iff.mp taken
      cases phase : node.phase communityId with
      | inside =>
          rw [phase] at taken
          unfold examine at taken
          cases target : manager.searchTarget (node.told library communityId environment) with
          | none =>
              rw [target] at taken
              cases taken
              exact .ends communityId manager environment isManager phase target
          | some found =>
              rw [target] at taken
              obtain ⟨other, isOther, rfl⟩ := Option.map_eq_some_iff.mp taken
              cases exitCalled : other.exitCalled with
              | true =>
                  exact .unsearched communityId manager environment found.1 found.2 other isManager
                    phase target isOther exitCalled
              | false =>
                  exact .waits communityId manager environment found.1 found.2 other isManager phase
                    target isOther exitCalled
      | _ => simp [phase] at taken
  | lockOther communityId =>
      dsimp only [step] at taken
      cases phase : node.phase communityId with
      | waits otherGroup environment =>
          rw [phase] at taken
          dsimp only at taken
          split at taken
          · rename_i free
            cases taken
            exact .lockOther communityId otherGroup environment phase free
          · cases taken
      | _ => simp [phase] at taken
  | search communityId =>
      obtain ⟨manager, isManager, taken⟩ := Option.bind_eq_some_iff.mp taken
      cases phase : node.phase communityId with
      | searches otherGroup environment =>
          rw [phase] at taken
          obtain ⟨target, isTarget, taken⟩ := Option.bind_eq_some_iff.mp taken
          obtain ⟨other, isOther, taken⟩ := Option.bind_eq_some_iff.mp taken
          cases taken
          exact .search communityId manager otherGroup environment target.1 target.2 other isManager
            phase isTarget isOther
      | _ => simp [phase] at taken
  | finish communityId =>
      obtain ⟨manager, isManager, taken⟩ := Option.bind_eq_some_iff.mp taken
      cases phase : node.phase communityId with
      | found environment =>
          rw [phase] at taken
          cases taken
          exact .finish communityId manager environment isManager phase
      | _ => simp [phase] at taken
  | lockPush communityId =>
      dsimp only [step] at taken
      split at taken
      · rename_i free
        cases taken
        exact .lockPush communityId free
      · cases taken
  | push communityId environment response =>
      obtain ⟨manager, isManager, taken⟩ := Option.bind_eq_some_iff.mp taken
      split at taken
      · rename_i pushing
        cases taken
        exact .push communityId manager environment response isManager pushing
      · cases taken
  | finishTask communityId environment name =>
      obtain ⟨manager, isManager, rfl⟩ := Option.map_eq_some_iff.mp taken
      exact .finishTask communityId manager environment name isManager
  | exit communityId =>
      obtain ⟨manager, isManager, rfl⟩ := Option.map_eq_some_iff.mp taken
      exact .exit communityId manager isManager

end CrossGroupNode

end Controller

end GradidoNode

import GradidoNode.Controller.TopicMessages

/-!
# One run of the thread function

`ThreadFunction` loops while a counter is not 0. Only the branch that goes through to the
end of the loop refreshes the counter, so a run whose first message leaves the queue on
another branch ends there, whatever stands behind it.
-/

namespace GradidoNode

open Library Hiero Tasks

namespace Controller

namespace SimpleOrderingManager

variable {Timestamp TransactionId Transaction : Type}

/-- What the node would answer about each message at one moment. -/
abbrev World (Timestamp TransactionId Transaction : Type) :=
  TopicResponseDeserializer Timestamp TransactionId Transaction → RoundEnvironment Transaction

/-- A round of the loop at one moment. -/
def roundIn (world : World Timestamp TransactionId Transaction)
    (manager : Manager Timestamp TransactionId Transaction) :
    Manager Timestamp TransactionId Transaction :=
  match manager.transactions with
  | [] => manager.returned
  | entry :: _ => manager.round (world entry)

/-- What other threads do while the mutex of the queue is free. -/
inductive OutsideEvent (Timestamp TransactionId Transaction : Type)
  | push (environment : PushEnvironment Timestamp)
      (response : ConsensusTopicResponse Timestamp TransactionId)
  | finishTask (environment : TaskEnvironment Transaction) (name : Nat)
  | exit

/-- A round and what has happened since the round before it. -/
structure LoopRound (Timestamp TransactionId Transaction : Type) where
  before : List (OutsideEvent Timestamp TransactionId Transaction)
  world : World Timestamp TransactionId Transaction

section

variable [LinearOrder Timestamp]

def outside (manager : Manager Timestamp TransactionId Transaction) :
    OutsideEvent Timestamp TransactionId Transaction → Manager Timestamp TransactionId Transaction
  | .push environment response => manager.pushTransaction environment response
  | .finishTask environment name => manager.finishTask environment name
  | .exit => { manager with exitCalled := true }

/-- The manager when a round locks its mutex. -/
def LoopRound.locked (round : LoopRound Timestamp TransactionId Transaction)
    (manager : Manager Timestamp TransactionId Transaction) :
    Manager Timestamp TransactionId Transaction :=
  round.before.foldl outside manager

/-- The loop of `ThreadFunction`, if it makes exactly these rounds and then returns 0. An
exception in a round, or one that ends the process meanwhile, does not return. -/
def threadLoop : List (LoopRound Timestamp TransactionId Transaction) →
    Manager Timestamp TransactionId Transaction →
    Option (Manager Timestamp TransactionId Transaction)
  | [], _ => none
  | round :: more, manager =>
      let next := (round.locked manager).roundIn round.world
      if (round.locked manager).failure.isSome ∨ next.failure.isSome then none
      else if next.transactionsCount = 0 then
        if more.isEmpty then some next else none
      else threadLoop more next

/-- `ThreadFunction`, whose counter starts at 0. -/
def threadFunction (rounds : List (LoopRound Timestamp TransactionId Transaction))
    (manager : Manager Timestamp TransactionId Transaction) :
    Option (Manager Timestamp TransactionId Transaction) :=
  threadLoop rounds { manager with transactionsCount := 0 }

end

/-- An inbound transaction still inside its time limit whose pair is not yet available. -/
structure AwaitsPair (environment : RoundEnvironment Transaction) (exitCalled : Bool)
    (entry : TopicResponseDeserializer Timestamp TransactionId Transaction) : Prop where
  inbound : ∃ transaction body, entry.deserializeTask.transaction = some transaction ∧
    environment.getTransactionBody transaction = .ok (some body) ∧ body.type = .inbound
  inTime : environment.timeouted = false
  /-- A manager that is shutting down does not look for pairs. -/
  unavailable : exitCalled = true ∨ environment.pairTask = none ∨
    ∃ pairTask, environment.pairTask = some pairTask ∧ pairTask.finished = false

/-- What is claimed of the queue when `ThreadFunction` returns 0. -/
def Drained (world : World Timestamp TransactionId Transaction)
    (manager : Manager Timestamp TransactionId Transaction) : Prop :=
  ∀ entry rest, manager.transactions = entry :: rest →
    entry.deserializeTask.finished = false ∨
    manager.lastSequenceNumber + 1 < entry.consensusTopicResponse.sequenceNumber ∨
    AwaitsPair (world entry) manager.exitCalled entry

/-- The message at the front gets its turn: it is deserialized, and no number is missing. -/
structure HasTurn (manager : Manager Timestamp TransactionId Transaction)
    (entry : TopicResponseDeserializer Timestamp TransactionId Transaction)
    (rest : List (TopicResponseDeserializer Timestamp TransactionId Transaction)) : Prop where
  first : manager.transactions = entry :: rest
  finished : entry.deserializeTask.finished = true
  noGap : ¬ manager.lastSequenceNumber + 1 < entry.consensusTopicResponse.sequenceNumber

/-- The transaction after this message was already put into the blockchain. -/
def Stale (manager : Manager Timestamp TransactionId Transaction)
    (entry : TopicResponseDeserializer Timestamp TransactionId Transaction) : Prop :=
  manager.lastSequenceNumber ≠ 0 ∧
    manager.lastSequenceNumber ≥ entry.consensusTopicResponse.sequenceNumber

/-- The first message is stale or gets skipped, and the one behind it could go on. -/
inductive LeavesBehind (world : World Timestamp TransactionId Transaction)
    (manager : Manager Timestamp TransactionId Transaction) : Prop
  | stale entry rest (turn : HasTurn manager entry rest) (stale : Stale manager entry)
      (behind : ¬ Drained world { manager with transactions := rest })
  | skipped entry rest (turn : HasTurn manager entry rest) (fresh : ¬ Stale manager entry)
      (skip : turnDecision (world entry) manager.exitCalled entry = .skip)
      (behind : ¬ Drained world { manager with
        transactions := rest
        lastSequenceNumber := entry.consensusTopicResponse.sequenceNumber })

variable {world : World Timestamp TransactionId Transaction}
  {manager next : Manager Timestamp TransactionId Transaction}

/-- Only the queue, the last number and the exit flag matter for what is drained. -/
theorem Drained.of_same (drained : Drained world manager)
    (transactions : next.transactions = manager.transactions)
    (lastSequenceNumber : next.lastSequenceNumber = manager.lastSequenceNumber)
    (exitCalled : next.exitCalled = manager.exitCalled) : Drained world next := by
  intro entry rest first
  rw [lastSequenceNumber, exitCalled]
  exact drained entry rest (transactions ▸ first)

/-- An empty queue is drained. -/
theorem drained_of_empty (empty : manager.transactions = []) : Drained world manager := by
  intro entry rest first
  rw [empty] at first
  cases first

/-- Skipping is not waiting. -/
theorem skipNotified_ne_wait (environment : RoundEnvironment Transaction) (found : Bool) :
    skipNotified environment found ≠ .wait := by
  unfold skipNotified
  split
  · split <;> simp
  · simp

/-- A pair is waited for while its task is missing or unfinished. -/
theorem decidePair_eq_wait {environment : RoundEnvironment Transaction} {found : Bool}
    {transaction : Transaction} (waits : decidePair environment found transaction = .wait) :
    environment.pairTask = none ∨
      ∃ pairTask, environment.pairTask = some pairTask ∧ pairTask.finished = false := by
  unfold decidePair at waits
  cases available : environment.pairTask with
  | none => exact Or.inl rfl
  | some pairTask =>
      rw [available] at waits
      dsimp only at waits
      by_cases finished : pairTask.finished = true
      · rw [if_pos finished] at waits
        cases pair : pairTask.transaction with
        | none => simp [pair] at waits
        | some other =>
            rw [pair] at waits
            dsimp only at waits
            cases pairing : environment.isPairing other transaction with
            | error exception => simp [pairing] at waits
            | ok right =>
                cases right with
                | false =>
                    rw [pairing] at waits
                    exact absurd waits (skipNotified_ne_wait environment found)
                | true => simp [pairing] at waits
      · exact Or.inr ⟨pairTask, rfl, Bool.eq_false_iff.mpr finished⟩

/-- The thread waits for nothing but the pair of an inbound transaction. -/
theorem awaitsPair_of_wait {environment : RoundEnvironment Transaction} {exitCalled : Bool}
    {entry : TopicResponseDeserializer Timestamp TransactionId Transaction}
    (waits : turnDecision environment exitCalled entry = .wait) :
    AwaitsPair environment exitCalled entry := by
  unfold turnDecision at waits
  cases deserialized : entry.deserializeTask.transaction with
  | none => simp [deserialized] at waits
  | some transaction =>
      rw [deserialized] at waits
      dsimp only at waits
      cases read : environment.getTransactionBody transaction with
      | error exception => simp [read] at waits
      | ok found =>
          cases found with
          | none => simp [read] at waits
          | some body =>
              rw [read] at waits
              dsimp only at waits
              by_cases inbound : body.type = .inbound
              · rw [if_pos inbound] at waits
                have isInbound : ∃ transaction body,
                    entry.deserializeTask.transaction = some transaction ∧
                      environment.getTransactionBody transaction = .ok (some body) ∧
                      body.type = .inbound := ⟨transaction, body, deserialized, read, inbound⟩
                unfold decideInbound at waits
                cases own : environment.blockchain with
                | error exception => simp [own] at waits
                | ok found =>
                    rw [own] at waits
                    dsimp only at waits
                    by_cases late : environment.timeouted = true
                    · rw [if_pos late] at waits
                      exact absurd waits (skipNotified_ne_wait environment found)
                    · rw [if_neg late] at waits
                      refine ⟨isInbound, Bool.eq_false_iff.mpr late, ?_⟩
                      cases target : environment.otherBlockchain body.otherGroup with
                      | error exception => simp [target] at waits
                      | ok other =>
                          cases other with
                          | none =>
                              rw [target] at waits
                              exact absurd waits (skipNotified_ne_wait environment found)
                          | some isOwn =>
                              rw [target] at waits
                              dsimp only at waits
                              cases identified : environment.isHieroTransactionId transaction with
                              | error exception => simp [identified] at waits
                              | ok valid =>
                                  rw [identified] at waits
                                  cases valid with
                                  | false =>
                                      exact absurd waits (skipNotified_ne_wait environment found)
                                  | true =>
                                      dsimp only at waits
                                      cases isOwn with
                                      | true =>
                                          cases exitCalled with
                                          | true => exact Or.inl rfl
                                          | false => simp at waits
                                      | false =>
                                          simp only [Bool.false_and, Bool.false_eq_true,
                                            ↓reduceIte] at waits
                                          exact Or.inr (decidePair_eq_wait waits)
              · simp [inbound] at waits

/-- The ways in which a round ends without an exception. -/
inductive RoundEnds (world : World Timestamp TransactionId Transaction)
    (manager : Manager Timestamp TransactionId Transaction) :
    Manager Timestamp TransactionId Transaction → Prop
  | returned (blocked : ∀ entry rest, ¬ HasTurn manager entry rest)
      (drained : Drained world manager) : RoundEnds world manager manager.returned
  | erased entry rest (turn : HasTurn manager entry rest) (stale : Stale manager entry) :
      RoundEnds world manager { manager with transactions := rest }
  | skipped entry rest next (turn : HasTurn manager entry rest) (fresh : ¬ Stale manager entry)
      (skip : turnDecision (world entry) manager.exitCalled entry = .skip)
      (transactions : next.transactions = rest)
      (lastSequenceNumber :
        next.lastSequenceNumber = entry.consensusTopicResponse.sequenceNumber)
      (exitCalled : next.exitCalled = manager.exitCalled)
      (transactionsCount : next.transactionsCount = manager.transactionsCount) :
      RoundEnds world manager next
  | waits entry rest (turn : HasTurn manager entry rest) (fresh : ¬ Stale manager entry)
      (wait : turnDecision (world entry) manager.exitCalled entry = .wait) :
      RoundEnds world manager manager
  | wentThrough entry rest next (turn : HasTurn manager entry rest)
      (fresh : ¬ Stale manager entry)
      (process : turnDecision (world entry) manager.exitCalled entry = .process)
      (transactions : next.transactions = rest)
      (transactionsCount : next.transactionsCount = rest.length) : RoundEnds world manager next

/-- Counting a number up leaves the queue. -/
theorem updateSequenceNumber_transactions (manager : Manager Timestamp TransactionId Transaction)
    (newSequenceNumber : UInt64) :
    (manager.updateSequenceNumber newSequenceNumber).transactions = manager.transactions := by
  unfold updateSequenceNumber
  dsimp only
  split
  · rfl
  · split <;> rfl

/-- A round that goes through leaves the message's successors and their number. -/
theorem finishRound_through {currentSequenceNumber : UInt64}
    {rest : List (TopicResponseDeserializer Timestamp TransactionId Transaction)}
    (fine : (manager.finishRound currentSequenceNumber rest).failure = none) :
    (manager.finishRound currentSequenceNumber rest).transactions = rest ∧
      (manager.finishRound currentSequenceNumber rest).transactionsCount = rest.length := by
  unfold finishRound at fine ⊢
  by_cases failed : manager.failure.isSome = true
  · rw [if_pos failed] at fine
    rw [fine] at failed
    cases failed
  · rw [if_neg failed]
    exact ⟨updateSequenceNumber_transactions _ _, rfl⟩

/-- A turn that is not stale and fails nothing ends its round. -/
theorem takeUp_ends {entry : TopicResponseDeserializer Timestamp TransactionId Transaction}
    {rest : List (TopicResponseDeserializer Timestamp TransactionId Transaction)}
    (turn : HasTurn manager entry rest) (fresh : ¬ Stale manager entry)
    (fine : (manager.takeUp (world entry) entry rest).failure = none) :
    RoundEnds world manager (manager.takeUp (world entry) entry rest) := by
  unfold takeUp at fine ⊢
  dsimp only at fine ⊢
  cases decision : turnDecision (world entry) manager.exitCalled entry with
  | fail failure => simp [decision, fail] at fine
  | wait => exact .waits entry rest turn fresh decision
  | skip =>
      have updated := (updateSequenceNumber_turn { manager with
        takenUp := manager.takenUp ++ [entry.consensusTopicResponse.sequenceNumber]
        transactions := rest } turn.noGap fresh).1
      dsimp only
      rw [updated]
      exact .skipped entry rest _ turn fresh decision rfl rfl rfl rfl
  | process =>
      rw [decision] at fine
      dsimp only at fine ⊢
      by_cases success : entry.deserializeTask.success = true
      · rw [if_pos success] at fine ⊢
        obtain ⟨transactions, transactionsCount⟩ := finishRound_through fine
        exact .wentThrough entry rest _ turn fresh decision transactions transactionsCount
      · rw [if_neg success] at fine ⊢
        obtain ⟨transactions, transactionsCount⟩ := finishRound_through fine
        exact .wentThrough entry rest _ turn fresh decision transactions transactionsCount

/-- A round that fails nothing ends. -/
theorem roundIn_ends (fine : (manager.roundIn world).failure = none) :
    RoundEnds world manager (manager.roundIn world) := by
  unfold roundIn at fine ⊢
  cases queue : manager.transactions with
  | nil =>
      refine .returned (fun entry rest turn => ?_) (drained_of_empty queue)
      have first := turn.first
      rw [queue] at first
      cases first
  | cons entry rest =>
      rw [queue] at fine
      dsimp only at fine ⊢
      unfold round at fine ⊢
      rw [queue] at fine ⊢
      dsimp only at fine ⊢
      have isFirst {other : TopicResponseDeserializer Timestamp TransactionId Transaction}
          {others : List (TopicResponseDeserializer Timestamp TransactionId Transaction)}
          (first : manager.transactions = other :: others) : other = entry := by
        rw [queue] at first
        exact (List.cons.inj first).1.symm
      by_cases unfinished : entry.deserializeTask.finished = false
      · rw [if_pos unfinished]
        refine .returned (fun other others turn => ?_) (fun other others first => ?_)
        · have finished := turn.finished
          rw [isFirst turn.first, unfinished] at finished
          cases finished
        · rw [isFirst first]
          exact Or.inl unfinished
      rw [if_neg unfinished] at fine ⊢
      by_cases gap : manager.lastSequenceNumber + 1 < entry.consensusTopicResponse.sequenceNumber
      · rw [if_pos gap]
        refine .returned (fun other others turn => ?_) (fun other others first => ?_)
        · have noGap := turn.noGap
          rw [isFirst turn.first] at noGap
          exact noGap gap
        · rw [isFirst first]
          exact Or.inr (Or.inl gap)
      rw [if_neg gap] at fine ⊢
      have turn : HasTurn manager entry rest :=
        ⟨queue, Bool.eq_true_of_not_eq_false unfinished, gap⟩
      by_cases stale : Stale manager entry
      · have isStale : manager.lastSequenceNumber ≠ 0 ∧
            manager.lastSequenceNumber ≥ entry.consensusTopicResponse.sequenceNumber := stale
        rw [if_pos isStale]
        exact .erased entry rest turn stale
      · have isFresh : ¬ (manager.lastSequenceNumber ≠ 0 ∧
            manager.lastSequenceNumber ≥ entry.consensusTopicResponse.sequenceNumber) := stale
        rw [if_neg isFresh] at fine ⊢
        exact takeUp_ends turn stale fine

/-- One message has the turn. -/
theorem HasTurn.unique {entry other : TopicResponseDeserializer Timestamp TransactionId Transaction}
    {rest others : List (TopicResponseDeserializer Timestamp TransactionId Transaction)}
    (turn : HasTurn manager entry rest) (also : HasTurn manager other others) :
    other = entry ∧ others = rest := by
  have same := turn.first.symm.trans also.first
  exact ⟨(List.cons.inj same).1.symm, (List.cons.inj same).2.symm⟩

/-- In front of a message whose pair is awaited the queue is drained. -/
theorem HasTurn.drained_of_wait
    {entry : TopicResponseDeserializer Timestamp TransactionId Transaction}
    {rest : List (TopicResponseDeserializer Timestamp TransactionId Transaction)}
    (turn : HasTurn manager entry rest)
    (wait : turnDecision (world entry) manager.exitCalled entry = .wait) :
    Drained world manager := by
  intro other others first
  have same := (List.cons.inj (turn.first.symm.trans first)).1
  rw [← same]
  exact Or.inr (Or.inr (awaitsPair_of_wait wait))

section

variable [LinearOrder Timestamp]

/-- Taking the lock leaves the count of the loop. -/
theorem locked_transactionsCount (round : LoopRound Timestamp TransactionId Transaction)
    (manager : Manager Timestamp TransactionId Transaction) :
    (round.locked manager).transactionsCount = manager.transactionsCount := by
  unfold LoopRound.locked
  induction round.before generalizing manager with
  | nil => rfl
  | cons event events ih =>
      rw [List.foldl_cons, ih]
      cases event with
      | push environment response =>
          rcases pushTransaction_cases environment response manager with
            same | failed | ⟨exception, failed⟩ | inserted
          · simp only [outside, same]
          · simp only [outside, failed, fail]
          · simp only [outside, failed, fail]
          · simp only [outside, inserted]
      | finishTask environment name => rfl
      | exit => rfl

/-- Taking one step of the loop apart. -/
theorem threadLoop_cons {round : LoopRound Timestamp TransactionId Transaction}
    {more : List (LoopRound Timestamp TransactionId Transaction)}
    {manager final : Manager Timestamp TransactionId Transaction}
    (returns : threadLoop (round :: more) manager = some final) :
    RoundEnds round.world (round.locked manager) ((round.locked manager).roundIn round.world) ∧
      ((((round.locked manager).roundIn round.world).transactionsCount = 0 ∧ more = [] ∧
          final = (round.locked manager).roundIn round.world) ∨
        (((round.locked manager).roundIn round.world).transactionsCount ≠ 0 ∧
          threadLoop more ((round.locked manager).roundIn round.world) = some final)) := by
  unfold threadLoop at returns
  dsimp only at returns
  by_cases failed : (round.locked manager).failure.isSome = true ∨
      ((round.locked manager).roundIn round.world).failure.isSome = true
  · rw [if_pos failed] at returns
    cases returns
  · rw [if_neg failed] at returns
    have fine : ((round.locked manager).roundIn round.world).failure = none :=
      Option.not_isSome_iff_eq_none.mp fun isSome => failed (Or.inr isSome)
    refine ⟨roundIn_ends fine, ?_⟩
    by_cases empty : ((round.locked manager).roundIn round.world).transactionsCount = 0
    · rw [if_pos empty] at returns
      cases more with
      | nil =>
          cases returns
          exact Or.inl ⟨empty, rfl, rfl⟩
      | cons next rest => cases returns
    · rw [if_neg empty] at returns
      exact Or.inr ⟨empty, returns⟩

/-- Once the counter is not 0, only the empty queue makes it 0 again, and only a message that
has to wait ends the loop otherwise. -/
theorem drained_of_counter {rounds : List (LoopRound Timestamp TransactionId Transaction)}
    (some : rounds ≠ []) {manager final : Manager Timestamp TransactionId Transaction}
    (counter : manager.transactionsCount ≠ 0)
    (returns : threadLoop rounds manager = .some final) :
    Drained (rounds.getLast some).world final := by
  induction rounds generalizing manager with
  | nil => exact absurd rfl some
  | cons round more ih =>
      obtain ⟨ends, continues⟩ := threadLoop_cons returns
      have kept := locked_transactionsCount round manager
      generalize (round.locked manager).roundIn round.world = next at ends continues
      have later (notZero : next.transactionsCount ≠ 0) :
          Drained ((round :: more).getLast some).world final := by
        rcases continues with ⟨zero, _, _⟩ | ⟨_, loops⟩
        · exact absurd zero notZero
        · cases more with
          | nil => cases loops
          | cons second rest =>
              rw [List.getLast_cons (List.cons_ne_nil _ _)]
              exact ih (List.cons_ne_nil _ _) notZero loops
      cases ends with
      | returned blocked drained =>
          rcases continues with ⟨_, rfl, rfl⟩ | ⟨notZero, _⟩
          · exact drained.of_same rfl rfl rfl
          · exact absurd rfl notZero
      | erased entry rest turn stale => exact later (kept ▸ counter)
      | skipped entry rest next turn fresh skip transactions last exitCalled count =>
          exact later (count ▸ kept ▸ counter)
      | waits entry rest turn fresh wait => exact later (kept ▸ counter)
      | wentThrough entry rest next turn fresh process transactions count =>
          rcases continues with ⟨zero, rfl, rfl⟩ | ⟨notZero, _⟩
          · rw [count, List.length_eq_zero_iff] at zero
            exact drained_of_empty (transactions.trans zero)
          · exact later notZero

/-- A run of `ThreadFunction` that returns 0 has drained the queue if and only if its first
round did not leave a message behind that could go on. -/
theorem drained_iff {first : LoopRound Timestamp TransactionId Transaction}
    {more : List (LoopRound Timestamp TransactionId Transaction)}
    {manager final : Manager Timestamp TransactionId Transaction}
    (returns : threadFunction (first :: more) manager = some final) :
    Drained ((first :: more).getLast (List.cons_ne_nil _ _)).world final ↔
      ¬ LeavesBehind first.world (first.locked { manager with transactionsCount := 0 }) := by
  have start := locked_transactionsCount first { manager with transactionsCount := 0 }
  obtain ⟨ends, continues⟩ := threadLoop_cons returns
  generalize first.locked { manager with transactionsCount := 0 } = locked at start ends continues ⊢
  generalize locked.roundIn first.world = next at ends continues
  cases ends with
  | returned blocked drained =>
      rcases continues with ⟨_, rfl, rfl⟩ | ⟨notZero, _⟩
      · refine ⟨fun _ leaves => ?_, fun _ => drained.of_same rfl rfl rfl⟩
        cases leaves with
        | stale entry rest turn => exact blocked entry rest turn
        | skipped entry rest turn => exact blocked entry rest turn
      · exact absurd rfl notZero
  | erased entry rest turn stale =>
      rcases continues with ⟨_, rfl, rfl⟩ | ⟨notZero, _⟩
      · constructor
        · intro drained leaves
          cases leaves with
          | stale other others otherTurn isStale behind =>
              obtain ⟨rfl, rfl⟩ := turn.unique otherTurn
              exact behind drained
          | skipped other others otherTurn fresh =>
              obtain ⟨rfl, rfl⟩ := turn.unique otherTurn
              exact fresh stale
        · intro nothingBehind
          by_contra notDrained
          exact nothingBehind (.stale entry rest turn stale notDrained)
      · exact absurd start notZero
  | skipped entry rest next turn fresh skip transactions last exitCalled count =>
      rcases continues with ⟨_, rfl, rfl⟩ | ⟨notZero, _⟩
      · have same : Drained first.world final ↔ Drained first.world { locked with
            transactions := rest
            lastSequenceNumber := entry.consensusTopicResponse.sequenceNumber } :=
          ⟨fun drained => drained.of_same transactions.symm last.symm exitCalled.symm,
            fun drained => drained.of_same transactions last exitCalled⟩
        rw [List.getLast_singleton, same]
        constructor
        · intro drained leaves
          cases leaves with
          | stale other others otherTurn isStale behind =>
              obtain ⟨rfl, rfl⟩ := turn.unique otherTurn
              exact fresh isStale
          | skipped other others otherTurn _ _ behind =>
              obtain ⟨rfl, rfl⟩ := turn.unique otherTurn
              exact behind drained
        · intro nothingBehind
          by_contra notDrained
          exact nothingBehind (.skipped entry rest turn fresh skip notDrained)
      · exact absurd (count.trans start) notZero
  | waits entry rest turn fresh wait =>
      rcases continues with ⟨_, rfl, rfl⟩ | ⟨notZero, _⟩
      · refine ⟨fun _ leaves => ?_, fun _ => turn.drained_of_wait wait⟩
        cases leaves with
        | stale other others otherTurn isStale =>
            obtain ⟨rfl, rfl⟩ := turn.unique otherTurn
            exact fresh isStale
        | skipped other others otherTurn _ skip =>
            obtain ⟨rfl, rfl⟩ := turn.unique otherTurn
            rw [wait] at skip
            cases skip
      · exact absurd start notZero
  | wentThrough entry rest next turn fresh process transactions count =>
      have nothingLeft : ¬ LeavesBehind first.world locked := by
        intro leaves
        cases leaves with
        | stale other others otherTurn isStale =>
            obtain ⟨rfl, rfl⟩ := turn.unique otherTurn
            exact fresh isStale
        | skipped other others otherTurn _ skip =>
            obtain ⟨rfl, rfl⟩ := turn.unique otherTurn
            rw [process] at skip
            cases skip
      refine ⟨fun _ => nothingLeft, fun _ => ?_⟩
      rcases continues with ⟨zero, rfl, rfl⟩ | ⟨notZero, loops⟩
      · rw [count, List.length_eq_zero_iff] at zero
        exact drained_of_empty (transactions.trans zero)
      · cases more with
        | nil => cases loops
        | cons second rounds =>
            rw [List.getLast_cons (List.cons_ne_nil _ _)]
            exact drained_of_counter (List.cons_ne_nil _ _) notZero loops

end

section Example

/-- A deserialized message of the given sequence number. -/
def deserializedMessage (sequenceNumber : UInt64) : TopicResponseDeserializer Nat Nat Nat where
  consensusTopicResponse := numberedMessage sequenceNumber sequenceNumber.toNat
  name := sequenceNumber.toNat
  deserializeTask := { transaction := some sequenceNumber.toNat, success := true, finished := true }

/-- A round in which every transaction is local and is confirmed. -/
def quietRound : LoopRound Nat Nat Nat where
  before := []
  world := fun _ => confirmingRound

/-- The manager after message 2, with these messages in its queue. -/
def behindSecond (messages : List (TopicResponseDeserializer Nat Nat Nat)) : Manager Nat Nat Nat :=
  { (SimpleOrderingManager.start "community" 2 : Manager Nat Nat Nat) with
    transactions := messages }

/-- Messages 3 and 4 are in turn. -/
theorem drained_inTurn :
    ∃ final, threadFunction [quietRound, quietRound]
        (behindSecond [deserializedMessage 3, deserializedMessage 4]) = some final ∧
      Drained quietRound.world final := by
  have returns : ∃ final, threadFunction [quietRound, quietRound]
      (behindSecond [deserializedMessage 3, deserializedMessage 4]) = some final := ⟨_, rfl⟩
  obtain ⟨final, returned⟩ := returns
  refine ⟨final, returned, (drained_iff returned).mpr fun leaves => ?_⟩
  cases leaves with
  | stale entry rest turn stale =>
      cases turn.first
      exact absurd stale.2 (by decide)
  | skipped entry rest turn fresh skip =>
      cases turn.first
      cases skip

/-- Behind the stale message 2 stands message 3, whose turn it is. -/
theorem not_drained_behindStale :
    ∃ final, threadFunction [quietRound]
        (behindSecond [deserializedMessage 2, deserializedMessage 3]) = some final ∧
      final.transactions = [deserializedMessage 3] ∧ ¬ Drained quietRound.world final := by
  refine ⟨_, rfl, rfl, fun drained => ?_⟩
  rcases drained (deserializedMessage 3) [] rfl with unfinished | gap | awaits
  · cases unfinished
  · exact absurd gap (by decide)
  · obtain ⟨transaction, body, _, read, inbound⟩ := awaits.inbound
    cases read
    cases inbound

end Example

end SimpleOrderingManager

end Controller

end GradidoNode

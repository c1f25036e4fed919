import GradidoNode.Tasks.TopicCoverage

/-!
# A mirror node that fails at times

A request that fails yields no messages, which the loop takes for the end of the topic. The live
subscription begins right behind what was loaded until then, so it delivers the rest.
-/

namespace GradidoNode

open Library Data Hiero

namespace Library

variable {Item Key : Type*} [LinearOrder Key] {key : Item → Key} {items : List Item}

/-- The key of the last item of a batch, or the cursor where the batch is empty. -/
def cursorAfter (key : Item → Key) (cursor : Key) (batch : List Item) : Key :=
  (batch.getLast?.map key).getD cursor

theorem laterThan_cursorAfter
    (ascending : items.Pairwise fun first second => key first < key second) (cursor : Key)
    (limit : Nat) :
    laterThan key (cursorAfter key cursor ((laterThan key cursor items).take limit)) items =
      (laterThan key cursor items).drop limit := by
  cases isLast : ((laterThan key cursor items).take limit).getLast? with
  | none =>
      unfold cursorAfter
      rw [isLast]
      rcases List.take_eq_nil_iff.mp (List.getLast?_eq_none_iff.mp isLast) with rfl | empty
      · rfl
      · rw [empty, List.drop_nil]
        exact empty
  | some last =>
      unfold cursorAfter
      rw [isLast]
      exact laterThan_getLast ascending isLast

end Library

namespace Tasks

namespace SyncTopicOnStartup

variable {TopicId TransactionId : Type}

/-- A request lists the first messages that are later, or fails and lists none. -/
def MayFail (listTopicMessagesById : Timestamp → Nat → List (TopicResponse TransactionId))
    (topic : List (TopicResponse TransactionId)) : Prop :=
  ∀ confirmedAt limit, listTopicMessagesById confirmedAt limit = [] ∨
    listTopicMessagesById confirmedAt limit =
      (laterThan ConsensusTopicResponse.consensusTimestamp confirmedAt topic).take limit

section Loading

variable {listTopicMessagesById : Timestamp → Nat → List (TopicResponse TransactionId)}
  {topic : List (TopicResponse TransactionId)}

/-- The task once it has pushed the first messages behind its cursor. -/
def loaded (topic : List (TopicResponse TransactionId)) (count : Nat)
    (task : SyncTopicOnStartup TopicId TransactionId) : SyncTopicOnStartup TopicId TransactionId :=
  let messages := (laterThan ConsensusTopicResponse.consensusTimestamp
    task.confirmedAtLastReadedTransaction topic).take count
  { task with
    confirmedAtLastReadedTransaction := lastReaded task.confirmedAtLastReadedTransaction messages
    pushed := task.pushed ++ messages }

theorem loaded_zero (topic : List (TopicResponse TransactionId))
    (task : SyncTopicOnStartup TopicId TransactionId) : task.loaded topic 0 = task := by
  unfold loaded
  dsimp only
  rw [List.take_zero, List.append_nil]
  rfl

theorem laterThan_loaded
    (ascending : topic.Pairwise fun first second =>
      first.consensusTimestamp < second.consensusTimestamp) (count : Nat)
    (task : SyncTopicOnStartup TopicId TransactionId) :
    laterThan ConsensusTopicResponse.consensusTimestamp
        (task.loaded topic count).confirmedAtLastReadedTransaction topic =
      (laterThan ConsensusTopicResponse.consensusTimestamp task.confirmedAtLastReadedTransaction
        topic).drop count :=
  laterThan_cursorAfter ascending _ count

/-- Two batches are one larger batch. -/
theorem loaded_loaded
    (ascending : topic.Pairwise fun first second =>
      first.consensusTimestamp < second.consensusTimestamp) (first second : Nat)
    (task : SyncTopicOnStartup TopicId TransactionId) :
    (task.loaded topic first).loaded topic second = task.loaded topic (first + second) := by
  have left := laterThan_loaded ascending first task
  unfold loaded at left ⊢
  dsimp only at left ⊢
  rw [left, List.append_assoc, ← lastReaded_append, ← List.take_add]

/-- Whatever requests fail, the loop ends with some first messages behind the cursor pushed. -/
theorem loadTransactionsFromMirrorNode_of_mayFail (mayFail : MayFail listTopicMessagesById topic)
    (ascending : topic.Pairwise fun first second =>
      first.consensusTimestamp < second.consensusTimestamp) (fuel addedTransactionsSum : Nat)
    (task : SyncTopicOnStartup TopicId TransactionId)
    (enough : (laterThan ConsensusTopicResponse.consensusTimestamp
      task.confirmedAtLastReadedTransaction topic).length < fuel) :
    ∃ sum count, loadTransactionsFromMirrorNode listTopicMessagesById fuel addedTransactionsSum
      task = some (sum, task.loaded topic count) := by
  induction fuel generalizing addedTransactionsSum task with
  | zero => cases enough
  | succ fuel ih =>
      unfold loadTransactionsFromMirrorNode
      dsimp only
      rcases mayFail task.confirmedAtLastReadedTransaction bulkSize with failed | listed
      · rw [failed]
        exact ⟨addedTransactionsSum, 0, by rw [loaded_zero]; rfl⟩
      · rw [listed]
        cases isLast : ((laterThan ConsensusTopicResponse.consensusTimestamp
            task.confirmedAtLastReadedTransaction topic).take bulkSize).getLast? with
        | none => exact ⟨addedTransactionsSum, 0, by rw [loaded_zero]⟩
        | some last =>
            have batch : { task with
                confirmedAtLastReadedTransaction := last.consensusTimestamp
                pushed := task.pushed ++ (laterThan ConsensusTopicResponse.consensusTimestamp
                  task.confirmedAtLastReadedTransaction topic).take bulkSize } =
                task.loaded topic bulkSize := by
              unfold loaded lastReaded
              dsimp only
              rw [isLast]
              rfl
            dsimp only
            rw [batch]
            split
            · rename_i full
              have fewer : (laterThan ConsensusTopicResponse.consensusTimestamp
                  (task.loaded topic bulkSize).confirmedAtLastReadedTransaction topic).length <
                    fuel := by
                rw [laterThan_loaded ascending, List.length_drop]
                rw [List.length_take] at full
                unfold bulkSize at full ⊢
                omega
              obtain ⟨sum, count, rest⟩ := ih _ (task.loaded topic bulkSize) fewer
              exact ⟨sum, bulkSize + count, by rw [rest, loaded_loaded ascending]⟩
            · exact ⟨_, bulkSize, rfl⟩

end Loading

/-- The live subscription delivers the messages from this time on. -/
def subscribed (listenFrom : Timestamp) (topic : List (TopicResponse TransactionId)) :
    List (TopicResponse TransactionId) :=
  topic.filter fun response => listenFrom ≤ response.consensusTimestamp

/-- One nanosecond later begins what is later, also at the end of a second. -/
theorem listenFrom_le_iff {confirmedAt : Timestamp} (canonical : confirmedAt.Canonical)
    (other : Timestamp) : listenFrom confirmedAt ≤ other ↔ confirmedAt < other := by
  have nanos : (confirmedAt.nanos + 1).toInt = confirmedAt.nanos.toInt + 1 :=
    Timestamp.toInt_add_one canonical.1 canonical.2
  rw [← not_lt, Timestamp.lt_iff, Timestamp.lt_iff]
  change ¬ (other.seconds.toInt < confirmedAt.seconds.toInt ∨
    other.seconds.toInt = confirmedAt.seconds.toInt ∧
      other.nanos.toInt < (confirmedAt.nanos + 1).toInt) ↔ _
  rw [nanos]
  omega

theorem subscribed_listenFrom {confirmedAt : Timestamp} (canonical : confirmedAt.Canonical)
    (topic : List (TopicResponse TransactionId)) : subscribed (listenFrom confirmedAt) topic =
      laterThan ConsensusTopicResponse.consensusTimestamp confirmedAt topic := by
  apply List.filter_congr
  intro response _
  rw [decide_eq_decide]
  exact listenFrom_le_iff canonical response.consensusTimestamp

theorem lastReaded_canonical {confirmedAt : Timestamp} (canonical : confirmedAt.Canonical)
    {topic responses : List (TopicResponse TransactionId)} (consensus : Consensus topic)
    (ofTopic : responses ⊆ topic) : (lastReaded confirmedAt responses).Canonical := by
  unfold lastReaded
  cases isLast : responses.getLast? with
  | none => exact canonical
  | some last => exact consensus.canonical last (ofTopic (List.mem_of_getLast? isLast))

section Run

variable {environment : SyncEnvironment TopicId TransactionId}
  {task : SyncTopicOnStartup TopicId TransactionId}

/-- What was pushed and what the subscription delivers are together the messages behind a time, each
once and in order. -/
def TakesOver (confirmedAt : Timestamp) (pushed : List (TopicResponse TransactionId))
    (listenFrom : Timestamp) (topic : List (TopicResponse TransactionId)) : Prop :=
  pushed ++ subscribed listenFrom topic =
    laterThan ConsensusTopicResponse.consensusTimestamp confirmedAt topic

theorem takesOver_loaded {topic : List (TopicResponse TransactionId)} (consensus : Consensus topic)
    (canonical : task.confirmedAtLastReadedTransaction.Canonical) (fresh : task.pushed = [])
    (count : Nat) :
    (task.loaded topic count).confirmedAtLastReadedTransaction.Canonical ∧
      TakesOver task.confirmedAtLastReadedTransaction (task.loaded topic count).pushed
        (listenFrom (task.loaded topic count).confirmedAtLastReadedTransaction) topic := by
  have canonicalLast : (task.loaded topic count).confirmedAtLastReadedTransaction.Canonical := by
    apply lastReaded_canonical canonical consensus
    intro response member
    exact (mem_laterThan.mp (List.mem_of_mem_take member)).1
  refine ⟨canonicalLast, ?_⟩
  unfold TakesOver
  rw [subscribed_listenFrom canonicalLast, laterThan_loaded consensus.ascending]
  unfold loaded
  dsimp only
  rw [fresh, List.nil_append, List.take_append_drop]

/-- Whatever requests of the startup fail: the task ends, the subscription takes over right behind
what was pushed from the present topic, and after a reset some first messages of the previous topic
were pushed before. -/
theorem takesOver_of_run [DecidableEq TopicId] (topics : TopicId → List (TopicResponse TransactionId))
    (mayFail : ∀ topicId, MayFail (environment.listTopicMessagesById topicId) (topics topicId))
    (consensus : ∀ topicId, Consensus (topics topicId))
    (canonical : (task.checked environment).confirmedAtLastReadedTransaction.Canonical) {fuel : Nat}
    (enough : ∀ topicId, (topics topicId).length < fuel) :
    ∃ synced, run environment fuel task = some synced ∧
      synced.previousTopic <+: laterThan ConsensusTopicResponse.consensusTimestamp
        (task.checked environment).confirmedAtLastReadedTransaction
        (topics (task.checked environment).lastKnowTopicId) ∧
      (environment.topicInfo.getD (task.checked environment).lastKnowTopicId =
          (task.checked environment).lastKnowTopicId →
        TakesOver (task.checked environment).confirmedAtLastReadedTransaction synced.previousTopic
          synced.listenFrom (topics (task.checked environment).lastKnowTopicId)) ∧
      (∀ topicId, environment.topicInfo = some topicId →
        topicId ≠ (task.checked environment).lastKnowTopicId →
        TakesOver (lastReaded (task.checked environment).confirmedAtLastReadedTransaction
          synced.previousTopic) synced.currentTopic synced.listenFrom (topics topicId)) := by
  have fresh : (task.checked environment).pushed = [] := rfl
  unfold run
  generalize task.checked environment = started at canonical fresh ⊢
  obtain ⟨_, count, previous⟩ := loadTransactionsFromMirrorNode_of_mayFail
    (mayFail started.lastKnowTopicId) (consensus started.lastKnowTopicId).ascending fuel 0 started
    (lt_of_le_of_lt (List.length_filter_le _ _) (enough _))
  obtain ⟨canonicalPrevious, takesOver⟩ :=
    takesOver_loaded (consensus started.lastKnowTopicId) canonical fresh count
  have pushed : (started.loaded (topics started.lastKnowTopicId) count).pushed =
      (laterThan ConsensusTopicResponse.consensusTimestamp started.confirmedAtLastReadedTransaction
        (topics started.lastKnowTopicId)).take count := by
    unfold loaded
    dsimp only
    rw [fresh, List.nil_append]
  dsimp only [Option.bind_eq_bind, Option.bind_some]
  rw [previous]
  dsimp only [Option.bind_eq_bind, Option.bind_some]
  unfold loadCurrentTopic
  cases isInfo : environment.topicInfo with
  | none =>
      refine ⟨_, rfl, pushed ▸ List.take_prefix _ _, fun _ => takesOver, ?_⟩
      rintro topicId ⟨⟩
  | some topicId =>
      dsimp only
      by_cases sameTopic : topicId =
          (started.loaded (topics started.lastKnowTopicId) count).lastKnowTopicId
      · rw [if_pos sameTopic]
        refine ⟨_, rfl, pushed ▸ List.take_prefix _ _, fun _ => takesOver, ?_⟩
        rintro _ ⟨⟩ other
        exact absurd sameTopic other
      · rw [if_neg sameTopic]
        have canonicalNext : ({ started.loaded (topics started.lastKnowTopicId) count with
            pushed := [] } : SyncTopicOnStartup TopicId TransactionId
            ).confirmedAtLastReadedTransaction.Canonical := canonicalPrevious
        obtain ⟨_, more, current⟩ := loadTransactionsFromMirrorNode_of_mayFail (mayFail topicId)
          (consensus topicId).ascending fuel 0
          { started.loaded (topics started.lastKnowTopicId) count with pushed := [] }
          (lt_of_le_of_lt (List.length_filter_le _ _) (enough _))
        dsimp only at current
        rw [current]
        refine ⟨_, rfl, pushed ▸ List.take_prefix _ _, fun same => absurd same sameTopic, ?_⟩
        rintro _ ⟨⟩ _
        dsimp only
        rw [pushed]
        exact (takesOver_loaded (consensus topicId) canonicalNext rfl more).2

end Run

section Example

/-- Topic 1 was replaced by topic 2 with the same message, and the requests for topic 1 fail. -/
def failingPrevious : SyncEnvironment Nat Nat where
  lastTransaction := none
  getTopicMessageByConsensusTimestamp _ := .new
  isGradidoTransaction _ := false
  hasSameFingerprint _ := false
  listTopicMessagesById topicId confirmedAt limit :=
    if topicId = 1 then [] else oneMessage 999999999 confirmedAt limit
  topicInfo := some 2

theorem takesOver_failingPrevious :
    ∃ synced, run failingPrevious 2 fromStart = some synced ∧ synced.previousTopic = [] ∧
      TakesOver ⟨0, 0⟩ synced.currentTopic synced.listenFrom [messageAt 999999999] := by
  have mayFail (topicId : Nat) :
      MayFail (failingPrevious.listTopicMessagesById topicId) [messageAt 999999999] := by
    intro confirmedAt limit
    by_cases isPrevious : topicId = 1
    · exact Or.inl (if_pos isPrevious)
    · exact Or.inr (if_neg isPrevious)
  have canonical : (fromStart.checked failingPrevious).confirmedAtLastReadedTransaction.Canonical :=
    ⟨Int.le_refl 0, Int.natCast_pos.mpr (Nat.succ_pos _)⟩
  obtain ⟨synced, isSynced, _, _, takesOver⟩ :=
    takesOver_of_run (fun _ => [messageAt 999999999]) mayFail
      (fun _ => consensus_messageAt (by decide)) canonical (fun _ => Nat.lt_succ_self 1)
  have reset := takesOver 2 rfl (by decide)
  cases isSynced
  exact ⟨_, rfl, rfl, reset⟩

end Example

end SyncTopicOnStartup

end Tasks

end GradidoNode

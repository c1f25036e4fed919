import GradidoNode.Tasks.SyncTopicOnStartup

/-!
# The topic is covered at startup

The batches together are the messages behind the cursor, whatever their number. The live
subscription then begins with the next nanosecond, which is a timestamp unless the second is
over.
-/

namespace GradidoNode

open Library Data Hiero

namespace Tasks

namespace SyncTopicOnStartup

variable {TopicId TransactionId : Type}

/-- The mirror node lists the first messages of the topic that are later than the timestamp. -/
def ListsTopic (listTopicMessagesById : Timestamp → Nat → List (TopicResponse TransactionId))
    (topic : List (TopicResponse TransactionId)) : Prop :=
  ∀ confirmedAt limit, listTopicMessagesById confirmedAt limit =
    (laterThan ConsensusTopicResponse.consensusTimestamp confirmedAt topic).take limit

/-- The consensus times of a topic are canonical and ascend. -/
structure Consensus (topic : List (TopicResponse TransactionId)) : Prop where
  ascending : topic.Pairwise fun first second =>
    first.consensusTimestamp < second.consensusTimestamp
  canonical : ∀ response ∈ topic, response.consensusTimestamp.Canonical

/-- The time of the last message, or where there is none, the time to load from. -/
def lastReaded (confirmedAt : Timestamp) (responses : List (TopicResponse TransactionId)) :
    Timestamp :=
  (responses.getLast?.map ConsensusTopicResponse.consensusTimestamp).getD confirmedAt

theorem lastReaded_append (confirmedAt : Timestamp)
    (first second : List (TopicResponse TransactionId)) :
    lastReaded confirmedAt (first ++ second) = lastReaded (lastReaded confirmedAt first) second := by
  unfold lastReaded
  rw [List.getLast?_append]
  cases second.getLast? with
  | none => rfl
  | some last => rfl

section Loading

variable {listTopicMessagesById : Timestamp → Nat → List (TopicResponse TransactionId)}
  {topic : List (TopicResponse TransactionId)}

/-- With fuel for every message left, the loop ends when all messages are pushed. -/
theorem loadTransactionsFromMirrorNode_of_fuel (lists : ListsTopic listTopicMessagesById topic)
    (ascending : topic.Pairwise fun first second =>
      first.consensusTimestamp < second.consensusTimestamp) (fuel addedTransactionsSum : Nat)
    (task : SyncTopicOnStartup TopicId TransactionId)
    (enough : (laterThan ConsensusTopicResponse.consensusTimestamp
      task.confirmedAtLastReadedTransaction topic).length < fuel) :
    ∃ sum, loadTransactionsFromMirrorNode listTopicMessagesById fuel addedTransactionsSum task =
      some (sum, { task with
        confirmedAtLastReadedTransaction := lastReaded task.confirmedAtLastReadedTransaction
          (laterThan ConsensusTopicResponse.consensusTimestamp
            task.confirmedAtLastReadedTransaction topic)
        pushed := task.pushed ++ laterThan ConsensusTopicResponse.consensusTimestamp
          task.confirmedAtLastReadedTransaction topic }) := by
  induction fuel generalizing addedTransactionsSum task with
  | zero => cases enough
  | succ fuel ih =>
      have listed := lists task.confirmedAtLastReadedTransaction bulkSize
      unfold loadTransactionsFromMirrorNode
      dsimp only
      rw [listed]
      generalize isLater : laterThan ConsensusTopicResponse.consensusTimestamp
        task.confirmedAtLastReadedTransaction topic = later at enough ⊢
      have parts := List.take_append_drop bulkSize later
      cases isLast : (later.take bulkSize).getLast? with
      | none =>
          have noneLater : later = [] := by
            rcases List.take_eq_nil_iff.mp (List.getLast?_eq_none_iff.mp isLast) with
              impossible | empty
            · cases impossible
            · exact empty
          refine ⟨addedTransactionsSum, ?_⟩
          rw [noneLater, List.append_nil]
          rfl
      | some last =>
          have readUpTo : lastReaded task.confirmedAtLastReadedTransaction (later.take bulkSize) =
              last.consensusTimestamp := by
            unfold lastReaded
            rw [isLast]
            rfl
          have left : laterThan ConsensusTopicResponse.consensusTimestamp last.consensusTimestamp
              topic = later.drop bulkSize := by
            rw [← isLater] at isLast ⊢
            exact laterThan_getLast ascending isLast
          dsimp only
          split
          · rename_i full
            have fewer : (laterThan ConsensusTopicResponse.consensusTimestamp
                last.consensusTimestamp topic).length < fuel := by
              rw [left, List.length_drop]
              have some_later : bulkSize ≤ later.length := by
                rw [← full]
                exact List.length_take_le' _ _
              unfold bulkSize at some_later ⊢
              omega
            obtain ⟨sum, rest⟩ := ih (addedTransactionsSum + (later.take bulkSize).length)
              { task with
                confirmedAtLastReadedTransaction := last.consensusTimestamp
                pushed := task.pushed ++ later.take bulkSize } fewer
            refine ⟨sum, rest.trans ?_⟩
            dsimp only
            rw [left, List.append_assoc, parts, ← readUpTo, ← lastReaded_append, parts]
          · rename_i notFull
            have whole : later.take bulkSize = later := by
              apply List.take_of_length_le
              rw [List.length_take] at notFull
              omega
            refine ⟨addedTransactionsSum + later.length, ?_⟩
            rw [whole] at readUpTo ⊢
            rw [readUpTo]

end Loading

section Listening

/-- One nanosecond later is the next timestamp, unless the second is over. -/
theorem immediateSuccessor_listenFrom_iff {confirmedAt : Timestamp}
    (canonical : confirmedAt.Canonical) :
    confirmedAt.ImmediateSuccessor (listenFrom confirmedAt) ↔ confirmedAt.nanos ≠ 999999999 :=
  Timestamp.immediateSuccessor_add_nano_iff canonical

end Listening

/-- Every message behind the timestamp is pushed once and in order, and the subscription begins
right behind the last one. -/
def CoversTopic (listTopicMessagesById : Timestamp → Nat → List (TopicResponse TransactionId))
    (topic : List (TopicResponse TransactionId))
    (task : SyncTopicOnStartup TopicId TransactionId) : Prop :=
  ∀ fuel, topic.length < fuel → ∃ sum loaded,
    loadTransactionsFromMirrorNode listTopicMessagesById fuel 0 task = some (sum, loaded) ∧
    loaded.pushed = task.pushed ++ laterThan ConsensusTopicResponse.consensusTimestamp
      task.confirmedAtLastReadedTransaction topic ∧
    (lastReaded task.confirmedAtLastReadedTransaction loaded.pushed).ImmediateSuccessor
      (listenFrom loaded.confirmedAtLastReadedTransaction)

/-- Startup covers the topic exactly if the last message that it reads has room for another
nanosecond in its second. -/
theorem coversTopic_iff
    {listTopicMessagesById : Timestamp → Nat → List (TopicResponse TransactionId)}
    {topic : List (TopicResponse TransactionId)} (lists : ListsTopic listTopicMessagesById topic)
    (consensus : Consensus topic) (task : SyncTopicOnStartup TopicId TransactionId)
    (fresh : task.pushed = [])
    (canonical : task.confirmedAtLastReadedTransaction.Canonical) :
    CoversTopic listTopicMessagesById topic task ↔
      (lastReaded task.confirmedAtLastReadedTransaction (laterThan
        ConsensusTopicResponse.consensusTimestamp task.confirmedAtLastReadedTransaction
          topic)).nanos ≠ 999999999 := by
  have canonicalLast : (lastReaded task.confirmedAtLastReadedTransaction (laterThan
      ConsensusTopicResponse.consensusTimestamp task.confirmedAtLastReadedTransaction
        topic)).Canonical := by
    unfold lastReaded
    cases isLast : (laterThan ConsensusTopicResponse.consensusTimestamp
        task.confirmedAtLastReadedTransaction topic).getLast? with
    | none => exact canonical
    | some last =>
        exact consensus.canonical last (mem_laterThan.mp (List.mem_of_getLast? isLast)).1
  have loads (fuel : Nat) (enough : topic.length < fuel) :=
    loadTransactionsFromMirrorNode_of_fuel lists consensus.ascending fuel 0 task
      (lt_of_le_of_lt (List.length_filter_le _ _) enough)
  rw [← immediateSuccessor_listenFrom_iff canonicalLast]
  constructor
  · intro covers
    obtain ⟨_, loaded, isLoaded, pushed, successor⟩ := covers (topic.length + 1) (Nat.lt_add_one _)
    obtain ⟨_, alsoLoaded⟩ := loads (topic.length + 1) (Nat.lt_add_one _)
    cases isLoaded.symm.trans alsoLoaded
    rwa [fresh, List.nil_append] at successor
  · intro successor fuel enough
    obtain ⟨sum, isLoaded⟩ := loads fuel enough
    refine ⟨sum, _, isLoaded, rfl, ?_⟩
    rwa [fresh, List.nil_append]

section Example

/-- A message in the last nanosecond of a second or in the first one. -/
def messageAt (nanos : Int32) : TopicResponse Nat where
  consensusTimestamp := ⟨5, nanos⟩
  message := some []
  runningHash := some []
  sequenceNumber := 1
  runningHashVersion := 3
  chunkInfo := .new

def oneMessage (nanos : Int32) : Timestamp → Nat → List (TopicResponse Nat) :=
  fun confirmedAt limit =>
    (laterThan ConsensusTopicResponse.consensusTimestamp confirmedAt [messageAt nanos]).take limit

def fromStart : SyncTopicOnStartup Nat Nat where
  lastKnownSequenceNumber := 0
  lastKnowTopicId := 1
  confirmedAtLastReadedTransaction := ⟨0, 0⟩
  pushed := []

theorem consensus_messageAt {nanos : Int32}
    (canonical : (messageAt nanos).consensusTimestamp.Canonical) : Consensus [messageAt nanos] where
  ascending := List.pairwise_singleton _ _
  canonical := fun _ member => List.mem_singleton.mp member ▸ canonical

/-- The message after the one at the beginning of its second. -/
def nextMessage : TopicResponse Nat where
  consensusTimestamp := ⟨6, 7⟩
  message := some [1]
  runningHash := some [1]
  sequenceNumber := 2
  runningHashVersion := 3
  chunkInfo := .new

def twoMessages : List (TopicResponse Nat) := [messageAt 0, nextMessage]

theorem consensus_twoMessages : Consensus twoMessages where
  ascending := by decide
  canonical response member := by
    rcases List.mem_pair.mp member with rfl | rfl
    · decide
    · decide

/-- Both messages are loaded, and the listening begins right behind the second. -/
theorem coversTopic_twoMessages :
    CoversTopic (fun confirmedAt limit =>
        (laterThan ConsensusTopicResponse.consensusTimestamp confirmedAt twoMessages).take limit)
      twoMessages fromStart :=
  (coversTopic_iff (fun _ _ => rfl) consensus_twoMessages fromStart rfl (by decide)).mpr
    (by decide)

/-- The time behind the last nanosecond of a second is none that a message can have. -/
theorem not_coversTopic_lastNanosecond :
    ListsTopic (oneMessage 999999999) [messageAt 999999999] ∧ Consensus [messageAt 999999999] ∧
      ¬ CoversTopic (oneMessage 999999999) [messageAt 999999999] fromStart := by
  refine ⟨fun _ _ => rfl, consensus_messageAt (by decide), fun covers => ?_⟩
  obtain ⟨_, loaded, isLoaded, _, successor⟩ := covers 2 (by decide)
  cases isLoaded
  exact absurd successor.canonical (by decide)

end Example

end SyncTopicOnStartup

end Tasks

end GradidoNode

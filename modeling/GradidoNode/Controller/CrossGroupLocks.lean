import GradidoNode.Controller.CrossGroup
import GradidoNode.Library.WaitGraph

/-!
# Ordering threads that wait for each other

A thread that looks for a pair holds its own mutex while it waits for the other one. Whatever
the queues hold, no threads can come to wait in a circle if and only if the groups that
inbound transactions may name have none.
-/

namespace GradidoNode

open Library Hiero Tasks Relation

namespace Controller

open SimpleOrderingManager

namespace CrossGroupNode

variable {Timestamp TransactionId Transaction : Type} [LinearOrder Timestamp]
  [DecidableEq TransactionId]

/-- The thread of a community holds the mutex of its queue and waits for the mutex of another. -/
def WaitsFor (node : Node Timestamp TransactionId Transaction) (communityId otherGroup : String) :
    Prop :=
  node.holder communityId = some (.orderingThread communityId) ∧
    ∃ environment, node.phase communityId = .waits otherGroup environment

/-- No thread waits for a mutex that it holds, and none wait in a circle. -/
structure DeadlockFree (node : Node Timestamp TransactionId Transaction) : Prop where
  notOwn : ∀ communityId otherGroup, WaitsFor node communityId otherGroup →
    node.holder otherGroup ≠ some (.orderingThread communityId)
  noCircle : ∀ communityId, ¬ TransGen (WaitsFor node) communityId communityId

/-- Between rounds of all threads, whatever the queues hold. -/
structure Resting (node : Node Timestamp TransactionId Transaction) : Prop where
  phase : ∀ communityId, node.phase communityId = .outside
  holder : ∀ communityId, node.holder communityId = none

section Names

variable (library : CrossGroupLibrary TransactionId Transaction)

/-- An inbound transaction of the task names one of these groups. -/
def NamesOnly (groups : String → Prop) (task : HieroMessageToTransactionTask Transaction) : Prop :=
  ∀ transaction body, task.transaction = some transaction →
    library.getTransactionBody transaction = .ok (some body) → body.type = .inbound →
      groups body.otherGroup

/-- The inbound transactions in the queues name only what their community may name. -/
def Within (names : String → String → Prop)
    (node : Node Timestamp TransactionId Transaction) : Prop :=
  ∀ communityId manager, node.managers communityId = some manager →
    ∀ entry ∈ manager.transactions, NamesOnly library (names communityId) entry.deserializeTask

/-- So do those that are deserialized meanwhile. -/
def DeserializesWithin (names : String → String → Prop) :
    CrossGroupEvent Timestamp TransactionId Transaction → Prop
  | .finishTask communityId environment _ =>
      NamesOnly library (names communityId) (HieroMessageToTransactionTask.new.execute environment)
  | _ => True

/-- What holds of the mutexes and of those who wait, whatever the order of the steps. -/
structure InOrder (names : String → String → Prop)
    (node : Node Timestamp TransactionId Transaction) : Prop where
  within : Within library names node
  holds : ∀ communityId mutexOf, node.holder mutexOf = some (.orderingThread communityId) →
    mutexOf = communityId ∨ ∃ environment, node.phase communityId = .searches mutexOf environment
  waits : ∀ communityId otherGroup environment,
    node.phase communityId = .waits otherGroup environment → names communityId otherGroup

end Names

variable {library : CrossGroupLibrary TransactionId Transaction} {names : String → String → Prop}
  {node : Node Timestamp TransactionId Transaction}

omit [LinearOrder Timestamp] [DecidableEq TransactionId] in
/-- A node at rest takes its locks in order. -/
theorem inOrder_of_resting (resting : Resting node) (within : Within library names node) :
    InOrder library names node where
  within := within
  holds communityId mutexOf held := by
    rw [resting.holder] at held
    cases held
  waits communityId otherGroup environment waiting := by
    rw [resting.phase] at waiting
    cases waiting

omit [LinearOrder Timestamp] [DecidableEq TransactionId] in
/-- Where nobody may come to name itself over others, nobody waits for itself. -/
theorem InOrder.deadlockFree (ordered : InOrder library names node)
    (acyclic : ∀ communityId, ¬ TransGen names communityId communityId) : DeadlockFree node := by
  have named (communityId otherGroup : String) (waiting : WaitsFor node communityId otherGroup) :
      names communityId otherGroup := by
    obtain ⟨_, environment, phase⟩ := waiting
    exact ordered.waits communityId otherGroup environment phase
  refine ⟨fun communityId otherGroup waiting held => ?_, fun communityId circle => ?_⟩
  · rcases ordered.holds communityId otherGroup held with rfl | ⟨environment, searches⟩
    · exact acyclic otherGroup (TransGen.single (named _ _ waiting))
    · obtain ⟨_, _, phase⟩ := waiting
      rw [searches] at phase
      cases phase
  · exact acyclic communityId (circle.lift id named)

section Steps

variable {manager : Manager Timestamp TransactionId Transaction} {communityId : String}

omit [LinearOrder Timestamp] [DecidableEq TransactionId] in
/-- A manager whose queue has got no other transactions. -/
theorem Within.setManager (within : Within library names node)
    (kept : ∀ entry ∈ manager.transactions,
      NamesOnly library (names communityId) entry.deserializeTask) :
    Within library names (node.setManager communityId manager) := by
  intro other present isManager entry member
  by_cases same : other = communityId
  · subst same
    rw [managers_setManager_self] at isManager
    cases isManager
    exact kept entry member
  · rw [managers_setManager_of_ne _ _ _ same] at isManager
    exact within other present isManager entry member

omit [DecidableEq TransactionId] in
/-- A task that has not run names no community. -/
theorem namesOnly_new (groups : String → Prop) :
    NamesOnly library groups (HieroMessageToTransactionTask.new : HieroMessageToTransactionTask _) := by
  intro transaction body absent
  cases absent

omit [DecidableEq TransactionId] in
/-- A task that is run deserializes the same transaction as a new one would, or stays. -/
theorem namesOnly_execute {groups : String → Prop}
    {task : HieroMessageToTransactionTask Transaction} {environment : TaskEnvironment Transaction}
    (before : NamesOnly library groups task)
    (deserialized : NamesOnly library groups (HieroMessageToTransactionTask.new.execute environment)) :
    NamesOnly library groups (task.execute environment) := by
  unfold HieroMessageToTransactionTask.execute at deserialized ⊢
  cases ran : HieroMessageToTransactionTask.run environment with
  | error exception => exact before
  | ok result =>
      rw [ran] at deserialized
      exact deserialized

omit [LinearOrder Timestamp] [DecidableEq TransactionId] in
/-- A queue that names only the communities allowed keeps the order. -/
theorem InOrder.setManager (ordered : InOrder library names node)
    (kept : ∀ entry ∈ manager.transactions,
      NamesOnly library (names communityId) entry.deserializeTask) :
    InOrder library names (node.setManager communityId manager) :=
  ⟨ordered.within.setManager kept, ordered.holds, ordered.waits⟩

omit [LinearOrder Timestamp] [DecidableEq TransactionId] in
/-- A thread that does not search may go on to anything but a wait for a group that it may not
name. -/
theorem InOrder.setPhase (ordered : InOrder library names node)
    (notSearching : ∀ mutexOf environment, node.phase communityId ≠ .searches mutexOf environment)
    {phase : ThreadPhase Transaction}
    (named : ∀ otherGroup environment, phase = .waits otherGroup environment →
      names communityId otherGroup) :
    InOrder library names (node.setPhase communityId phase) where
  within := ordered.within
  holds thread mutexOf held := by
    rcases ordered.holds thread mutexOf held with own | ⟨environment, searches⟩
    · exact Or.inl own
    · have differ : thread ≠ communityId := by
        rintro rfl
        exact notSearching mutexOf environment searches
      exact Or.inr ⟨environment, (phase_setPhase_of_ne _ _ _ differ).trans searches⟩
  waits thread otherGroup environment waiting := by
    by_cases same : thread = communityId
    · subst same
      rw [phase_setPhase_self] at waiting
      exact named otherGroup environment waiting
    · rw [phase_setPhase_of_ne _ _ _ same] at waiting
      exact ordered.waits thread otherGroup environment waiting

omit [LinearOrder Timestamp] [DecidableEq TransactionId] in
/-- A mutex that is released, or locked by one who may. -/
theorem InOrder.setHolder (ordered : InOrder library names node) {holder : Option Holder}
    (may : ∀ thread, holder = some (.orderingThread thread) →
      communityId = thread ∨ ∃ environment, node.phase thread = .searches communityId environment) :
    InOrder library names (node.setHolder communityId holder) where
  within := ordered.within
  holds thread mutexOf held := by
    by_cases same : mutexOf = communityId
    · subst same
      rw [holder_setHolder_self] at held
      exact may thread held
    · rw [holder_setHolder_of_ne _ _ _ same] at held
      exact ordered.holds thread mutexOf held
  waits := ordered.waits

omit [LinearOrder Timestamp] [DecidableEq TransactionId] in
/-- Giving a lock back keeps the order. -/
theorem InOrder.release (ordered : InOrder library names node) :
    InOrder library names (node.setHolder communityId none) :=
  ordered.setHolder fun _ absent => by cases absent

omit [LinearOrder Timestamp] [DecidableEq TransactionId] in
/-- The end of a round keeps the order. -/
theorem InOrder.endRound (ordered : InOrder library names node)
    (isManager : node.managers communityId = some manager)
    (notSearching : ∀ mutexOf environment, node.phase communityId ≠ .searches mutexOf environment)
    (environment : RoundEnvironment Transaction) :
    InOrder library names (node.endRound communityId manager environment) := by
  have kept : ∀ entry ∈ (manager.round environment).transactions,
      NamesOnly library (names communityId) entry.deserializeTask :=
    fun entry member => ordered.within communityId manager isManager entry (mem_of_mem_round member)
  unfold CrossGroupNode.endRound
  exact ((ordered.setManager kept).setPhase notSearching fun _ _ absent => by cases absent).release

omit [LinearOrder Timestamp] [DecidableEq TransactionId] in
/-- The end of a search: the thread searches no more, and the mutex is released. -/
theorem InOrder.found (ordered : InOrder library names node) {otherGroup : String}
    {environment result : RoundEnvironment Transaction}
    (searches : node.phase communityId = .searches otherGroup environment) :
    InOrder library names ((node.setPhase communityId (.found result)).setHolder otherGroup none) where
  within := ordered.within
  holds thread mutexOf held := by
    have differ : mutexOf ≠ otherGroup := by
      rintro rfl
      rw [holder_setHolder_self] at held
      cases held
    rw [holder_setHolder_of_ne _ _ _ differ] at held
    rcases ordered.holds thread mutexOf held with own | ⟨present, others⟩
    · exact Or.inl own
    · have another : thread ≠ communityId := by
        rintro rfl
        cases searches.symm.trans others
        exact differ rfl
      exact Or.inr ⟨present, (phase_setPhase_of_ne _ _ _ another).trans others⟩
  waits thread named present waiting := by
    by_cases same : thread = communityId
    · subst same
      rw [phase_setHolder, phase_setPhase_self] at waiting
      cases waiting
    · rw [phase_setHolder, phase_setPhase_of_ne _ _ _ same] at waiting
      exact ordered.waits thread named present waiting

/-- Every step that deserializes within the naming keeps the order. -/
theorem InOrder.step (ordered : InOrder library names node)
    {event : CrossGroupEvent Timestamp TransactionId Transaction}
    {next : Node Timestamp TransactionId Transaction} (allowed : DeserializesWithin library names event)
    (taken : node.step library event = some next) : InOrder library names next := by
  cases moves_of_step taken with
  | lock communityId manager isManager outside free running =>
      apply (ordered.setPhase _ _).setHolder
      · intro thread held
        cases held
        exact Or.inl rfl
      · intro mutexOf environment searches
        rw [outside] at searches
        cases searches
      · intro otherGroup environment absent
        cases absent
  | ends communityId manager environment isManager inside target =>
      apply ordered.endRound isManager
      intro mutexOf environment searches
      rw [inside] at searches
      cases searches
  | unsearched communityId manager environment transaction otherGroup other isManager inside =>
      apply ordered.setPhase
      · intro mutexOf environment searches
        rw [inside] at searches
        cases searches
      · intro otherGroup environment absent
        cases absent
  | waits communityId manager environment transaction otherGroup other isManager inside target =>
      apply ordered.setPhase
      · intro mutexOf environment searches
        rw [inside] at searches
        cases searches
      · intro named present waiting
        cases waiting
        obtain ⟨entry, body, isTurn, isTransaction, isBody, inbound, rfl, _⟩ :=
          searchTarget_eq_some target
        exact ordered.within communityId manager isManager entry (turn_mem isTurn) transaction body
          isTransaction isBody inbound
  | lockOther communityId otherGroup environment waiting free =>
      apply (ordered.setPhase _ _).setHolder
      · intro thread held
        cases held
        exact Or.inr ⟨environment, phase_setPhase_self _ _ _⟩
      · intro mutexOf present searches
        rw [waiting] at searches
        cases searches
      · intro named present absent
        cases absent
  | search communityId manager otherGroup environment transaction namedGroup other isManager searches =>
      exact ordered.found searches
  | finish communityId manager environment isManager found =>
      apply ordered.endRound isManager
      intro mutexOf environment searches
      rw [found] at searches
      cases searches
  | lockPush communityId free =>
      apply ordered.setHolder
      intro thread held
      cases held
  | push communityId manager environment response isManager pushing =>
      apply InOrder.release
      apply ordered.setManager
      have before := ordered.within communityId manager isManager
      rcases pushTransaction_cases environment response manager with
        same | failed | ⟨exception, failed⟩ | inserted
      · rwa [same]
      · rwa [failed]
      · rwa [failed]
      · rw [inserted]
        intro entry member
        rcases (List.mem_orderedInsert _).mp member with rfl | old
        · exact namesOnly_new _
        · exact before entry old
  | finishTask communityId manager environment name isManager =>
      apply ordered.setManager
      intro entry member
      obtain ⟨old, inQueue, rfl⟩ := List.mem_map.mp member
      have before := ordered.within communityId manager isManager old inQueue
      split
      · exact namesOnly_execute before allowed
      · exact before
  | exit communityId manager isManager =>
      exact ordered.setManager (ordered.within communityId manager isManager)

/-- So does every run. -/
theorem InOrder.run (ordered : InOrder library names node)
    {events : List (CrossGroupEvent Timestamp TransactionId Transaction)}
    {reached : Node Timestamp TransactionId Transaction}
    (allowed : ∀ event ∈ events, DeserializesWithin library names event)
    (run : runEvents (CrossGroupNode.step library) events node = some reached) :
    InOrder library names reached := by
  have stable (node : Node Timestamp TransactionId Transaction)
      (event : CrossGroupEvent Timestamp TransactionId Transaction)
      (next : Node Timestamp TransactionId Transaction) (ordered : InOrder library names node)
      (allowed : DeserializesWithin library names event)
      (taken : node.step library event = some next) : InOrder library names next :=
    ordered.step allowed taken
  exact invariant_of_stepsMeet stable ordered (stepsMeet_of_forall allowed node) run

end Steps

/-! ## Threads that come to wait in a circle -/

section Circle

variable [Inhabited Timestamp] (inboundOf : String → Transaction) (next : String → String)
  (parties : List String)

/-- A queue with one inbound transaction, which names the next party. -/
def circleManager (communityId : String) : Manager Timestamp TransactionId Transaction :=
  { (SimpleOrderingManager.start communityId 0 : Manager Timestamp TransactionId Transaction) with
    transactions := [{
      consensusTopicResponse := { ConsensusTopicResponse.new with sequenceNumber := 1 }
      name := 0
      deserializeTask := {
        transaction := some (inboundOf (next communityId))
        success := true
        finished := true } }] }

def circleNode : Node Timestamp TransactionId Transaction where
  managers := fun communityId =>
    if communityId ∈ parties then some (circleManager inboundOf next communityId) else none
  phase := fun _ => .outside
  holder := fun _ => none

/-- A round that gets every blockchain it asks for. -/
def searchingRound : RoundEnvironment Transaction where
  blockchain := .ok true
  getTransactionBody := fun _ => .ok none
  notified := .ok ()
  timeouted := false
  otherBlockchain := fun _ => .ok (some false)
  isHieroTransactionId := fun _ => .ok true
  pairTask := none
  isPairing := fun _ _ => .ok true
  createAndAddConfirmedTransaction := .ok true
  updateState := .ok ()

/-- The threads of these communities lock their queues and look at the first message. -/
def circleEvents (communityIds : List String) :
    List (CrossGroupEvent Timestamp TransactionId Transaction) :=
  communityIds.flatMap fun communityId =>
    [.lock communityId, .examine communityId searchingRound]

variable {inboundOf next parties}

/-- The thread of a party that rests comes to wait for the next one. -/
theorem party_waits (inbounds : ∀ otherGroup,
      library.getTransactionBody (inboundOf otherGroup) = .ok (some ⟨.inbound, otherGroup⟩))
    (closed : ∀ party ∈ parties, next party ∈ parties) {party : String} (member : party ∈ parties)
    {node : Node Timestamp TransactionId Transaction}
    (managers : node.managers = (circleNode inboundOf next parties).managers)
    (outside : node.phase party = .outside) (free : node.holder party = none) :
    ∃ environment, runEvents (step library) [.lock party, .examine party searchingRound] node =
      some (((node.setPhase party .inside).setHolder party (some (.orderingThread party))).setPhase
        party (.waits (next party) environment)) := by
  have isManager (other : String) (inside : other ∈ parties) :
      node.managers other = some (circleManager inboundOf next other) := by
    rw [managers]
    exact if_pos inside
  have locked : node.step library (.lock party) =
      some ((node.setPhase party .inside).setHolder party (some (.orderingThread party))) := by
    simp [CrossGroupNode.step, isManager party member, outside, free, circleManager,
      SimpleOrderingManager.start]
  generalize isMiddle : (node.setPhase party .inside).setHolder party
    (some (.orderingThread party)) = middle at locked
  have middleManager (other : String) (inside : other ∈ parties) :
      middle.managers other = some (circleManager inboundOf next other) := by
    rw [← isMiddle]
    exact isManager other inside
  have phase : middle.phase party = .inside := by
    rw [← isMiddle, phase_setHolder, phase_setPhase_self]
  have target : (circleManager inboundOf next party : Manager Timestamp TransactionId Transaction).searchTarget
      (middle.told library party searchingRound) = some (inboundOf (next party), next party) := by
    have isTurn : (circleManager inboundOf next party : Manager Timestamp TransactionId Transaction).turn
        = some _ := rfl
    unfold searchTarget
    rw [isTurn]
    simp [told, searchingRound, inbounds, middleManager _ (closed party member), Except.toOption,
      Except.map]
  refine ⟨middle.told library party searchingRound, runEvents_cons.mpr ⟨middle, locked,
    runEvents_cons.mpr ⟨_, ?_, rfl⟩⟩⟩
  have examined : middle.step library (.examine party searchingRound) =
      middle.examine party (circleManager inboundOf next party)
        (middle.told library party searchingRound) := by
    simp [CrossGroupNode.step, middleManager party member, phase]
  rw [examined]
  unfold CrossGroupNode.examine
  rw [target]
  dsimp only
  rw [middleManager _ (closed party member)]
  rfl

/-- One after the other, all parties come to wait. -/
theorem parties_wait (inbounds : ∀ otherGroup,
      library.getTransactionBody (inboundOf otherGroup) = .ok (some ⟨.inbound, otherGroup⟩))
    (closed : ∀ party ∈ parties, next party ∈ parties) {todo : List String} (nodup : todo.Nodup)
    (inside : ∀ party ∈ todo, party ∈ parties) {node : Node Timestamp TransactionId Transaction}
    (managers : node.managers = (circleNode inboundOf next parties).managers)
    (resting : ∀ party ∈ todo, node.phase party = .outside ∧ node.holder party = none) :
    ∃ reached, runEvents (step library) (circleEvents todo) node = some reached ∧
      (∀ party ∈ todo, WaitsFor reached party (next party)) ∧
      ∀ other, other ∉ todo → reached.phase other = node.phase other ∧
        reached.holder other = node.holder other := by
  induction todo generalizing node with
  | nil => exact ⟨node, rfl, fun party member => absurd member List.not_mem_nil, fun _ _ => ⟨rfl, rfl⟩⟩
  | cons party rest ih =>
      obtain ⟨notLater, restNodup⟩ := List.nodup_cons.mp nodup
      obtain ⟨outside, free⟩ := resting party (List.mem_cons_self ..)
      obtain ⟨environment, first⟩ := party_waits inbounds closed (inside party (List.mem_cons_self ..))
        managers outside free
      generalize isMiddle : ((node.setPhase party .inside).setHolder party
        (some (.orderingThread party))).setPhase party (.waits (next party) environment) = middle
          at first
      have others (other : String) (differ : other ≠ party) :
          middle.phase other = node.phase other ∧ middle.holder other = node.holder other := by
        rw [← isMiddle, phase_setPhase_of_ne _ _ _ differ, holder_setPhase, phase_setHolder,
          phase_setPhase_of_ne _ _ _ differ, holder_setHolder_of_ne _ _ _ differ, holder_setPhase]
        exact ⟨rfl, rfl⟩
      obtain ⟨reached, later, waiting, unchanged⟩ := @ih restNodup
        (fun other member => inside other (List.mem_cons_of_mem _ member)) middle
        (by rw [← isMiddle]; exact managers)
        (fun other member => by
          have differ : other ≠ party := fun same => notLater (same ▸ member)
          rw [(others other differ).1, (others other differ).2]
          exact resting other (List.mem_cons_of_mem _ member))
      refine ⟨reached, ?_, ?_, fun other absent => ?_⟩
      · exact runEvents_append.mpr ⟨middle, first, later⟩
      · intro other member
        rcases List.mem_cons.mp member with rfl | inRest
        · obtain ⟨phase, holder⟩ := unchanged other notLater
          refine ⟨?_, environment, ?_⟩
          · rw [holder, ← isMiddle, holder_setPhase, holder_setHolder_self]
          · rw [phase, ← isMiddle, phase_setPhase_self]
        · exact waiting other inRest
      · have differ : other ≠ party := fun same => absent (same ▸ List.mem_cons_self ..)
        have notInRest : other ∉ rest := fun later => absent (List.mem_cons_of_mem _ later)
        rw [(unchanged other notInRest).1, (unchanged other notInRest).2]
        exact others other differ

omit [LinearOrder Timestamp] [DecidableEq TransactionId] in
/-- The example's messages name the next community only. -/
theorem within_circleNode (inbounds : ∀ otherGroup,
      library.getTransactionBody (inboundOf otherGroup) = .ok (some ⟨.inbound, otherGroup⟩))
    (named : ∀ party ∈ parties, names party (next party)) :
    Within library names
      (circleNode inboundOf next parties : Node Timestamp TransactionId Transaction) := by
  intro communityId manager isManager entry member transaction body isTransaction isBody _
  by_cases inside : communityId ∈ parties
  · cases (if_pos inside).symm.trans isManager
    rw [List.mem_singleton.mp member] at isTransaction
    cases isTransaction
    cases (inbounds (next communityId)).symm.trans isBody
    exact named communityId inside
  · cases (if_neg inside).symm.trans isManager

end Circle

/-- Whatever the queues hold and in whatever order the threads go on, none of them is left in a
deadlock, if and only if the groups that inbound transactions may name have no circle. -/
theorem deadlockFree_iff_acyclic [Inhabited Timestamp]
    (library : CrossGroupLibrary TransactionId Transaction) (names : String → String → Prop)
    (inbounds : ∀ otherGroup, ∃ transaction,
      library.getTransactionBody transaction = .ok (some ⟨.inbound, otherGroup⟩)) :
    (∀ (start reached : Node Timestamp TransactionId Transaction) events, Resting start →
      Within library names start → (∀ event ∈ events, DeserializesWithin library names event) →
      runEvents (step library) events start = some reached → DeadlockFree reached) ↔
      ∀ communityId, ¬ TransGen names communityId communityId := by
  constructor
  · intro free communityId circle
    obtain ⟨parties, some, closed⟩ := exists_parties_of_circle circle
    choose! next inside named using closed
    choose inboundOf isInbound using inbounds
    obtain ⟨reached, run, waiting, _⟩ := @parties_wait Timestamp TransactionId Transaction _ _
      library _ inboundOf next parties isInbound inside _ parties.nodup_dedup
      (fun party member => List.mem_dedup.mp member) (circleNode inboundOf next parties) rfl
      fun _ _ => ⟨rfl, rfl⟩
    have deadlockFree := free _ reached _ ⟨fun _ => rfl, fun _ => rfl⟩
      (within_circleNode isInbound named) ?_ run
    · obtain ⟨party, waitsForItself⟩ := exists_circle_of_parties some fun party member =>
        ⟨next party, inside party member, waiting party (List.mem_dedup.mpr member)⟩
      exact deadlockFree.noCircle party waitsForItself
    · intro event member
      obtain ⟨party, _, isEvent⟩ := List.mem_flatMap.mp member
      rcases List.mem_cons.mp isEvent with rfl | isEvent
      · trivial
      · rw [List.mem_singleton.mp isEvent]
        trivial
  · intro acyclic start reached events resting within allowed run
    exact ((inOrder_of_resting resting within).run allowed run).deadlockFree acyclic

/-- A library whose transactions are their bodies. -/
def bodies : CrossGroupLibrary Nat TransactionBody where
  getTransactionBody := fun body => .ok (some body)
  paringMessageId := fun _ => 0

/-- Where communities only name those with longer names, a thread waits, but not in a circle. -/
theorem deadlockFree_iff_acyclic_of_length :
    ∃ reached : Node Nat Nat TransactionBody,
      runEvents (step bodies) (circleEvents ["a"])
        (circleNode (TransactionBody.mk .inbound) (fun party => if party = "a" then "bb" else "ccc")
          ["a", "bb"]) = some reached ∧
      DeadlockFree reached := by
  have isBody (otherGroup : String) :
      bodies.getTransactionBody ⟨.inbound, otherGroup⟩ = .ok (some ⟨.inbound, otherGroup⟩) := rfl
  have taken := (@deadlockFree_iff_acyclic Nat Nat TransactionBody _ _ _ bodies
    (fun shorter longer => shorter.length < longer.length)
    fun otherGroup => ⟨⟨.inbound, otherGroup⟩, isBody otherGroup⟩).mpr fun communityId circle => by
      have longer : TransGen (fun shorter longer : Nat => shorter < longer) communityId.length
          communityId.length := circle.lift String.length fun _ _ shorter => shorter
      rw [transGen_eq_self] at longer
      exact lt_irrefl _ longer
  have run : runEvents (step bodies) (circleEvents ["a"]) (circleNode (TransactionBody.mk .inbound)
      (fun party => if party = "a" then "bb" else "ccc") ["a", "bb"] : Node Nat Nat TransactionBody)
        = some _ := rfl
  refine ⟨_, run, taken _ _ _ ⟨fun _ => rfl, fun _ => rfl⟩ (within_circleNode isBody ?_) ?_ run⟩
  · decide
  · intro event member
    rcases List.mem_cons.mp member with rfl | member
    · trivial
    · rw [List.mem_singleton.mp member]
      trivial

/-- A community whose first message is an inbound transaction that names the community itself:
its thread waits for the mutex that it holds. -/
theorem waits_for_itself :
    ∃ (start reached : Node Nat Nat TransactionBody) (events : _),
      Resting start ∧ runEvents (step bodies) events start = some reached ∧
        WaitsFor reached "a" "a" ∧ ¬ DeadlockFree reached := by
  obtain ⟨reached, run, waiting, _⟩ := @parties_wait Nat Nat TransactionBody _ _ bodies _
    (TransactionBody.mk .inbound) (fun _ => "a") ["a"] (fun _ => rfl)
    (fun _ _ => List.mem_singleton_self _) ["a"] (List.nodup_singleton _) (fun _ member => member)
    (circleNode (TransactionBody.mk .inbound) (fun _ => "a") ["a"]) rfl fun _ _ => ⟨rfl, rfl⟩
  have waitsForItself := waiting "a" (List.mem_singleton_self _)
  exact ⟨_, reached, _, ⟨fun _ => rfl, fun _ => rfl⟩, run, waitsForItself,
    fun free => free.notOwn "a" "a" waitsForItself waitsForItself.1⟩

end CrossGroupNode

end Controller

end GradidoNode

import GradidoNode.Blockchain.GetTransactionForId
import GradidoNode.Cache.TriggerEventRestart
import Mathlib.Data.List.Induction
import Mathlib.Data.List.Pairwise

/-!
# Collecting the trigger events from the chain

Where the stored trigger events cannot be used, they are collected anew: a deferred transfer
adds the event of its timeout, and a redeem transaction removes it again.
-/

namespace GradidoNode

open Library Cache Files

namespace Data

/-- What a rescan reads of a transaction body. -/
inductive TransactionBody (Duration : Type)
  | deferredTransfer (timeoutDuration : Duration)
  | redeemDeferredTransfer (deferredTransferTransactionNr : UInt64)
  | other

/-- What the blockchain library knows about time points and durations. -/
structure TimeArithmetic (Duration : Type) where
  add : Timestamp → Duration → Timestamp

end Data

namespace Blockchain

/-- What a rescan reads of a `TransactionEntry`, the confirmed transaction included. -/
structure TransactionEntry (Duration : Type) where
  id : UInt64
  confirmedAt : Data.Timestamp
  body : Data.TransactionBody Duration

namespace TransactionEntry

variable {Duration : Type}

def getDeferredTransfer (entry : TransactionEntry Duration) : Option Duration :=
  match entry.body with
  | .deferredTransfer timeoutDuration => some timeoutDuration
  | .redeemDeferredTransfer _ => none
  | .other => none

/-- The transaction redeems the deferred transfer with a number. -/
def redeems (entry : TransactionEntry Duration) (deferredTransferTransactionNr : UInt64) : Bool :=
  match entry.body with
  | .deferredTransfer _ => false
  | .redeemDeferredTransfer number => number = deferredTransferTransactionNr
  | .other => false

end TransactionEntry

namespace FileBased

variable {Duration : Type} (time : Data.TimeArithmetic Duration) (format : EventFormat)

/-- The event of a timeout, counted from a confirmation. -/
def timeoutReversal (linkedTransactionId : UInt64) (confirmedAt : Data.Timestamp)
    (timeoutDuration : Duration) : Data.TransactionTriggerEvent where
  linkedTransactionId := linkedTransactionId
  targetDate := time.add confirmedAt timeoutDuration
  type := .DEFERRED_TIMEOUT_REVERSAL

/-- What the filter function of the rescan does before it dismisses the transaction. The null
pointer of an absent deferred transfer is dereferenced. `storeOk` is the status LevelDB returns
while the transaction with a number is looked at. -/
def collectTriggerEvents (nullDereference : Throwing Cache.TransactionTriggerEvent Unit)
    (storeOk : UInt64 → Bool) (blocks : List (StoredBlock (TransactionEntry Duration)))
    (entry : TransactionEntry Duration) : Throwing Cache.TransactionTriggerEvent Unit :=
  match entry.body with
  | .deferredTransfer timeoutDuration =>
      TransactionTriggerEvent.addTransactionTriggerEvent format
        (timeoutReversal time entry.id entry.confirmedAt timeoutDuration) (storeOk entry.id)
  | .redeemDeferredTransfer deferredTransferId =>
      match getTransactionForId deferredTransferId blocks with
      | .error exception => Fallible.outcome (.error exception)
      | .ok deferredTransferEntry =>
          match deferredTransferEntry.bind TransactionEntry.getDeferredTransfer with
          | none => nullDereference
          -- the target date is counted from the redeem transaction
          | some timeoutDuration =>
              TransactionTriggerEvent.removeTransactionTriggerEvent format
                (timeoutReversal time deferredTransferId entry.confirmedAt timeoutDuration)
                (storeOk entry.id)
  | .other => Fallible.outcome (.ok ())

def rescanForTransactionTriggerEvents (environment : SearchEnvironment)
    (nullDereference : Throwing Cache.TransactionTriggerEvent Unit) (storeOk : UInt64 → Bool)
    (blocks : List (StoredBlock (TransactionEntry Duration))) :
    Throwing Cache.TransactionTriggerEvent Unit := fun cache =>
  (findAll environment (Filter.ALL_TRANSACTIONS .ASC)
    (dismissing (collectTriggerEvents time format nullDereference storeOk blocks))
    blocks).andThen (fun _ => Fallible.outcome (.ok ())) cache.reset

/-- A chain of transactions with ascending numbers, in which a redeem transaction refers to an
earlier deferred transfer. -/
structure TransferChain (chain : List (TransactionEntry Duration)) : Prop where
  ascending : chain.Pairwise fun first second => first.id < second.id
  earlier : ∀ redeem ∈ chain, ∀ number, redeem.redeems number = true → number < redeem.id ∧
    ∃ deferred ∈ chain, deferred.id = number ∧ deferred.getDeferredTransfer.isSome

/-- The deferred transfer with a number is redeemed in the chain. -/
def isRedeemed (chain : List (TransactionEntry Duration)) (number : UInt64) : Bool :=
  chain.any fun redeem => redeem.redeems number

/-- The timeouts of the deferred transfers that no transaction redeems. -/
def unredeemedReversals (chain : List (TransactionEntry Duration)) :
    List Data.TransactionTriggerEvent :=
  (chain.filter fun entry => !isRedeemed chain entry.id).filterMap fun deferred =>
    deferred.getDeferredTransfer.map (timeoutReversal time deferred.id deferred.confirmedAt)

/-- Every redeemed deferred transfer is redeemed by a transaction from whose confirmation the
timeout ends at the same time as from its own. -/
def RedeemedAtOnce (chain : List (TransactionEntry Duration)) : Prop :=
  ∀ deferred ∈ chain, ∀ timeoutDuration, deferred.getDeferredTransfer = some timeoutDuration →
    isRedeemed chain deferred.id = true → ∃ redeem ∈ chain, redeem.redeems deferred.id = true ∧
      time.add redeem.confirmedAt timeoutDuration = time.add deferred.confirmedAt timeoutDuration

/-- What one transaction does to the events, when `timeoutOf` finds the deferred transfers. -/
def advance (timeoutOf : UInt64 → Option Duration) (events : List Data.TransactionTriggerEvent)
    (entry : TransactionEntry Duration) : List Data.TransactionTriggerEvent :=
  match entry.body with
  | .deferredTransfer timeoutDuration =>
      timeoutReversal time entry.id entry.confirmedAt timeoutDuration :: events
  | .redeemDeferredTransfer number =>
      match timeoutOf number with
      | none => events
      | some timeoutDuration =>
          events.erase (timeoutReversal time number entry.confirmedAt timeoutDuration)
  | .other => events

section Chain

variable {Duration : Type} {time : Data.TimeArithmetic Duration}
  {chain : List (TransactionEntry Duration)}

/-- A chain of transfers without its last transaction is one again. -/
theorem TransferChain.beforeLast {last : TransactionEntry Duration}
    (valid : TransferChain (chain ++ [last])) : TransferChain chain where
  ascending := (List.pairwise_append.mp valid.ascending).1
  earlier redeem member number redeems := by
    obtain ⟨below, deferred, inChain, same, isDeferred⟩ :=
      valid.earlier redeem (List.mem_append_left _ member) number redeems
    refine ⟨below, deferred, ?_, same, isDeferred⟩
    rcases List.mem_append.mp inChain with before | isLast
    · exact before
    · cases List.mem_singleton.mp isLast
      have after := (List.pairwise_append.mp valid.ascending).2.2 redeem member last
        (List.mem_singleton_self last)
      rw [← same] at below
      exact absurd below (lt_asymm after)

/-- A timeout that stays: the event of a deferred transfer that is not redeemed by a transaction
from whose confirmation the timeout ends at the same time. -/
def Stays (time : Data.TimeArithmetic Duration) (chain : List (TransactionEntry Duration))
    (event : Data.TransactionTriggerEvent) : Prop :=
  ∃ deferred ∈ chain, ∃ timeoutDuration, deferred.getDeferredTransfer = some timeoutDuration ∧
    event = timeoutReversal time deferred.id deferred.confirmedAt timeoutDuration ∧
    ∀ redeem ∈ chain, redeem.redeems deferred.id = true →
      time.add redeem.confirmedAt timeoutDuration ≠ time.add deferred.confirmedAt timeoutDuration

/-- The last transaction of a chain has the greatest number. -/
theorem id_lt_of_append {last entry : TransactionEntry Duration}
    (valid : TransferChain (chain ++ [last])) (member : entry ∈ chain) : entry.id < last.id :=
  (List.pairwise_append.mp valid.ascending).2.2 entry member last (List.mem_singleton_self last)

/-- No transaction redeems a later one. -/
theorem not_redeems_last {last redeem : TransactionEntry Duration}
    (valid : TransferChain (chain ++ [last])) (member : redeem ∈ chain ++ [last]) :
    redeem.redeems last.id = false := by
  apply Bool.eq_false_of_not_eq_true
  intro redeems
  have below := (valid.earlier redeem member last.id redeems).1
  rcases List.mem_append.mp member with before | isLast
  · exact lt_asymm below (id_lt_of_append valid before)
  · cases List.mem_singleton.mp isLast
    exact lt_irrefl _ below

/-- A deferred transfer at the end adds the event of its timeout. -/
theorem stays_append_deferred {last : TransactionEntry Duration} {timeoutDuration : Duration}
    (valid : TransferChain (chain ++ [last]))
    (isDeferred : last.body = .deferredTransfer timeoutDuration)
    {event : Data.TransactionTriggerEvent} :
    Stays time (chain ++ [last]) event ↔
      event = timeoutReversal time last.id last.confirmedAt timeoutDuration ∨
        Stays time chain event := by
  have timeout : last.getDeferredTransfer = some timeoutDuration := by
    unfold TransactionEntry.getDeferredTransfer
    rw [isDeferred]
  have redeemsNone (number : UInt64) : last.redeems number = false := by
    unfold TransactionEntry.redeems
    rw [isDeferred]
  constructor
  · rintro ⟨deferred, member, duration, hasTimeout, rfl, others⟩
    rcases List.mem_append.mp member with before | isLast
    · exact Or.inr ⟨deferred, before, duration, hasTimeout, rfl, fun redeem inChain =>
        others redeem (List.mem_append_left _ inChain)⟩
    · cases List.mem_singleton.mp isLast
      cases timeout.symm.trans hasTimeout
      exact Or.inl rfl
  · rintro (rfl | ⟨deferred, member, duration, hasTimeout, rfl, others⟩)
    · refine ⟨last, List.mem_append_right _ (List.mem_singleton_self _), timeoutDuration, timeout,
        rfl, fun redeem inChain redeems => ?_⟩
      rw [not_redeems_last valid inChain] at redeems
      cases redeems
    · refine ⟨deferred, List.mem_append_left _ member, duration, hasTimeout, rfl,
        fun redeem inChain redeems => ?_⟩
      rcases List.mem_append.mp inChain with before | isLast
      · exact others redeem before redeems
      · cases List.mem_singleton.mp isLast
        rw [redeemsNone] at redeems
        cases redeems

/-- A redeem transaction at the end removes the event it would have had itself. -/
theorem stays_append_redeem {last deferred : TransactionEntry Duration}
    {timeoutDuration : Duration} (unique : ∀ other ∈ chain, other.id = deferred.id →
      other = deferred)
    (isRedeem : last.body = .redeemDeferredTransfer deferred.id)
    (hasTimeout : deferred.getDeferredTransfer = some timeoutDuration)
    {event : Data.TransactionTriggerEvent} :
    Stays time (chain ++ [last]) event ↔
      event ≠ timeoutReversal time deferred.id last.confirmedAt timeoutDuration ∧
        Stays time chain event := by
  have noTimeout : last.getDeferredTransfer = none := by
    unfold TransactionEntry.getDeferredTransfer
    rw [isRedeem]
  have redeemsIff (number : UInt64) : last.redeems number = true ↔ deferred.id = number := by
    unfold TransactionEntry.redeems
    rw [isRedeem]
    exact decide_eq_true_iff
  constructor
  · rintro ⟨other, member, duration, timeout, rfl, others⟩
    rcases List.mem_append.mp member with before | isLast
    · refine ⟨fun same => ?_, other, before, duration, timeout, rfl, fun redeem inChain =>
        others redeem (List.mem_append_left _ inChain)⟩
      have sameId := congrArg Data.TransactionTriggerEvent.linkedTransactionId same
      cases unique other before sameId
      cases hasTimeout.symm.trans timeout
      have sameDate := congrArg Data.TransactionTriggerEvent.targetDate same
      exact others last (List.mem_append_right _ (List.mem_singleton_self _))
        ((redeemsIff _).mpr rfl) sameDate.symm
    · cases List.mem_singleton.mp isLast
      cases noTimeout.symm.trans timeout
  · rintro ⟨differs, other, member, duration, timeout, rfl, others⟩
    refine ⟨other, List.mem_append_left _ member, duration, timeout, rfl,
      fun redeem inChain redeems sameTime => ?_⟩
    rcases List.mem_append.mp inChain with before | isLast
    · exact others redeem before redeems sameTime
    · cases List.mem_singleton.mp isLast
      cases unique other member ((redeemsIff _).mp redeems).symm
      cases hasTimeout.symm.trans timeout
      unfold timeoutReversal at differs
      rw [sameTime] at differs
      exact differs rfl

/-- A transaction of another kind changes nothing. -/
theorem stays_append_other {last : TransactionEntry Duration} (isOther : last.body = .other)
    {event : Data.TransactionTriggerEvent} :
    Stays time (chain ++ [last]) event ↔ Stays time chain event := by
  have noTimeout : last.getDeferredTransfer = none := by
    unfold TransactionEntry.getDeferredTransfer
    rw [isOther]
  have redeemsNone (number : UInt64) : last.redeems number = false := by
    unfold TransactionEntry.redeems
    rw [isOther]
  constructor
  · rintro ⟨deferred, member, duration, timeout, rfl, others⟩
    rcases List.mem_append.mp member with before | isLast
    · exact ⟨deferred, before, duration, timeout, rfl, fun redeem inChain =>
        others redeem (List.mem_append_left _ inChain)⟩
    · cases List.mem_singleton.mp isLast
      cases noTimeout.symm.trans timeout
  · rintro ⟨deferred, member, duration, timeout, rfl, others⟩
    refine ⟨deferred, List.mem_append_left _ member, duration, timeout, rfl,
      fun redeem inChain redeems => ?_⟩
    rcases List.mem_append.mp inChain with before | isLast
    · exact others redeem before redeems
    · cases List.mem_singleton.mp isLast
      rw [redeemsNone] at redeems
      cases redeems

/-- No two transactions of a chain have one number. -/
theorem TransferChain.ids_nodup (valid : TransferChain chain) :
    (chain.map TransactionEntry.id).Nodup :=
  List.pairwise_map.mpr (valid.ascending.imp fun below => ne_of_lt below)

/-- A number belongs to one transaction of the chain. -/
theorem unique_of_id (valid : TransferChain chain) {first second : TransactionEntry Duration}
    (inChain : first ∈ chain) (alsoInChain : second ∈ chain) (same : first.id = second.id) :
    first = second :=
  List.inj_on_of_nodup_map valid.ids_nodup inChain alsoInChain same

/-- The events left at the end of the chain are those that stay, each once. -/
theorem mem_foldl_advance {timeoutOf : UInt64 → Option Duration} (valid : TransferChain chain)
    (finds : ∀ entry ∈ chain, timeoutOf entry.id = entry.getDeferredTransfer) :
    (chain.foldl (advance time timeoutOf) []).Nodup ∧
      ∀ event, event ∈ chain.foldl (advance time timeoutOf) [] ↔ Stays time chain event := by
  induction chain using List.reverseRecOn with
  | nil =>
      refine ⟨List.nodup_nil, fun event => ?_⟩
      constructor
      · intro member
        cases member
      · rintro ⟨_, member, _⟩
        cases member
  | append_singleton chain last ih =>
      obtain ⟨nodup, members⟩ := ih valid.beforeLast fun entry member =>
        finds entry (List.mem_append_left _ member)
      rw [List.foldl_append, List.foldl_cons, List.foldl_nil]
      cases body : last.body with
      | deferredTransfer timeoutDuration =>
          have added : advance time timeoutOf (chain.foldl (advance time timeoutOf) []) last =
              timeoutReversal time last.id last.confirmedAt timeoutDuration ::
                chain.foldl (advance time timeoutOf) [] := by
            unfold advance
            rw [body]
          rw [added]
          constructor
          · apply List.nodup_cons.mpr ⟨?_, nodup⟩
            rw [members]
            rintro ⟨deferred, member, duration, timeout, same, _⟩
            have sameId := congrArg Data.TransactionTriggerEvent.linkedTransactionId same
            exact absurd sameId (ne_of_gt (id_lt_of_append valid member))
          · intro event
            rw [stays_append_deferred valid body, List.mem_cons, members]
      | redeemDeferredTransfer number =>
          have redeems : last.redeems number = true := by
            unfold TransactionEntry.redeems
            rw [body]
            exact decide_eq_true rfl
          obtain ⟨below, deferred, inChain, rfl, isDeferred⟩ := valid.earlier last
            (List.mem_append_right _ (List.mem_singleton_self _)) number redeems
          obtain ⟨timeoutDuration, timeout⟩ := Option.isSome_iff_exists.mp isDeferred
          have before : deferred ∈ chain := by
            rcases List.mem_append.mp inChain with before | isLast
            · exact before
            · cases List.mem_singleton.mp isLast
              exact absurd below (lt_irrefl _)
          have erased : advance time timeoutOf (chain.foldl (advance time timeoutOf) []) last =
              (chain.foldl (advance time timeoutOf) []).erase
                (timeoutReversal time deferred.id last.confirmedAt timeoutDuration) := by
            unfold advance
            rw [body]
            dsimp only
            rw [finds deferred inChain, timeout]
          rw [erased]
          refine ⟨nodup.erase _, fun event => ?_⟩
          rw [stays_append_redeem (fun other member same =>
            unique_of_id valid.beforeLast member before same) body timeout,
            nodup.mem_erase_iff, members]
      | other =>
          have same : advance time timeoutOf (chain.foldl (advance time timeoutOf) []) last =
              chain.foldl (advance time timeoutOf) [] := by
            unfold advance
            rw [body]
          rw [same]
          refine ⟨nodup, fun event => ?_⟩
          rw [stays_append_other body, members]

/-- A transfer counts as redeemed if a transaction of the chain redeems it. -/
theorem isRedeemed_eq_true_iff {number : UInt64} :
    isRedeemed chain number = true ↔ ∃ redeem ∈ chain, redeem.redeems number = true := by
  unfold isRedeemed
  rw [List.any_eq_true]

/-- The reversals due are those of the deferred transfers that nothing redeems. -/
theorem mem_unredeemedReversals {event : Data.TransactionTriggerEvent} :
    event ∈ unredeemedReversals time chain ↔ ∃ deferred ∈ chain, ∃ timeoutDuration,
      deferred.getDeferredTransfer = some timeoutDuration ∧
      event = timeoutReversal time deferred.id deferred.confirmedAt timeoutDuration ∧
      isRedeemed chain deferred.id = false := by
  unfold unredeemedReversals
  rw [List.mem_filterMap]
  constructor
  · rintro ⟨deferred, member, made⟩
    obtain ⟨inChain, unredeemed⟩ := List.mem_filter.mp member
    obtain ⟨timeoutDuration, timeout, rfl⟩ := Option.map_eq_some_iff.mp made
    exact ⟨deferred, inChain, timeoutDuration, timeout, rfl, by simpa using unredeemed⟩
  · rintro ⟨deferred, inChain, timeoutDuration, timeout, rfl, unredeemed⟩
    exact ⟨deferred, List.mem_filter.mpr ⟨inChain, by rw [unredeemed]; rfl⟩,
      Option.map_eq_some_iff.mpr ⟨timeoutDuration, timeout, rfl⟩⟩

/-- No reversal is due twice. -/
theorem unredeemedReversals_nodup (valid : TransferChain chain) :
    (unredeemedReversals time chain).Nodup := by
  unfold unredeemedReversals
  apply List.Pairwise.filterMap
    (fun deferred : TransactionEntry Duration =>
      deferred.getDeferredTransfer.map (timeoutReversal time deferred.id deferred.confirmedAt)) _
    (valid.ascending.sublist List.filter_sublist)
  rintro first second below _ made _ alsoMade rfl
  obtain ⟨_, _, rfl⟩ := Option.map_eq_some_iff.mp made
  obtain ⟨_, _, same⟩ := Option.map_eq_some_iff.mp alsoMade
  have sameId := congrArg Data.TransactionTriggerEvent.linkedTransactionId same
  exact absurd sameId (ne_of_gt below)

/-- What stays are the timeouts of the transfers that are not redeemed, if and only if each
redeemed one is redeemed at once. -/
theorem stays_iff_redeemedAtOnce (valid : TransferChain chain) :
    (∀ event, Stays time chain event ↔ event ∈ unredeemedReversals time chain) ↔
      RedeemedAtOnce time chain := by
  constructor
  · intro same deferred inChain timeoutDuration timeout redeemed
    by_contra never
    have stays : Stays time chain
        (timeoutReversal time deferred.id deferred.confirmedAt timeoutDuration) :=
      ⟨deferred, inChain, timeoutDuration, timeout, rfl, fun redeem member redeems sameTime =>
        never ⟨redeem, member, redeems, sameTime⟩⟩
    obtain ⟨other, alsoInChain, _, _, made, unredeemed⟩ :=
      mem_unredeemedReversals.mp ((same _).mp stays)
    have sameId := congrArg Data.TransactionTriggerEvent.linkedTransactionId made
    cases unique_of_id valid inChain alsoInChain sameId
    rw [redeemed] at unredeemed
    cases unredeemed
  · intro atOnce event
    rw [mem_unredeemedReversals]
    constructor
    · rintro ⟨deferred, inChain, timeoutDuration, timeout, rfl, others⟩
      refine ⟨deferred, inChain, timeoutDuration, timeout, rfl, ?_⟩
      apply Bool.eq_false_of_not_eq_true
      intro redeemed
      obtain ⟨redeem, member, redeems, sameTime⟩ :=
        atOnce deferred inChain timeoutDuration timeout redeemed
      exact others redeem member redeems sameTime
    · rintro ⟨deferred, inChain, timeoutDuration, timeout, rfl, unredeemed⟩
      refine ⟨deferred, inChain, timeoutDuration, timeout, rfl, fun redeem member redeems _ => ?_⟩
      have redeemed := isRedeemed_eq_true_iff.mpr ⟨redeem, member, redeems⟩
      rw [unredeemed] at redeemed
      cases redeemed

end Chain

end FileBased

end Blockchain

namespace Cache.TransactionTriggerEvent

variable {format : EventFormat} {cache : TransactionTriggerEvent}

/-- On an open store the state is written and nothing else changes. -/
theorem updateState_ok (initalized : cache.state.initalized = true)
    (targetDate : Data.Timestamp) :
    ∃ stateFile, updateState format targetDate true cache = (.ok (), withFile cache stateFile) := by
  unfold updateState
  dsimp only
  split
  · refine ⟨LevelDB.removeKey (to_string targetDate.seconds) true cache.state.stateFile, ?_⟩
    unfold State.removeState
    rw [if_pos initalized]
    rfl
  · exact ⟨_, Fallible.onPart_ok_iff.mpr
      ⟨_, State.updateStateOf_ok_iff.mpr ⟨initalized, rfl, rfl⟩, rfl⟩⟩

/-- Where LevelDB stores what it is asked to, an added event is in memory afterwards. -/
theorem add_ok (initalized : cache.state.initalized = true) (dated : Dated cache)
    (event : Data.TransactionTriggerEvent) :
    ∃ next, addTransactionTriggerEvent format event true cache = (.ok (), next) ∧
      next.state.initalized = true ∧ Dated next ∧ next.events.Perm (event :: cache.events) := by
  obtain ⟨stateFile, updated⟩ := @updateState_ok format (insert event cache) initalized
    event.targetDate
  exact ⟨withFile (insert event cache) stateFile, updated, initalized, dated_insert dated event,
    events_insert event cache⟩

/-- A removed event is not in memory any more, if it was. -/
theorem remove_ok (initalized : cache.state.initalized = true) (dated : Dated cache)
    (event : Data.TransactionTriggerEvent) :
    ∃ next, removeTransactionTriggerEvent format event true cache = (.ok (), next) ∧
      next.state.initalized = true ∧ Dated next ∧ next.events.Perm (cache.events.erase event) := by
  unfold removeTransactionTriggerEvent
  by_cases member : event ∈ cache.events
  · obtain ⟨stateFile, updated⟩ := @updateState_ok format (eraseEvent event cache) initalized
      event.targetDate
    have erased := (dated.events_eraseEvent member).erase event
    rw [List.erase_cons_head] at erased
    rw [if_pos ((dated.any_isTheSame_iff event).mpr member)]
    exact ⟨withFile (eraseEvent event cache) stateFile, updated, initalized, dated.erase member,
      erased.symm⟩
  · rw [if_neg fun found => member ((dated.any_isTheSame_iff event).mp found),
      List.erase_of_not_mem member]
    exact ⟨cache, rfl, initalized, dated, List.Perm.refl _⟩

/-- Without its LevelDB the cache throws when an event is added. -/
theorem add_of_not_initalized (closed : cache.state.initalized = false)
    (event : Data.TransactionTriggerEvent) (storeOk : Bool) (next : TransactionTriggerEvent) :
    addTransactionTriggerEvent format event storeOk cache ≠ (.ok (), next) := by
  have nonempty : ¬ ((insert event cache).transactionTriggerEvents.equalRange
      event.targetDate).isEmpty = true := fun empty =>
    List.ne_nil_of_mem (mem_rangeWith event cache) (List.isEmpty_iff.mp empty)
  unfold addTransactionTriggerEvent updateState
  dsimp only
  rw [if_neg nonempty]
  intro success
  obtain ⟨_, updated, _⟩ := Fallible.onPart_ok_iff.mp success
  have initalized : cache.state.initalized = true := (State.updateStateOf_ok_iff.mp updated).1
  rw [closed] at initalized
  cases initalized

/-- Writing the state leaves the store as open as it was. -/
theorem keeps_updateState (targetDate : Data.Timestamp) (storeOk : Bool) :
    Fallible.Keeps (fun cache => cache.state.initalized) (updateState format targetDate storeOk) := by
  intro cache
  unfold updateState
  dsimp only
  split
  · unfold State.removeState
    split
    · rfl
    · rfl
  · unfold State.updateStateOf Fallible.onPart
    dsimp only
    split
    · rfl
    · rfl

/-- So does adding a trigger event. -/
theorem keeps_add (event : Data.TransactionTriggerEvent) (storeOk : Bool) :
    Fallible.Keeps (fun cache => cache.state.initalized)
      (addTransactionTriggerEvent format event storeOk) := fun cache =>
  keeps_updateState event.targetDate storeOk (insert event cache)

/-- So does removing one. -/
theorem keeps_remove (event : Data.TransactionTriggerEvent) (storeOk : Bool) :
    Fallible.Keeps (fun cache => cache.state.initalized)
      (removeTransactionTriggerEvent format event storeOk) := by
  intro cache
  unfold removeTransactionTriggerEvent
  split
  · exact keeps_updateState event.targetDate storeOk (eraseEvent event cache)
  · rfl

end Cache.TransactionTriggerEvent

namespace Blockchain.FileBased

variable {Duration : Type} {time : Data.TimeArithmetic Duration} {format : EventFormat}
  {environment : SearchEnvironment}
  {nullDereference : Throwing Cache.TransactionTriggerEvent Unit} {storeOk : UInt64 → Bool}
  {blocks : List (StoredBlock (TransactionEntry Duration))}
  {transactionOf : UInt64 → TransactionEntry Duration}

/-- The transactions of the chain, in the order of their numbers. -/
def chainOf (transactionOf : UInt64 → TransactionEntry Duration)
    (blocks : List (StoredBlock (TransactionEntry Duration))) :
    List (TransactionEntry Duration) :=
  blocks.flatMap fun block => block.index.allEntries.map fun entry =>
    transactionOf entry.transactionNr

/-- The blocks store a chain of transfers, each transaction under its number, and the range of
each block is that of the transactions it stores. -/
structure TransfersStored (transactionOf : UInt64 → TransactionEntry Duration)
    (blocks : List (StoredBlock (TransactionEntry Duration))) : Prop where
  stored : ChainStored blocks transactionOf
  numbered : ∀ block ∈ blocks, ∀ entry ∈ block.index.allEntries,
    (transactionOf entry.transactionNr).id = entry.transactionNr
  fromFirst : ∀ block ∈ blocks, ∃ entry ∈ block.index.allEntries,
    entry.transactionNr = block.index.minTransactionNr
  toLast : ∀ block ∈ blocks, ∃ entry ∈ block.index.allEntries,
    entry.transactionNr = block.index.maxTransactionNr
  chain : TransferChain (chainOf transactionOf blocks)

/-- The filter that takes every transaction in ascending order meets the whole chain. -/
theorem matchedInChain_all :
    matchedInChain environment (Filter.ALL_TRANSACTIONS .ASC) transactionOf blocks =
      chainOf transactionOf blocks := by
  have all (index : BlockIndex) :
      BlockIndex.matchesOf environment (Filter.ALL_TRANSACTIONS .ASC) index = index.allEntries := by
    have inInterval (month : YearMonth × List BlockIndexEntry) :
        BlockIndex.InInterval (Filter.ALL_TRANSACTIONS .ASC) month.1 = true := rfl
    have satisfies : BlockIndex.Satisfies environment (Filter.ALL_TRANSACTIONS .ASC) =
        fun _ => true := rfl
    unfold BlockIndex.matchesOf BlockIndex.allMonths BlockIndex.allEntries
    simp only [inInterval, satisfies, List.filter_true, List.flatMap_assoc, List.flatMap_map]
  unfold matchedInChain chainOf
  simp only [all]
  rfl

/-- The cache can store events, or the chain has none to store. -/
def Ready (cache : Cache.TransactionTriggerEvent) (chain : List (TransactionEntry Duration)) :
    Prop :=
  cache.state.initalized = true ∨ ∀ entry ∈ chain, entry.getDeferredTransfer = none

/-- Every transaction of the chain is indexed by one of the blocks. -/
theorem exists_block_of_mem_chainOf {entry : TransactionEntry Duration}
    (member : entry ∈ chainOf transactionOf blocks) :
    ∃ block ∈ blocks, ∃ indexed ∈ block.index.allEntries,
      entry = transactionOf indexed.transactionNr := by
  obtain ⟨block, inBlocks, inBlock⟩ := List.mem_flatMap.mp member
  obtain ⟨indexed, inIndex, rfl⟩ := List.mem_map.mp inBlock
  exact ⟨block, inBlocks, indexed, inIndex, rfl⟩

namespace TransfersStored

/-- A transaction of the chain is found under its own number. -/
theorem transactionOf_id (valid : TransfersStored transactionOf blocks)
    {entry : TransactionEntry Duration} (member : entry ∈ chainOf transactionOf blocks) :
    transactionOf entry.id = entry := by
  obtain ⟨block, inBlocks, indexed, inIndex, rfl⟩ := exists_block_of_mem_chainOf member
  rw [valid.numbered block inBlocks indexed inIndex]

/-- Where the transfers are stored, the blocks' ranges have no gap. -/
theorem filled (valid : TransfersStored transactionOf blocks) : RangesFilled blocks :=
  ⟨valid.fromFirst, valid.toLast⟩

/-- A transaction of the chain is returned by its number. -/
theorem getTransactionForId_eq (valid : TransfersStored transactionOf blocks)
    {entry : TransactionEntry Duration} (member : entry ∈ chainOf transactionOf blocks) :
    getTransactionForId entry.id blocks = .ok (some entry) := by
  obtain ⟨block, inBlocks, indexed, inIndex, rfl⟩ := exists_block_of_mem_chainOf member
  rw [valid.numbered block inBlocks indexed inIndex]
  exact getTransactionForId_of_mem valid.stored valid.filled
    (mem_numbersOf.mpr ⟨block, inBlocks, indexed, inIndex, rfl⟩)

/-- The deferred transfer that a transaction of the chain redeems. -/
theorem redeemed (valid : TransfersStored transactionOf blocks)
    {entry : TransactionEntry Duration} (member : entry ∈ chainOf transactionOf blocks)
    {number : UInt64} (isRedeem : entry.body = .redeemDeferredTransfer number) :
    ∃ timeoutDuration, (transactionOf number).getDeferredTransfer = some timeoutDuration ∧
      transactionOf number ∈ chainOf transactionOf blocks ∧
      collectTriggerEvents time format nullDereference storeOk blocks entry =
        TransactionTriggerEvent.removeTransactionTriggerEvent format
          (timeoutReversal time number entry.confirmedAt timeoutDuration) (storeOk entry.id) := by
  have redeems : entry.redeems number = true := by
    unfold TransactionEntry.redeems
    rw [isRedeem]
    exact decide_eq_true rfl
  obtain ⟨_, deferred, inChain, rfl, isDeferred⟩ :=
    valid.chain.earlier entry member number redeems
  obtain ⟨timeoutDuration, timeout⟩ := Option.isSome_iff_exists.mp isDeferred
  rw [valid.transactionOf_id inChain]
  refine ⟨timeoutDuration, timeout, inChain, ?_⟩
  unfold collectTriggerEvents
  rw [isRedeem]
  dsimp only
  rw [valid.getTransactionForId_eq inChain]
  dsimp only
  rw [Option.bind_some, timeout]

/-- For a deferred transfer the rescan adds the reversal at its timeout. -/
theorem collect_deferred {entry : TransactionEntry Duration} {timeoutDuration : Duration}
    (isDeferred : entry.body = .deferredTransfer timeoutDuration) :
    collectTriggerEvents time format nullDereference storeOk blocks entry =
      TransactionTriggerEvent.addTransactionTriggerEvent format
        (timeoutReversal time entry.id entry.confirmedAt timeoutDuration) (storeOk entry.id) := by
  unfold collectTriggerEvents
  rw [isDeferred]

/-- A transaction that is no transfer is passed over. -/
theorem collect_other {entry : TransactionEntry Duration} (isOther : entry.body = .other) :
    collectTriggerEvents time format nullDereference storeOk blocks entry =
      Fallible.outcome (.ok ()) := by
  unfold collectTriggerEvents
  rw [isOther]

/-- One transaction of the chain does to the memory what `advance` says. -/
theorem collect_follows (valid : TransfersStored transactionOf blocks)
    (stores : ∀ entry ∈ chainOf transactionOf blocks, storeOk entry.id = true)
    {cache : Cache.TransactionTriggerEvent} (ready : Ready cache (chainOf transactionOf blocks))
    {entry : TransactionEntry Duration} (member : entry ∈ chainOf transactionOf blocks)
    {events : List Data.TransactionTriggerEvent}
    (dated : TransactionTriggerEvent.Dated cache) (same : cache.events.Perm events) :
    ∃ next, collectTriggerEvents time format nullDereference storeOk blocks entry cache =
        (.ok (), next) ∧ next.state.initalized = cache.state.initalized ∧
      TransactionTriggerEvent.Dated next ∧ next.events.Perm (advance time
        (fun number => (transactionOf number).getDeferredTransfer) events entry) := by
  unfold advance
  cases body : entry.body with
  | deferredTransfer timeoutDuration =>
      have initalized : cache.state.initalized = true := by
        refine ready.resolve_right fun none => ?_
        have timeout := none entry member
        unfold TransactionEntry.getDeferredTransfer at timeout
        rw [body] at timeout
        cases timeout
      obtain ⟨next, success, stillOpen, stillDated, added⟩ := @TransactionTriggerEvent.add_ok format
        cache initalized dated (timeoutReversal time entry.id entry.confirmedAt timeoutDuration)
      rw [collect_deferred body, stores entry member]
      exact ⟨next, success, stillOpen.trans initalized.symm, stillDated,
        added.trans (same.cons _)⟩
  | redeemDeferredTransfer number =>
      obtain ⟨timeoutDuration, timeout, inChain, collects⟩ := @redeemed _ time format
        nullDereference storeOk _ _ valid entry member number body
      have initalized : cache.state.initalized = true := by
        refine ready.resolve_right fun none => ?_
        rw [none _ inChain] at timeout
        cases timeout
      obtain ⟨next, success, stillOpen, stillDated, removed⟩ :=
        @TransactionTriggerEvent.remove_ok format cache initalized dated
          (timeoutReversal time number entry.confirmedAt timeoutDuration)
      dsimp only
      rw [collects, stores entry member, timeout]
      exact ⟨next, success, stillOpen.trans initalized.symm, stillDated,
        removed.trans (same.erase _)⟩
  | other =>
      rw [collect_other body]
      exact ⟨cache, rfl, rfl, dated, same⟩

/-- Whatever happens, a cache without LevelDB does not get one. -/
theorem collect_keeps (valid : TransfersStored transactionOf blocks)
    {entry : TransactionEntry Duration} (member : entry ∈ chainOf transactionOf blocks) :
    Fallible.Keeps (fun cache => cache.state.initalized)
      (collectTriggerEvents time format nullDereference storeOk blocks entry) := by
  cases body : entry.body with
  | deferredTransfer timeoutDuration =>
      rw [collect_deferred body]
      exact TransactionTriggerEvent.keeps_add _ _
  | redeemDeferredTransfer number =>
      obtain ⟨_, _, _, collects⟩ := @redeemed _ time format nullDereference storeOk _ _ valid
        entry member number body
      rw [collects]
      exact TransactionTriggerEvent.keeps_remove _ _
  | other =>
      rw [collect_other body]
      exact Fallible.keeps_outcome _ _

/-- The rescan succeeds exactly if the collecting of every transaction in order does, with the same
cache. -/
theorem rescan_ok_iff (valid : TransfersStored transactionOf blocks)
    (months : BlockIndex.MonthsInOrder environment.monthsInRange)
    {cache next : Cache.TransactionTriggerEvent} :
    rescanForTransactionTriggerEvents time format environment nullDereference storeOk blocks cache =
        (.ok (), next) ↔
      Fallible.forEach (collectTriggerEvents time format nullDereference storeOk blocks)
        (chainOf transactionOf blocks) cache.reset = (.ok (), next) := by
  have found := @findAll_dismissing _ _ environment (Filter.ALL_TRANSACTIONS .ASC) transactionOf
    blocks months valid.stored (Or.inl rfl) (fun _ _ => BlockIndex.intervalRight_of_none rfl) rfl
    (collectTriggerEvents time format nullDereference storeOk blocks) cache.reset
  rw [matchedInChain_all] at found
  unfold rescanForTransactionTriggerEvents
  rcases taken : Fallible.forEach
    (collectTriggerEvents time format nullDereference storeOk blocks)
    (chainOf transactionOf blocks) cache.reset with ⟨error | _, reached⟩
  · rw [taken] at found
    rw [Fallible.andThen_of_error found]
  · rw [taken] at found
    rw [Fallible.andThen_of_ok found]
    rfl

/-- A rescan that can store the events leaves those that stay. -/
theorem rescan_of_ready (valid : TransfersStored transactionOf blocks)
    (months : BlockIndex.MonthsInOrder environment.monthsInRange)
    (stores : ∀ entry ∈ chainOf transactionOf blocks, storeOk entry.id = true)
    {cache : Cache.TransactionTriggerEvent} (ready : Ready cache (chainOf transactionOf blocks)) :
    ∃ next, rescanForTransactionTriggerEvents time format environment nullDereference storeOk
        blocks cache = (.ok (), next) ∧
      (next.events.Perm (unredeemedReversals time (chainOf transactionOf blocks)) ↔
        RedeemedAtOnce time (chainOf transactionOf blocks)) := by
  let timeoutOf (number : UInt64) : Option Duration :=
    (transactionOf number).getDeferredTransfer
  let follows (events : List Data.TransactionTriggerEvent)
      (reached : Cache.TransactionTriggerEvent) : Prop :=
    reached.state.initalized = cache.state.initalized ∧
      TransactionTriggerEvent.Dated reached ∧ reached.events.Perm events
  have oneStep : ∀ entry ∈ chainOf transactionOf blocks, ∀ events reached,
      follows events reached → ∃ next,
        collectTriggerEvents time format nullDereference storeOk blocks entry reached =
          (.ok (), next) ∧ follows (advance time timeoutOf events entry) next := by
    rintro entry member events reached ⟨sameOpen, dated, same⟩
    have stillReady : Ready reached (chainOf transactionOf blocks) :=
      ready.imp_left fun initalized => sameOpen.trans initalized
    obtain ⟨next, success, stillOpen, stillDated, advanced⟩ :=
      collect_follows valid stores stillReady member dated same
    exact ⟨next, success, stillOpen.trans sameOpen, stillDated, advanced⟩
  have start : follows [] cache.reset := ⟨rfl, nofun, List.Perm.nil⟩
  obtain ⟨next, success, _, _, events⟩ := Fallible.forEach_follows oneStep start
  refine ⟨next, (valid.rescan_ok_iff months).mpr success, ?_⟩
  obtain ⟨nodup, members⟩ := @mem_foldl_advance _ time _ timeoutOf valid.chain
    fun entry member => congrArg TransactionEntry.getDeferredTransfer
      (valid.transactionOf_id member)
  rw [← @stays_iff_redeemedAtOnce _ time _ valid.chain, events.congr_left,
    List.perm_ext_iff_of_nodup nodup (unredeemedReversals_nodup valid.chain)]
  simp only [members]

/-- Without LevelDB the first deferred transfer ends the rescan. -/
theorem ready_of_rescan (valid : TransfersStored transactionOf blocks)
    (months : BlockIndex.MonthsInOrder environment.monthsInRange)
    {cache next : Cache.TransactionTriggerEvent}
    (success : rescanForTransactionTriggerEvents time format environment nullDereference storeOk
      blocks cache = (.ok (), next)) : Ready cache (chainOf transactionOf blocks) := by
  rw [Ready, or_iff_not_imp_left]
  intro notOpen entry member
  have closed : cache.reset.state.initalized = false := Bool.eq_false_of_not_eq_true notOpen
  obtain ⟨before, after, stillClosed, collected⟩ := Fallible.exists_of_forEach_ok
    (fun other inChain state (closed : state.state.initalized = false) =>
      (valid.collect_keeps inChain state).trans closed)
    closed ((valid.rescan_ok_iff months).mp success) member
  unfold TransactionEntry.getDeferredTransfer
  cases body : entry.body with
  | deferredTransfer timeoutDuration =>
      rw [collect_deferred body] at collected
      exact absurd collected (TransactionTriggerEvent.add_of_not_initalized stillClosed _ _ _)
  | redeemDeferredTransfer number => rfl
  | other => rfl

end TransfersStored

/-- The rescan leaves one timeout for each deferred transfer that is not redeemed, and no
other event, if and only if the cache can store events and every redeemed transfer was redeemed
at once. -/
theorem rescan_leaves_unredeemed_iff
    (months : BlockIndex.MonthsInOrder environment.monthsInRange)
    (valid : TransfersStored transactionOf blocks)
    (stores : ∀ entry ∈ chainOf transactionOf blocks, storeOk entry.id = true)
    (cache : Cache.TransactionTriggerEvent) :
    (∃ next, rescanForTransactionTriggerEvents time format environment nullDereference storeOk
        blocks cache = (.ok (), next) ∧
      next.events.Perm (unredeemedReversals time (chainOf transactionOf blocks))) ↔
      Ready cache (chainOf transactionOf blocks) ∧
        RedeemedAtOnce time (chainOf transactionOf blocks) := by
  constructor
  · rintro ⟨next, success, same⟩
    have ready := valid.ready_of_rescan months success
    obtain ⟨reached, alsoSuccess, exactly⟩ := @TransfersStored.rescan_of_ready _ time format
      environment nullDereference storeOk _ _ valid months stores cache ready
    cases success.symm.trans alsoSuccess
    exact ⟨ready, exactly.mp same⟩
  · rintro ⟨ready, atOnce⟩
    obtain ⟨next, success, exactly⟩ := valid.rescan_of_ready months stores ready
    exact ⟨next, success, exactly.mpr atOnce⟩

section Example

/-- Durations in seconds. -/
def exampleTime : Data.TimeArithmetic Int64 where
  add timestamp timeoutDuration := ⟨timestamp.seconds + timeoutDuration, timestamp.nanos⟩

/-- A deferred transfer with a timeout of ten seconds, redeemed by the next transaction. -/
def exampleTransfer (redeemedAt : Int64) (transactionNr : UInt64) : TransactionEntry Int64 :=
  if transactionNr = 1 then ⟨1, ⟨0, 0⟩, .deferredTransfer 10⟩
  else ⟨transactionNr, ⟨redeemedAt, 0⟩, .redeemDeferredTransfer 1⟩

def exampleIndex : BlockIndex :=
  (BlockIndex.addIndicesForTransaction {
    transactionType := 4
    coinCommunityIdIndex := 0
    year := 2024
    month := 5
    transactionNr := 2
    fileCursor := 0
    addressIndices := []
    addressIndiceCount := 0 } (exampleBlock 1).index).2

def transferBlocks (redeemedAt : Int64) : List (StoredBlock (TransactionEntry Int64)) :=
  [⟨exampleIndex, fun transactionNr => .ok (exampleTransfer redeemedAt transactionNr)⟩]

/-- The two transactions of the example chain. -/
theorem chainOf_transferBlocks (redeemedAt : Int64) :
    chainOf (exampleTransfer redeemedAt) (transferBlocks redeemedAt) =
      [⟨1, ⟨0, 0⟩, .deferredTransfer 10⟩, ⟨2, ⟨redeemedAt, 0⟩, .redeemDeferredTransfer 1⟩] := rfl

/-- The example is a chain of transfers. -/
theorem transferChain_transferBlocks (redeemedAt : Int64) :
    TransferChain (chainOf (exampleTransfer redeemedAt) (transferBlocks redeemedAt)) where
  ascending := by
    rw [chainOf_transferBlocks]
    simp
  earlier redeem member number redeems := by
    rw [chainOf_transferBlocks] at member ⊢
    rcases List.mem_cons.mp member with rfl | member
    · cases redeems
    · cases List.mem_singleton.mp member
      cases of_decide_eq_true redeems
      have below : (1 : UInt64) < 2 := by decide
      exact ⟨below, _, List.mem_cons_self .., rfl, rfl⟩

/-- The example index knows its smallest and largest number. -/
theorem ranged_exampleIndex : exampleIndex.Ranged := by
  unfold BlockIndex.Ranged
  decide

/-- The example chain is stored in its block. -/
theorem transfersStored_transferBlocks (redeemedAt : Int64) :
    TransfersStored (exampleTransfer redeemedAt) (transferBlocks redeemedAt) where
  stored := {
    ascending := by
      change (exampleIndex.allEntries ++ []).Pairwise _
      decide
    nonempty block member := by
      cases List.mem_singleton.mp member
      change exampleIndex.allEntries ≠ []
      decide
    positive block member := by
      cases List.mem_singleton.mp member
      change 0 < exampleIndex.minTransactionNr
      decide
    ranged block member := by
      cases List.mem_singleton.mp member
      exact ranged_exampleIndex
    calendar block member := by
      cases List.mem_singleton.mp member
      change ∀ month ∈ exampleIndex.allMonths, _
      decide
    stored block member entry _ := by
      cases List.mem_singleton.mp member
      rfl }
  numbered block member entry inIndex := by
    cases List.mem_singleton.mp member
    have number : entry.transactionNr ∈ [1, 2] := List.mem_map_of_mem inIndex
    rcases List.mem_cons.mp number with isFirst | later
    · rw [isFirst]
      rfl
    · rw [List.mem_singleton.mp later]
      rfl
  fromFirst block member := by
    cases List.mem_singleton.mp member
    change ∃ entry ∈ exampleIndex.allEntries, entry.transactionNr = exampleIndex.minTransactionNr
    decide
  toLast block member := by
    cases List.mem_singleton.mp member
    change ∃ entry ∈ exampleIndex.allEntries, entry.transactionNr = exampleIndex.maxTransactionNr
    decide
  chain := transferChain_transferBlocks redeemedAt

/-- A deferred transfer that is redeemed in the second of its confirmation leaves no event. -/
theorem rescan_redeemedAtOnce :
    ∃ next, rescanForTransactionTriggerEvents exampleTime TransactionTriggerEvent.exampleFormat
        exampleSearch (Fallible.outcome (.ok ())) (fun _ => true) (transferBlocks 0)
        (TransactionTriggerEvent.started TransactionTriggerEvent.exampleFormat) = (.ok (), next) ∧
      next.events.Perm (unredeemedReversals exampleTime
        (chainOf (exampleTransfer 0) (transferBlocks 0))) := by
  refine (rescan_leaves_unredeemed_iff monthsInOrder_monthsBetween
    (transfersStored_transferBlocks 0) (fun _ _ => rfl) _).mpr ⟨Or.inl rfl, ?_⟩
  intro deferred member timeoutDuration timeout _
  rw [chainOf_transferBlocks] at member ⊢
  rcases List.mem_cons.mp member with rfl | later
  · exact ⟨_, List.mem_cons_of_mem _ (List.mem_singleton_self _), rfl, rfl⟩
  · cases List.mem_singleton.mp later
    cases timeout

/-- One that is redeemed five seconds later leaves its event behind. -/
theorem not_rescan_redeemedLater :
    BlockIndex.MonthsInOrder exampleSearch.monthsInRange ∧
      TransfersStored (exampleTransfer 5) (transferBlocks 5) ∧
      ¬ ∃ next, rescanForTransactionTriggerEvents exampleTime
          TransactionTriggerEvent.exampleFormat exampleSearch (Fallible.outcome (.ok ()))
          (fun _ => true) (transferBlocks 5)
          (TransactionTriggerEvent.started TransactionTriggerEvent.exampleFormat) = (.ok (), next) ∧
        next.events.Perm (unredeemedReversals exampleTime
          (chainOf (exampleTransfer 5) (transferBlocks 5))) := by
  refine ⟨monthsInOrder_monthsBetween, transfersStored_transferBlocks 5, ?_⟩
  rintro ⟨next, success, same⟩
  have ready : Ready (TransactionTriggerEvent.started TransactionTriggerEvent.exampleFormat)
      (chainOf (exampleTransfer 5) (transferBlocks 5)) := Or.inl rfl
  obtain ⟨reached, alsoSuccess, exactly⟩ := @TransfersStored.rescan_of_ready _ exampleTime
    TransactionTriggerEvent.exampleFormat exampleSearch (Fallible.outcome (.ok ()))
    (fun _ => true) _ _ (transfersStored_transferBlocks 5) monthsInOrder_monthsBetween
    (fun _ _ => rfl) _ ready
  cases success.symm.trans alsoSuccess
  have atOnce := exactly.mp same
  rw [chainOf_transferBlocks] at atOnce
  obtain ⟨redeem, member, redeems, sameTime⟩ := atOnce _ (List.mem_cons_self ..) 10 rfl rfl
  rcases List.mem_cons.mp member with rfl | later
  · cases redeems
  · rw [List.mem_singleton.mp later] at sameTime
    exact absurd sameTime (by decide)

end Example

end Blockchain.FileBased

end GradidoNode

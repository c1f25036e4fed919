import GradidoNode.Cache.TriggerEventRestart
import GradidoNode.Library.MultimapRange

/-!
# The trigger events that are due

Whatever calls came before, a search yields the pending events of its range in the order of their
target dates, and those of one date in the order in which they were added.
-/

namespace GradidoNode

open Library Files

namespace Data

/-- The time points of the system clock, as the blockchain library converts them. A timestamp that
the clock can show is canonical and not too far away. -/
structure SystemClock (TimePoint : Type) [LinearOrder TimePoint] where
  /-- The constructor of a timestamp from a time point. -/
  timestamp : TimePoint → Timestamp
  getAsTimepoint : Timestamp → TimePoint
  Shows : Timestamp → Prop
  timestamp_strictMono : StrictMono timestamp
  getAsTimepoint_le_iff : ∀ date, Shows date → ∀ timePoint,
    getAsTimepoint date ≤ timePoint ↔ date ≤ timestamp timePoint

end Data

namespace Cache

namespace TransactionTriggerEvent

variable {TimePoint : Type} [LinearOrder TimePoint] (clock : Data.SystemClock TimePoint)

/-- The loop from the lower bound of the start date to the upper bound of the end date; nothing
where it is undefined. -/
def findTransactionTriggerEventsInRange (startDate endDate : TimePoint)
    (cache : TransactionTriggerEvent) : Option (List Data.TransactionTriggerEvent) :=
  cache.transactionTriggerEvents.range (clock.timestamp startDate) (clock.timestamp endDate)

/-- The end date is compared as a time point, unlike in the search of the whole range. -/
def findNextTransactionTriggerEventInRange (startDate endDate : TimePoint)
    (cache : TransactionTriggerEvent) : Option Data.TransactionTriggerEvent :=
  match (cache.transactionTriggerEvents.toList.drop
      (cache.transactionTriggerEvents.lowerBound (clock.timestamp startDate))).head? with
  | none => none
  | some entry => if clock.getAsTimepoint entry.1 ≤ endDate then some entry.2 else none

/-- What a call does to the events that are pending, in the order in which they were added. -/
def pendingStep (pending : List Data.TransactionTriggerEvent) :
    TriggerEventCall → List Data.TransactionTriggerEvent
  | .addTransactionTriggerEvent event _ => pending ++ [event]
  | .removeTransactionTriggerEvent event _ => pending.erase event

/-- The events that were added and not removed. -/
def pending (calls : List TriggerEventCall) : List Data.TransactionTriggerEvent :=
  calls.foldl pendingStep []

/-- Events by their target dates, those of one date in the order in which they were added. -/
structure InDateOrder (events found : List Data.TransactionTriggerEvent) : Prop where
  same : found.Perm events
  ascending : found.Pairwise fun first second => first.targetDate ≤ second.targetDate
  arrival : ∀ date, found.filter (fun event => event.targetDate = date) =
    events.filter fun event => event.targetDate = date

/-- The multimap has the pending events under their target dates. -/
structure Holds (events : List Data.TransactionTriggerEvent) (cache : TransactionTriggerEvent) :
    Prop where
  dated : ∀ entry ∈ cache.transactionTriggerEvents.toList, entry.1 = entry.2.targetDate
  arrived : ∀ date, cache.transactionTriggerEvents.equalRange date =
    events.filter fun event => event.targetDate = date

variable {cache next : TransactionTriggerEvent} {events : List Data.TransactionTriggerEvent}

theorem Holds.insert (holds : Holds events cache) (event : Data.TransactionTriggerEvent) :
    Holds (events ++ [event]) (cache.insert event) where
  dated entry member := by
    rcases List.mem_cons.mp
      ((OrderedMultimap.toList_insert_perm _ event.targetDate event).mem_iff.mp member) with
      rfl | before
    · rfl
    · exact holds.dated entry before
  arrived date := by
    unfold TransactionTriggerEvent.insert
    rw [OrderedMultimap.equalRange_insert, holds.arrived, List.filter_append]
    by_cases same : event.targetDate = date
    · simp [same]
    · simp [same]

theorem Holds.erase (holds : Holds events cache) (event : Data.TransactionTriggerEvent) :
    Holds (events.erase event) { cache with
      transactionTriggerEvents :=
        cache.transactionTriggerEvents.eraseFirst event.targetDate event.isTheSame } where
  dated entry member := holds.dated entry (List.mem_of_mem_eraseP member)
  arrived date := by
    rw [OrderedMultimap.equalRange_eraseFirst, holds.arrived, ← List.erase_filter]
    split
    · rw [List.erase_eq_eraseP]
      congr 1
      funext other
      rw [Bool.eq_iff_iff, Data.TransactionTriggerEvent.isTheSame_iff, beq_iff_eq]
    · rename_i otherDate
      rw [List.erase_of_not_mem]
      intro member
      exact otherDate (of_decide_eq_true (List.mem_filter.mp member).2)

/-- Writing to LevelDB leaves the memory as it is, also where it throws. -/
theorem updateState_transactionTriggerEvents (format : EventFormat) (targetDate : Data.Timestamp)
    (storeOk : Bool) (cache : TransactionTriggerEvent) :
    (updateState format targetDate storeOk cache).2.transactionTriggerEvents =
      cache.transactionTriggerEvents := by
  unfold updateState
  dsimp only
  split
  · rfl
  · rfl

theorem Holds.congr (holds : Holds events cache)
    (same : next.transactionTriggerEvents = cache.transactionTriggerEvents) : Holds events next := by
  refine ⟨?_, ?_⟩
  · rw [same]
    exact holds.dated
  · rw [same]
    exact holds.arrived

theorem Holds.step {format : EventFormat} {call : TriggerEventCall} (holds : Holds events cache)
    (taken : cache.step format call = some next) : Holds (pendingStep events call) next := by
  cases call with
  | addTransactionTriggerEvent event storeOk =>
      cases taken
      exact (holds.insert event).congr (updateState_transactionTriggerEvents ..)
  | removeTransactionTriggerEvent event storeOk =>
      cases taken
      unfold removeTransactionTriggerEvent
      split
      · exact (holds.erase event).congr (updateState_transactionTriggerEvents ..)
      · rename_i absent
        have notPending : event ∉ events := by
          intro member
          apply absent
          rw [holds.arrived]
          exact List.any_eq_true.mpr ⟨event, List.mem_filter.mpr ⟨member, decide_eq_true rfl⟩,
            Data.TransactionTriggerEvent.isTheSame_iff.mpr rfl⟩
        dsimp only [pendingStep]
        rwa [List.erase_of_not_mem notPending]

theorem holds_started (format : EventFormat) : Holds [] (started format) :=
  ⟨nofun, fun _ => rfl⟩

theorem Holds.run {format : EventFormat} {calls : List TriggerEventCall} (holds : Holds events cache)
    (reached : runEvents (TransactionTriggerEvent.step format) calls cache = some next) :
    Holds (calls.foldl pendingStep events) next := by
  induction calls generalizing events cache with
  | nil =>
      cases reached
      exact holds
  | cons call calls ih =>
      obtain ⟨_, taken, rest⟩ := runEvents_cons.mp reached
      exact ih (holds.step taken) rest

/-- Events that agree date by date are the same events. -/
theorem perm_of_arrival {found : List Data.TransactionTriggerEvent}
    (arrival : ∀ date, found.filter (fun event => event.targetDate = date) =
      events.filter fun event => event.targetDate = date) : found.Perm events := by
  apply List.perm_iff_count.mpr
  intro event
  have counted (others : List Data.TransactionTriggerEvent) : others.count event =
      (others.filter fun other => other.targetDate = event.targetDate).count event := by
    rw [List.count_filter]
    exact decide_eq_true rfl
  rw [counted found, counted events, arrival]

/-- The entries of a range of dates are the events of these dates in their order. -/
theorem Holds.inDateOrder (holds : Holds events cache) (startDate endDate : Data.Timestamp) :
    InDateOrder (events.filter fun event =>
        startDate ≤ event.targetDate ∧ event.targetDate ≤ endDate)
      ((cache.transactionTriggerEvents.toList.filter fun entry =>
        startDate ≤ entry.1 ∧ entry.1 ≤ endDate).map Prod.snd) := by
  have arrival (date : Data.Timestamp) :
      ((cache.transactionTriggerEvents.toList.filter fun entry =>
        startDate ≤ entry.1 ∧ entry.1 ≤ endDate).map Prod.snd).filter
          (fun event => event.targetDate = date) =
        (events.filter fun event => startDate ≤ event.targetDate ∧ event.targetDate ≤ endDate).filter
          fun event => event.targetDate = date := by
    have ofDate : (cache.transactionTriggerEvents.toList.filter fun entry => entry.1 = date).map
        Prod.snd = events.filter fun event => event.targetDate = date := by
      rw [← holds.arrived date]
      unfold OrderedMultimap.equalRange
      congr 1
      apply List.filter_congr
      intro entry _
      rw [decide_eq_decide]
    rw [List.filter_map, List.filter_filter, List.filter_filter]
    by_cases inside : startDate ≤ date ∧ date ≤ endDate
    · calc _ = (cache.transactionTriggerEvents.toList.filter fun entry => entry.1 = date).map
              Prod.snd := ?_
        _ = events.filter fun event => event.targetDate = date := ofDate
        _ = _ := ?_
      · congr 1
        apply List.filter_congr
        intro entry member
        rw [Function.comp_apply, ← holds.dated entry member]
        by_cases isDate : entry.1 = date
        · simp [isDate, inside]
        · simp [isDate]
      · apply List.filter_congr
        intro event _
        by_cases isDate : event.targetDate = date
        · simp [isDate, inside]
        · simp [isDate]
    · rw [List.filter_eq_nil_iff.mpr, List.filter_eq_nil_iff.mpr]
      · rfl
      · intro event _
        rw [← Bool.decide_and, decide_eq_true_iff]
        rintro ⟨rfl, isInside⟩
        exact inside isInside
      · intro entry member
        rw [Function.comp_apply, ← holds.dated entry member, ← Bool.decide_and, decide_eq_true_iff]
        rintro ⟨rfl, isInside⟩
        exact inside isInside
  refine ⟨perm_of_arrival arrival, ?_, arrival⟩
  apply List.pairwise_map.mpr
  have sorted := cache.transactionTriggerEvents.sorted.sublist
    (@List.filter_sublist _ (fun entry => decide (startDate ≤ entry.1 ∧ entry.1 ≤ endDate)) _)
  apply List.Pairwise.imp_of_mem _ sorted
  intro first second isFirst isSecond ordered
  rw [← holds.dated first (List.mem_of_mem_filter isFirst),
    ← holds.dated second (List.mem_of_mem_filter isSecond)]
  exact ordered

/-- The next event is the first one that a search of its range yields, where the clock can show the
dates of the events. -/
theorem findNext_eq_head (startDate endDate : TimePoint) {cache : TransactionTriggerEvent}
    (shown : ∀ entry ∈ cache.transactionTriggerEvents.toList, clock.Shows entry.1) :
    findNextTransactionTriggerEventInRange clock startDate endDate cache =
      ((cache.transactionTriggerEvents.toList.filter fun entry =>
        clock.timestamp startDate ≤ entry.1 ∧ entry.1 ≤ clock.timestamp endDate).map
          Prod.snd).head? := by
  have between : cache.transactionTriggerEvents.toList.filter (fun entry =>
      clock.timestamp startDate ≤ entry.1 ∧ entry.1 ≤ clock.timestamp endDate) =
      (cache.transactionTriggerEvents.toList.filter fun entry =>
        clock.timestamp startDate ≤ entry.1).takeWhile
          fun entry => entry.1 ≤ clock.timestamp endDate := by
    rw [OrderedMultimap.takeWhile_le (cache.transactionTriggerEvents.sorted.sublist
      List.filter_sublist), List.filter_filter]
    apply List.filter_congr
    intro entry _
    rw [Bool.and_comm, ← Bool.decide_and]
  have shownLater : ∀ entry ∈ cache.transactionTriggerEvents.toList.filter (fun entry =>
      clock.timestamp startDate ≤ entry.1), clock.Shows entry.1 := fun entry member =>
    shown entry (List.mem_of_mem_filter member)
  unfold findNextTransactionTriggerEventInRange
  rw [OrderedMultimap.drop_lowerBound, between]
  revert shownLater
  cases cache.transactionTriggerEvents.toList.filter fun entry =>
      clock.timestamp startDate ≤ entry.1 with
  | nil => exact fun _ => rfl
  | cons entry rest =>
      intro shownLater
      have upTo := clock.getAsTimepoint_le_iff entry.1 (shownLater entry (List.mem_cons_self ..))
        endDate
      dsimp only [List.head?_cons]
      by_cases within : entry.1 ≤ clock.timestamp endDate
      · rw [if_pos (upTo.mpr within)]
        simp [within]
      · rw [if_neg fun isUpTo => within (upTo.mp isUpTo)]
        simp [within]

/-- Where the clock can show the dates of the pending events, it can show those in memory. -/
theorem Holds.shows (holds : Holds events cache)
    (shown : ∀ event ∈ events, clock.Shows event.targetDate) :
    ∀ entry ∈ cache.transactionTriggerEvents.toList, clock.Shows entry.1 := by
  rintro ⟨date, event⟩ member
  have arrived := OrderedMultimap.mem_equalRange_iff.mpr member
  rw [holds.arrived] at arrived
  obtain ⟨isPending, sameDate⟩ := List.mem_filter.mp arrived
  cases of_decide_eq_true sameDate
  exact shown event isPending

/-- In every run, whether LevelDB fails or not: a search yields the pending events of its range by
their target dates and then by their arrival, and the next event is the first of them where the
clock can show all pending dates. With the dates in the wrong order there is no next event then, and
the search is undefined where an event is pending between them. -/
theorem inRange_of_run (format : EventFormat) {calls : List TriggerEventCall}
    (reached : runEvents (step format) calls (started format) = some cache)
    (startDate endDate : TimePoint) :
    (startDate ≤ endDate → ∃ found,
      findTransactionTriggerEventsInRange clock startDate endDate cache = some found ∧
      InDateOrder ((pending calls).filter fun event =>
        clock.timestamp startDate ≤ event.targetDate ∧
          event.targetDate ≤ clock.timestamp endDate) found ∧
      ((∀ event ∈ pending calls, clock.Shows event.targetDate) →
        findNextTransactionTriggerEventInRange clock startDate endDate cache = found.head?)) ∧
    (endDate < startDate →
      ((∀ event ∈ pending calls, clock.Shows event.targetDate) →
        findNextTransactionTriggerEventInRange clock startDate endDate cache = none) ∧
      (findTransactionTriggerEventsInRange clock startDate endDate cache = none ↔
        ∃ event ∈ pending calls, clock.timestamp endDate < event.targetDate ∧
          event.targetDate < clock.timestamp startDate)) := by
  have holds : Holds (pending calls) cache := (holds_started format).run reached
  constructor
  · intro ordered
    exact ⟨_, OrderedMultimap.range_of_le _ (clock.timestamp_strictMono.monotone ordered),
      holds.inDateOrder (clock.timestamp startDate) (clock.timestamp endDate),
      fun shown => findNext_eq_head clock startDate endDate (holds.shows clock shown)⟩
  · intro wrongOrder
    have wrong := clock.timestamp_strictMono wrongOrder
    constructor
    · intro shown
      rw [findNext_eq_head clock startDate endDate (holds.shows clock shown),
        List.filter_eq_nil_iff.mpr]
      · rfl
      · intro entry _ inside
        obtain ⟨lower, upper⟩ := of_decide_eq_true inside
        exact absurd (le_trans lower upper) (not_le.mpr wrong)
    · unfold findTransactionTriggerEventsInRange
      rw [OrderedMultimap.range_of_lt _ wrong]
      have between : (∃ entry ∈ cache.transactionTriggerEvents.toList,
          clock.timestamp endDate < entry.1 ∧ entry.1 < clock.timestamp startDate) ↔
            ∃ event ∈ pending calls, clock.timestamp endDate < event.targetDate ∧
              event.targetDate < clock.timestamp startDate := by
        constructor
        · rintro ⟨⟨date, event⟩, member, isBetween⟩
          have arrived := OrderedMultimap.mem_equalRange_iff.mpr member
          rw [holds.arrived] at arrived
          obtain ⟨isPending, sameDate⟩ := List.mem_filter.mp arrived
          cases of_decide_eq_true sameDate
          exact ⟨event, isPending, isBetween⟩
        · rintro ⟨event, isPending, isBetween⟩
          refine ⟨(event.targetDate, event), OrderedMultimap.mem_equalRange_iff.mp ?_, isBetween⟩
          rw [holds.arrived]
          exact List.mem_filter.mpr ⟨isPending, decide_eq_true rfl⟩
      rw [← between]
      split
      · rename_i isBetween
        exact iff_of_true rfl isBetween
      · rename_i noneBetween
        exact iff_of_false nofun noneBetween

section Example

/-- A number of nanoseconds of 64 bits. -/
abbrev Nanoseconds :=
  { count : Int // -(2 ^ 63) ≤ count ∧ count < 2 ^ 63 }

/-- A clock that counts nanoseconds in 64 bits. -/
def nanosecondClock : Data.SystemClock Nanoseconds where
  timestamp timePoint :=
    ⟨Int64.ofInt (timePoint.val / 1000000000), Int32.ofInt (timePoint.val % 1000000000)⟩
  getAsTimepoint date :=
    ⟨(Int64.ofInt (date.seconds.toInt * 1000000000 + date.nanos.toInt)).toInt,
      Int64.le_toInt _, Int64.toInt_lt _⟩
  Shows date := date.Canonical ∧
    -(2 ^ 63) ≤ date.seconds.toInt * 1000000000 + date.nanos.toInt ∧
      date.seconds.toInt * 1000000000 + date.nanos.toInt < 2 ^ 63
  timestamp_strictMono first second earlier := by
    obtain ⟨first, lowest, highest⟩ := first
    obtain ⟨second, lowestSecond, highestSecond⟩ := second
    have before : first < second := earlier
    dsimp only
    rw [Data.Timestamp.lt_iff, Int64.toInt_ofInt_of_le, Int64.toInt_ofInt_of_le,
      Int32.toInt_ofInt_of_le, Int32.toInt_ofInt_of_le] <;> omega
  getAsTimepoint_le_iff date shown timePoint := by
    obtain ⟨⟨nonnegative, below⟩, lower, upper⟩ := shown
    obtain ⟨timePoint, lowest, highest⟩ := timePoint
    dsimp only
    rw [Subtype.mk_le_mk, Int64.toInt_ofInt_of_le lower upper, ← @not_lt Data.Timestamp,
      Data.Timestamp.lt_iff, Int64.toInt_ofInt_of_le, Int32.toInt_ofInt_of_le] <;> omega

/-- An event of this second. -/
def eventAt (seconds : Int64) (linkedTransactionId : UInt64) : Data.TransactionTriggerEvent where
  linkedTransactionId := linkedTransactionId
  targetDate := ⟨seconds, 0⟩
  type := .DEFERRED_TIMEOUT_REVERSAL

/-- The later event comes first, and LevelDB fails at the second one. -/
def lateAndEarly : List TriggerEventCall :=
  [.addTransactionTriggerEvent (eventAt 20 1) true, .addTransactionTriggerEvent (eventAt 10 2) false,
   .addTransactionTriggerEvent (eventAt 10 3) true, .removeTransactionTriggerEvent (eventAt 10 2) true]

/-- The earlier event that is left is the next one of the first twenty seconds. -/
theorem inRange_lateAndEarly :
    ∃ cache, runEvents (step exampleFormat) lateAndEarly (started exampleFormat) = some cache ∧
      ∃ found, findTransactionTriggerEventsInRange nanosecondClock ⟨0, by decide⟩ ⟨20000000000, by decide⟩ cache =
          some found ∧
        InDateOrder ((pending lateAndEarly).filter fun event =>
          nanosecondClock.timestamp ⟨0, by decide⟩ ≤ event.targetDate ∧
            event.targetDate ≤ nanosecondClock.timestamp ⟨20000000000, by decide⟩) found ∧
        findNextTransactionTriggerEventInRange nanosecondClock ⟨0, by decide⟩ ⟨20000000000, by decide⟩ cache =
          found.head? := by
  have shown : ∀ event ∈ pending lateAndEarly, nanosecondClock.Shows event.targetDate := by
    intro event member
    have isPending : event ∈ [eventAt 20 1, eventAt 10 3] := member
    rcases List.mem_pair.mp isPending with rfl | rfl
    · exact ⟨by decide, by decide, by decide⟩
    · exact ⟨by decide, by decide, by decide⟩
  have reached : runEvents (step exampleFormat) lateAndEarly (started exampleFormat) = some _ := rfl
  obtain ⟨found, isFound, ordered, next⟩ :=
    (inRange_of_run nanosecondClock exampleFormat reached ⟨0, by decide⟩ ⟨20000000000, by decide⟩).1 (by decide)
  exact ⟨_, reached, found, isFound, ordered, next shown⟩

end Example

end TransactionTriggerEvent

end Cache

end GradidoNode

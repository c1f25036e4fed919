import GradidoNode.Cache.TransactionTriggerEvent
import Mathlib.Algebra.Group.Nat.Defs
import Mathlib.Data.List.TakeWhile
import Mathlib.Data.Set.List

/-!
# When trigger events survive a restart

LevelDB has one entry for each second, with the events of the target date that was changed
last. What is read back is what the memory held as long as no two events share a second
and LevelDB does not fail.
-/

namespace GradidoNode

open Library Files

namespace Cache

namespace TransactionTriggerEvent

/-- The integers are printed differently. -/
theorem to_string_injective : Function.Injective to_string := by
  have digitsOf (number : Int64) : '-' ∉ Nat.toDigits 10 number.toInt.natAbs := fun member =>
    absurd (Nat.isDigit_of_mem_toDigits (by decide) (by decide) member) (by decide)
  have valueOf (number : Nat) : Nat.ofDigitChars 10 (Nat.toDigits 10 number) 0 = number :=
    Nat.ofDigitChars_toDigits (by decide) (by decide)
  intro first second same
  unfold to_string at same
  apply Int64.toInt_inj.mp
  by_cases negative : first.toInt < 0
  · by_cases otherNegative : second.toInt < 0
    · rw [if_pos negative, if_pos otherNegative] at same
      have sameDigits := congrArg (fun digits => Nat.ofDigitChars 10 digits 0) (List.cons.inj same).2
      simp only [valueOf] at sameDigits
      omega
    · rw [if_pos negative, if_neg otherNegative] at same
      exact absurd (same ▸ List.mem_cons_self ..) (digitsOf second)
  · by_cases otherNegative : second.toInt < 0
    · rw [if_neg negative, if_pos otherNegative] at same
      exact absurd (same.symm ▸ List.mem_cons_self ..) (digitsOf first)
    · rw [if_neg negative, if_neg otherNegative] at same
      have sameDigits := congrArg (fun digits => Nat.ofDigitChars 10 digits 0) same
      simp only [valueOf] at sameDigits
      omega

variable (format : EventFormat)

/-- The events in memory. -/
def events (cache : TransactionTriggerEvent) : List Data.TransactionTriggerEvent :=
  cache.transactionTriggerEvents.values

/-- The key of an event in LevelDB. -/
def keyOf (event : Data.TransactionTriggerEvent) : List Char :=
  to_string event.targetDate.seconds

/-- The entry of an event that is alone in its second. -/
def entryOf (event : Data.TransactionTriggerEvent) : List Char × List UInt8 :=
  (keyOf event, format.convertToBase64 event)

/-- Different events are stored as different entries. -/
theorem entryOf_injective : Function.Injective (entryOf format) := by
  intro first second same
  have read := congrArg format.fromBase64 (Prod.mk.inj same).2
  rw [format.fromBase64_convertToBase64, format.fromBase64_convertToBase64] at read
  exact Option.some.inj (Except.ok.inj read)

/-- An event that is inserted is one more. -/
theorem events_insert (event : Data.TransactionTriggerEvent) (cache : TransactionTriggerEvent) :
    (insert event cache).events.Perm (event :: cache.events) :=
  OrderedMultimap.values_insert_perm _ _ _

@[simp] theorem readSegments_nil (fuel : Nat) (cache : TransactionTriggerEvent) :
    readSegments format fuel [] cache = (.ok true, cache) := by
  cases fuel with
  | zero => rfl
  | succ fuel => rfl

theorem takeWhile_of_notMem {value : List UInt8} (noComma : 44 ∉ value) :
    value.takeWhile (· ≠ 44) = value := by
  apply List.takeWhile_eq_self_iff.mpr
  intro byte member
  exact decide_eq_true fun same => noComma (same ▸ member)

theorem dropWhile_of_notMem {value : List UInt8} (noComma : 44 ∉ value) :
    value.dropWhile (· ≠ 44) = [] := by
  apply List.dropWhile_eq_nil_iff.mpr
  intro byte member
  exact decide_eq_true fun same => noComma (same ▸ member)

/-- A value without commas is one segment. -/
theorem readSegments_of_notMem {fuel : Nat} {value : List UInt8} (noComma : 44 ∉ value)
    (nonempty : value ≠ []) (cache : TransactionTriggerEvent) :
    readSegments format (fuel + 1) value cache =
      match format.fromBase64 value with
      | .error exception => (.error exception, cache)
      | .ok none => (.ok false, cache)
      | .ok (some event) => (.ok true, insert event cache) := by
  unfold readSegments
  rw [List.isEmpty_eq_false_iff.mpr nonempty, takeWhile_of_notMem noComma,
    dropWhile_of_notMem noComma]
  rcases format.fromBase64 value with exception | _ | event
  · rfl
  · rfl
  · exact readSegments_nil format fuel (insert event cache)

/-- The written form of an event is read as the event. -/
theorem readSegments_convertToBase64 (event : Data.TransactionTriggerEvent)
    (cache : TransactionTriggerEvent) :
    readSegments format (format.convertToBase64 event).length (format.convertToBase64 event) cache =
      (.ok true, insert event cache) := by
  have nonempty := format.convertToBase64_ne_nil event
  obtain ⟨fuel, length⟩ := Nat.exists_eq_add_one.mpr (List.length_pos_of_ne_nil nonempty)
  rw [length, readSegments_of_notMem format (format.comma_notMem event) nonempty,
    format.fromBase64_convertToBase64]

/-- A value without commas adds one event at most. -/
theorem length_events_readSegments {fuel : Nat} {value : List UInt8} (noComma : 44 ∉ value)
    (cache : TransactionTriggerEvent) :
    (readSegments format fuel value cache).2.events.length ≤ cache.events.length + 1 := by
  cases fuel with
  | zero => exact Nat.le_succ _
  | succ fuel =>
      by_cases empty : value = []
      · rw [empty, readSegments_nil]
        exact Nat.le_succ _
      · rw [readSegments_of_notMem format noComma empty]
        rcases format.fromBase64 value with exception | _ | event
        · exact Nat.le_succ _
        · exact Nat.le_succ _
        · exact le_of_eq (events_insert event cache).length_eq

/-- Entries of single events are all read. -/
theorem readAllStates_map_entryOf (stored : List Data.TransactionTriggerEvent)
    (cache : TransactionTriggerEvent) :
    ∃ loaded, readAllStates format (stored.map (entryOf format)) true cache = (.ok true, loaded) ∧
      loaded.events.Perm (cache.events ++ stored) := by
  induction stored generalizing cache with
  | nil => exact ⟨cache, rfl, by rw [List.append_nil]⟩
  | cons event rest ih =>
      obtain ⟨loaded, read, same⟩ := ih (insert event cache)
      refine ⟨loaded, ?_, same.trans ?_⟩
      · rw [List.map_cons, readAllStates]
        exact (Fallible.andThen_of_ok (readSegments_convertToBase64 format event cache)).trans read
      · exact ((events_insert event cache).append_right rest).trans List.perm_middle.symm

/-- Entries without commas yield one event each at most. -/
theorem length_events_readAllStates {entries : List (List Char × List UInt8)}
    (noComma : ∀ entry ∈ entries, 44 ∉ entry.2) (result : Bool)
    (cache : TransactionTriggerEvent) :
    (readAllStates format entries result cache).2.events.length ≤
      cache.events.length + entries.length := by
  induction entries generalizing result cache with
  | nil => exact Nat.le_refl _
  | cons entry rest ih =>
      have one := @length_events_readSegments format entry.2.length entry.2
        (noComma entry (List.mem_cons_self ..)) cache
      unfold readAllStates
      rcases read : readSegments format entry.2.length entry.2 cache with ⟨exception | whole, next⟩
      · rw [read] at one
        rw [Fallible.andThen_of_error read, List.length_cons]
        exact one.trans (by omega)
      · rw [read] at one
        rw [Fallible.andThen_of_ok read, List.length_cons]
        have others := ih (fun other member => noComma other (List.mem_cons_of_mem _ member))
          (result && whole) next
        refine others.trans ((Nat.add_le_add_right one rest.length).trans ?_)
        omega

/-- Every event waits under its target date. -/
def Dated (cache : TransactionTriggerEvent) : Prop :=
  ∀ entry ∈ cache.transactionTriggerEvents.toList, entry.1 = entry.2.targetDate

/-- The memory without an event. -/
def eraseEvent (event : Data.TransactionTriggerEvent) (cache : TransactionTriggerEvent) :
    TransactionTriggerEvent :=
  ⟨cache.state, cache.transactionTriggerEvents.eraseFirst event.targetDate event.isTheSame⟩

/-- It is inserted under its own date. -/
theorem dated_insert {cache : TransactionTriggerEvent} (dated : Dated cache)
    (event : Data.TransactionTriggerEvent) : Dated (insert event cache) := by
  intro entry member
  have inserted := OrderedMultimap.toList_insert_perm cache.transactionTriggerEvents
    event.targetDate event
  rcases List.mem_cons.mp (inserted.mem_iff.mp member) with rfl | old
  · rfl
  · exact dated entry old

namespace Dated

variable {cache : TransactionTriggerEvent}

/-- The events of a date are those that have it. -/
theorem mem_equalRange_iff (dated : Dated cache) {event : Data.TransactionTriggerEvent}
    {targetDate : Data.Timestamp} :
    event ∈ cache.transactionTriggerEvents.equalRange targetDate ↔
      event ∈ cache.events ∧ event.targetDate = targetDate := by
  rw [OrderedMultimap.mem_equalRange_iff]
  constructor
  · intro member
    exact ⟨List.mem_map.mpr ⟨_, member, rfl⟩, (dated _ member).symm⟩
  · rintro ⟨inMemory, rfl⟩
    obtain ⟨entry, member, rfl⟩ := List.mem_map.mp inMemory
    rwa [← dated entry member]

/-- An event is found among those of its date, if it is there. -/
theorem any_isTheSame_iff (dated : Dated cache) (event : Data.TransactionTriggerEvent) :
    (cache.transactionTriggerEvents.equalRange event.targetDate).any event.isTheSame = true ↔
      event ∈ cache.events := by
  rw [List.any_eq_true]
  constructor
  · rintro ⟨other, member, same⟩
    rw [Data.TransactionTriggerEvent.isTheSame_iff.mp same]
    exact (dated.mem_equalRange_iff.mp member).1
  · intro member
    exact ⟨event, dated.mem_equalRange_iff.mpr ⟨member, rfl⟩,
      Data.TransactionTriggerEvent.isTheSame_iff.mpr rfl⟩

/-- Erasing an event takes out one entry. -/
theorem toList_eraseEvent (dated : Dated cache) {event : Data.TransactionTriggerEvent}
    (member : event ∈ cache.events) :
    cache.transactionTriggerEvents.toList.Perm
      ((event.targetDate, event) :: (eraseEvent event cache).transactionTriggerEvents.toList) := by
  obtain ⟨erased, same, split⟩ := OrderedMultimap.toList_eraseFirst_perm
    (dated.mem_equalRange_iff.mpr ⟨member, rfl⟩)
    (Data.TransactionTriggerEvent.isTheSame_iff.mpr rfl)
  rw [← Data.TransactionTriggerEvent.isTheSame_iff.mp same] at split
  exact split

/-- The other events stay. -/
theorem events_eraseEvent (dated : Dated cache) {event : Data.TransactionTriggerEvent}
    (member : event ∈ cache.events) :
    cache.events.Perm (event :: (eraseEvent event cache).events) :=
  (dated.toList_eraseEvent member).map Prod.snd

/-- Erasing keeps the events under their dates. -/
theorem erase (dated : Dated cache) {event : Data.TransactionTriggerEvent}
    (member : event ∈ cache.events) : Dated (eraseEvent event cache) := by
  intro entry inErased
  exact dated entry
    ((dated.toList_eraseEvent member).mem_iff.mpr (List.mem_cons_of_mem _ inErased))

end Dated

/-- Every event in memory has its own entry in LevelDB, and there are no others. -/
structure Stored (cache : TransactionTriggerEvent) : Prop where
  initalized : cache.state.initalized = true
  dated : ∀ entry ∈ cache.transactionTriggerEvents.toList, entry.1 = entry.2.targetDate
  entries : cache.state.stateFile.toList.Perm (cache.events.map (entryOf format))

variable {format}

/-- A new cache reads all entries of its LevelDB. -/
theorem init_new (stateFile : LevelDB) :
    init format true (new stateFile) = readAllStates format stateFile.toList true
      { new stateFile with state := { initalized := true, stateFile := stateFile } } := rfl

/-- A cache that was just started stores what it holds. -/
theorem stored_started : Stored format (started format) where
  initalized := rfl
  dated := nofun
  entries := List.Perm.refl _

namespace Stored

variable {cache : TransactionTriggerEvent}

theorem allDated (stored : Stored format cache) : Dated cache := stored.dated

/-- The events of LevelDB are read back. -/
theorem init_eq (stored : Stored format cache) :
    ∃ loaded, init format true (new cache.state.stateFile) = (.ok true, loaded) ∧
      loaded.events.Perm cache.events := by
  have single : ∀ entry ∈ cache.state.stateFile.toList, entry ∈ Set.range (entryOf format) := by
    intro entry member
    obtain ⟨event, _, rfl⟩ := List.mem_map.mp (stored.entries.mem_iff.mp member)
    exact Set.mem_range_self event
  obtain ⟨events, written⟩ : cache.state.stateFile.toList ∈ Set.range (List.map (entryOf format)) := by
    rw [Set.range_list_map]
    exact single
  have same : events.Perm cache.events := by
    apply (List.map_perm_map_iff (entryOf_injective format)).mp
    rw [written]
    exact stored.entries
  obtain ⟨loaded, read, all⟩ := readAllStates_map_entryOf format events
    { new cache.state.stateFile with
      state := { initalized := true, stateFile := cache.state.stateFile } }
  refine ⟨loaded, ?_, all.trans same⟩
  rw [init_new, ← written]
  exact read

/-- What is stored is there again after a restart. -/
theorem survivesRestart (stored : Stored format cache) : SurvivesRestart format cache :=
  stored.init_eq

/-- There is one entry for each event. -/
theorem size_eq (stored : Stored format cache) :
    cache.state.stateFile.size = cache.events.length := by
  have length := stored.entries.length_eq
  rwa [List.length_map] at length

/-- No two events share a second. -/
theorem keys_nodup (stored : Stored format cache) : (cache.events.map keyOf).Nodup := by
  have keys := stored.entries.map Prod.fst
  rw [List.map_map] at keys
  exact keys.nodup_iff.mp (OrderedMap.keys_nodup cache.state.stateFile)

/-- A key has no entry exactly if no event is in its second. -/
theorem find?_eq_none_iff (stored : Stored format cache) {key : List Char} :
    cache.state.stateFile.find? key = none ↔ key ∉ cache.events.map keyOf := by
  constructor
  · intro absent member
    obtain ⟨event, inMemory, rfl⟩ := List.mem_map.mp member
    have inFile := stored.entries.mem_iff.mpr (List.mem_map_of_mem inMemory)
    exact absurd (OrderedMap.mem_toList_iff.mp inFile) (by rw [absent]; nofun)
  · intro absent
    by_contra present
    obtain ⟨value, found⟩ := Option.ne_none_iff_exists'.mp present
    have inMemory := stored.entries.mem_iff.mp (OrderedMap.mem_toList_iff.mpr found)
    obtain ⟨event, member, same⟩ := List.mem_map.mp inMemory
    exact absent (List.mem_map.mpr ⟨event, member, (Prod.mk.inj same).1⟩)

/-- No stored value has a comma in it. -/
theorem comma_notMem (stored : Stored format cache) :
    ∀ entry ∈ cache.state.stateFile.toList, 44 ∉ entry.2 := by
  intro entry member
  obtain ⟨event, _, rfl⟩ := List.mem_map.mp (stored.entries.mem_iff.mp member)
  exact format.comma_notMem event

end Stored

/-- Without commas, at most as many events survive as there are entries. -/
theorem length_le_of_survivesRestart {cache : TransactionTriggerEvent}
    (noComma : ∀ entry ∈ cache.state.stateFile.toList, 44 ∉ entry.2)
    (survives : SurvivesRestart format cache) :
    cache.events.length ≤ cache.state.stateFile.size := by
  obtain ⟨loaded, read, same⟩ := survives
  have bounded := length_events_readAllStates format noComma true
    { new cache.state.stateFile with
      state := { initalized := true, stateFile := cache.state.stateFile } }
  rw [← init_new, read] at bounded
  have length : loaded.events.length = cache.events.length := same.length_eq
  rw [← length]
  exact bounded.trans (le_of_eq (Nat.zero_add _))

/-- The range that is written when an event has been added. -/
def rangeWith (event : Data.TransactionTriggerEvent) (cache : TransactionTriggerEvent) :
    List Data.TransactionTriggerEvent :=
  (insert event cache).transactionTriggerEvents.equalRange event.targetDate

/-- An event is in the range that is written with it. -/
theorem mem_rangeWith (event : Data.TransactionTriggerEvent) (cache : TransactionTriggerEvent) :
    event ∈ rangeWith event cache := by
  apply OrderedMultimap.mem_equalRange_iff.mpr
  exact (OrderedMultimap.toList_insert_perm _ _ _).mem_iff.mpr (List.mem_cons_self ..)

/-- The same memory over another LevelDB. -/
def withFile (cache : TransactionTriggerEvent) (stateFile : LevelDB) : TransactionTriggerEvent :=
  ⟨⟨cache.state.initalized, stateFile⟩, cache.transactionTriggerEvents⟩

/-- Adding keeps the event in memory in any case, and writes the range of its target date
where LevelDB does not fail. -/
theorem add_eq {cache : TransactionTriggerEvent} (initalized : cache.state.initalized = true)
    (event : Data.TransactionTriggerEvent) (storeOk : Bool) :
    (addTransactionTriggerEvent format event storeOk cache).2 =
      withFile (insert event cache)
        (if storeOk then
          cache.state.stateFile.set (keyOf event) (writeRange format (rangeWith event cache))
        else cache.state.stateFile) := by
  have nonempty : ¬ ((insert event cache).transactionTriggerEvents.equalRange
      event.targetDate).isEmpty = true := fun empty =>
    List.ne_nil_of_mem (mem_rangeWith event cache) (List.isEmpty_iff.mp empty)
  have stillOpen : ((insert event cache).state.initalized) = true := initalized
  unfold addTransactionTriggerEvent updateState
  dsimp only
  rw [if_neg nonempty]
  unfold State.updateStateOf Fallible.onPart
  simp only [stillOpen, Bool.not_true, Bool.false_eq_true, ↓reduceIte]
  unfold withFile
  rw [stillOpen]
  cases storeOk with
  | false => rfl
  | true => rfl

/-- Where the range of the target date is empty, its second is removed. -/
theorem updateState_of_empty {cache : TransactionTriggerEvent} {targetDate : Data.Timestamp}
    (initalized : cache.state.initalized = true)
    (empty : cache.transactionTriggerEvents.equalRange targetDate = []) (storeOk : Bool) :
    (updateState format targetDate storeOk cache).2 =
      withFile cache
        (LevelDB.removeKey (to_string targetDate.seconds) storeOk cache.state.stateFile) := by
  unfold updateState
  dsimp only
  rw [empty, List.isEmpty_nil, if_pos rfl]
  unfold State.removeState withFile
  rw [if_pos initalized]

/-- Nothing in memory shares the second of the event. -/
def FreshSecond (cache : TransactionTriggerEvent) (event : Data.TransactionTriggerEvent) : Prop :=
  ∀ other ∈ cache.events, other.targetDate.seconds ≠ event.targetDate.seconds

/-- The second of an event is fresh if no event has its key. -/
theorem freshSecond_iff {cache : TransactionTriggerEvent} {event : Data.TransactionTriggerEvent} :
    FreshSecond cache event ↔ keyOf event ∉ cache.events.map keyOf := by
  constructor
  · intro fresh member
    obtain ⟨other, inMemory, same⟩ := List.mem_map.mp member
    exact fresh other inMemory (to_string_injective same)
  · intro absent other inMemory same
    exact absent (List.mem_map.mpr ⟨other, inMemory, congrArg to_string same⟩)

/-- LevelDB does as it is asked, and no event is added to a second that has one. -/
def KeepsSecondsApart (cache : TransactionTriggerEvent) : TriggerEventCall → Prop
  | .addTransactionTriggerEvent event storeOk => storeOk = true ∧ FreshSecond cache event
  | .removeTransactionTriggerEvent event storeOk => event ∈ cache.events → storeOk = true

namespace Stored

variable {cache : TransactionTriggerEvent}

/-- In a second of its own, an event is all there is to write. -/
theorem rangeWith_eq (stored : Stored format cache) {event : Data.TransactionTriggerEvent}
    (fresh : FreshSecond cache event) : rangeWith event cache = [event] := by
  have inserted := cache.transactionTriggerEvents.equalRange_insert_perm event.targetDate event
  have none : cache.transactionTriggerEvents.equalRange event.targetDate = [] := by
    apply List.eq_nil_iff_forall_not_mem.mpr
    intro other member
    obtain ⟨inMemory, same⟩ := stored.allDated.mem_equalRange_iff.mp member
    exact fresh other inMemory (congrArg Data.Timestamp.seconds same)
  rw [none] at inserted
  exact List.perm_singleton.mp inserted

/-- An event in a fresh second is stored with the others. -/
theorem add (stored : Stored format cache) {event : Data.TransactionTriggerEvent}
    (fresh : FreshSecond cache event) :
    Stored format (addTransactionTriggerEvent format event true cache).2 := by
  have absent := stored.find?_eq_none_iff.mpr (freshSecond_iff.mp fresh)
  rw [add_eq stored.initalized]
  refine ⟨stored.initalized, dated_insert stored.dated event, ?_⟩
  · have written : writeRange format (rangeWith event cache) = format.convertToBase64 event := by
      rw [stored.rangeWith_eq fresh]
      exact List.flatMap_singleton _ _
    have added := OrderedMap.toList_alter_perm (fun _ => format.convertToBase64 event) absent
    have memory := (events_insert event cache).map (entryOf format)
    change (cache.state.stateFile.set (keyOf event)
      (writeRange format (rangeWith event cache))).toList.Perm _
    rw [written]
    refine added.trans ((stored.entries.append_right _).trans ?_)
    exact (List.perm_append_singleton _ _).trans memory.symm

/-- A failed write, or one into a second that has an event, loses an event. -/
theorem not_survivesRestart_add (stored : Stored format cache)
    {event : Data.TransactionTriggerEvent} {storeOk : Bool}
    (apart : ¬ KeepsSecondsApart cache (.addTransactionTriggerEvent event storeOk)) :
    ¬ SurvivesRestart format (addTransactionTriggerEvent format event storeOk cache).2 := by
  intro survives
  have more := (events_insert event cache).length_eq
  have before := stored.size_eq
  rw [add_eq stored.initalized] at survives
  cases storeOk with
  | false =>
      have bounded : (insert event cache).events.length ≤ cache.state.stateFile.size :=
        length_le_of_survivesRestart stored.comma_notMem survives
      rw [List.length_cons] at more
      omega
  | true =>
      have shared : cache.state.stateFile.find? (keyOf event) ≠ none := by
        intro absent
        exact apart ⟨rfl, freshSecond_iff.mpr (stored.find?_eq_none_iff.mp absent)⟩
      have noMore := OrderedMap.size_alter_of_present
        (fun _ => writeRange format (rangeWith event cache)) shared
      have noComma : ∀ entry ∈ (cache.state.stateFile.set (keyOf event)
          (writeRange format (rangeWith event cache))).toList, 44 ∉ entry.2 := by
        intro entry member
        rcases OrderedMap.mem_toList_alter member with old | rfl
        · exact stored.comma_notMem entry old
        · intro comma
          obtain ⟨other, _, inOther⟩ := List.mem_flatMap.mp comma
          exact format.comma_notMem other inOther
      have bounded : (insert event cache).events.length ≤ (cache.state.stateFile.set (keyOf event)
          (writeRange format (rangeWith event cache))).size :=
        length_le_of_survivesRestart noComma survives
      have total := bounded.trans noMore
      rw [List.length_cons] at more
      omega

/-- The event was the only one of its second. -/
theorem keyOf_notMem_eraseEvent (stored : Stored format cache)
    {event : Data.TransactionTriggerEvent} (member : event ∈ cache.events) :
    keyOf event ∉ (eraseEvent event cache).events.map keyOf := by
  have keys := ((stored.allDated.events_eraseEvent member).map keyOf).nodup_iff.mp stored.keys_nodup
  exact (List.nodup_cons.mp keys).1

/-- Removing an event that is not there changes nothing. -/
theorem remove_of_notMem (stored : Stored format cache) {event : Data.TransactionTriggerEvent}
    (absent : event ∉ cache.events) (storeOk : Bool) :
    (removeTransactionTriggerEvent format event storeOk cache).2 = cache := by
  unfold removeTransactionTriggerEvent
  rw [if_neg (fun found => absent ((stored.allDated.any_isTheSame_iff event).mp found))]

/-- Removing takes the entry of the second away, where LevelDB does not fail. -/
theorem remove_eq (stored : Stored format cache) {event : Data.TransactionTriggerEvent}
    (member : event ∈ cache.events) (storeOk : Bool) :
    (removeTransactionTriggerEvent format event storeOk cache).2 =
      withFile (eraseEvent event cache)
        (LevelDB.removeKey (keyOf event) storeOk cache.state.stateFile) := by
  have empty : (eraseEvent event cache).transactionTriggerEvents.equalRange event.targetDate = [] := by
    apply List.eq_nil_iff_forall_not_mem.mpr
    intro other inRange
    have inErased := OrderedMultimap.mem_equalRange_iff.mp inRange
    have dated : event.targetDate = other.targetDate := stored.dated _
      ((stored.allDated.toList_eraseEvent member).mem_iff.mpr (List.mem_cons_of_mem _ inErased))
    have sameKey : keyOf other = keyOf event := by
      unfold keyOf
      rw [dated]
    have inMemory : other ∈ (eraseEvent event cache).events :=
      List.mem_map.mpr ⟨_, inErased, rfl⟩
    exact stored.keyOf_notMem_eraseEvent member (sameKey ▸ List.mem_map_of_mem inMemory)
  unfold removeTransactionTriggerEvent
  rw [if_pos ((stored.allDated.any_isTheSame_iff event).mpr member)]
  exact @updateState_of_empty format (eraseEvent event cache) event.targetDate stored.initalized
    empty storeOk

/-- An event is removed from both. -/
theorem remove (stored : Stored format cache) {event : Data.TransactionTriggerEvent}
    (member : event ∈ cache.events) :
    Stored format (removeTransactionTriggerEvent format event true cache).2 := by
  rw [stored.remove_eq member]
  refine ⟨stored.initalized, stored.allDated.erase member, ?_⟩
  · have others : ∀ entry ∈ (eraseEvent event cache).events.map (entryOf format),
        entry.1 ≠ keyOf event := by
      intro entry inErased same
      obtain ⟨other, inMemory, rfl⟩ := List.mem_map.mp inErased
      exact stored.keyOf_notMem_eraseEvent member (List.mem_map.mpr ⟨other, inMemory, same⟩)
    have split := stored.entries.trans ((stored.allDated.events_eraseEvent member).map (entryOf format))
    exact OrderedMap.toList_erase_perm split others

/-- A failed removal leaves an event behind. -/
theorem not_survivesRestart_remove (stored : Stored format cache)
    {event : Data.TransactionTriggerEvent} (member : event ∈ cache.events) :
    ¬ SurvivesRestart format (removeTransactionTriggerEvent format event false cache).2 := by
  intro survives
  rw [stored.remove_eq member] at survives
  obtain ⟨loaded, read, same⟩ := survives
  obtain ⟨asBefore, readBefore, sameBefore⟩ := stored.init_eq
  cases readBefore.symm.trans read
  have length := sameBefore.length_eq.symm.trans same.length_eq
  have less := (stored.allDated.events_eraseEvent member).length_eq
  rw [List.length_cons] at less
  exact absurd (length.symm.trans less) (Nat.ne_of_lt (Nat.lt_succ_self _))

/-- A call that keeps the seconds apart keeps what is stored. -/
theorem step (stored : Stored format cache) {call : TriggerEventCall}
    {next : TransactionTriggerEvent} (apart : KeepsSecondsApart cache call)
    (taken : TransactionTriggerEvent.step format cache call = some next) : Stored format next := by
  cases call with
  | addTransactionTriggerEvent event storeOk =>
      obtain ⟨rfl, fresh⟩ := apart
      cases taken
      exact stored.add fresh
  | removeTransactionTriggerEvent event storeOk =>
      cases taken
      by_cases member : event ∈ cache.events
      · rw [apart member]
        exact stored.remove member
      · rw [stored.remove_of_notMem member]
        exact stored

/-- What goes wrong in one step shows after a restart. -/
theorem keepsSecondsApart_of_survivesRestart (stored : Stored format cache)
    {call : TriggerEventCall} {next : TransactionTriggerEvent}
    (taken : TransactionTriggerEvent.step format cache call = some next)
    (survives : SurvivesRestart format next) : KeepsSecondsApart cache call := by
  by_contra apart
  cases call with
  | addTransactionTriggerEvent event storeOk =>
      cases taken
      exact stored.not_survivesRestart_add apart survives
  | removeTransactionTriggerEvent event storeOk =>
      cases taken
      obtain ⟨member, failed⟩ := Classical.not_imp.mp apart
      rw [Bool.not_eq_true] at failed
      rw [failed] at survives
      exact stored.not_survivesRestart_remove member survives

end Stored

/-- In exactly the runs that keep the seconds apart, every state reached survives a
restart. -/
theorem survivesRestart_iff_keepsSecondsApart (format : EventFormat)
    (calls : List TriggerEventCall) :
    (∀ first rest reached, calls = first ++ rest →
      runEvents (step format) first (started format) = some reached →
        SurvivesRestart format reached) ↔
      StepsMeet (step format) KeepsSecondsApart calls (started format) := by
  have stable (cache : TransactionTriggerEvent) (call : TriggerEventCall)
      (next : TransactionTriggerEvent) (stored : Stored format cache)
      (apart : KeepsSecondsApart cache call) (taken : step format cache call = some next) :
      Stored format next := stored.step apart taken
  have exactly (cache : TransactionTriggerEvent) (call : TriggerEventCall)
      (stored : Stored format cache)
      (survives : ∀ next, step format cache call = some next → SurvivesRestart format next) :
      KeepsSecondsApart cache call := by
    cases call with
    | addTransactionTriggerEvent event storeOk =>
        exact stored.keepsSecondsApart_of_survivesRestart rfl (survives _ rfl)
    | removeTransactionTriggerEvent event storeOk =>
        exact stored.keepsSecondsApart_of_survivesRestart rfl (survives _ rfl)
  exact good_iff_stepsMeet stable (fun _ stored => stored.survivesRestart) exactly calls
    stored_started

section Example

def exampleTypeNumber : Data.TransactionTriggerEventType → Nat
  | .DEFERRED_TIMEOUT_REVERSAL => 0
  | .other value => value.toNat + 1

def exampleTypeOf : Nat → Data.TransactionTriggerEventType
  | 0 => .DEFERRED_TIMEOUT_REVERSAL
  | value + 1 => .other (UInt8.ofNat value)

theorem exampleTypeOf_exampleTypeNumber (type : Data.TransactionTriggerEventType) :
    exampleTypeOf (exampleTypeNumber type) = type := by
  cases type with
  | DEFERRED_TIMEOUT_REVERSAL => rfl
  | other value => exact congrArg _ (UInt8.ofNat_toNat)

/-- An event as one number. -/
def exampleNumber (event : Data.TransactionTriggerEvent) : Nat :=
  event.linkedTransactionId.toNat + 2 ^ 64 * (event.targetDate.seconds.toUInt64.toNat +
    2 ^ 64 * (event.targetDate.nanos.toUInt32.toNat + 2 ^ 32 * exampleTypeNumber event.type))

def exampleEventOf (number : Nat) : Data.TransactionTriggerEvent where
  linkedTransactionId := UInt64.ofNat (number % 2 ^ 64)
  targetDate := {
    seconds := (UInt64.ofNat (number / 2 ^ 64 % 2 ^ 64)).toInt64
    nanos := (UInt32.ofNat (number / 2 ^ 128 % 2 ^ 32)).toInt32 }
  type := exampleTypeOf (number / 2 ^ 160)

theorem exampleEventOf_exampleNumber (event : Data.TransactionTriggerEvent) :
    exampleEventOf (exampleNumber event) = event := by
  obtain ⟨linkedTransactionId, ⟨seconds, nanos⟩, type⟩ := event
  have idBound := linkedTransactionId.toNat_lt
  have secondsBound := seconds.toUInt64.toNat_lt
  have nanosBound := nanos.toUInt32.toNat_lt
  unfold exampleEventOf exampleNumber
  dsimp only
  have idPart : (linkedTransactionId.toNat + 2 ^ 64 * (seconds.toUInt64.toNat + 2 ^ 64 *
      (nanos.toUInt32.toNat + 2 ^ 32 * exampleTypeNumber type))) % 2 ^ 64 =
        linkedTransactionId.toNat := by omega
  have secondsPart : (linkedTransactionId.toNat + 2 ^ 64 * (seconds.toUInt64.toNat + 2 ^ 64 *
      (nanos.toUInt32.toNat + 2 ^ 32 * exampleTypeNumber type))) / 2 ^ 64 % 2 ^ 64 =
        seconds.toUInt64.toNat := by omega
  have nanosPart : (linkedTransactionId.toNat + 2 ^ 64 * (seconds.toUInt64.toNat + 2 ^ 64 *
      (nanos.toUInt32.toNat + 2 ^ 32 * exampleTypeNumber type))) / 2 ^ 128 % 2 ^ 32 =
        nanos.toUInt32.toNat := by omega
  have typePart : (linkedTransactionId.toNat + 2 ^ 64 * (seconds.toUInt64.toNat + 2 ^ 64 *
      (nanos.toUInt32.toNat + 2 ^ 32 * exampleTypeNumber type))) / 2 ^ 160 =
        exampleTypeNumber type := by omega
  rw [idPart, secondsPart, nanosPart, typePart, UInt64.ofNat_toNat, UInt64.ofNat_toNat,
    UInt32.ofNat_toNat, exampleTypeOf_exampleTypeNumber]
  rfl

theorem toNat_digit {char : Char} (isDigit : char.isDigit = true) :
    (UInt8.ofNat char.toNat).toNat = char.toNat ∧ 48 ≤ char.toNat := by
  obtain ⟨above, below⟩ := Char.isDigit_iff_toNat.mp isDigit
  change 48 ≤ char.toNat at above
  change char.toNat ≤ 57 at below
  rw [UInt8.toNat_ofNat', Nat.mod_eq_of_lt (by omega)]
  exact ⟨rfl, above⟩

/-- The decimal digits of the number. -/
def exampleFormat : EventFormat where
  convertToBase64 event := LevelDB.to_string (exampleNumber event)
  fromBase64 value :=
    .ok (some (exampleEventOf
      (Nat.ofDigitChars 10 (value.map fun byte => Char.ofNat byte.toNat) 0)))
  fromBase64_convertToBase64 event := by
    have same : (LevelDB.to_string (exampleNumber event)).map (fun byte => Char.ofNat byte.toNat) =
        Nat.toDigits 10 (exampleNumber event) := by
      unfold LevelDB.to_string
      rw [List.map_map]
      conv_rhs => rw [← List.map_id (Nat.toDigits 10 (exampleNumber event))]
      apply List.map_congr_left
      intro char member
      have isDigit := Nat.isDigit_of_mem_toDigits (by decide) (by decide) member
      rw [Function.comp_apply, (toNat_digit isDigit).1, Char.ofNat_toNat]
      rfl
    rw [same, Nat.ofDigitChars_toDigits (by decide) (by decide), exampleEventOf_exampleNumber]
  comma_notMem event comma := by
    obtain ⟨char, member, isComma⟩ := List.mem_map.mp comma
    have isDigit := Nat.isDigit_of_mem_toDigits (by decide) (by decide) member
    obtain ⟨sameNumber, above⟩ := toNat_digit isDigit
    rw [isComma] at sameNumber
    change 44 = char.toNat at sameNumber
    omega
  convertToBase64_ne_nil event empty := Nat.toDigits_ne_nil (List.map_eq_nil_iff.mp empty)

/-- A timeout in the second 7. -/
def exampleEvent (nanos : Int32) : Data.TransactionTriggerEvent where
  linkedTransactionId := 1
  targetDate := { seconds := 7, nanos := nanos }
  type := .DEFERRED_TIMEOUT_REVERSAL

/-- Of two events in one second, the second one alone is read back. -/
theorem not_survivesRestart_sameSecond :
    ∃ reached, runEvents (step exampleFormat)
        [.addTransactionTriggerEvent (exampleEvent 0) true,
          .addTransactionTriggerEvent (exampleEvent 1) true] (started exampleFormat) =
        some reached ∧ ¬ SurvivesRestart exampleFormat reached := by
  have first : Stored exampleFormat
      (addTransactionTriggerEvent exampleFormat (exampleEvent 0) true (started exampleFormat)).2 :=
    Stored.add stored_started nofun
  refine ⟨_, rfl, first.not_survivesRestart_add ?_⟩
  rintro ⟨_, fresh⟩
  apply fresh (exampleEvent 0) ?_ rfl
  rw [add_eq rfl]
  exact (events_insert (exampleEvent 0) (started exampleFormat)).mem_iff.mpr
    (List.mem_cons_self ..)

end Example

end TransactionTriggerEvent

end Cache

end GradidoNode

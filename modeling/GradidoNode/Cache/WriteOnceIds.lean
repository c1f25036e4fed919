import GradidoNode.Cache.HieroTransactionId
import GradidoNode.Library.Run

/-!
# Message ids that are added a second time

Adding looks for the id in the memory cache only, whose entries expire, looking up finds it in
LevelDB as well. What a run of the store has to do with an id that was added before, and the
runs that do it.
-/

namespace GradidoNode

open Library Files

namespace Cache

/-- What happens to the store of message ids: its functions are called, an entry of the memory
cache has been there for its time to live, or the store is closed and opened. -/
inductive MessageIdEvent (TransactionId : Type)
  | add (transactionId : List UInt8) (transactionNr : UInt64) (putOk : Bool)
  | has (transactionId : List UInt8)
  | getTransactionNrForHieroTransactionId (transactionId : List UInt8)
  | expire (hieroTransactionId : TransactionId)
  | restart (opened : Bool)

/-- The store, with the numbers of the ids whose adding has succeeded. -/
structure MessageIdStore (TransactionId : Type) [LinearOrder TransactionId] where
  ids : HieroTransactionId TransactionId
  added : OrderedMap TransactionId UInt64

namespace MessageIdStore

variable {TransactionId : Type} [LinearOrder TransactionId]
  (format : TransactionIdFormat TransactionId)

/-- The store before anything was added. -/
def start (opened : Bool) : MessageIdStore TransactionId where
  ids := (HieroTransactionId.init opened ⟨false, ∅, ∅⟩).2
  added := ∅

def step (store : MessageIdStore TransactionId) :
    MessageIdEvent TransactionId → Option (MessageIdStore TransactionId)
  | .add transactionId transactionNr putOk =>
      let result := HieroTransactionId.add format transactionId transactionNr putOk store.ids
      some {
        ids := result.2
        added := match result.1, HieroTransactionId.fromProtobuf format transactionId with
          | .ok _, .ok hieroTransactionId => store.added.set hieroTransactionId transactionNr
          | _, _ => store.added }
  | .has transactionId =>
      some { store with ids := (HieroTransactionId.has format transactionId store.ids).2 }
  | .getTransactionNrForHieroTransactionId transactionId =>
      some { store with
        ids := (HieroTransactionId.getTransactionNrForHieroTransactionId format transactionId
          store.ids).2 }
  | .expire hieroTransactionId =>
      some { store with ids := { store.ids with
        hieroTransactionIdTransactionNrs :=
          store.ids.hieroTransactionIdTransactionNrs.erase hieroTransactionId } }
  | .restart opened =>
      some { store with ids := (HieroTransactionId.init opened store.ids.exit).2 }

/-- These bytes are an id that was added with this number. -/
structure Added (store : MessageIdStore TransactionId) (transactionId : List UInt8)
    (hieroTransactionId : TransactionId) (transactionNr : UInt64) : Prop where
  deserialized : HieroTransactionId.fromProtobuf format transactionId = .ok hieroTransactionId
  found : store.added.find? hieroTransactionId = some transactionNr

/-- The outcome that an id has which was added before: a look-up yields its number, and it is
not added again. -/
def WritesOnce (store : MessageIdStore TransactionId) : MessageIdEvent TransactionId → Prop
  | .add transactionId transactionNr putOk => ∀ hieroTransactionId number,
      store.Added format transactionId hieroTransactionId number →
        HieroTransactionId.add format transactionId transactionNr putOk store.ids =
          (.error (.gradidoAlreadyExist "cache::HieroTransactionId already has key!"), store.ids)
  | .has transactionId => ∀ hieroTransactionId number,
      store.Added format transactionId hieroTransactionId number →
        (HieroTransactionId.has format transactionId store.ids).1 = .ok true
  | .getTransactionNrForHieroTransactionId transactionId => ∀ hieroTransactionId number,
      store.Added format transactionId hieroTransactionId number →
        (HieroTransactionId.getTransactionNrForHieroTransactionId format transactionId
          store.ids).1 = .ok number
  | .expire _ => True
  | .restart _ => True

/-- LevelDB is open and has a number under these bytes. -/
def Stored (store : MessageIdStore TransactionId) (transactionId : List UInt8) : Prop :=
  store.ids.initalized = true ∧
    store.ids.levelDBFile.find? (format.convertToBase64 transactionId) ≠ none

/-- An id that was added is added again while it is in the memory cache, and looked up while it
is there or in LevelDB. A 0 is what a look-up yields for an absent id. -/
def InTime (store : MessageIdStore TransactionId) : MessageIdEvent TransactionId → Prop
  | .add transactionId _ _ => ∀ hieroTransactionId number,
      store.Added format transactionId hieroTransactionId number →
        store.ids.hieroTransactionIdTransactionNrs.find? hieroTransactionId ≠ none
  | .has transactionId => ∀ hieroTransactionId number,
      store.Added format transactionId hieroTransactionId number →
        store.ids.hieroTransactionIdTransactionNrs.find? hieroTransactionId ≠ none ∨
          store.Stored format transactionId ∧ number ≠ 0
  | .getTransactionNrForHieroTransactionId transactionId => ∀ hieroTransactionId number,
      store.Added format transactionId hieroTransactionId number →
        store.ids.hieroTransactionIdTransactionNrs.find? hieroTransactionId ≠ none ∨
          store.Stored format transactionId ∨ number = 0
  | .expire _ => True
  | .restart _ => True

/-- Both copies have the numbers that were added, as far as they have an id. -/
structure Recorded (store : MessageIdStore TransactionId) : Prop where
  cached : ∀ hieroTransactionId number transactionNr,
    store.added.find? hieroTransactionId = some number →
      store.ids.hieroTransactionIdTransactionNrs.find? hieroTransactionId = some transactionNr →
        transactionNr = number
  stored : ∀ transactionId hieroTransactionId value,
    HieroTransactionId.fromProtobuf format transactionId = .ok hieroTransactionId →
      store.ids.levelDBFile.find? (format.convertToBase64 transactionId) = some value →
        ∃ number, store.added.find? hieroTransactionId = some number ∧
          value = LevelDB.to_string number.toNat

variable {format} {store : MessageIdStore TransactionId}

theorem recorded_start (opened : Bool) :
    Recorded format (start opened : MessageIdStore TransactionId) := by
  have empty : (start opened : MessageIdStore TransactionId).ids.levelDBFile = ∅ := by
    cases opened with
    | false => rfl
    | true => rfl
  refine ⟨fun hieroTransactionId number transactionNr absent => ?_,
    fun transactionId hieroTransactionId value _ found => ?_⟩
  · cases absent
  · rw [empty] at found
    cases found

/-! ## Looking up -/

/-- What LevelDB yields for an id, and what is put into the memory cache then. -/
theorem Recorded.readFromLevelDb (recorded : Recorded format store) {transactionId : List UInt8}
    {hieroTransactionId : TransactionId}
    (deserialized : HieroTransactionId.fromProtobuf format transactionId = .ok hieroTransactionId) :
    ¬ store.Stored format transactionId ∧
        HieroTransactionId.readFromLevelDb format transactionId hieroTransactionId store.ids =
          (.ok 0, store.ids) ∨
      store.Stored format transactionId ∧ ∃ number,
        store.added.find? hieroTransactionId = some number ∧
          HieroTransactionId.readFromLevelDb format transactionId hieroTransactionId store.ids =
            (.ok number, { store.ids with
              hieroTransactionIdTransactionNrs :=
                store.ids.hieroTransactionIdTransactionNrs.set hieroTransactionId number }) := by
  unfold HieroTransactionId.readFromLevelDb Stored
  by_cases initalized : store.ids.initalized = true
  · rw [if_pos initalized]
    cases entry : store.ids.levelDBFile.find? (format.convertToBase64 transactionId) with
    | none => exact Or.inl ⟨fun stored => stored.2 rfl, rfl⟩
    | some value =>
        obtain ⟨number, added, rfl⟩ := recorded.stored _ _ _ deserialized entry
        refine Or.inr ⟨⟨initalized, nofun⟩, number, added, ?_⟩
        simp only [LevelDB.stoull_to_string]
  · rw [if_neg initalized]
    exact Or.inl ⟨fun stored => initalized stored.1, rfl⟩

/-- The memory cache gets a number that was added. -/
theorem Recorded.cache (recorded : Recorded format store) {hieroTransactionId : TransactionId}
    {number : UInt64} (added : store.added.find? hieroTransactionId = some number) :
    Recorded format { store with ids := { store.ids with
      hieroTransactionIdTransactionNrs :=
        store.ids.hieroTransactionIdTransactionNrs.set hieroTransactionId number } } := by
  refine ⟨fun other numberOfOther transactionNr addedOther found => ?_, recorded.stored⟩
  by_cases same : other = hieroTransactionId
  · subst same
    rw [OrderedMap.set, OrderedMap.find?_alter_self] at found
    rw [← Option.some.inj found]
    exact Option.some.inj (added.symm.trans addedOther)
  · rw [OrderedMap.set, OrderedMap.find?_alter_of_ne _ same] at found
    exact recorded.cached other numberOfOther transactionNr addedOther found

theorem Recorded.has (recorded : Recorded format store) (transactionId : List UInt8) :
    Recorded format { store with
      ids := (HieroTransactionId.has format transactionId store.ids).2 } := by
  unfold HieroTransactionId.has
  cases deserialized : HieroTransactionId.fromProtobuf format transactionId with
  | error exception => exact recorded
  | ok hieroTransactionId =>
      dsimp only
      cases store.ids.hieroTransactionIdTransactionNrs.find? hieroTransactionId with
      | some transactionNr => exact recorded
      | none =>
          dsimp only
          rcases recorded.readFromLevelDb deserialized with ⟨_, read⟩ | ⟨_, number, added, read⟩
          · rw [Fallible.andThen_of_ok read]
            exact recorded
          · rw [Fallible.andThen_of_ok read]
            exact recorded.cache added

theorem Recorded.getTransactionNr (recorded : Recorded format store) (transactionId : List UInt8) :
    Recorded format { store with
      ids := (HieroTransactionId.getTransactionNrForHieroTransactionId format transactionId
        store.ids).2 } := by
  unfold HieroTransactionId.getTransactionNrForHieroTransactionId
  cases deserialized : HieroTransactionId.fromProtobuf format transactionId with
  | error exception => exact recorded
  | ok hieroTransactionId =>
      dsimp only
      cases store.ids.hieroTransactionIdTransactionNrs.find? hieroTransactionId with
      | some transactionNr => exact recorded
      | none =>
          dsimp only
          rcases recorded.readFromLevelDb deserialized with ⟨_, read⟩ | ⟨_, number, added, read⟩
          · rw [read]
            exact recorded
          · rw [read]
            exact recorded.cache added

/-! ## Adding -/

/-- An id that is not in the memory cache was not added before, if it is added in time. -/
theorem not_added_of_absent {transactionId : List UInt8} {hieroTransactionId : TransactionId}
    {transactionNr : UInt64} {putOk : Bool}
    (inTime : store.InTime format (.add transactionId transactionNr putOk))
    (deserialized : HieroTransactionId.fromProtobuf format transactionId = .ok hieroTransactionId)
    (absent : store.ids.hieroTransactionIdTransactionNrs.find? hieroTransactionId = none) :
    store.added.find? hieroTransactionId = none := by
  cases added : store.added.find? hieroTransactionId with
  | none => rfl
  | some number => exact absurd absent (inTime hieroTransactionId number ⟨deserialized, added⟩)

/-- The memory cache gets an id that was not added, whether or not this is stored as well. -/
theorem Recorded.cacheNew (recorded : Recorded format store) {hieroTransactionId : TransactionId}
    (new : store.added.find? hieroTransactionId = none) (transactionNr : UInt64) :
    Recorded format { store with ids := { store.ids with
      hieroTransactionIdTransactionNrs :=
        store.ids.hieroTransactionIdTransactionNrs.set hieroTransactionId transactionNr } } := by
  refine ⟨fun other numberOfOther number addedOther found => ?_, recorded.stored⟩
  have differ : other ≠ hieroTransactionId := by
    rintro rfl
    cases new.symm.trans addedOther
  rw [OrderedMap.set, OrderedMap.find?_alter_of_ne _ differ] at found
  exact recorded.cached other numberOfOther number addedOther found

/-- An id that is in the memory cache with this number, and not in LevelDB, counts as added. -/
theorem Recorded.addNew (recorded : Recorded format store) {hieroTransactionId : TransactionId}
    {transactionNr : UInt64} (new : store.added.find? hieroTransactionId = none)
    (cached : store.ids.hieroTransactionIdTransactionNrs.find? hieroTransactionId =
      some transactionNr) :
    Recorded format { store with
      added := store.added.set hieroTransactionId transactionNr } := by
  refine ⟨fun other number found addedOther isCached => ?_,
    fun transactionId other value deserialized entry => ?_⟩
  · by_cases same : other = hieroTransactionId
    · subst same
      rw [OrderedMap.set, OrderedMap.find?_alter_self] at addedOther
      rw [← Option.some.inj addedOther]
      exact Option.some.inj (isCached.symm.trans cached)
    · rw [OrderedMap.set, OrderedMap.find?_alter_of_ne _ same] at addedOther
      exact recorded.cached other number found addedOther isCached
  · obtain ⟨number, addedOther, isValue⟩ := recorded.stored transactionId other value deserialized entry
    have differ : other ≠ hieroTransactionId := by
      rintro rfl
      cases new.symm.trans addedOther
    refine ⟨number, ?_, isValue⟩
    rw [OrderedMap.set, OrderedMap.find?_alter_of_ne _ differ]
    exact addedOther

/-- LevelDB gets the number of an id under the bytes of the id. -/
theorem Recorded.put (recorded : Recorded format store)
    (injective : Function.Injective format.convertToBase64) {transactionId : List UInt8}
    {hieroTransactionId : TransactionId} {number : UInt64}
    (added : store.Added format transactionId hieroTransactionId number) :
    Recorded format { store with ids := { store.ids with
      levelDBFile := store.ids.levelDBFile.set (format.convertToBase64 transactionId)
        (LevelDB.to_string number.toNat) } } := by
  refine ⟨recorded.cached, fun bytes other value deserialized entry => ?_⟩
  by_cases same : bytes = transactionId
  · subst same
    cases added.deserialized.symm.trans deserialized
    rw [OrderedMap.set, OrderedMap.find?_alter_self] at entry
    exact ⟨number, added.found, (Option.some.inj entry).symm⟩
  · rw [OrderedMap.set, OrderedMap.find?_alter_of_ne _ (injective.ne same)] at entry
    exact recorded.stored bytes other value deserialized entry

theorem Recorded.add (recorded : Recorded format store)
    (injective : Function.Injective format.convertToBase64) {transactionId : List UInt8}
    {transactionNr : UInt64} {putOk : Bool} {next : MessageIdStore TransactionId}
    (inTime : store.InTime format (.add transactionId transactionNr putOk))
    (taken : store.step format (.add transactionId transactionNr putOk) = some next) :
    Recorded format next := by
  cases taken
  cases deserialized : HieroTransactionId.fromProtobuf format transactionId with
  | error exception =>
      have unchanged : HieroTransactionId.add format transactionId transactionNr putOk store.ids =
          (.error exception, store.ids) := by
        unfold HieroTransactionId.add
        rw [deserialized]
      rw [unchanged]
      exact recorded
  | ok hieroTransactionId =>
      by_cases absent : store.ids.hieroTransactionIdTransactionNrs.find? hieroTransactionId = none
      · have new := not_added_of_absent inTime deserialized absent
        have cached := recorded.cacheNew new transactionNr
        have added := cached.addNew new (OrderedMap.find?_alter_self _ _ _)
        rw [HieroTransactionId.add_of_absent deserialized absent]
        dsimp only
        by_cases closed : store.ids.initalized = false
        · rw [if_pos closed]
          exact added
        · rw [if_neg closed]
          cases putOk with
          | true => exact added.put injective ⟨deserialized, OrderedMap.find?_alter_self _ _ _⟩
          | false => exact cached
      · rw [HieroTransactionId.add_of_present deserialized absent]
        exact recorded

/-! ## Runs -/

theorem Recorded.step (recorded : Recorded format store)
    (injective : Function.Injective format.convertToBase64) {event : MessageIdEvent TransactionId}
    {next : MessageIdStore TransactionId} (inTime : store.InTime format event)
    (taken : store.step format event = some next) : Recorded format next := by
  cases event with
  | add transactionId transactionNr putOk => exact recorded.add injective inTime taken
  | has transactionId =>
      cases taken
      exact recorded.has transactionId
  | getTransactionNrForHieroTransactionId transactionId =>
      cases taken
      exact recorded.getTransactionNr transactionId
  | expire hieroTransactionId =>
      cases taken
      refine ⟨fun other number transactionNr added found => ?_, recorded.stored⟩
      by_cases same : other = hieroTransactionId
      · rw [same, OrderedMap.find?_erase_self] at found
        cases found
      · rw [OrderedMap.find?_erase_of_ne _ same] at found
        exact recorded.cached other number transactionNr added found
  | restart opened =>
      cases taken
      cases opened with
      | false => exact ⟨recorded.cached, recorded.stored⟩
      | true => exact ⟨recorded.cached, recorded.stored⟩

/-- The outcome of a step is the right one in exactly the steps that come in time. -/
theorem Recorded.writesOnce_iff (recorded : Recorded format store)
    (event : MessageIdEvent TransactionId) :
    store.WritesOnce format event ↔ store.InTime format event := by
  cases event with
  | add transactionId transactionNr putOk =>
      refine forall_congr' fun hieroTransactionId => forall_congr' fun number =>
        forall_congr' fun added => ?_
      constructor
      · intro unchanged absent
        rw [HieroTransactionId.add_of_absent added.deserialized absent] at unchanged
        dsimp only at unchanged
        split at unchanged
        · cases unchanged
        · split at unchanged
          · cases unchanged
          · cases unchanged
      · intro present
        exact HieroTransactionId.add_of_present added.deserialized present transactionNr putOk
  | has transactionId =>
      refine forall_congr' fun hieroTransactionId => forall_congr' fun number =>
        forall_congr' fun added => ?_
      rw [HieroTransactionId.has_of_deserialized added.deserialized]
      cases store.ids.hieroTransactionIdTransactionNrs.find? hieroTransactionId with
      | some transactionNr => simp
      | none =>
          dsimp only
          rw [HieroTransactionId.isNumber_true_iff]
          rcases recorded.readFromLevelDb added.deserialized with
            ⟨absent, read⟩ | ⟨stored, found, isAdded, read⟩
          · simp [read, absent]
          · cases added.found.symm.trans isAdded
            simp [read, stored]
  | getTransactionNrForHieroTransactionId transactionId =>
      refine forall_congr' fun hieroTransactionId => forall_congr' fun number =>
        forall_congr' fun added => ?_
      unfold HieroTransactionId.getTransactionNrForHieroTransactionId
      rw [added.deserialized]
      dsimp only
      cases found : store.ids.hieroTransactionIdTransactionNrs.find? hieroTransactionId with
      | some transactionNr =>
          simp [recorded.cached hieroTransactionId number transactionNr added.found found]
      | none =>
          dsimp only
          rcases recorded.readFromLevelDb added.deserialized with
            ⟨absent, read⟩ | ⟨stored, found, isAdded, read⟩
          · simp [read, absent, eq_comm]
          · cases added.found.symm.trans isAdded
            simp [read, stored]
  | expire hieroTransactionId => exact Iff.rfl
  | restart opened => exact Iff.rfl

/-- Ids are written once in exactly the runs that add an id again only while it is in the memory
cache, and look it up while it is there or in LevelDB. -/
theorem writesOnce_iff_inTime (injective : Function.Injective format.convertToBase64)
    (opened : Bool) (events : List (MessageIdEvent TransactionId)) :
    StepsMeet (step format) (WritesOnce format) events (start opened) ↔
      StepsMeet (step format) (InTime format) events (start opened) := by
  have stable (store : MessageIdStore TransactionId) (event : MessageIdEvent TransactionId)
      (next : MessageIdStore TransactionId) (recorded : Recorded format store)
      (inTime : store.InTime format event) (taken : store.step format event = some next) :
      Recorded format next := recorded.step injective inTime taken
  have same (store : MessageIdStore TransactionId) (event : MessageIdEvent TransactionId)
      (recorded : Recorded format store) : store.WritesOnce format event ↔ store.InTime format event :=
    recorded.writesOnce_iff event
  exact stepsMeet_congr stable same events (recorded_start opened)

/-- A transaction id is a number, written as so many bytes. -/
def lengthFormat : TransactionIdFormat Nat where
  deserialize := fun bytes => .ok (some bytes.length)
  convertToBase64 := fun bytes =>
    if bytes = [10, 0] then "CgA=".toList else '-' :: bytes.map fun byte => Char.ofNat byte.toNat

theorem lengthFormat_injective : Function.Injective lengthFormat.convertToBase64 := by
  have ofNat_injective : Function.Injective fun byte : UInt8 => Char.ofNat byte.toNat := by
    intro first second same
    have toNat (byte : UInt8) : (Char.ofNat byte.toNat).toNat = byte.toNat := by
      unfold Char.ofNat
      rw [dif_pos (Or.inl (byte.toNat_lt.trans (by decide)))]
      rfl
    rw [← UInt8.toNat_inj, ← toNat first, ← toNat second]
    exact congrArg Char.toNat same
  intro first second same
  dsimp only [lengthFormat] at same
  split at same
  · split at same
    · simp_all
    · cases same
  · split at same
    · cases same
    · exact List.map_injective_iff.mpr ofNat_injective (List.cons.inj same).2

/-- An id expires from the memory cache and is looked up, which puts it there again. -/
theorem writesOnce_lookedUp : StepsMeet (step lengthFormat) (WritesOnce lengthFormat)
    [.add [10, 0] 1 true, .expire 2, .restart true, .getTransactionNrForHieroTransactionId [10, 0],
      .add [10, 0] 2 true] (start true) := by
  apply (writesOnce_iff_inTime lengthFormat_injective true _).mpr
  refine StepsMeet.cons ?_ rfl (StepsMeet.cons trivial rfl (StepsMeet.cons trivial rfl
    (StepsMeet.cons ?_ rfl (StepsMeet.cons ?_ rfl trivial))))
  · intro hieroTransactionId number added
    cases added.found
  · intro hieroTransactionId number added
    exact Or.inr (Or.inl ⟨rfl, nofun⟩)
  · intro hieroTransactionId number added
    cases added.deserialized
    exact nofun

/-- An id whose entry in the memory cache has expired is added with another number, which takes
the place of the first one in LevelDB. -/
theorem not_writesOnce_expired :
    ¬ StepsMeet (step lengthFormat) (WritesOnce lengthFormat)
      [.add [10, 0] 1 true, .expire 2, .add [10, 0] 2 true] (start true) ∧
    (runEvents (step lengthFormat)
        [.add [10, 0] 1 true, .expire 2, .add [10, 0] 2 true, .expire 2] (start true)).map
      (fun store => (HieroTransactionId.getTransactionNrForHieroTransactionId lengthFormat [10, 0]
        store.ids).1) = some (.ok 2) := by
  refine ⟨fun meets => ?_, by decide⟩
  have added := (meets.2 _ rfl).2 _ rfl
  cases added.1 2 1 ⟨rfl, rfl⟩

end MessageIdStore

end Cache

end GradidoNode

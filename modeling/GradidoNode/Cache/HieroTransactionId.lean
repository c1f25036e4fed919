import GradidoNode.Files.LevelDBWrapper

/-!
# Transactions by message id

The number of a transaction is cached under the id of its topic message, and stored in
LevelDB.
-/

namespace GradidoNode

open Library Files

namespace Cache

/-- What the blockchain library knows about transaction ids. -/
structure TransactionIdFormat (TransactionId : Type) where
  /-- The deserializing of bytes, which throws or yields no transaction id. -/
  deserialize : List UInt8 → Except Exception (Option TransactionId)
  convertToBase64 : List UInt8 → List Char

/-- `HieroTransactionId`. -/
structure HieroTransactionId (TransactionId : Type) [LinearOrder TransactionId] where
  initalized : Bool
  levelDBFile : LevelDB
  hieroTransactionIdTransactionNrs : OrderedMap TransactionId UInt64
  deriving DecidableEq

namespace HieroTransactionId

variable {TransactionId : Type} [LinearOrder TransactionId]
  (format : TransactionIdFormat TransactionId)

def fromProtobuf (transactionId : List UInt8) : Except Exception TransactionId :=
  match format.deserialize transactionId with
  | .error exception => .error exception
  | .ok none => .error (.gradidoNodeInvalidData
      "[cache::HieroTransactionId::fromProtobuf] transactionId cannot be deserialized as hiero::TransactionId")
  | .ok (some hieroTransactionId) => .ok hieroTransactionId

/-- `add`; `putOk` is the status LevelDB returns. The cache is filled before LevelDB. -/
def add (transactionId : List UInt8) (transactionNr : UInt64) (putOk : Bool) :
    Throwing (HieroTransactionId TransactionId) Unit := fun ids =>
  match fromProtobuf format transactionId with
  | .error exception => (.error exception, ids)
  | .ok hieroTransactionId =>
      match ids.hieroTransactionIdTransactionNrs.find? hieroTransactionId with
      | some _ =>
          (.error (.gradidoAlreadyExist "cache::HieroTransactionId already has key!"), ids)
      | none =>
          let ids := { ids with
            hieroTransactionIdTransactionNrs :=
              ids.hieroTransactionIdTransactionNrs.set hieroTransactionId transactionNr }
          if ids.initalized then
            Fallible.onPart levelDBFile (fun ids levelDBFile => { ids with levelDBFile := levelDBFile })
              (LevelDB.setKeyValue (format.convertToBase64 transactionId)
                (LevelDB.to_string transactionNr.toNat) putOk) ids
          else (.ok (), ids)

/-- `readFromLevelDb`; what is found is put into the cache. -/
def readFromLevelDb (transactionId : List UInt8) (transactionIdObj : TransactionId) :
    Throwing (HieroTransactionId TransactionId) UInt64 := fun ids =>
  if ids.initalized then
    match ids.levelDBFile.find? (format.convertToBase64 transactionId) with
    | none => (.ok 0, ids)
    | some value =>
        match LevelDB.stoull value with
        | .error exception => (.error exception, ids)
        | .ok transactionNr => (.ok transactionNr, { ids with
            hieroTransactionIdTransactionNrs :=
              ids.hieroTransactionIdTransactionNrs.set transactionIdObj transactionNr })
  else (.ok 0, ids)

/-- `has`, which tells no number. -/
def has (transactionId : List UInt8) : Throwing (HieroTransactionId TransactionId) Bool :=
  fun ids =>
    match fromProtobuf format transactionId with
    | .error exception => (.error exception, ids)
    | .ok hieroTransactionId =>
        match ids.hieroTransactionIdTransactionNrs.find? hieroTransactionId with
        | some _ => (.ok true, ids)
        | none =>
            (readFromLevelDb format transactionId hieroTransactionId).andThen
              (fun transactionNr => Fallible.outcome (.ok (transactionNr != 0))) ids

/-- `getTransactionNrForHieroTransactionId`, which yields 0 for an id that is not found. -/
def getTransactionNrForHieroTransactionId (transactionId : List UInt8) :
    Throwing (HieroTransactionId TransactionId) UInt64 := fun ids =>
  match fromProtobuf format transactionId with
  | .error exception => (.error exception, ids)
  | .ok hieroTransactionId =>
      match ids.hieroTransactionIdTransactionNrs.find? hieroTransactionId with
      | some transactionNr => (.ok transactionNr, ids)
      | none => readFromLevelDb format transactionId hieroTransactionId ids

/-- `init`; `opened` is whether LevelDB could be opened. -/
def init (opened : Bool) : Throwing (HieroTransactionId TransactionId) Bool := fun ids =>
  if ids.initalized then
    (.error (.classAlreadyInitalized "init was already called" "cache::MessageId"), ids)
  else if !opened then (.ok false, ids)
  else (.ok true, { ids with initalized := true })

/-- `reset`, which leaves `mInitalized` as it is. -/
def reset (ids : HieroTransactionId TransactionId) : HieroTransactionId TransactionId :=
  { ids with
    levelDBFile := ∅
    hieroTransactionIdTransactionNrs := ∅ }

/-- `exit`, which leaves the memory cache as it is. -/
def exit (ids : HieroTransactionId TransactionId) : HieroTransactionId TransactionId :=
  { ids with initalized := false }

/-- The id is in the memory cache, or LevelDB has a number other than 0 for it. -/
def Known (ids : HieroTransactionId TransactionId) (transactionId : List UInt8) : Prop :=
  ∃ hieroTransactionId, fromProtobuf format transactionId = .ok hieroTransactionId ∧
    (ids.hieroTransactionIdTransactionNrs.find? hieroTransactionId ≠ none ∨
      ids.initalized = true ∧
        ∃ value transactionNr, ids.levelDBFile.find? (format.convertToBase64 transactionId) =
          some value ∧ LevelDB.stoull value = .ok transactionNr ∧ transactionNr ≠ 0)

/-- The id is in neither; a 0 in LevelDB counts as absent. -/
def Unknown (ids : HieroTransactionId TransactionId) (transactionId : List UInt8) : Prop :=
  ∃ hieroTransactionId, fromProtobuf format transactionId = .ok hieroTransactionId ∧
    ids.hieroTransactionIdTransactionNrs.find? hieroTransactionId = none ∧
    (ids.initalized = true → ∀ value,
      ids.levelDBFile.find? (format.convertToBase64 transactionId) = some value →
        LevelDB.stoull value = .ok 0)

/-- A message id that can be added, under what it deserializes to. -/
structure Addable (ids : HieroTransactionId TransactionId) (transactionId : List UInt8)
    (putOk : Bool) (hieroTransactionId : TransactionId) : Prop where
  deserialized : fromProtobuf format transactionId = .ok hieroTransactionId
  absent : ids.hieroTransactionIdTransactionNrs.find? hieroTransactionId = none
  stored : ids.initalized = true → putOk = true

/-- The number is found under the message id, in memory and in LevelDB if it is open. -/
structure Knows (ids : HieroTransactionId TransactionId) (transactionId : List UInt8)
    (transactionNr : UInt64) : Prop where
  cached : ∃ hieroTransactionId, fromProtobuf format transactionId = .ok hieroTransactionId ∧
    ids.hieroTransactionIdTransactionNrs.find? hieroTransactionId = some transactionNr
  stored : ids.initalized = true → ids.levelDBFile.find? (format.convertToBase64 transactionId) =
    some (LevelDB.to_string transactionNr.toNat)

variable {format}

theorem add_ok_iff {transactionId : List UInt8} {transactionNr : UInt64} {putOk : Bool}
    {ids : HieroTransactionId TransactionId} :
    (∃ next, add format transactionId transactionNr putOk ids = (.ok (), next)) ↔
      ∃ hieroTransactionId, ids.Addable format transactionId putOk hieroTransactionId := by
  constructor
  · rintro ⟨next, added⟩
    unfold add at added
    split at added
    · cases added
    · rename_i hieroTransactionId deserialized
      split at added
      · cases added
      · rename_i absent
        refine ⟨hieroTransactionId, deserialized, absent, fun initalized => ?_⟩
        rw [if_pos initalized] at added
        cases putOk with
        | true => rfl
        | false => cases added
  · rintro ⟨hieroTransactionId, deserialized, absent, stored⟩
    unfold add
    simp only [deserialized, absent]
    by_cases initalized : ids.initalized = true
    · rw [if_pos initalized, stored initalized]
      exact ⟨_, rfl⟩
    · rw [if_neg initalized]
      exact ⟨_, rfl⟩

/-- What is done for an id that the memory cache does not have. -/
theorem add_of_absent {transactionId : List UInt8} {hieroTransactionId : TransactionId}
    {ids : HieroTransactionId TransactionId}
    (deserialized : fromProtobuf format transactionId = .ok hieroTransactionId)
    (absent : ids.hieroTransactionIdTransactionNrs.find? hieroTransactionId = none)
    (transactionNr : UInt64) (putOk : Bool) :
    add format transactionId transactionNr putOk ids =
      let ids := { ids with
        hieroTransactionIdTransactionNrs :=
          ids.hieroTransactionIdTransactionNrs.set hieroTransactionId transactionNr }
      if ids.initalized = false then (.ok (), ids)
      else if putOk then (.ok (), { ids with
        levelDBFile := ids.levelDBFile.set (format.convertToBase64 transactionId)
          (LevelDB.to_string transactionNr.toNat) })
      else (.error (.levelDBStatus "cannot put to level db"), ids) := by
  unfold add
  simp only [deserialized, absent]
  cases initalized : ids.initalized with
  | false => rfl
  | true => cases putOk <;> rfl

theorem add_of_present {transactionId : List UInt8} {hieroTransactionId : TransactionId}
    {ids : HieroTransactionId TransactionId}
    (deserialized : fromProtobuf format transactionId = .ok hieroTransactionId)
    (present : ids.hieroTransactionIdTransactionNrs.find? hieroTransactionId ≠ none)
    (transactionNr : UInt64) (putOk : Bool) :
    add format transactionId transactionNr putOk ids =
      (.error (.gradidoAlreadyExist "cache::HieroTransactionId already has key!"), ids) := by
  obtain ⟨number, found⟩ := Option.ne_none_iff_exists'.mp present
  unfold add
  simp only [deserialized, found]

/-- What was added is found. -/
theorem knows_of_add {transactionId : List UInt8} {transactionNr : UInt64} {putOk : Bool}
    {ids next : HieroTransactionId TransactionId}
    (added : add format transactionId transactionNr putOk ids = (.ok (), next)) :
    next.Knows format transactionId transactionNr := by
  obtain ⟨hieroTransactionId, deserialized, absent, stored⟩ := add_ok_iff.mp ⟨next, added⟩
  unfold add at added
  simp only [deserialized, absent] at added
  by_cases initalized : ids.initalized = true
  · rw [if_pos initalized, stored initalized] at added
    cases added
    exact ⟨⟨hieroTransactionId, deserialized, OrderedMap.find?_alter_self _ _ _⟩,
      fun _ => OrderedMap.find?_alter_self _ _ _⟩
  · rw [if_neg initalized] at added
    cases added
    exact ⟨⟨hieroTransactionId, deserialized, OrderedMap.find?_alter_self _ _ _⟩,
      fun opened => absurd opened initalized⟩

/-- What `has` yields for an id that deserializes. -/
theorem has_of_deserialized {ids : HieroTransactionId TransactionId} {transactionId : List UInt8}
    {hieroTransactionId : TransactionId}
    (deserialized : fromProtobuf format transactionId = .ok hieroTransactionId) :
    (has format transactionId ids).1 =
      match ids.hieroTransactionIdTransactionNrs.find? hieroTransactionId with
      | some _ => .ok true
      | none =>
          (readFromLevelDb format transactionId hieroTransactionId ids).1.map
            fun transactionNr => transactionNr != 0 := by
  unfold has
  rw [deserialized]
  dsimp only
  cases ids.hieroTransactionIdTransactionNrs.find? hieroTransactionId with
  | some transactionNr => rfl
  | none =>
      dsimp only
      rcases taken : readFromLevelDb format transactionId hieroTransactionId ids with
        ⟨exception | transactionNr, next⟩
      · rw [Fallible.andThen_of_error taken]
        rfl
      · rw [Fallible.andThen_of_ok taken]
        rfl

theorem readFromLevelDb_fst (ids : HieroTransactionId TransactionId) (transactionId : List UInt8)
    (hieroTransactionId : TransactionId) :
    (readFromLevelDb format transactionId hieroTransactionId ids).1 =
      if ids.initalized then
        match ids.levelDBFile.find? (format.convertToBase64 transactionId) with
        | none => .ok 0
        | some value => LevelDB.stoull value
      else .ok 0 := by
  unfold readFromLevelDb
  by_cases initalized : ids.initalized = true
  · rw [if_pos initalized, if_pos initalized]
    cases ids.levelDBFile.find? (format.convertToBase64 transactionId) with
    | none => rfl
    | some value =>
        dsimp only
        cases LevelDB.stoull value with
        | error exception => rfl
        | ok transactionNr => rfl
  · rw [if_neg initalized, if_neg initalized]

theorem isNumber_true_iff {number : Except Exception UInt64} :
    (number.map fun transactionNr => transactionNr != 0) = .ok true ↔
      ∃ transactionNr, number = .ok transactionNr ∧ transactionNr ≠ 0 := by
  cases number with
  | error exception => simp [Except.map]
  | ok transactionNr => simp [Except.map]

theorem isNumber_false_iff {number : Except Exception UInt64} :
    (number.map fun transactionNr => transactionNr != 0) = .ok false ↔ number = .ok 0 := by
  cases number with
  | error exception => simp [Except.map]
  | ok transactionNr => simp [Except.map]

theorem has_true_iff {ids : HieroTransactionId TransactionId} {transactionId : List UInt8} :
    (has format transactionId ids).1 = .ok true ↔ ids.Known format transactionId := by
  cases deserialized : fromProtobuf format transactionId with
  | error exception => simp [has, Known, deserialized]
  | ok hieroTransactionId =>
      rw [has_of_deserialized deserialized]
      unfold Known
      simp only [deserialized, Except.ok.injEq, exists_eq_left']
      cases ids.hieroTransactionIdTransactionNrs.find? hieroTransactionId with
      | some transactionNr => simp
      | none =>
          dsimp only
          rw [isNumber_true_iff, readFromLevelDb_fst]
          by_cases initalized : ids.initalized = true
          · rw [if_pos initalized]
            cases ids.levelDBFile.find? (format.convertToBase64 transactionId) with
            | none => simp
            | some value => simp [initalized]
          · rw [if_neg initalized]
            simp [initalized]

theorem has_false_iff {ids : HieroTransactionId TransactionId} {transactionId : List UInt8} :
    (has format transactionId ids).1 = .ok false ↔ ids.Unknown format transactionId := by
  cases deserialized : fromProtobuf format transactionId with
  | error exception => simp [has, Unknown, deserialized]
  | ok hieroTransactionId =>
      rw [has_of_deserialized deserialized]
      unfold Unknown
      simp only [deserialized, Except.ok.injEq, exists_eq_left']
      cases ids.hieroTransactionIdTransactionNrs.find? hieroTransactionId with
      | some transactionNr => simp
      | none =>
          dsimp only
          rw [isNumber_false_iff, readFromLevelDb_fst]
          by_cases initalized : ids.initalized = true
          · rw [if_pos initalized]
            cases ids.levelDBFile.find? (format.convertToBase64 transactionId) with
            | none => simp
            | some value => simp [initalized]
          · rw [if_neg initalized]
            simp [initalized]

end HieroTransactionId

end Cache

end GradidoNode

import GradidoNode.Cache.State
import GradidoNode.Data.Timestamp
import GradidoNode.Library.OrderedMultimap
import GradidoNode.Library.Run

/-!
# Trigger events of transactions

The events wait in memory in the order of their target dates. They are written to LevelDB
under the seconds of the target date.
-/

namespace GradidoNode

open Library Files

namespace Data

/-- The kinds of trigger events, of which the node names one. -/
inductive TransactionTriggerEventType
  | DEFERRED_TIMEOUT_REVERSAL
  | other (value : UInt8)
  deriving DecidableEq, Repr

structure TransactionTriggerEvent where
  linkedTransactionId : UInt64
  targetDate : Timestamp
  type : TransactionTriggerEventType
  deriving DecidableEq, Repr

/-- `isTheSame`. -/
def TransactionTriggerEvent.isTheSame (event other : TransactionTriggerEvent) : Bool :=
  event.linkedTransactionId = other.linkedTransactionId &&
    event.targetDate = other.targetDate && event.type = other.type

theorem TransactionTriggerEvent.isTheSame_iff {event other : TransactionTriggerEvent} :
    event.isTheSame other = true ↔ event = other := by
  obtain ⟨linkedTransactionId, targetDate, type⟩ := event
  obtain ⟨otherLinkedTransactionId, otherTargetDate, otherType⟩ := other
  simp [isTheSame, and_assoc]

end Data

namespace Cache

/-- What the blockchain library knows about stored events. A stored event is the base64 of
its serialization. -/
structure EventFormat where
  convertToBase64 : Data.TransactionTriggerEvent → List UInt8
  /-- Reading base64 and deserializing, which throws or yields no trigger event. -/
  fromBase64 : List UInt8 → Except Exception (Option Data.TransactionTriggerEvent)
  /-- The round trip. -/
  fromBase64_convertToBase64 : ∀ event, fromBase64 (convertToBase64 event) = .ok (some event)
  comma_notMem : ∀ event, 44 ∉ convertToBase64 event
  convertToBase64_ne_nil : ∀ event, convertToBase64 event ≠ []

/-- `TransactionTriggerEvent`, on top of its `State`. -/
structure TransactionTriggerEvent where
  state : State
  transactionTriggerEvents : OrderedMultimap Data.Timestamp Data.TransactionTriggerEvent
  deriving DecidableEq

namespace TransactionTriggerEvent

variable (format : EventFormat)

/-- The constructor, on a folder whose LevelDB has the given entries. -/
def new (stateFile : LevelDB) : TransactionTriggerEvent where
  state := { initalized := false, stateFile := stateFile }
  transactionTriggerEvents := ∅

/-- `reset`; a `State` that was not initialised stays so. -/
def reset (cache : TransactionTriggerEvent) : TransactionTriggerEvent where
  state := cache.state.reset
  transactionTriggerEvents := ∅

/-- An event enters the memory. -/
def insert (event : Data.TransactionTriggerEvent) (cache : TransactionTriggerEvent) :
    TransactionTriggerEvent :=
  { cache with
    transactionTriggerEvents := cache.transactionTriggerEvents.insert event.targetDate event }

/-- The loop of `init` through the base64 segments of a value, which are separated by
commas. It yields false at a segment that is no event. There are at most `fuel` segments. -/
def readSegments : Nat → List UInt8 → Throwing TransactionTriggerEvent Bool
  | 0, _ => Fallible.outcome (.ok true)
  | fuel + 1, value =>
      if value.isEmpty then Fallible.outcome (.ok true)
      else
        match format.fromBase64 (value.takeWhile (· ≠ 44)) with
        | .error exception => Fallible.outcome (.error exception)
        | .ok none => Fallible.outcome (.ok false)
        | .ok (some event) => fun cache =>
            readSegments fuel ((value.dropWhile (· ≠ 44)).drop 1) (insert event cache)

/-- `readAllStates` with the callback of `init`. -/
def readAllStates : List (List Char × List UInt8) → Bool → Throwing TransactionTriggerEvent Bool
  | [], result => Fallible.outcome (.ok result)
  | entry :: rest, result =>
      (readSegments format entry.2.length entry.2).andThen fun whole =>
        readAllStates rest (result && whole)

def init (opened : Bool) : Throwing TransactionTriggerEvent Bool :=
  (Fallible.onPart state (fun cache state => { cache with state := state })
    (State.init opened)).andThen fun result cache =>
      if !result then (.ok result, cache)
      else readAllStates format cache.state.stateFile.toList result cache

/-- `std::to_string`. -/
def to_string (number : Int64) : List Char :=
  if number.toInt < 0 then '-' :: Nat.toDigits 10 number.toInt.natAbs
  else Nat.toDigits 10 number.toInt.natAbs

/-- The loop of `updateState` over the range of a target date. Its iterator is the start of
the range itself, so it never differs from the start and no comma is written. -/
def writeRange (events : List Data.TransactionTriggerEvent) : List UInt8 :=
  events.flatMap format.convertToBase64

/-- `updateState`; `storeOk` is the status LevelDB returns. -/
def updateState (targetDate : Data.Timestamp) (storeOk : Bool) :
    Throwing TransactionTriggerEvent Unit := fun cache =>
  let range := cache.transactionTriggerEvents.equalRange targetDate
  let key := to_string targetDate.seconds
  if range.isEmpty then
    (.ok (), { cache with state := cache.state.removeState key storeOk })
  else
    Fallible.onPart state (fun cache state => { cache with state := state })
      (State.updateStateOf key (writeRange format range) storeOk) cache

def addTransactionTriggerEvent (event : Data.TransactionTriggerEvent) (storeOk : Bool) :
    Throwing TransactionTriggerEvent Unit := fun cache =>
  updateState format event.targetDate storeOk (insert event cache)

def removeTransactionTriggerEvent (event : Data.TransactionTriggerEvent) (storeOk : Bool) :
    Throwing TransactionTriggerEvent Unit := fun cache =>
  if (cache.transactionTriggerEvents.equalRange event.targetDate).any event.isTheSame then
    updateState format event.targetDate storeOk { cache with
      transactionTriggerEvents :=
        cache.transactionTriggerEvents.eraseFirst event.targetDate event.isTheSame }
  else (.ok (), cache)

/-- A freshly opened cache on an empty LevelDB. -/
def started : TransactionTriggerEvent := (init format true (new ∅)).2

/-- After a restart the same events are in memory as before, in any order. -/
def SurvivesRestart (cache : TransactionTriggerEvent) : Prop :=
  ∃ loaded, init format true (new cache.state.stateFile) = (.ok true, loaded) ∧
    loaded.transactionTriggerEvents.values.Perm cache.transactionTriggerEvents.values

end TransactionTriggerEvent

/-- A call, with the status LevelDB returns should it be asked. -/
inductive TriggerEventCall
  | addTransactionTriggerEvent (event : Data.TransactionTriggerEvent) (storeOk : Bool)
  | removeTransactionTriggerEvent (event : Data.TransactionTriggerEvent) (storeOk : Bool)
  deriving DecidableEq, Repr

namespace TransactionTriggerEvent

/-- A call that throws leaves what it has changed. -/
def step (format : EventFormat) (cache : TransactionTriggerEvent) :
    TriggerEventCall → Option TransactionTriggerEvent
  | .addTransactionTriggerEvent event storeOk =>
      some (addTransactionTriggerEvent format event storeOk cache).2
  | .removeTransactionTriggerEvent event storeOk =>
      some (removeTransactionTriggerEvent format event storeOk cache).2

end TransactionTriggerEvent

end Cache

end GradidoNode

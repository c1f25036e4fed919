import GradidoNode.Files.LevelDBWrapper

/-!
# The stored state of a blockchain

Single values under fixed keys, such as the number of the last transaction.
-/

namespace GradidoNode

open Library Files

namespace Cache

inductive DefaultStateKeys
  | LAST_ADDRESS_INDEX
  | LAST_BLOCK_NR
  | LAST_TRANSACTION_ID
  | LAST_HIERO_TOPIC_SEQUENCE_NUMBER
  | LAST_HIERO_TOPIC_ID
  | MAX
  deriving DecidableEq, Repr

/-- `magic_enum::enum_name`. -/
def DefaultStateKeys.enum_name : DefaultStateKeys → String
  | LAST_ADDRESS_INDEX => "LAST_ADDRESS_INDEX"
  | LAST_BLOCK_NR => "LAST_BLOCK_NR"
  | LAST_TRANSACTION_ID => "LAST_TRANSACTION_ID"
  | LAST_HIERO_TOPIC_SEQUENCE_NUMBER => "LAST_HIERO_TOPIC_SEQUENCE_NUMBER"
  | LAST_HIERO_TOPIC_ID => "LAST_HIERO_TOPIC_ID"
  | MAX => "MAX"

structure State where
  initalized : Bool
  stateFile : LevelDB
  deriving DecidableEq

namespace State

/-- `updateState`, whose overloads differ in how they write the value as text. -/
def updateState (key : DefaultStateKeys) (value : List UInt8) (putOk : Bool) :
    Throwing State Unit := fun state =>
  if !state.initalized then
    (.error (.classNotInitalized "cannot update state, state wasn't initalized" "cache::State"),
      state)
  else
    Fallible.onPart stateFile (fun state stateFile => { state with stateFile := stateFile })
      (LevelDB.setKeyValue key.enum_name.toList value putOk) state

/-- `updateState` of any key. -/
def updateStateOf (key : List Char) (value : List UInt8) (putOk : Bool) :
    Throwing State Unit := fun state =>
  if !state.initalized then
    (.error (.classNotInitalized "cannot update state, state wasn't initalized" "cache::State"),
      state)
  else
    Fallible.onPart stateFile (fun state stateFile => { state with stateFile := stateFile })
      (LevelDB.setKeyValue key value putOk) state

/-- `init`; `opened` is whether LevelDB could be opened. -/
def init (opened : Bool) : Throwing State Bool := fun state =>
  if state.initalized then
    (.error (.classAlreadyInitalized "init was already called" "cache::State"), state)
  else if !opened then (.ok false, state)
  else (.ok true, { state with initalized := true })

/-- `removeState`; `deleteOk` is the status LevelDB returns. -/
def removeState (key : List Char) (deleteOk : Bool) (state : State) : State :=
  if state.initalized then
    { state with stateFile := LevelDB.removeKey key deleteOk state.stateFile }
  else state

/-- `reset`, which leaves an empty LevelDB. -/
def reset (state : State) : State := { state with stateFile := ∅ }

/-- The value of a key, which all the reading functions look up. -/
def value? (state : State) (key : DefaultStateKeys) : Option (List UInt8) :=
  state.stateFile.find? key.enum_name.toList

theorem updateStateOf_ok_iff {key : List Char} {value : List UInt8} {putOk : Bool}
    {state next : State} :
    updateStateOf key value putOk state = (.ok (), next) ↔
      state.initalized = true ∧ putOk = true ∧
        next = { state with stateFile := state.stateFile.set key value } := by
  unfold updateStateOf
  cases initalized : state.initalized with
  | false => simp
  | true => cases putOk <;> simp [Fallible.onPart, LevelDB.setKeyValue, initalized, eq_comm]

theorem updateState_ok_iff {key : DefaultStateKeys} {value : List UInt8} {putOk : Bool}
    {state next : State} :
    updateState key value putOk state = (.ok (), next) ↔
      state.initalized = true ∧ putOk = true ∧
        next = { state with stateFile := state.stateFile.set key.enum_name.toList value } :=
  updateStateOf_ok_iff

theorem value?_set (state : State) (key : DefaultStateKeys) (value : List UInt8) :
    ({ state with stateFile := state.stateFile.set key.enum_name.toList value } : State).value?
      key = some value :=
  OrderedMap.find?_alter_self _ _ _

theorem enum_name_injective : Function.Injective DefaultStateKeys.enum_name := by
  intro first second same
  cases first <;> cases second <;> first | rfl | (exact absurd same (by decide))

theorem value?_set_of_ne (state : State) {key other : DefaultStateKeys} (differ : other ≠ key)
    (value : List UInt8) :
    ({ state with stateFile := state.stateFile.set key.enum_name.toList value } : State).value?
      other = state.value? other := by
  apply OrderedMap.find?_alter_of_ne
  intro same
  exact differ (enum_name_injective (String.toList_inj.mp same))

/-- `isspace` of a byte. -/
def isSpace (byte : UInt8) : Bool := byte = 32 || (9 ≤ byte && byte ≤ 13)

/-- The digits at the start of a text. -/
def digitsValue (text : List UInt8) : Nat :=
  (text.takeWhile fun byte => 48 ≤ byte && byte ≤ 57).foldl
    (fun value byte => 10 * value + (byte.toNat - 48)) 0

/-- The signed number of 64 bits that is nearest to a number. -/
def saturate (number : Int) : Int64 :=
  if number < Int64.minValue.toInt then Int64.minValue
  else if Int64.maxValue.toInt < number then Int64.maxValue
  else Int64.ofInt number

/-- `strtoll` in base ten, which yields the nearest number it can represent. -/
def strtoll (text : List UInt8) : Int64 :=
  match text.dropWhile isSpace with
  | 45 :: digits => saturate (-(digitsValue digits : Int))
  | 43 :: digits => saturate (digitsValue digits)
  | digits => saturate (digitsValue digits)

/-- `atoi`, which reads a `long` and cuts it to an `int`. -/
def atoi (text : List UInt8) : Int32 := (strtoll text).toInt32

/-- `LevelDBWrapper::getValueForKey`; `getOk` is whether LevelDB can read. -/
def getValueForKey (state : State) (key : DefaultStateKeys) (getOk : Bool) : Option (List UInt8) :=
  if getOk then state.value? key else none

def readInt32State (state : State) (key : DefaultStateKeys) (defaultValue : Int32)
    (getOk : Bool) : Int32 :=
  if !state.initalized then defaultValue
  else
    match state.getValueForKey key getOk with
    | some text => atoi text
    | none => defaultValue

theorem readInt32State_congr {state other : State} {key : DefaultStateKeys}
    (initalized : state.initalized = other.initalized)
    (same : state.value? key = other.value? key) (defaultValue : Int32) (getOk : Bool) :
    state.readInt32State key defaultValue getOk = other.readInt32State key defaultValue getOk := by
  unfold readInt32State getValueForKey
  rw [initalized, same]

end State

end Cache

end GradidoNode

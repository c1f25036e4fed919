import GradidoNode.Cache.State
import GradidoNode.Library.FixedWidth
import GradidoNode.Library.Run

/-!
# Stored values across restarts

LevelDB knows texts only. Numbers are written in base ten and read as the C library reads them. What
a key reads as is the value that was stored last, also after a restart, and an unsigned number too
large for a signed one reads as the largest.
-/

namespace GradidoNode

open Library Files

namespace Cache

/-- The argument of one of the overloads of `updateState`. -/
inductive StateValue
  | text (value : List UInt8)
  | int32 (value : Int32)
  | uint32 (value : UInt32)
  | int64 (value : Int64)
  | uint64 (value : UInt64)
  deriving DecidableEq

/-- The number that is written, if it is one. -/
def StateValue.number? : StateValue → Option Int
  | text _ => none
  | int32 value => some value.toInt
  | uint32 value => some value.toNat
  | int64 value => some value.toInt
  | uint64 value => some value.toNat

namespace State

/-- The bytes of an ASCII text. -/
def bytes (text : List Char) : List UInt8 := text.map fun character => UInt8.ofNat character.toNat

/-- What the overload writes; `std::to_string` for numbers. -/
def textOf : StateValue → List UInt8
  | .text value => value
  | .int32 value => bytes (DecimalText.ofInt value.toInt)
  | .uint32 value => bytes (DecimalText.ofInt value.toNat)
  | .int64 value => bytes (DecimalText.ofInt value.toInt)
  | .uint64 value => bytes (DecimalText.ofInt value.toNat)

def readInt64State (state : State) (key : DefaultStateKeys) (defaultValue : Int64)
    (getOk : Bool) : Int64 :=
  if !state.initalized then defaultValue
  else
    match state.getValueForKey key getOk with
    | some text => strtoll text
    | none => defaultValue

def readState (state : State) (key : DefaultStateKeys) (defaultValue : List UInt8)
    (getOk : Bool) : List UInt8 :=
  if !state.initalized then defaultValue
  else
    match state.getValueForKey key getOk with
    | some text => text
    | none => defaultValue

/-- The constructor, on a folder with these entries. -/
def new (stateFile : LevelDB) : State where
  initalized := false
  stateFile := stateFile

/-- `exit`. -/
def exit (state : State) : State := { state with initalized := false }

end State

/-- The calls, with what LevelDB answers should it be asked. After `restart`, the process is another
one, with the same folder. A reset closes LevelDB, and opens it again if it can. -/
inductive StateEvent
  | updateState (key : DefaultStateKeys) (value : StateValue) (putOk : Bool)
  | removeState (key : DefaultStateKeys) (deleteOk : Bool)
  | init (opened : Bool)
  | exit
  | reset (opened : Bool)
  | restart
  deriving DecidableEq

namespace State

/-- A call that throws leaves what it has changed. Behind a reset that does not open LevelDB again,
there is none, and the next access is undefined. -/
def step (state : State) : StateEvent → Option State
  | .updateState key value putOk => some (updateState key (textOf value) putOk state).2
  | .removeState key deleteOk => some (state.removeState key.enum_name.toList deleteOk)
  | .init opened => some (init opened state).2
  | .exit => some state.exit
  | .reset opened => if opened then some state.reset else none
  | .restart => some (new state.stateFile)

/-! ## Values instead of texts -/

/-- The store as its users see it. -/
structure Stored where
  initalized : Bool
  values : DefaultStateKeys → Option StateValue

def storedStep (stored : Stored) : StateEvent → Stored
  | .updateState key value putOk =>
      if stored.initalized && putOk then
        { stored with values := Function.update stored.values key (some value) }
      else stored
  | .removeState key deleteOk =>
      if stored.initalized && deleteOk then
        { stored with values := Function.update stored.values key none }
      else stored
  | .init opened => { stored with initalized := stored.initalized || opened }
  | .exit => { stored with initalized := false }
  | .reset _ => { stored with values := fun _ => none }
  | .restart => { stored with initalized := false }

/-- What is stored after the events, from an empty folder on. -/
def stored (events : List StateEvent) : Stored :=
  events.foldl storedStep { initalized := false, values := fun _ => none }

/-- The texts of a state are those of the values. -/
structure Represents (stored : Stored) (state : State) : Prop where
  initalized : state.initalized = stored.initalized
  values : ∀ key, state.value? key = (stored.values key).map textOf

variable {state next : State} {stored : Stored}

/-- Writing a value represents it. -/
theorem Represents.update (represents : Represents stored state) (key : DefaultStateKeys)
    (value : StateValue) :
    Represents { stored with values := Function.update stored.values key (some value) }
      { state with stateFile := state.stateFile.set key.enum_name.toList (textOf value) } where
  initalized := represents.initalized
  values other := by
    dsimp only
    by_cases same : other = key
    · subst same
      rw [Function.update_self]
      exact value?_set state other (textOf value)
    · rw [Function.update_of_ne same]
      exact (value?_set_of_ne state same (textOf value)).trans (represents.values other)

/-- Erasing a key represents nothing under it. -/
theorem Represents.erase (represents : Represents stored state) (key : DefaultStateKeys) :
    Represents { stored with values := Function.update stored.values key none }
      { state with stateFile := state.stateFile.erase key.enum_name.toList } where
  initalized := represents.initalized
  values other := by
    dsimp only
    by_cases same : other = key
    · subst same
      rw [Function.update_self]
      exact OrderedMap.find?_erase_self _ _
    · rw [Function.update_of_ne same]
      refine (OrderedMap.find?_erase_of_ne _ ?_).trans (represents.values other)
      exact fun sameName => same (enum_name_injective (String.toList_inj.mp sameName))

/-- Every call on the state is the one on the values stored. -/
theorem Represents.step (represents : Represents stored state) {event : StateEvent}
    (taken : state.step event = some next) : Represents (storedStep stored event) next := by
  obtain ⟨initalized, stateFile⟩ := state
  obtain ⟨isStored, values⟩ := stored
  obtain rfl : initalized = isStored := represents.initalized
  cases event with
  | updateState key value putOk =>
      cases taken
      cases initalized with
      | false => exact represents
      | true =>
          cases putOk with
          | false => exact represents
          | true => exact represents.update key value
  | removeState key deleteOk =>
      cases taken
      cases initalized with
      | false => exact represents
      | true =>
          cases deleteOk with
          | false => exact represents
          | true => exact represents.erase key
  | init opened =>
      cases taken
      cases initalized with
      | true => exact represents
      | false =>
          cases opened with
          | false => exact represents
          | true => exact ⟨rfl, represents.values⟩
  | exit =>
      cases taken
      exact ⟨rfl, represents.values⟩
  | reset opened =>
      cases opened with
      | false => cases taken
      | true =>
          cases taken
          exact ⟨represents.initalized, fun _ => rfl⟩
  | restart =>
      cases taken
      exact ⟨rfl, represents.values⟩

/-- So is every run of calls. -/
theorem Represents.run {events : List StateEvent} (represents : Represents stored state)
    (reached : runEvents State.step events state = some next) :
    Represents (events.foldl storedStep stored) next := by
  induction events generalizing stored state with
  | nil =>
      cases reached
      exact represents
  | cons event events ih =>
      obtain ⟨_, taken, rest⟩ := runEvents_cons.mp reached
      exact ih (represents.step taken) rest

/-! ## Numbers as texts -/

@[simp] theorem bytes_cons (character : Char) (text : List Char) :
    bytes (character :: text) = UInt8.ofNat character.toNat :: bytes text := rfl

/-- A digit's byte is the digit's code. -/
theorem toNat_byte {character : Char} (isDigit : character.isDigit = true) :
    (UInt8.ofNat character.toNat).toNat = character.toNat ∧ 48 ≤ character.toNat ∧
      character.toNat ≤ 57 := by
  obtain ⟨above, below⟩ := Char.isDigit_iff_toNat.mp isDigit
  change 48 ≤ character.toNat at above
  change character.toNat ≤ 57 at below
  rw [UInt8.toNat_ofNat', Nat.mod_eq_of_lt (by omega)]
  exact ⟨rfl, above, below⟩

/-- The value of digits written as bytes. -/
theorem digitsValue_bytes {digits : List Char}
    (allDigits : ∀ character ∈ digits, character.isDigit = true) :
    digitsValue (bytes digits) = Nat.ofDigitChars 10 digits 0 := by
  have whole : (bytes digits).takeWhile (fun byte => 48 ≤ byte && byte ≤ 57) = bytes digits := by
    apply List.takeWhile_eq_self_iff.mpr
    intro byte member
    obtain ⟨character, isCharacter, rfl⟩ := List.mem_map.mp member
    obtain ⟨same, above, below⟩ := toNat_byte (allDigits character isCharacter)
    rw [Bool.and_eq_true, decide_eq_true_iff, decide_eq_true_iff, UInt8.le_iff_toNat_le,
      UInt8.le_iff_toNat_le, same]
    exact ⟨above, below⟩
  unfold digitsValue
  rw [whole, Nat.ofDigitChars_eq_foldl, bytes, List.foldl_map]
  apply List.foldl_ext
  intro value character member
  rw [(toNat_byte (allDigits character member)).1]
  rfl

/-- The digits of a number have its value. -/
theorem digitsValue_toDigits (number : Nat) :
    digitsValue (bytes (Nat.toDigits 10 number)) = number := by
  rw [digitsValue_bytes fun _ member => Nat.isDigit_of_mem_toDigits (by decide) (by decide) member]
  exact Nat.ofDigitChars_ten_toDigits

/-- What reads a text with white space and a sign in front, reads a written number. -/
theorem signed_of_ofInt {Result : Type} (read : Int → Result) (number : Int) :
    (match (bytes (DecimalText.ofInt number)).dropWhile isSpace with
      | 45 :: digits => read (-(digitsValue digits : Int))
      | 43 :: digits => read (digitsValue digits)
      | digits => read (digitsValue digits)) = read number := by
  unfold DecimalText.ofInt
  split_ifs with negative
  · have noSpace : (bytes ('-' :: Nat.toDigits 10 number.natAbs)).dropWhile isSpace =
        45 :: bytes (Nat.toDigits 10 number.natAbs) := rfl
    rw [noSpace]
    change read (-(digitsValue (bytes (Nat.toDigits 10 number.natAbs)) : Int)) = read number
    rw [digitsValue_toDigits]
    congr 1
    omega
  · have isNumber : digitsValue (bytes (Nat.toDigits 10 number.natAbs)) = number.natAbs :=
      digitsValue_toDigits number.natAbs
    have digits (character : Char) (member : character ∈ Nat.toDigits 10 number.natAbs) :
        character.isDigit = true := Nat.isDigit_of_mem_toDigits (by decide) (by decide) member
    cases text : Nat.toDigits 10 number.natAbs with
    | nil => exact absurd text Nat.toDigits_ne_nil
    | cons character rest =>
        rw [text] at isNumber digits
        obtain ⟨same, above, below⟩ := toNat_byte (digits character (List.mem_cons_self ..))
        have notSpace : isSpace (UInt8.ofNat character.toNat) = false := by
          simp [isSpace, ← UInt8.toNat_inj, UInt8.le_iff_toNat_le, same]
          omega
        rw [bytes_cons] at isNumber ⊢
        rw [List.dropWhile_cons_of_neg (Bool.eq_false_iff.mp notSpace)]
        -- a digit is no sign
        split
        · rename_i isMinus
          have minus := congrArg UInt8.toNat (List.cons.inj isMinus).1
          rw [same] at minus
          exact absurd minus (by change character.toNat ≠ 45; omega)
        · rename_i isPlus
          have plus := congrArg UInt8.toNat (List.cons.inj isPlus).1
          rw [same] at plus
          exact absurd plus (by change character.toNat ≠ 43; omega)
        · rw [isNumber]
          congr 1
          omega

/-- A number written in decimal is read back, up to the ends of 64 bits. -/
theorem strtoll_ofInt (number : Int) : strtoll (bytes (DecimalText.ofInt number)) = saturate number :=
  signed_of_ofInt saturate number

/-- `atoi` cuts what `strtol` reads to 32 bits. -/
theorem atoi_ofInt (number : Int) :
    atoi (bytes (DecimalText.ofInt number)) = (saturate number).toInt32 := by
  unfold atoi
  rw [strtoll_ofInt]

/-- A number is stored as its decimal text. -/
theorem textOf_of_number {value : StateValue} {number : Int} (isNumber : value.number? = some number) :
    textOf value = bytes (DecimalText.ofInt number) := by
  cases value with
  | text => cases isNumber
  | int32 | uint32 | int64 | uint64 =>
      cases isNumber
      rfl

/-- The numbers that the overloads write are not below those of 64 bits. -/
theorem le_number {value : StateValue} {number : Int} (isNumber : value.number? = some number) :
    -2 ^ 63 ≤ number := by
  cases value with
  | text => cases isNumber
  | int32 value =>
      cases isNumber
      exact le_trans (by decide) value.le_toInt
  | int64 value =>
      cases isNumber
      exact value.le_toInt
  | uint32 value | uint64 value =>
      cases isNumber
      exact le_trans (by decide) (Int.natCast_nonneg value.toNat)

/-- A number that a signed one of 64 bits represents. -/
theorem saturate_of_fits {number : Int} (lower : -2 ^ 63 ≤ number) (upper : number < 2 ^ 63) :
    saturate number = Int64.ofInt number := by
  have least : Int64.minValue.toInt = -2 ^ 63 := rfl
  have largest : Int64.maxValue.toInt = 2 ^ 63 - 1 := rfl
  unfold saturate
  rw [least, largest, if_neg (not_lt.mpr lower), if_neg (by omega)]

/-- A larger number becomes the largest one. -/
theorem saturate_of_le {number : Int} (tooLarge : 2 ^ 63 ≤ number) :
    saturate number = Int64.maxValue := by
  have least : Int64.minValue.toInt = -2 ^ 63 := rfl
  have largest : Int64.maxValue.toInt = 2 ^ 63 - 1 := rfl
  unfold saturate
  rw [least, largest, if_neg (by omega), if_pos (by omega)]

/-! ## Numbers that stand for a key -/

section Numbers

variable {key : DefaultStateKeys}

/-- The value of a key is a number, where the default stands for a value that is not stored. -/
def Stands (state : State) (key : DefaultStateKeys) (defaultValue number : Nat) : Prop :=
  match state.value? key with
  | some text => text = LevelDB.to_string number
  | none => number = defaultValue

/-- The state with a number under a key. -/
def withNumber (key : DefaultStateKeys) (number : Nat) (state : State) : State :=
  { state with stateFile := state.stateFile.set key.enum_name.toList (LevelDB.to_string number) }

theorem value?_withNumber_of_ne {other : DefaultStateKeys} (differ : other ≠ key) (number : Nat) :
    (withNumber key number state).value? other = state.value? other :=
  value?_set_of_ne state differ _

/-- What stands for a key depends on its value only. -/
theorem Stands.congr {other : State} {defaultValue number : Nat}
    (same : other.value? key = state.value? key) (stands : state.Stands key defaultValue number) :
    other.Stands key defaultValue number := by
  unfold Stands
  rw [same]
  exact stands

/-- It stays there when another number is written. -/
theorem Stands.withNumber {other : DefaultStateKeys} {defaultValue number : Nat}
    (stands : state.Stands key defaultValue number) (differ : key ≠ other) (another : Nat) :
    (State.withNumber other another state).Stands key defaultValue number :=
  stands.congr (value?_withNumber_of_ne differ another)

/-- The texts of different numbers differ. -/
theorem to_string_injective {first second : UInt64}
    (same : LevelDB.to_string first.toNat = LevelDB.to_string second.toNat) : first = second := by
  have read := LevelDB.stoull_to_string first
  rw [same, LevelDB.stoull_to_string] at read
  exact (Except.ok.inj read).symm

end Numbers

/-! ## Reading -/

/-- What is read where nothing is stored, where the state is not open, or where LevelDB fails. -/
theorem reads_default {key : DefaultStateKeys} {getOk : Bool}
    (absent : state.initalized = false ∨ getOk = false ∨ state.value? key = none) :
    (∀ defaultValue, state.readState key defaultValue getOk = defaultValue) ∧
    (∀ defaultValue, state.readInt64State key defaultValue getOk = defaultValue) ∧
      ∀ defaultValue, state.readInt32State key defaultValue getOk = defaultValue := by
  unfold readState readInt64State readInt32State
  by_cases up : state.initalized = true
  · have unread : state.getValueForKey key getOk = none := by
      unfold getValueForKey
      rcases absent with down | failed | absent
      · exact absurd (up.symm.trans down) Bool.true_eq_false.mp
      · rw [failed]
        rfl
      · rw [absent, ite_self]
    simp [up, unread]
  · simp [up]

/-- What is read of a text that is stored. -/
theorem reads_text {key : DefaultStateKeys} {text : List UInt8} (up : state.initalized = true)
    (isStored : state.value? key = some text) :
    (∀ defaultValue, state.readState key defaultValue true = text) ∧
    (∀ defaultValue, state.readInt64State key defaultValue true = strtoll text) ∧
      ∀ defaultValue, state.readInt32State key defaultValue true = atoi text := by
  simp [readState, readInt64State, readInt32State, getValueForKey, up, isStored]

/-- In every run of calls, with restarts, resets and a LevelDB that fails at times: an initialised
state reads what was stored last and not removed since. A text is read as it is. A number is read as
itself, or cut to 32 bits; but one that does not fit into a signed number of 64 bits reads as the
largest of these, and in 32 bits as -1. Where there is nothing to read, or LevelDB fails to read it,
the default is read. -/
theorem reads_of_run {events : List StateEvent} (reached : runEvents step events (new ∅) = some state)
    (key : DefaultStateKeys) :
    (∀ getOk, (State.stored events).initalized = false ∨ getOk = false ∨
        (State.stored events).values key = none →
      (∀ defaultValue, state.readState key defaultValue getOk = defaultValue) ∧
      (∀ defaultValue, state.readInt64State key defaultValue getOk = defaultValue) ∧
        ∀ defaultValue, state.readInt32State key defaultValue getOk = defaultValue) ∧
    ∀ value, (State.stored events).initalized = true →
        (State.stored events).values key = some value →
      (∀ defaultValue, state.readState key defaultValue true = textOf value) ∧
      ∀ number, value.number? = some number →
        (number < 2 ^ 63 →
          (∀ defaultValue, (state.readInt64State key defaultValue true).toInt = number) ∧
            ∀ defaultValue, state.readInt32State key defaultValue true = Int32.ofInt number) ∧
        (2 ^ 63 ≤ number →
          (∀ defaultValue, state.readInt64State key defaultValue true = Int64.maxValue) ∧
            ∀ defaultValue, state.readInt32State key defaultValue true = -1) := by
  have represents : Represents (State.stored events) state :=
    Represents.run ⟨rfl, fun _ => rfl⟩ reached
  have sameValue := represents.values key
  refine ⟨fun getOk absent => ?_, fun value up isStored => ?_⟩
  · apply reads_default
    rw [represents.initalized, sameValue, Option.map_eq_none_iff]
    exact absent
  · rw [isStored] at sameValue
    obtain ⟨text, long, int⟩ := reads_text (represents.initalized.trans up) sameValue
    refine ⟨text, fun number isNumber => ?_⟩
    rw [textOf_of_number isNumber, strtoll_ofInt] at long
    rw [textOf_of_number isNumber, atoi_ofInt] at int
    refine ⟨fun fits => ?_, fun tooLarge => ?_⟩
    · rw [saturate_of_fits (le_number isNumber) fits] at long int
      refine ⟨fun defaultValue => ?_, fun defaultValue => ?_⟩
      · rw [long]
        exact Int64.toInt_ofInt_of_le (le_number isNumber) fits
      · rw [int]
        exact Int64.toInt32_ofInt
    · rw [saturate_of_le tooLarge] at long int
      exact ⟨long, int⟩

/-- A position is stored, LevelDB fails at the next one, and the process is another one after
that. -/
def restartedState : List StateEvent :=
  [.init true, .updateState .LAST_HIERO_TOPIC_SEQUENCE_NUMBER (.uint64 7) true,
   .updateState .LAST_HIERO_TOPIC_SEQUENCE_NUMBER (.uint64 8) false, .restart, .init true]

/-- The position that was stored is read after the restart, and the default where LevelDB fails. -/
theorem reads_restartedState : ∃ state, runEvents step restartedState (new ∅) = some state ∧
    (state.readInt64State .LAST_HIERO_TOPIC_SEQUENCE_NUMBER 0 true).toInt = 7 ∧
    state.readInt64State .LAST_HIERO_TOPIC_SEQUENCE_NUMBER 0 false = 0 := by
  have reached : runEvents step restartedState (new ∅) = some _ := rfl
  obtain ⟨absent, present⟩ := reads_of_run reached .LAST_HIERO_TOPIC_SEQUENCE_NUMBER
  obtain ⟨_, numbers⟩ := present (.uint64 7) rfl rfl
  exact ⟨_, reached, ((numbers 7 rfl).1 (by decide)).1 0, (absent false (.inr (.inl rfl))).2.1 0⟩

end State

end Cache

end GradidoNode

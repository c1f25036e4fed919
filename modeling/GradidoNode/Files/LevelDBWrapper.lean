import GradidoNode.Exceptions
import GradidoNode.Library.DecimalText
import GradidoNode.Library.OrderedMap
import Mathlib.Data.List.Lex
import Mathlib.Data.Char

/-!
# LevelDB

The key value stores of a blockchain. Reading does not fail; writing may.
-/

namespace GradidoNode

open Library

namespace Files

/-- The entries of a LevelDB, in the order of their keys. -/
abbrev LevelDB := OrderedMap (List Char) (List UInt8)

namespace LevelDB

/-- `setKeyValue`; `putOk` is the status LevelDB returns. -/
def setKeyValue (key : List Char) (value : List UInt8) (putOk : Bool) : Throwing LevelDB Unit :=
  fun levelDB =>
    if putOk then (.ok (), levelDB.set key value)
    else (.error (.levelDBStatus "cannot put to level db"), levelDB)

/-- `removeKey`, which looks at no status; `deleteOk` is the one LevelDB returns. -/
def removeKey (key : List Char) (deleteOk : Bool) (levelDB : LevelDB) : LevelDB :=
  if deleteOk then levelDB.erase key else levelDB

/-- `std::to_string`, as bytes. -/
def to_string (number : Nat) : List UInt8 :=
  (Nat.toDigits 10 number).map fun digit => UInt8.ofNat digit.toNat

/-- What `std::stoull` does behind the sign. -/
def stoullDigits (digits : List Char) : Except Exception UInt64 :=
  if digits.takeWhile Char.isDigit = [] then .error (.invalidArgument "stoull")
  else if DecimalText.readDigits digits < UInt64.size then
    .ok (UInt64.ofNat (DecimalText.readDigits digits))
  else .error (.outOfRange "stoull")

/-- `std::stoull`, of bytes. -/
def stoull (value : List UInt8) : Except Exception UInt64 :=
  match (value.map fun byte => Char.ofNat byte.toNat).dropWhile DecimalText.isSpace with
  | '-' :: digits => (stoullDigits digits).map fun number => -number
  | '+' :: digits => stoullDigits digits
  | digits => stoullDigits digits

theorem chars_to_string (number : Nat) :
    ((to_string number).map fun byte => Char.ofNat byte.toNat) = Nat.toDigits 10 number := by
  unfold to_string
  rw [List.map_map]
  refine (List.map_congr_left fun digit member => ?_).trans (List.map_id _)
  have isDigit : digit.isDigit = true :=
    Nat.isDigit_of_mem_toDigits (by decide) (by decide) member
  simp only [Char.isDigit, Bool.and_eq_true, decide_eq_true_eq] at isDigit
  have upTo : digit.toNat ≤ '9'.toNat := isDigit.2
  have small : digit.toNat < UInt8.size := lt_of_le_of_lt upTo (by decide)
  rw [Function.comp_apply, UInt8.toNat_ofNat_of_lt' small, Char.ofNat_toNat, id_eq]

theorem stoullDigits_toDigits (number : UInt64) :
    stoullDigits (Nat.toDigits 10 number.toNat) = .ok number := by
  have digits (character : Char) (member : character ∈ Nat.toDigits 10 number.toNat) :
      character.isDigit = true := Nat.isDigit_of_mem_toDigits (by decide) (by decide) member
  unfold stoullDigits
  rw [List.takeWhile_eq_self_iff.mpr digits, if_neg Nat.toDigits_ne_nil,
    DecimalText.readDigits_toDigits, if_pos number.toNat_lt, UInt64.ofNat_toNat]

/-- A number that was written is read. -/
theorem stoull_to_string (number : UInt64) : stoull (to_string number.toNat) = .ok number := by
  have digits (character : Char) (member : character ∈ Nat.toDigits 10 number.toNat) :
      character.isDigit = true := Nat.isDigit_of_mem_toDigits (by decide) (by decide) member
  have read := stoullDigits_toDigits number
  unfold stoull
  rw [chars_to_string]
  cases text : Nat.toDigits 10 number.toNat with
  | nil => exact absurd text Nat.toDigits_ne_nil
  | cons character rest =>
      rw [text] at digits read
      have digit := digits character (List.mem_cons_self ..)
      rw [List.dropWhile_cons_of_neg (by simp [DecimalText.isSpace_of_digit digit])]
      split
      · rename_i same
        cases same
        exact absurd digit (by decide)
      · rename_i same
        cases same
        exact absurd digit (by decide)
      · exact read

end LevelDB

/-- `LevelDBWrapper`, with the folder it is for; the entries are kept apart. -/
structure LevelDBWrapper where
  /-- LevelDB could open the folder, were it not open already. -/
  openable : Bool
  /-- The folder is open in this process. -/
  isOpen : Bool
  /-- `mLevelDB` is set. -/
  levelDB : Bool
  deriving DecidableEq

namespace LevelDBWrapper

def new (openable : Bool) : LevelDBWrapper where
  openable := openable
  isOpen := false
  levelDB := false

/-- `init`. LevelDB does not open a folder twice in one process, and clears the pointer where it
fails. -/
def init (wrapper : LevelDBWrapper) : Bool × LevelDBWrapper :=
  if wrapper.openable && !wrapper.isOpen then
    (true, { wrapper with isOpen := true, levelDB := true })
  else (false, { wrapper with levelDB := false })

def exit (wrapper : LevelDBWrapper) : LevelDBWrapper :=
  if wrapper.levelDB then { wrapper with isOpen := false, levelDB := false } else wrapper

/-- `reset`. The folder that is created anew can be opened. -/
def reset (wrapper : LevelDBWrapper) : LevelDBWrapper :=
  ({ wrapper.exit with openable := true } : LevelDBWrapper).init.2

theorem init_new (openable : Bool) :
    (new openable).init = (openable, ⟨openable, openable, openable⟩) := by
  cases openable with
  | true => rfl
  | false => rfl

end LevelDBWrapper

end Files

end GradidoNode

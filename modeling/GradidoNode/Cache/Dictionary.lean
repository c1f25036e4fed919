import GradidoNode.Files.LevelDBWrapper
import GradidoNode.Library.Run
import Mathlib.Data.Char

/-!
# Dictionaries

A dictionary numbers strings. The numbers and their strings are in LevelDB; the way
back goes through a map in memory, keyed by eight bytes of the string. Looking a string
up and inserting it are two locked sections, between which other calls run.
-/

namespace GradidoNode

open Library Files

namespace Cache

/-- `SignatureOctet` is a parameter: nothing is known of it but that it is a function of
the string. -/
structure Dictionary (Octet : Type) [LinearOrder Octet] where
  folderName : String
  lastIndex : UInt32
  dictionaryFile : LevelDB
  /-- An `unordered_map`, whose order is never used. -/
  valueKeyReverseLookup : OrderedMap Octet UInt32
  deriving DecidableEq

namespace Dictionary

/-- `std::to_string`. -/
def to_string (index : UInt32) : List Char := Nat.toDigits 10 index.toNat

/-- `strtoul` of a key, cut to 32 bits. -/
def strtoul (key : List Char) : UInt32 := UInt32.ofNat (Nat.ofDigitChars 10 key 0)

@[simp] theorem strtoul_to_string (index : UInt32) : strtoul (to_string index) = index := by
  rw [strtoul, to_string, Nat.ofDigitChars_toDigits (by decide) (by decide), UInt32.ofNat_toNat]

theorem to_string_injective : Function.Injective to_string := by
  intro first second same
  rw [← strtoul_to_string first, same, strtoul_to_string]

variable {Octet : Type} [LinearOrder Octet] (signatureOctet : List UInt8 → Octet)

/-- The constructor, on a folder whose LevelDB has the given entries. -/
def new (folderName : String) (dictionaryFile : LevelDB) : Dictionary Octet where
  folderName := folderName
  lastIndex := 0
  dictionaryFile := dictionaryFile
  valueKeyReverseLookup := ∅

/-- `init` reads every entry of the LevelDB. -/
def init (dictionary : Dictionary Octet) : Dictionary Octet :=
  let lookup := dictionary.dictionaryFile.toList.foldl
    (fun lookup entry => lookup.insertNew (signatureOctet entry.2) (strtoul entry.1))
    dictionary.valueKeyReverseLookup
  { dictionary with
    valueKeyReverseLookup := lookup
    lastIndex := UInt32.ofNat lookup.size }

def getStringForIndex (dictionary : Dictionary Octet) (index : UInt32) :
    Except Exception (List UInt8) :=
  match dictionary.dictionaryFile.find? (to_string index) with
  | some value => .ok value
  | none => .error (.dictionaryNotFound "index not found in dictionary" dictionary.folderName
      (String.ofList (to_string index)))

/-- `findIndexForString`; 0 means not found. -/
def findIndexForString (dictionary : Dictionary Octet) (string : List UInt8) :
    Except Exception UInt32 :=
  if string.isEmpty then .error (.gradidoNodeInvalidData "string is empty")
  else
    match dictionary.valueKeyReverseLookup.find? (signatureOctet string) with
    | none => .ok 0
    | some index =>
        if dictionary.dictionaryFile.find? (to_string index) = some string then .ok index
        else .ok 0

/-- `getIndexForString`; `binToHex` is the one of the blockchain library. -/
def getIndexForString (binToHex : List UInt8 → String) (dictionary : Dictionary Octet)
    (string : List UInt8) : Except Exception UInt32 :=
  match dictionary.findIndexForString signatureOctet string with
  | .error exception => .error exception
  | .ok index =>
      if index = 0 then
        .error (.dictionaryNotFound "string not found in dictionary" dictionary.folderName
          (binToHex string))
      else .ok index

/-- `hasStringIndexPair`. -/
def hasStringIndexPair (dictionary : Dictionary Octet) (string : List UInt8) (index : UInt32) :
    Bool :=
  match dictionary.valueKeyReverseLookup.find? (signatureOctet string) with
  | none => false
  | some found => found = index

/-- What both insertions do with a new index. `putOk` is the status LevelDB returns. -/
def setKeyValue (dictionary : Dictionary Octet) (string : List UInt8) (index : UInt32)
    (putOk : Bool) : Except Exception Unit × Dictionary Octet :=
  let dictionary := { dictionary with lastIndex := index }
  if putOk then
    (.ok (), { dictionary with
      dictionaryFile := dictionary.dictionaryFile.set (to_string index) string
      valueKeyReverseLookup :=
        dictionary.valueKeyReverseLookup.insertNew (signatureOctet string) index })
  else (.error (.levelDBStatus "cannot put to level db"), dictionary)

/-- The second locked section of `getOrAddIndexForString`. -/
def addIndexForString (string : List UInt8) (putOk : Bool) : Throwing (Dictionary Octet) UInt32 :=
  fun dictionary =>
    let index := dictionary.lastIndex + 1
    match dictionary.setKeyValue signatureOctet string index putOk with
    | (.ok _, dictionary) => (.ok index, dictionary)
    | (.error exception, dictionary) => (.error exception, dictionary)

/-- `getOrAddIndexForString`, where no other call runs between its two locked sections. -/
def getOrAddIndexForString (string : List UInt8) (putOk : Bool) :
    Throwing (Dictionary Octet) UInt32 := fun dictionary =>
  match dictionary.findIndexForString signatureOctet string with
  | .error exception => (.error exception, dictionary)
  | .ok index =>
      if index = 0 then addIndexForString signatureOctet string putOk dictionary
      else (.ok index, dictionary)

/-- `reset` leaves the map in memory alone. -/
def reset (dictionary : Dictionary Octet) : Dictionary Octet :=
  { dictionary with
    dictionaryFile := ∅
    lastIndex := 0 }

/-- The second locked section of `addStringIndex`. -/
def addIndex (string : List UInt8) (index : UInt32) (putOk : Bool) :
    Throwing (Dictionary Octet) Bool := fun dictionary =>
  if dictionary.lastIndex + 1 ≠ index then
    (.error (.dictionaryInvalidNewKey "addValueKeyPair called with invalid new key"
      dictionary.folderName index dictionary.lastIndex), dictionary)
  else
    match dictionary.setKeyValue signatureOctet string index putOk with
    | (.ok _, dictionary) => (.ok true, dictionary)
    | (.error exception, dictionary) => (.error exception, dictionary)

end Dictionary

/-- A call between its two locked sections. -/
inductive DictionaryCall
  | getOrAddIndexForString (string : List UInt8)
  | addStringIndex (string : List UInt8) (index : UInt32)
  deriving DecidableEq

/-- A dictionary with the calls under way and the indices given out so far. -/
structure DictionarySystem (Octet : Type) [LinearOrder Octet] where
  dictionary : Dictionary Octet
  calls : List DictionaryCall
  /-- What `getOrAddIndexForString` has returned for which string. -/
  returned : List (List UInt8 × UInt32)
  /-- What `addStringIndex` has accepted. -/
  added : List (List UInt8 × UInt32)
  deriving DecidableEq

inductive DictionaryEvent
  /-- The first locked section of a call. -/
  | call (call : DictionaryCall)
  /-- The second locked section of a call under way. -/
  | insert (position : Nat) (putOk : Bool)
  /-- `exit`, followed by `init` of the same object. -/
  | reopen
  /-- `exit`, followed by `init` of a new object in a new process. -/
  | restart
  deriving DecidableEq

namespace DictionarySystem

variable {Octet : Type} [LinearOrder Octet] (signatureOctet : List UInt8 → Octet)

/-- The first locked section: the call is over, or goes on to insert. -/
def begin (system : DictionarySystem Octet) : DictionaryCall → DictionarySystem Octet
  | .getOrAddIndexForString string =>
      match system.dictionary.findIndexForString signatureOctet string with
      | .error _ => system
      | .ok index =>
          if index = 0 then
            { system with calls := system.calls ++ [.getOrAddIndexForString string] }
          else { system with returned := system.returned ++ [(string, index)] }
  | .addStringIndex string index =>
      if system.dictionary.hasStringIndexPair signatureOctet string index then system
      else { system with calls := system.calls ++ [.addStringIndex string index] }

/-- The second locked section, which ends the call. -/
def finish (system : DictionarySystem Octet) (putOk : Bool) :
    DictionaryCall → DictionarySystem Octet
  | .getOrAddIndexForString string =>
      match system.dictionary.addIndexForString signatureOctet string putOk with
      | (.ok index, dictionary) => { system with
          dictionary := dictionary
          returned := system.returned ++ [(string, index)] }
      | (.error _, dictionary) => { system with dictionary := dictionary }
  | .addStringIndex string index =>
      match system.dictionary.addIndex signatureOctet string index putOk with
      | (.ok _, dictionary) => { system with
          dictionary := dictionary
          added := system.added ++ [(string, index)] }
      | (.error _, dictionary) => { system with dictionary := dictionary }

def step (system : DictionarySystem Octet) : DictionaryEvent → Option (DictionarySystem Octet)
  | .call call => some (system.begin signatureOctet call)
  | .insert position putOk =>
      match system.calls[position]? with
      | none => none
      | some call => some
          (finish signatureOctet { system with calls := system.calls.eraseIdx position } putOk call)
  | .reopen => some { system with dictionary := system.dictionary.init signatureOctet }
  | .restart => some { system with
      dictionary := (Dictionary.new system.dictionary.folderName
        system.dictionary.dictionaryFile).init signatureOctet
      calls := [] }

/-- A new dictionary without entries. -/
def start (folderName : String) : DictionarySystem Octet where
  dictionary := (Dictionary.new folderName ∅).init signatureOctet
  calls := []
  returned := []
  added := []

/-- One index for each string, one string for each index, and the way back. -/
structure StableBijection (system : DictionarySystem Octet) : Prop where
  stable : ∀ string first second, (string, first) ∈ system.returned →
    (string, second) ∈ system.returned → first = second
  injective : ∀ string other index, (string, index) ∈ system.returned ++ system.added →
    (other, index) ∈ system.returned ++ system.added → string = other
  inverse : ∀ string index, (string, index) ∈ system.returned →
    system.dictionary.getStringForIndex index = .ok string

end DictionarySystem

end Cache

end GradidoNode

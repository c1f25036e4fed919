import GradidoNode.Library.Fallible

/-!
# Exceptions

The exception classes the modelled functions throw, with the data they carry.
-/

namespace GradidoNode

inductive Exception
  /-- The standard library's `std::runtime_error`. -/
  | runtimeError (what : String)
  /-- The standard library's `std::invalid_argument`. -/
  | invalidArgument (what : String)
  /-- The standard library's `std::out_of_range`. -/
  | outOfRange (what : String)
  /-- The standard library's `std::bad_optional_access`. -/
  | badOptionalAccess
  | bufferOverflow (what : String) (bufferSize askSize : Nat)
  | gradidoNullPointer (what typeName functionName : String)
  | gradidoAlreadyExist (what : String)
  | gradidoUnknownEnum (what enumName enumValue : String)
  | gradidoUnhandledEnum (what enumName enumValue : String)
  | gradidoNotImplemented (what : String)
  | gradidoNodeInvalidData (what : String)
  | blockException (what : String)
  | blockIndexException (what : String)
  | blockIndexInvalidFileCursor (what : String) (fileCursor : Int32)
      (transactionNr minTransactionNr : UInt64)
  | blockchainOrder (what : String)
  | dictionaryNotFound (what dictionaryName key : String)
  | dictionaryInvalidNewKey (what dictionaryName : String) (newKey oldKey : UInt32)
  | levelDBStatus (what : String)
  | classNotInitalized (what className : String)
  | classAlreadyInitalized (what className : String)
  | communityNotFound (what communityId : String)
  | lockException (what filename : String)
  | openFile (what filename : String)
  | endReaching (what filename : String) (readCursor blockSize : Nat)
  | invalidReadBlockSize (what filename : String) (readCursor blockSize : Nat)
  | hashMismatch (what : String) (hash1 hash2 : List UInt8)
  | transactionNotFound (what : String) (transactionId : UInt64)
  deriving DecidableEq, Repr

/-- All but the standard library's are `GradidoBlockchainException`s. -/
def Exception.isGradidoBlockchainException : Exception → Bool
  | .runtimeError _ => false
  | .invalidArgument _ => false
  | .outOfRange _ => false
  | .badOptionalAccess => false
  | _ => true

/-- An operation on a state that may throw; what it changed before the throw stays. -/
abbrev Throwing (State Value : Type) := Library.Fallible Exception State Value

end GradidoNode

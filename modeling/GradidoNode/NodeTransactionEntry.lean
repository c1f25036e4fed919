import Mathlib.Tactic.Common

/-!
# Transaction entries

A transaction with the details under which it is indexed.
-/

namespace GradidoNode

/-- `NodeTransactionEntry`. The file cursor is -10 until the transaction has been written. -/
structure NodeTransactionEntry where
  transactionNr : UInt64
  month : UInt8
  year : Int16
  transactionType : UInt8
  coinCommunityId : String
  serializedTransaction : List UInt8
  addressIndices : List UInt32
  fileCursor : Int32
  deriving DecidableEq, Repr

end GradidoNode

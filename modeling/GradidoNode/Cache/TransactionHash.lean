import GradidoNode.Exceptions
import GradidoNode.Library.OrderedMap

/-!
# Transactions by signature

Added transactions are recognised for a while by the first eight bytes of their first
signature.
-/

namespace GradidoNode

open Library

namespace Cache

/-- `TransactionHash`. `SignatureOctet` is a parameter of its functions. -/
structure TransactionHash (Octet : Type) [LinearOrder Octet] where
  signaturePartTransactionNrs : OrderedMap Octet UInt64
  deriving DecidableEq

namespace TransactionHash

variable {Octet : Type} [LinearOrder Octet] (signatureOctet : List UInt8 → Octet)

/-- `push`, of a transaction with its first signature and number. -/
def push (firstSignature : List UInt8) (id : UInt64) : Throwing (TransactionHash Octet) Unit :=
  fun cache =>
    match cache.signaturePartTransactionNrs.find? (signatureOctet firstSignature) with
    | some _ => (.error (.gradidoAlreadyExist "key already exist"), cache)
    | none => (.ok (), { cache with
        signaturePartTransactionNrs :=
          cache.signaturePartTransactionNrs.set (signatureOctet firstSignature) id })

theorem push_ok_iff {signatureOctet : List UInt8 → Octet} {firstSignature : List UInt8}
    {id : UInt64} {cache next : TransactionHash Octet} :
    push signatureOctet firstSignature id cache = (.ok (), next) ↔
      cache.signaturePartTransactionNrs.find? (signatureOctet firstSignature) = none ∧
        next = { cache with
          signaturePartTransactionNrs :=
            cache.signaturePartTransactionNrs.set (signatureOctet firstSignature) id } := by
  unfold push
  cases cache.signaturePartTransactionNrs.find? (signatureOctet firstSignature) with
  | none => simp [eq_comm]
  | some id => simp

end TransactionHash

end Cache

end GradidoNode

import GradidoNode.Exceptions

/-!
# Deserializing topic messages

The task that turns the bytes of a topic message into a transaction and checks it as far
as this goes without the messages before it.
-/

namespace GradidoNode

namespace Tasks

/-- What takes the application down in `run`. -/
inductive TaskFault
  | escaped (exception : Exception)
  | nullPointer
  /-- `front` of a transaction without signatures. -/
  | noSignature
  deriving DecidableEq

/-- What `run` asks the node and the blockchain library, and what it is told. -/
structure TaskEnvironment (Transaction : Type) where
  /-- `findBlockchain` of the own community: it may throw or return null. -/
  blockchain : Except Exception Bool
  /-- The transaction the bytes deserialize to, if they do. -/
  deserialized : Except Exception (Option Transaction)
  /-- The signatures of the pairs in the signature map. -/
  signatures : Transaction → List (List UInt8)
  /-- `mSignaturePartTransactionNrs.get`: the octet of a short signature may throw. -/
  cachedTransactionNr : List UInt8 → Except Exception (Option UInt64)
  /-- The first signature of the transaction stored under a number. The blockchain or the
  transaction may be null. -/
  storedSignature : UInt64 → Except Exception (Option (List UInt8))
  validated : Transaction → Except Exception Unit
  /-- Whether the last transaction was confirmed after the message. -/
  fromPast : Except Exception Bool
  /-- `notificateFailedTransaction`, which reaches the community server. -/
  notified : Except Exception Unit

namespace TaskEnvironment

variable {Transaction : Type}

/-- An answer of the node, of which no exception is caught. -/
def ask {Value : Type} : Except Exception Value → Except TaskFault Value
  | .ok value => .ok value
  | .error exception => .error (.escaped exception)

/-- `isTransactionExist`, which is `TransactionHash::has`. -/
def isTransactionExist (environment : TaskEnvironment Transaction) (transaction : Transaction) :
    Except TaskFault Bool :=
  match environment.signatures transaction with
  | [] => .error .noSignature
  | firstSignature :: _ => do
      match ← ask (environment.cachedTransactionNr firstSignature) with
      | none => return false
      | some transactionNr =>
          -- hash collision check
          match ← ask (environment.storedSignature transactionNr) with
          | none => throw .nullPointer
          | some signature => return signature = firstSignature

end TaskEnvironment

structure HieroMessageToTransactionTask (Transaction : Type) where
  transaction : Option Transaction
  success : Bool
  finished : Bool
  deriving DecidableEq

namespace HieroMessageToTransactionTask

variable {Transaction : Type}

/-- The constructor. -/
def new : HieroMessageToTransactionTask Transaction where
  transaction := none
  success := false
  finished := false

/-- `run`: the members it leaves. Nothing catches an exception, and the worker that gets it stops
the application; so does a null pointer. -/
def run (environment : TaskEnvironment Transaction) :
    Except TaskFault (Option Transaction × Bool) := do
  let blockchain ← TaskEnvironment.ask environment.blockchain
  if !blockchain then return (none, false)
  match ← TaskEnvironment.ask environment.deserialized with
  | none => return (none, false)
  | some transaction =>
      if ← environment.isTransactionExist transaction then return (some transaction, false)
      match environment.validated transaction with
      | .error exception =>
          if exception.isGradidoBlockchainException then
            TaskEnvironment.ask environment.notified
            return (some transaction, false)
          else throw (.escaped exception)
      | .ok _ =>
          if ← TaskEnvironment.ask environment.fromPast then
            TaskEnvironment.ask environment.notified
            return (some transaction, false)
          else return (some transaction, true)

/-- The scheduler runs the task and marks it as finished. -/
def execute (environment : TaskEnvironment Transaction)
    (task : HieroMessageToTransactionTask Transaction) :
    HieroMessageToTransactionTask Transaction :=
  match run environment with
  | .ok (transaction, success) =>
      { transaction := transaction, success := success, finished := true }
  | .error _ => task

end HieroMessageToTransactionTask

end Tasks

end GradidoNode

import GradidoNode.Exceptions

/-!
# Topic messages

A message of a topic as the mirror node delivers it, as JSON or over gRPC. Two of its
members are pointers, which a constructor may leave null.
-/

namespace GradidoNode

namespace Hiero

/-- An initial transaction id that was never set is empty. -/
structure ConsensusMessageChunkInfo (TransactionId : Type) where
  initialTransactionId : Option TransactionId
  total : Int32
  number : Int32
  deriving DecidableEq

/-- The default constructor. -/
def ConsensusMessageChunkInfo.new {TransactionId : Type} :
    ConsensusMessageChunkInfo TransactionId where
  initialTransactionId := none
  total := 0
  number := 0

def ConsensusMessageChunkInfo.empty {TransactionId : Type}
    (chunkInfo : ConsensusMessageChunkInfo TransactionId) : Bool :=
  chunkInfo.initialTransactionId.isNone

/-- The times and the transaction ids are types of the blockchain library. -/
structure ConsensusTopicResponse (Timestamp TransactionId : Type) where
  consensusTimestamp : Timestamp
  message : Option (List UInt8)
  runningHash : Option (List UInt8)
  sequenceNumber : UInt64
  runningHashVersion : UInt64
  chunkInfo : ConsensusMessageChunkInfo TransactionId
  deriving DecidableEq

/-- The decoded protobuf message; a field may be missing. -/
structure ConsensusTopicResponseMessage (Timestamp TransactionId : Type) where
  consensusTimestamp : Option Timestamp
  message : Option (List UInt8)
  runningHash : Option (List UInt8)
  sequenceNumber : Option UInt64
  runningHashVersion : Option UInt64
  chunkInfo : Option (ConsensusMessageChunkInfo TransactionId)

variable {Timestamp TransactionId : Type} [Inhabited Timestamp]

/-- `std::optional::value`. -/
def fieldValue {Value : Type} : Option Value → Except Exception Value
  | some value => .ok value
  | none => .error .badOptionalAccess

namespace ConsensusTopicResponse

/-- The default constructor. -/
def new : ConsensusTopicResponse Timestamp TransactionId where
  consensusTimestamp := default
  message := none
  runningHash := none
  sequenceNumber := 0
  runningHashVersion := 0
  chunkInfo := .new

/-- The constructor from a protobuf message. -/
def ofMessage (message : ConsensusTopicResponseMessage Timestamp TransactionId) :
    Except Exception (ConsensusTopicResponse Timestamp TransactionId) := do
  let consensusTimestamp ← fieldValue message.consensusTimestamp
  let data ← fieldValue message.message
  let runningHashVersion ←
    if message.runningHash.isSome then fieldValue message.runningHashVersion else pure 0
  return {
    consensusTimestamp := consensusTimestamp
    message := some data
    runningHash := message.runningHash
    sequenceNumber := message.sequenceNumber.getD 0
    runningHashVersion := runningHashVersion
    chunkInfo := message.chunkInfo.getD .new }

/-- `protopuf::deserialize` of a gRPC payload, which decodes or does not. -/
def deserialize (decoded : Option (ConsensusTopicResponseMessage Timestamp TransactionId)) :
    Except Exception (ConsensusTopicResponse Timestamp TransactionId) :=
  match decoded with
  | none => .ok new
  | some message => ofMessage message

/-- The constructor from JSON, once its members have been checked and read. -/
def ofJson (consensusTimestamp : Timestamp) (message runningHash : List UInt8)
    (runningHashVersion sequenceNumber : Int64)
    (chunkInfo : Option (ConsensusMessageChunkInfo TransactionId)) :
    ConsensusTopicResponse Timestamp TransactionId where
  consensusTimestamp := consensusTimestamp
  message := some message
  runningHash := some runningHash
  sequenceNumber := sequenceNumber.toUInt64
  runningHashVersion := runningHashVersion.toUInt64
  chunkInfo := chunkInfo.getD .new

end ConsensusTopicResponse

end Hiero

end GradidoNode

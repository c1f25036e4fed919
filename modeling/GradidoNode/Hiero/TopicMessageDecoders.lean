import GradidoNode.Data.Timestamp
import GradidoNode.Hiero.ConsensusTopicResponse
import GradidoNode.Library.DecimalText
import GradidoNode.Library.ExceptList
import GradidoNode.Library.Json
import Mathlib.Data.List.TakeWhile

/-!
# The two decoders of topic messages

The listener gets a message of a topic as protobuf, the synchronisation at startup gets the same
message as the JSON of the mirror node. One constructor decodes the one, another the other.
-/

namespace GradidoNode

open Library Data

namespace Hiero

/-- The account ids are a type of the blockchain library. -/
structure TransactionId (AccountId : Type) where
  transactionValidStart : Timestamp
  accountId : AccountId
  nonce : Int32
  scheduled : Bool
  deriving DecidableEq

/-! ## The constructors from protobuf -/

/-- The chunk info of a protobuf message; a field may be missing. -/
structure ConsensusMessageChunkInfoMessage (AccountId : Type) where
  initialTransactionID : Option (TransactionId AccountId)
  total : Option Int32
  number : Option Int32

/-- The fields of a protobuf message, with those of its chunk info. -/
structure TopicResponseFields (AccountId : Type) where
  consensusTimestamp : Option Timestamp
  message : Option (List UInt8)
  runningHash : Option (List UInt8)
  sequenceNumber : Option UInt64
  runningHashVersion : Option UInt64
  chunkInfo : Option (ConsensusMessageChunkInfoMessage AccountId)

variable {AccountId : Type}

def ConsensusMessageChunkInfo.ofMessage (message : ConsensusMessageChunkInfoMessage AccountId) :
    Except Exception (ConsensusMessageChunkInfo (TransactionId AccountId)) := do
  let initialTransactionId ← fieldValue message.initialTransactionID
  let total ← fieldValue message.total
  let number ← fieldValue message.number
  return { initialTransactionId := some initialTransactionId, total := total, number := number }

def ConsensusMessageChunkInfo.ofField :
    Option (ConsensusMessageChunkInfoMessage AccountId) →
      Except Exception (ConsensusMessageChunkInfo (TransactionId AccountId))
  | none => .ok .new
  | some message => ofMessage message

def TopicResponseFields.withoutChunkInfo (fields : TopicResponseFields AccountId) :
    ConsensusTopicResponseMessage Timestamp (TransactionId AccountId) where
  consensusTimestamp := fields.consensusTimestamp
  message := fields.message
  runningHash := fields.runningHash
  sequenceNumber := fields.sequenceNumber
  runningHashVersion := fields.runningHashVersion
  chunkInfo := none

/-- The constructor from a protobuf message; the chunk info is its last field. -/
def ConsensusTopicResponse.ofFields (fields : TopicResponseFields AccountId) :
    Except Exception (ConsensusTopicResponse Timestamp (TransactionId AccountId)) := do
  let response ← ConsensusTopicResponse.ofMessage fields.withoutChunkInfo
  let chunkInfo ← ConsensusMessageChunkInfo.ofField fields.chunkInfo
  return { response with chunkInfo := chunkInfo }

/-! ## The constructors from JSON -/

inductive MemberType
  | STRING
  | INTEGER
  deriving DecidableEq

/-- What the constructors from JSON call of the blockchain library. -/
structure JsonLibrary (AccountId : Type) where
  checkMember : Json → String → MemberType → Except Exception Unit
  fromBase64 : String → Except Exception (List UInt8)
  accountId : String → Except Exception AccountId

/-- `strtoll`, and `strtol` where `long` has 64 bits. -/
def strtoll (text : List Char) : Int64 :=
  Int64.ofInt (max (-2 ^ 63) (min (2 ^ 63 - 1) (DecimalText.readInteger text)))

/-- `GetInt`: the low 32 bits. -/
def getInt (json : Json) : Int32 := Int32.ofInt json.asInteger

/-- `GetInt64`. -/
def getInt64 (json : Json) : Int64 := Int64.ofInt json.asInteger

/-- `timestampFromJson`. -/
def timestampFromJson (value : Json) : Except Exception Timestamp :=
  let str := value.asString.toList
  if '.' ∈ str then
    .ok {
      seconds := strtoll (str.takeWhile (· ≠ '.'))
      nanos := Int32.ofInt (strtoll (str.dropWhile (· ≠ '.')).tail).toInt }
  else .error (.gradidoNodeInvalidData "missing . in timestamp json string")

def TransactionId.ofJson (library : JsonLibrary AccountId) (json : Json) :
    Except Exception (TransactionId AccountId) := do
  library.checkMember json "account_id" .STRING
  library.checkMember json "nonce" .INTEGER
  library.checkMember json "transaction_valid_start" .STRING
  let accountId ← library.accountId (json.get "account_id").asString
  let transactionValidStart ← timestampFromJson (json.get "transaction_valid_start")
  return {
    transactionValidStart := transactionValidStart
    accountId := accountId
    nonce := getInt (json.get "nonce")
    scheduled := (json.get "scheduled").asBool }

/-- An initial transaction id that is no object is skipped. -/
def TransactionId.ofMember (library : JsonLibrary AccountId) :
    Option Json → Except Exception (Option (TransactionId AccountId))
  | some (.object members) => (TransactionId.ofJson library (.object members)).map some
  | _ => .ok none

def ConsensusMessageChunkInfo.ofJson (library : JsonLibrary AccountId) (json : Json) :
    Except Exception (ConsensusMessageChunkInfo (TransactionId AccountId)) := do
  let initialTransactionId ←
    TransactionId.ofMember library (json.member? "initial_transaction_id")
  library.checkMember json "number" .INTEGER
  library.checkMember json "total" .INTEGER
  return {
    initialTransactionId := initialTransactionId
    number := getInt (json.get "number")
    -- the source reads the member number here as well
    total := getInt (json.get "number") }

/-- A chunk info that is no object is skipped. -/
def ConsensusMessageChunkInfo.ofMember (library : JsonLibrary AccountId) :
    Option Json → Except Exception (Option (ConsensusMessageChunkInfo (TransactionId AccountId)))
  | some (.object members) => (ConsensusMessageChunkInfo.ofJson library (.object members)).map some
  | _ => .ok none

/-- The constructor from JSON. -/
def ConsensusTopicResponse.ofJsonValue (library : JsonLibrary AccountId) (json : Json) :
    Except Exception (ConsensusTopicResponse Timestamp (TransactionId AccountId)) := do
  library.checkMember json "consensus_timestamp" .STRING
  library.checkMember json "message" .STRING
  library.checkMember json "running_hash" .STRING
  library.checkMember json "running_hash_version" .INTEGER
  library.checkMember json "sequence_number" .INTEGER
  let consensusTimestamp ← timestampFromJson (json.get "consensus_timestamp")
  let message ← library.fromBase64 (json.get "message").asString
  let runningHash ← library.fromBase64 (json.get "running_hash").asString
  let chunkInfo ← ConsensusMessageChunkInfo.ofMember library (json.member? "chunk_info")
  return ConsensusTopicResponse.ofJson consensusTimestamp message runningHash
    (getInt (json.get "running_hash_version")).toInt64 (getInt64 (json.get "sequence_number"))
    chunkInfo

/-! ## One message in two forms -/

/-- The chunk info of a message of a topic. -/
structure ChunkInfo (AccountId : Type) where
  initialTransactionId : Option (TransactionId AccountId)
  canonical : ∀ transactionId, initialTransactionId = some transactionId →
    transactionId.transactionValidStart.Canonical
  total : Int32
  number : Int32

/-- A message of a topic, whichever way it is delivered. -/
structure TopicMessage (AccountId : Type) where
  consensusTimestamp : Timestamp
  canonical : consensusTimestamp.Canonical
  message : List UInt8
  runningHash : List UInt8
  runningHashVersion : UInt64
  sequenceNumber : UInt64
  chunkInfo : Option (ChunkInfo AccountId)

/-- A field that carries a value, or is left out where the value is the default. -/
def Carries {Value : Type} (field : Option Value) (value default : Value) : Prop :=
  field = some value ∨ (field = none ∧ value = default)

structure ChunkInfoFields (fields : ConsensusMessageChunkInfoMessage AccountId)
    (chunkInfo : ChunkInfo AccountId) : Prop where
  initialTransactionID : fields.initialTransactionID = chunkInfo.initialTransactionId
  total : Carries fields.total chunkInfo.total 0
  number : Carries fields.number chunkInfo.number 0

/-- The protobuf form of a message. -/
structure ProtobufForm (fields : TopicResponseFields AccountId)
    (sent : TopicMessage AccountId) : Prop where
  consensusTimestamp : fields.consensusTimestamp = some sent.consensusTimestamp
  message : Carries fields.message sent.message []
  runningHash : Carries fields.runningHash sent.runningHash []
  runningHashVersion : Carries fields.runningHashVersion sent.runningHashVersion 0
  sequenceNumber : Carries fields.sequenceNumber sent.sequenceNumber 0
  chunkInfo : Option.Rel ChunkInfoFields fields.chunkInfo sent.chunkInfo

/-- The seconds, a dot, and nine digits of nanoseconds. -/
def timestampText (timestamp : Timestamp) : Json :=
  .string (String.ofList (DecimalText.ofInt timestamp.seconds.toInt ++
    '.' :: DecimalText.padded 9 timestamp.nanos.toInt.toNat))

/-- A member that holds an object of some form, or none. -/
def ObjectMember {Value : Type} (form : Json → Value → Prop) (member : Option Json) :
    Option Value → Prop
  | some value => ∃ members, member = some (.object members) ∧ form (.object members) value
  | none => member = none ∨ member = some .null

structure TransactionIdJson (library : JsonLibrary AccountId) (json : Json)
    (transactionId : TransactionId AccountId) : Prop where
  account_id : ∃ text, json.member? "account_id" = some (.string text) ∧
    library.accountId text = .ok transactionId.accountId
  nonce : json.member? "nonce" = some (.integer transactionId.nonce.toInt)
  scheduled : json.member? "scheduled" = some (.bool transactionId.scheduled)
  transaction_valid_start : json.member? "transaction_valid_start" =
    some (timestampText transactionId.transactionValidStart)

structure ChunkInfoJson (library : JsonLibrary AccountId) (json : Json)
    (chunkInfo : ChunkInfo AccountId) : Prop where
  initial_transaction_id : ObjectMember (TransactionIdJson library)
    (json.member? "initial_transaction_id") chunkInfo.initialTransactionId
  number : json.member? "number" = some (.integer chunkInfo.number.toInt)
  total : json.member? "total" = some (.integer chunkInfo.total.toInt)

/-- The form of a message in the REST API of the mirror node. Base64 and account ids are read
exactly. -/
structure JsonForm (library : JsonLibrary AccountId) (json : Json)
    (sent : TopicMessage AccountId) : Prop where
  consensus_timestamp :
    json.member? "consensus_timestamp" = some (timestampText sent.consensusTimestamp)
  message : ∃ text, json.member? "message" = some (.string text) ∧
    library.fromBase64 text = .ok sent.message
  running_hash : ∃ text, json.member? "running_hash" = some (.string text) ∧
    library.fromBase64 text = .ok sent.runningHash
  running_hash_version :
    json.member? "running_hash_version" = some (.integer sent.runningHashVersion.toNat)
  sequence_number : json.member? "sequence_number" = some (.integer sent.sequenceNumber.toNat)
  chunk_info : ObjectMember (ChunkInfoJson library) (json.member? "chunk_info") sent.chunkInfo

/-- `checkMember` lets a member of the named type pass. -/
structure ChecksMembers (library : JsonLibrary AccountId) : Prop where
  string : ∀ json name text, json.member? name = some (.string text) →
    library.checkMember json name .STRING = .ok ()
  integer : ∀ json name value, json.member? name = some (.integer value) →
    library.checkMember json name .INTEGER = .ok ()

/-- Both decoders make the same response of their form of the message. -/
def DecodersAgree (library : JsonLibrary AccountId) (fields : TopicResponseFields AccountId)
    (json : Json) : Prop :=
  ∃ response, ConsensusTopicResponse.ofFields fields = .ok response ∧
    ConsensusTopicResponse.ofJsonValue library json = .ok response

end Hiero

end GradidoNode

import GradidoNode.Hiero.TopicMessageDecoders

/-!
# Where the two decoders agree

Each decoder's result is given in terms of the message, and the two are compared.
-/

namespace GradidoNode

open Library Data

namespace Hiero

variable {AccountId : Type}

/-- `strtoll` returns a number that fits into 64 bits as it is written. -/
theorem strtoll_of_readInteger {text : List Char} {number : Int64}
    (read : DecimalText.readInteger text = number.toInt) : strtoll text = number := by
  have above := number.le_toInt
  have below := number.toInt_lt
  unfold strtoll
  rw [read, min_eq_right (by omega), max_eq_right (by omega), Int64.ofInt_toInt]

/-- The part of a text before its first dot. -/
theorem takeWhile_dot {before behind : List Char} (noDot : '.' ∉ before) :
    (before ++ '.' :: behind).takeWhile (· ≠ '.') = before := by
  have all : ∀ character ∈ before, decide (character ≠ '.') = true := by
    intro character member
    exact decide_eq_true (ne_of_mem_of_not_mem member noDot)
  rw [List.takeWhile_append_of_pos all]
  simp

/-- What is left of a text from its first dot on. -/
theorem dropWhile_dot {before behind : List Char} (noDot : '.' ∉ before) :
    (before ++ '.' :: behind).dropWhile (· ≠ '.') = '.' :: behind := by
  have all : ∀ character ∈ before, decide (character ≠ '.') = true := by
    intro character member
    exact decide_eq_true (ne_of_mem_of_not_mem member noDot)
  rw [List.dropWhile_append_of_pos all]
  simp

/-- Nine digits of nanoseconds are read back. -/
theorem timestampFromJson_timestampText {timestamp : Timestamp}
    (canonical : timestamp.Canonical) :
    timestampFromJson (timestampText timestamp) = .ok timestamp := by
  obtain ⟨notNegative, lessThanSecond⟩ := canonical
  have noDot : '.' ∉ DecimalText.ofInt timestamp.seconds.toInt :=
    DecimalText.notMem_ofInt (by decide) (by decide) _
  have fits : (Int64.ofInt timestamp.nanos.toInt).toInt = timestamp.nanos.toInt :=
    Int64.toInt_ofInt_of_le (by omega) (by omega)
  have read : DecimalText.readInteger (DecimalText.padded 9 timestamp.nanos.toInt.toNat) =
      (Int64.ofInt timestamp.nanos.toInt).toInt := by
    rw [DecimalText.readInteger_padded, fits, Int.toNat_of_nonneg notNegative]
  unfold timestampFromJson timestampText Json.asString
  dsimp only
  rw [String.toList_ofList, if_pos (by simp), takeWhile_dot noDot, dropWhile_dot noDot,
    List.tail_cons, strtoll_of_readInteger read, fits, Int32.ofInt_toInt,
    strtoll_of_readInteger (DecimalText.readInteger_ofInt timestamp.seconds.toInt)]

/-! ## The JSON decoder -/

section Json

variable {library : JsonLibrary AccountId} {json : Json}

/-- The JSON form of a transaction id is decoded to that id. -/
theorem TransactionId.ofJson_eq (checks : ChecksMembers library)
    {transactionId : TransactionId AccountId} (form : TransactionIdJson library json transactionId)
    (canonical : transactionId.transactionValidStart.Canonical) :
    TransactionId.ofJson library json = .ok transactionId := by
  obtain ⟨text, accountText, accountRead⟩ := form.account_id
  refine bind_ok_iff.mpr ⟨(), checks.string json _ text accountText, ?_⟩
  refine bind_ok_iff.mpr ⟨(), checks.integer json _ _ form.nonce, ?_⟩
  refine bind_ok_iff.mpr ⟨(), checks.string json _ _ form.transaction_valid_start, ?_⟩
  refine bind_ok_iff.mpr ⟨transactionId.accountId, ?_, ?_⟩
  · rw [Json.get_of_member? accountText]
    exact accountRead
  refine bind_ok_iff.mpr ⟨transactionId.transactionValidStart, ?_, ?_⟩
  · rw [Json.get_of_member? form.transaction_valid_start]
    exact timestampFromJson_timestampText canonical
  rw [Json.get_of_member? form.nonce, Json.get_of_member? form.scheduled, getInt, Json.asInteger,
    Int32.ofInt_toInt]
  rfl

/-- The same of the optional member of an object. -/
theorem TransactionId.ofMember_eq (checks : ChecksMembers library) {member : Option Json}
    {transactionId : Option (TransactionId AccountId)}
    (form : ObjectMember (TransactionIdJson library) member transactionId)
    (canonical : ∀ present, transactionId = some present →
      present.transactionValidStart.Canonical) :
    TransactionId.ofMember library member = .ok transactionId := by
  cases transactionId with
  | none => rcases form with rfl | rfl <;> rfl
  | some present =>
      obtain ⟨members, rfl, written⟩ := form
      rw [TransactionId.ofMember, TransactionId.ofJson_eq checks written (canonical present rfl)]
      rfl

/-- What the JSON decoder makes of a chunk info: the total is the number. -/
def ChunkInfo.fromJson (chunkInfo : ChunkInfo AccountId) :
    ConsensusMessageChunkInfo (TransactionId AccountId) where
  initialTransactionId := chunkInfo.initialTransactionId
  number := chunkInfo.number
  total := chunkInfo.number

/-- The JSON form of a chunk information is decoded as `fromJson` says. -/
theorem ConsensusMessageChunkInfo.ofJson_eq (checks : ChecksMembers library)
    {chunkInfo : ChunkInfo AccountId} (form : ChunkInfoJson library json chunkInfo) :
    ConsensusMessageChunkInfo.ofJson library json = .ok chunkInfo.fromJson := by
  refine bind_ok_iff.mpr ⟨chunkInfo.initialTransactionId,
    TransactionId.ofMember_eq checks form.initial_transaction_id chunkInfo.canonical, ?_⟩
  refine bind_ok_iff.mpr ⟨(), checks.integer json _ _ form.number, ?_⟩
  refine bind_ok_iff.mpr ⟨(), checks.integer json _ _ form.total, ?_⟩
  rw [Json.get_of_member? form.number, getInt, Json.asInteger, Int32.ofInt_toInt]
  rfl

/-- The same of the optional member of an object. -/
theorem ConsensusMessageChunkInfo.ofMember_eq (checks : ChecksMembers library)
    {member : Option Json} {chunkInfo : Option (ChunkInfo AccountId)}
    (form : ObjectMember (ChunkInfoJson library) member chunkInfo) :
    ConsensusMessageChunkInfo.ofMember library member = .ok (chunkInfo.map ChunkInfo.fromJson) := by
  cases chunkInfo with
  | none => rcases form with rfl | rfl <;> rfl
  | some present =>
      obtain ⟨members, rfl, written⟩ := form
      rw [ConsensusMessageChunkInfo.ofMember,
        ConsensusMessageChunkInfo.ofJson_eq checks written]
      rfl

/-- What the JSON decoder makes of a message. -/
def TopicMessage.fromJson (sent : TopicMessage AccountId) :
    ConsensusTopicResponse Timestamp (TransactionId AccountId) where
  consensusTimestamp := sent.consensusTimestamp
  message := some sent.message
  runningHash := some sent.runningHash
  sequenceNumber := sent.sequenceNumber
  runningHashVersion := (Int32.ofInt sent.runningHashVersion.toNat).toInt64.toUInt64
  chunkInfo := (sent.chunkInfo.map ChunkInfo.fromJson).getD .new

/-- The JSON decoder turns a message sent in its JSON form into `fromJson` of that message. -/
theorem ConsensusTopicResponse.ofJsonValue_eq (checks : ChecksMembers library)
    {sent : TopicMessage AccountId} (form : JsonForm library json sent) :
    ConsensusTopicResponse.ofJsonValue library json = .ok sent.fromJson := by
  obtain ⟨messageText, messageMember, messageRead⟩ := form.message
  obtain ⟨hashText, hashMember, hashRead⟩ := form.running_hash
  refine bind_ok_iff.mpr ⟨(), checks.string json _ _ form.consensus_timestamp, ?_⟩
  refine bind_ok_iff.mpr ⟨(), checks.string json _ _ messageMember, ?_⟩
  refine bind_ok_iff.mpr ⟨(), checks.string json _ _ hashMember, ?_⟩
  refine bind_ok_iff.mpr ⟨(), checks.integer json _ _ form.running_hash_version, ?_⟩
  refine bind_ok_iff.mpr ⟨(), checks.integer json _ _ form.sequence_number, ?_⟩
  refine bind_ok_iff.mpr ⟨sent.consensusTimestamp, ?_, ?_⟩
  · rw [Json.get_of_member? form.consensus_timestamp]
    exact timestampFromJson_timestampText sent.canonical
  refine bind_ok_iff.mpr ⟨sent.message, ?_, ?_⟩
  · rw [Json.get_of_member? messageMember]
    exact messageRead
  refine bind_ok_iff.mpr ⟨sent.runningHash, ?_, ?_⟩
  · rw [Json.get_of_member? hashMember]
    exact hashRead
  refine bind_ok_iff.mpr ⟨sent.chunkInfo.map ChunkInfo.fromJson,
    ConsensusMessageChunkInfo.ofMember_eq checks form.chunk_info, ?_⟩
  have numberRead : (Int64.ofInt sent.sequenceNumber.toNat).toUInt64 = sent.sequenceNumber := by
    rw [Int64.ofInt_eq_ofNat, Int64.toUInt64_ofNat', UInt64.ofNat_toNat]
  rw [Json.get_of_member? form.running_hash_version, Json.get_of_member? form.sequence_number,
    getInt64, Json.asInteger]
  unfold ConsensusTopicResponse.ofJson TopicMessage.fromJson
  rw [numberRead]
  rfl

end Json

/-! ## The protobuf decoder -/

/-- The fields that the protobuf decoder takes for granted, and the running hash. -/
structure FieldsPresent (fields : TopicResponseFields AccountId) : Prop where
  message : fields.message.isSome = true
  runningHash : fields.runningHash.isSome = true
  runningHashVersion : fields.runningHashVersion.isSome = true
  chunkInfo : ∀ chunkInfo, fields.chunkInfo = some chunkInfo →
    chunkInfo.initialTransactionID.isSome = true ∧ chunkInfo.total.isSome = true ∧
      chunkInfo.number.isSome = true

/-- What the protobuf decoder makes of a chunk info. -/
def ChunkInfo.fromFields (chunkInfo : ChunkInfo AccountId) :
    ConsensusMessageChunkInfo (TransactionId AccountId) where
  initialTransactionId := chunkInfo.initialTransactionId
  number := chunkInfo.number
  total := chunkInfo.total

/-- What the protobuf decoder makes of a message. -/
def TopicMessage.fromFields (sent : TopicMessage AccountId) :
    ConsensusTopicResponse Timestamp (TransactionId AccountId) where
  consensusTimestamp := sent.consensusTimestamp
  message := some sent.message
  runningHash := some sent.runningHash
  sequenceNumber := sent.sequenceNumber
  runningHashVersion := sent.runningHashVersion
  chunkInfo := (sent.chunkInfo.map ChunkInfo.fromFields).getD .new

/-- A field that is present holds the value it carries. -/
theorem Carries.of_isSome {Value : Type} {field : Option Value} {value default : Value}
    (carries : Carries field value default) (present : field.isSome = true) :
    field = some value := by
  rcases carries with here | ⟨missing, -⟩
  · exact here
  · rw [missing] at present
    cases present

/-- A field left out stands for its default. -/
theorem Carries.getD {Value : Type} {field : Option Value} {value default : Value}
    (carries : Carries field value default) : field.getD default = value := by
  rcases carries with here | ⟨missing, rfl⟩
  · rw [here, Option.getD_some]
  · rw [missing, Option.getD_none]

/-- A required field that was read is present. -/
theorem isSome_of_fieldValue {Value : Type} {field : Option Value} {value : Value}
    (success : fieldValue field = .ok value) : field.isSome = true := by
  cases field with
  | none => cases success
  | some present => rfl

/-- The protobuf fields of a chunk information are decoded as `fromFields` says. -/
theorem ConsensusMessageChunkInfo.ofField_eq
    {fields : Option (ConsensusMessageChunkInfoMessage AccountId)}
    {chunkInfo : Option (ChunkInfo AccountId)} (form : Option.Rel ChunkInfoFields fields chunkInfo)
    (present : ∀ inner, fields = some inner → inner.initialTransactionID.isSome = true ∧
      inner.total.isSome = true ∧ inner.number.isSome = true) :
    ConsensusMessageChunkInfo.ofField fields =
      .ok ((chunkInfo.map ChunkInfo.fromFields).getD .new) := by
  cases form with
  | none => rfl
  | some carried =>
      rename_i inner chunkInfo
      obtain ⟨initial, total, number⟩ := present inner rfl
      obtain ⟨transactionId, initialHere⟩ := Option.isSome_iff_exists.mp initial
      refine bind_ok_iff.mpr ⟨transactionId, by rw [initialHere]; rfl, ?_⟩
      refine bind_ok_iff.mpr ⟨chunkInfo.total, by rw [carried.total.of_isSome total]; rfl, ?_⟩
      refine bind_ok_iff.mpr ⟨chunkInfo.number, by rw [carried.number.of_isSome number]; rfl, ?_⟩
      rw [← initialHere, carried.initialTransactionID]
      rfl

/-- The protobuf decoder turns a message sent in its wire form into `fromFields` of that message. -/
theorem ConsensusTopicResponse.ofFields_eq {fields : TopicResponseFields AccountId}
    {sent : TopicMessage AccountId} (form : ProtobufForm fields sent)
    (present : FieldsPresent fields) :
    ConsensusTopicResponse.ofFields fields = .ok sent.fromFields := by
  have decoded : ConsensusTopicResponse.ofMessage fields.withoutChunkInfo =
      .ok { sent.fromFields with chunkInfo := .new } := by
    unfold ConsensusTopicResponse.ofMessage TopicResponseFields.withoutChunkInfo
    rw [form.consensusTimestamp, form.message.of_isSome present.message,
      form.runningHash.of_isSome present.runningHash,
      form.runningHashVersion.of_isSome present.runningHashVersion, form.sequenceNumber.getD]
    rfl
  refine bind_ok_iff.mpr ⟨_, decoded, ?_⟩
  refine bind_ok_iff.mpr ⟨_, ConsensusMessageChunkInfo.ofField_eq form.chunkInfo
    present.chunkInfo, ?_⟩
  rfl

/-- A response that the JSON decoder makes as well has all its fields present. -/
theorem fieldsPresent_of_fromJson {fields : TopicResponseFields AccountId}
    {sent : TopicMessage AccountId}
    (success : ConsensusTopicResponse.ofFields fields = .ok sent.fromJson) :
    FieldsPresent fields := by
  obtain ⟨response, decoded, success⟩ := bind_ok_iff.mp success
  obtain ⟨chunkInfo, chunkDecoded, success⟩ := bind_ok_iff.mp success
  obtain ⟨_, -, decoded⟩ := bind_ok_iff.mp decoded
  obtain ⟨message, messageHere, decoded⟩ := bind_ok_iff.mp decoded
  have sameHash : response.runningHash = some sent.runningHash :=
    congrArg ConsensusTopicResponse.runningHash (Except.ok.inj success)
  dsimp only at decoded
  split at decoded
  · rename_i hashHere
    obtain ⟨version, versionHere, -⟩ := bind_ok_iff.mp decoded
    refine ⟨isSome_of_fieldValue messageHere, hashHere, isSome_of_fieldValue versionHere, ?_⟩
    intro inner here
    rw [here] at chunkDecoded
    obtain ⟨_, initial, rest⟩ := bind_ok_iff.mp chunkDecoded
    obtain ⟨_, total, rest⟩ := bind_ok_iff.mp rest
    obtain ⟨_, number, -⟩ := bind_ok_iff.mp rest
    exact ⟨isSome_of_fieldValue initial, isSome_of_fieldValue total, isSome_of_fieldValue number⟩
  · rename_i noHash
    cases decoded
    exact absurd (congrArg Option.isSome sameHash) (by simpa using noHash)

/-! ## Both -/

/-- The condition under which the two decoders agree. -/
structure DecodedAlike (fields : TopicResponseFields AccountId) (sent : TopicMessage AccountId) :
    Prop where
  present : FieldsPresent fields
  versionFits : sent.runningHashVersion.toNat < 2 ^ 31 ∨
    2 ^ 64 - 2 ^ 31 ≤ sent.runningHashVersion.toNat
  total : ∀ chunkInfo, sent.chunkInfo = some chunkInfo → chunkInfo.total = chunkInfo.number

/-- The running hash version survives the cast to 32 bits and back exactly where it sign-extends to
itself. -/
theorem version_eq_iff (version : UInt64) :
    version = (Int32.ofInt version.toNat).toInt64.toUInt64 ↔
      version.toNat < 2 ^ 31 ∨ 2 ^ 64 - 2 ^ 31 ≤ version.toNat := by
  have below := version.toNat_lt
  have asInts : version = (Int32.ofInt version.toNat).toInt64.toUInt64 ↔
      version.toInt64.toInt = (Int32.ofInt version.toNat).toInt := by
    rw [← Int32.toInt_toInt64, Int64.toInt_inj]
    constructor
    · exact congrArg UInt64.toInt64
    · exact congrArg Int64.toUInt64
  have signed : version.toInt64.toInt = (version.toNat : Int).bmod Int64.size := by
    rw [← Int64.toInt_ofNat', ← UInt64.toInt64_ofNat', UInt64.ofNat_toNat]
  rw [asInts, signed, Int32.toInt_ofInt, Int32.size, Int64.size, Int.bmod_def, Int.bmod_def]
  split <;> split <;> omega

/-- The two decoded chunk informations agree exactly if the total is the number: the protobuf
decoder reads the total from the number's field. -/
theorem ChunkInfo.fromFields_eq_iff (chunkInfo : ChunkInfo AccountId) :
    chunkInfo.fromFields = chunkInfo.fromJson ↔ chunkInfo.total = chunkInfo.number := by
  unfold fromFields fromJson
  simp

/-- What the two decoders make of one message agrees exactly under the conditions on version and
chunk. -/
theorem TopicMessage.fromFields_eq_iff (sent : TopicMessage AccountId) :
    sent.fromFields = sent.fromJson ↔
      (sent.runningHashVersion.toNat < 2 ^ 31 ∨
        2 ^ 64 - 2 ^ 31 ≤ sent.runningHashVersion.toNat) ∧
      ∀ chunkInfo, sent.chunkInfo = some chunkInfo → chunkInfo.total = chunkInfo.number := by
  unfold fromFields fromJson
  rw [ConsensusTopicResponse.mk.injEq, version_eq_iff]
  cases sent.chunkInfo with
  | none => simp
  | some chunkInfo => simp [chunkInfo.fromFields_eq_iff]

/-- **The two decoders** agree on a message if and only if its total is its number, its fields
are present in the protobuf form, and the version of the running hash is read as it is. -/
theorem decodersAgree_iff {library : JsonLibrary AccountId} (checks : ChecksMembers library)
    {fields : TopicResponseFields AccountId} {json : Json} {sent : TopicMessage AccountId}
    (asProtobuf : ProtobufForm fields sent) (asJson : JsonForm library json sent) :
    DecodersAgree library fields json ↔ DecodedAlike fields sent := by
  unfold DecodersAgree
  rw [ConsensusTopicResponse.ofJsonValue_eq checks asJson]
  constructor
  · rintro ⟨response, decoded, same⟩
    cases same
    have present := fieldsPresent_of_fromJson decoded
    rw [ConsensusTopicResponse.ofFields_eq asProtobuf present] at decoded
    obtain ⟨versionFits, total⟩ := sent.fromFields_eq_iff.mp (Except.ok.inj decoded)
    exact ⟨present, versionFits, total⟩
  · rintro ⟨present, versionFits, total⟩
    refine ⟨sent.fromJson, ?_, rfl⟩
    rw [ConsensusTopicResponse.ofFields_eq asProtobuf present,
      sent.fromFields_eq_iff.mpr ⟨versionFits, total⟩]

/-! ## A message in one chunk, and the first of two -/

def exampleLibrary : JsonLibrary Nat where
  checkMember json name type :=
    match json.member? name, type with
    | some (.string _), .STRING => .ok ()
    | some (.integer _), .INTEGER => .ok ()
    | _, _ => .error (.gradidoNodeInvalidData "invalid member")
  fromBase64 text :=
    if text = "AQ==" then .ok [1] else .error (.gradidoNodeInvalidData "invalid base64")
  accountId text :=
    if text = "0.0.2" then .ok 2 else .error (.gradidoNodeInvalidData "invalid account id")

/-- The example library reads the members of an object as the decoder expects. -/
theorem checksMembers_exampleLibrary : ChecksMembers exampleLibrary := by
  constructor
  · intro json name text found
    simp [exampleLibrary, found]
  · intro json name value found
    simp [exampleLibrary, found]

def exampleTransactionId : TransactionId Nat where
  transactionValidStart := { seconds := 3, nanos := 6 }
  accountId := 2
  nonce := 0
  scheduled := false

def exampleChunkInfo (total : Int32) : ChunkInfo Nat where
  initialTransactionId := some exampleTransactionId
  canonical := by
    rintro _ ⟨⟩
    decide
  total := total
  number := 1

def exampleMessage (total : Int32) : TopicMessage Nat where
  consensusTimestamp := { seconds := 5, nanos := 7 }
  canonical := by decide
  message := [1]
  runningHash := [1]
  runningHashVersion := 3
  sequenceNumber := 1
  chunkInfo := some (exampleChunkInfo total)

def exampleFields (total : Int32) : TopicResponseFields Nat where
  consensusTimestamp := some { seconds := 5, nanos := 7 }
  message := some [1]
  runningHash := some [1]
  sequenceNumber := some 1
  runningHashVersion := some 3
  chunkInfo := some {
    initialTransactionID := some exampleTransactionId
    total := some total
    number := some 1 }

def exampleTransactionIdMembers : List (String × Json) :=
  [("account_id", .string "0.0.2"),
   ("nonce", .integer 0),
   ("scheduled", .bool false),
   ("transaction_valid_start", timestampText { seconds := 3, nanos := 6 })]

def exampleChunkMembers (total : Int32) : List (String × Json) :=
  [("initial_transaction_id", .object exampleTransactionIdMembers),
   ("number", .integer 1),
   ("total", .integer total.toInt)]

def exampleJson (total : Int32) : Json :=
  .object [
    ("chunk_info", .object (exampleChunkMembers total)),
    ("consensus_timestamp", timestampText { seconds := 5, nanos := 7 }),
    ("message", .string "AQ=="),
    ("payer_account_id", .string "0.0.2"),
    ("running_hash", .string "AQ=="),
    ("running_hash_version", .integer 3),
    ("sequence_number", .integer 1),
    ("topic_id", .string "0.0.4")]

/-- The example fields are the wire form of the example message. -/
theorem protobufForm_exampleFields (total : Int32) :
    ProtobufForm (exampleFields total) (exampleMessage total) where
  consensusTimestamp := rfl
  message := Or.inl rfl
  runningHash := Or.inl rfl
  runningHashVersion := Or.inl rfl
  sequenceNumber := Or.inl rfl
  chunkInfo := .some ⟨rfl, Or.inl rfl, Or.inl rfl⟩

/-- No field of the example is left out. -/
theorem fieldsPresent_exampleFields (total : Int32) : FieldsPresent (exampleFields total) where
  message := rfl
  runningHash := rfl
  runningHashVersion := rfl
  chunkInfo := by
    rintro _ ⟨⟩
    exact ⟨rfl, rfl, rfl⟩

/-- The JSON form of the example's transaction id. -/
theorem transactionIdJson_example :
    TransactionIdJson exampleLibrary (.object exampleTransactionIdMembers)
      exampleTransactionId where
  account_id := ⟨"0.0.2", by simp [Json.member?, Json.members, exampleTransactionIdMembers], rfl⟩
  nonce := by
    simp [Json.member?, Json.members, exampleTransactionIdMembers, exampleTransactionId]
  scheduled := by
    simp [Json.member?, Json.members, exampleTransactionIdMembers, exampleTransactionId]
  transaction_valid_start := by
    simp [Json.member?, Json.members, exampleTransactionIdMembers, exampleTransactionId]

/-- The JSON form of the example's chunk information. -/
theorem chunkInfoJson_example (total : Int32) :
    ChunkInfoJson exampleLibrary (.object (exampleChunkMembers total))
      (exampleChunkInfo total) where
  initial_transaction_id := ⟨exampleTransactionIdMembers,
    by simp [Json.member?, Json.members, exampleChunkMembers], transactionIdJson_example⟩
  number := by simp [Json.member?, Json.members, exampleChunkMembers, exampleChunkInfo]
  total := by simp [Json.member?, Json.members, exampleChunkMembers, exampleChunkInfo]

/-- The example object is the JSON form of the example message. -/
theorem jsonForm_exampleJson (total : Int32) :
    JsonForm exampleLibrary (exampleJson total) (exampleMessage total) where
  consensus_timestamp := by simp [Json.member?, Json.members, exampleJson, exampleMessage]
  message := ⟨"AQ==", by simp [Json.member?, Json.members, exampleJson], rfl⟩
  running_hash := ⟨"AQ==", by simp [Json.member?, Json.members, exampleJson], rfl⟩
  running_hash_version := by simp [Json.member?, Json.members, exampleJson, exampleMessage]
  sequence_number := by simp [Json.member?, Json.members, exampleJson, exampleMessage]
  chunk_info := ⟨exampleChunkMembers total,
    by simp [Json.member?, Json.members, exampleJson], chunkInfoJson_example total⟩

/-- A message in one chunk: total and number are both 1, and the decoders agree. -/
theorem decodersAgree_wholeMessage :
    DecodersAgree exampleLibrary (exampleFields 1) (exampleJson 1) := by
  refine (decodersAgree_iff checksMembers_exampleLibrary (protobufForm_exampleFields 1)
    (jsonForm_exampleJson 1)).mpr ⟨fieldsPresent_exampleFields 1, Or.inl (by decide), ?_⟩
  rintro _ ⟨⟩
  rfl

/-- The first chunk of two is the only one of one over REST. -/
theorem not_decodersAgree_firstChunk :
    ProtobufForm (exampleFields 2) (exampleMessage 2) ∧
      JsonForm exampleLibrary (exampleJson 2) (exampleMessage 2) ∧
      ¬ DecodersAgree exampleLibrary (exampleFields 2) (exampleJson 2) := by
  refine ⟨protobufForm_exampleFields 2, jsonForm_exampleJson 2, ?_⟩
  rintro ⟨response, fromFields, fromJson⟩
  rw [ConsensusTopicResponse.ofFields_eq (protobufForm_exampleFields 2)
    (fieldsPresent_exampleFields 2)] at fromFields
  rw [ConsensusTopicResponse.ofJsonValue_eq checksMembers_exampleLibrary
    (jsonForm_exampleJson 2)] at fromJson
  cases fromFields
  have sameTotal : (1 : Int32) = 2 :=
    congrArg (fun response => response.chunkInfo.total) (Except.ok.inj fromJson)
  exact absurd sameTotal (by decide)

end Hiero

end GradidoNode

import GradidoNode.Blockchain.Filter
import GradidoNode.Server.JsonRpc.RequestHandler

/-!
# The methods of the JSON-RPC server

A method reads its parameters, asks the blockchain of a community and adds what it found to the
result. A method that cannot go on returns early; only what comes to the end of `handle` is
answered with a result.
-/

namespace GradidoNode

open Library Blockchain

namespace Server

namespace JsonRpc

/-- What the methods call of a blockchain. A time point is a number of ticks. -/
structure ApiBlockchain (Entry : Type) where
  /-- `findOne(Filter::LAST_TRANSACTION)`. -/
  lastTransaction : Except Exception (Option Entry)
  /-- `findOne(Filter::FIRST_TRANSACTION)`. -/
  firstTransaction : Except Exception (Option Entry)
  getTransactionForId : UInt64 → Except Exception (Option Entry)
  /-- The argument is a pointer. -/
  findByMessageId : Option (List UInt8) → Except Exception (Option Entry)
  /-- `findAll` with a filter function that has no effects. -/
  findAll : Filter → (Entry → FilterResult) → Except Exception (List Entry)
  /-- `findAll` with a filter function that counts and dismisses. -/
  count : Filter → Except Exception UInt64
  findAllFast : Filter → Except Exception (List UInt64)
  /-- `calculateAccountBalance::Context::fromEnd`. -/
  fromEnd : Option (List UInt8) → Int → String → Except Exception String
  /-- `calculateCreationSum::Context`. -/
  creationSum : Int → Int → Option (List UInt8) → Except Exception String
  getAddressType : Option (List UInt8) → Except Exception String
  /-- `TransactionList::generateList`. -/
  generateList : Int → Filter → Except Exception Members

/-- What the methods look at in a transaction. -/
structure ApiEntry (Entry : Type) where
  serializedTransaction : Entry → List UInt8
  toJson : Entry → Except Exception Json
  /-- The GMW and the AUF address of a community root transaction. -/
  communityRoot : Entry → Except Exception (List UInt8 × List UInt8)
  /-- The name hash of a register address transaction. -/
  nameHash : Entry → List UInt8
  accountPublicKey : Entry → List UInt8

/-- What else the methods call while they answer one request. -/
structure ApiEnvironment (TransactionId Entry : Type) where
  errorCode : JsonRPCErrorCodes → Int
  listCommunityIds : Except Exception (List String)
  findBlockchain : String → Except Exception (Option (ApiBlockchain Entry))
  entry : ApiEntry Entry
  fromHex : String → Except Exception (List UInt8)
  convertToHex : List UInt8 → String
  convertToBase64 : List UInt8 → String
  /-- The constructor of a transaction id from a string. -/
  transactionId : String → Except Exception TransactionId
  /-- `TransactionId::empty`. -/
  isEmpty : TransactionId → Bool
  /-- `serialize::Context`. -/
  serialize : TransactionId → Except Exception (List UInt8)
  dateTimeStringToTimePoint : String → Except Exception Int
  /-- The first day of a month, from the year and the month. -/
  firstDay : Int32 → Int32 → Int
  now : Int
  /-- `Profiler::string`. -/
  timeUsed : String
  /-- A filter as its constructor leaves it. -/
  defaultFilter : Filter
  CREATION : UInt8
  REGISTER_ADDRESS : UInt8

/-- The first call yields a value, or the method returns early. -/
def orReturn {Value Result : Type} (first : Answering (Option Value))
    (second : Value → Answering (Option Result)) : Answering (Option Result) :=
  first.andThen fun value =>
    match value with
    | none => Fallible.outcome (.ok none)
    | some value => second value

/-- Come to the end of `handle` with a result. -/
def endWith (resultJson : Except Exception Members) : Answering (Option Members) :=
  (calling resultJson).andThen fun resultJson => Fallible.outcome (.ok (some resultJson))

/-- Add an error and return early. -/
def returnError {Result : Type} (errorCode : JsonRPCErrorCodes → Int) (code : JsonRPCErrorCodes)
    (message : String) : Answering (Option Result) :=
  (error errorCode code message).andThen fun _ => Fallible.outcome (.ok none)

/-- Add an error and come to the end of `handle`. -/
def endWithError (errorCode : JsonRPCErrorCodes → Int) (code : JsonRPCErrorCodes)
    (message : String) (resultJson : Members) : Answering (Option Members) :=
  (error errorCode code message).andThen fun _ => Fallible.outcome (.ok (some resultJson))

/-- A parameter that the methods read themselves: what is missing or of another type has the
default. -/
def memberOr {Value : Type} (read : Json → Option Value) (params : Json) (name : String)
    (default : Value) : Answering Value :=
  (findMember params name).andThen fun member =>
    Fallible.outcome (.ok ((member.bind read).getD default))

section Methods

variable {TransactionId Entry : Type} (environment : ApiEnvironment TransactionId Entry)
  (blockchain : ApiBlockchain Entry) (pubkey : Option (List UInt8)) (params : Json)

def timeUsed : String × Json := ("timeUsed", .string environment.timeUsed)

def listCommunities : Except Exception Members := do
  let groups ← environment.listCommunityIds
  return [("communities", .array (groups.map .string)), timeUsed environment]

/-- A transaction in the named format; everything but json is base64. -/
def transactionValue (format : String) (entry : Entry) : Except Exception Json :=
  if format = "json" then environment.entry.toJson entry
  else .ok (.string (environment.convertToBase64 (environment.entry.serializedTransaction entry)))

def formatType (format : String) : String × Json :=
  ("type", .string (if format = "json" then "json" else "base64"))

/-! ## `getLastTransaction` -/

/-- The answer from the last transaction. -/
def answerLastTransaction (format : String) : Option Entry → Answering (Option Members)
  | none => returnError environment.errorCode .GRADIDO_NODE_ERROR "no transaction"
  | some lastTransaction =>
      if format = "base64" ∨ format = "json" then
        endWith do
          let transaction ← transactionValue environment format lastTransaction
          return [("transaction", transaction), timeUsed environment]
      else
        endWithError environment.errorCode .INVALID_PARAMS "unsupported format"
          [timeUsed environment]

/-- An error about the format is added to the response, and the method goes on with base64. -/
def getLastTransaction : Answering (Option Members) :=
  (getStringParameter environment.errorCode params "format" false).andThen fun format =>
    (calling blockchain.lastTransaction).andThen fun lastTransaction =>
      answerLastTransaction environment (format.getD "base64") lastTransaction

/-! ## `getTransactions` -/

/-- The transactions of a list that are not empty. -/
def transactionValues (format : String) (transactions : List Entry) :
    Except Exception (List Json) :=
  (transactions.filter fun entry =>
    environment.entry.serializedTransaction entry ≠ []).mapM (transactionValue environment format)

/-- The balances of the GMW and the AUF account. -/
def communityBalances : Option Entry → Except Exception Members
  | none => .ok [("gmwBalance", .string "0"), ("aufBalance", .string "0")]
  | some communityRootEntry => do
      let communityRoot ← environment.entry.communityRoot communityRootEntry
      let gmwBalance ← blockchain.fromEnd (some communityRoot.1) environment.now ""
      let aufBalance ← blockchain.fromEnd (some communityRoot.2) environment.now ""
      return [("gmwBalance", .string gmwBalance), ("aufBalance", .string aufBalance)]

def findAllTransactions (filter : Filter) (format : String) : Except Exception Members := do
  let totalCount ← blockchain.count { filter with
    pagination := ⟨0, 0⟩, minTransactionNr := 0, maxTransactionNr := 0 }
  let transactions ← blockchain.findAll filter fun _ => FilterResult.USE
  let jsonTransactionArray ← transactionValues environment format transactions
  let communityRootEntry ← blockchain.firstTransaction
  let balances ← communityBalances environment blockchain communityRootEntry
  return [("totalCount", .integer totalCount.toNat), formatType format] ++ balances ++
    [("transactions", .array jsonTransactionArray), timeUsed environment]

def getTransactions : Answering (Option Members) :=
  orReturn (getUInt64Parameter environment.errorCode params "fromTransactionId" false)
    fun transactionId =>
      orReturn (getStringParameter environment.errorCode params "format" false) fun format =>
        (getUIntParameter environment.errorCode params "maxResultCount" true).andThen
          fun maxResultCount =>
            endWith (findAllTransactions environment blockchain
              { environment.defaultFilter with
                searchDirection := .ASC
                minTransactionNr := transactionId
                pagination := ⟨(maxResultCount.getD 100).toNat, 1⟩ } format)

/-! ## The methods for an address -/

def getAddressBalance : Answering (Option Members) :=
  orReturn (getStringParameter environment.errorCode params "date" false) fun date_string =>
    (calling (environment.dateTimeStringToTimePoint date_string)).andThen fun date =>
      (memberOr Json.string? params "coinCommunityId" "").andThen fun coinCommunityId =>
        endWith do
          let balance ← blockchain.fromEnd pubkey date coinCommunityId
          return [("balance", .string balance)]

def getAddressType : Answering (Option Members) :=
  endWith do
    let addressType ← blockchain.getAddressType pubkey
    return [("addressType", .string addressType)]

def getAddressTxids : Answering (Option Members) :=
  endWith do
    let transactionNrs ← blockchain.findAllFast
      { environment.defaultFilter with involvedPublicKey := pubkey }
    return [("transactionNrs", .array (transactionNrs.map fun transactionNr =>
      .integer transactionNr.toNat))]

def getCreationSumForMonth : Answering (Option Members) :=
  orReturn (getIntParameter environment.errorCode params "month" false) fun month =>
    orReturn (getIntParameter environment.errorCode params "year" false) fun year =>
      orReturn (getStringParameter environment.errorCode params "startSearchDate" false)
        fun date_string =>
          (calling (environment.dateTimeStringToTimePoint date_string)).andThen fun date =>
            endWith do
              let sum ← blockchain.creationSum date (environment.firstDay year month) pubkey
              return [("sum", .string sum), timeUsed environment]

/-- The size and the number of a page are unsigned. -/
def unsigned (value : Int32) : Nat := (UInt32.ofInt value.toInt).toNat

def listTransactions : Answering (Option Members) :=
  (memberOr Json.int? params "currentPage" 1).andThen fun page =>
    (memberOr Json.int? params "pageSize" 25).andThen fun size =>
      (memberOr Json.bool? params "orderDESC" true).andThen fun orderDESC =>
        (memberOr Json.bool? params "onlyCreations" false).andThen fun onlyCreations =>
          endWith do
            let transactionList ← blockchain.generateList environment.now
              { environment.defaultFilter with
                searchDirection := if orderDESC then .DESC else .ASC
                involvedPublicKey := pubkey
                pagination := ⟨unsigned size, unsigned page⟩
                transactionType := if onlyCreations then environment.CREATION else 0 }
            let balance ← blockchain.fromEnd pubkey environment.now ""
            return [("transactionList", .object (transactionList ++ [("balance", .string balance)])),
              timeUsed environment]

def getTransactionsForAddress : Answering (Option Members) :=
  (memberOr Json.uint? params "maxResultCount" 0).andThen fun maxResultCount =>
    (memberOr Json.uint64? params "firstTransactionNr" 1).andThen fun firstTransactionNr =>
      endWith do
        let transactions ← blockchain.findAll
          { environment.defaultFilter with
            involvedPublicKey := pubkey
            minTransactionNr := firstTransactionNr
            pagination := ⟨maxResultCount.toNat, 1⟩ } fun _ => FilterResult.USE
        return [("transactions", .array (transactions.map fun transaction =>
          .string (environment.convertToBase64
            (environment.entry.serializedTransaction transaction)))), timeUsed environment]

/-! ## `getTransaction` -/

/-- The look-up by number or by message id. -/
def findTransaction (transactionId : UInt64) (iotaMessageId : Option (List UInt8)) :
    Except Exception (Option Entry) :=
  if transactionId ≠ 0 then blockchain.getTransactionForId transactionId
  else blockchain.findByMessageId iotaMessageId

/-- The members for a transaction that was found; an empty one is left out. -/
def transactionMembers (format : String) (entry : Entry) : Except Exception Members :=
  if environment.entry.serializedTransaction entry ≠ [] then do
    let transaction ← transactionValue environment format entry
    return [("transaction", transaction), formatType format, timeUsed environment]
  else .ok [formatType format, timeUsed environment]

def answerTransaction (format : String) : Option Entry → Answering (Option Members)
  | none =>
      endWithError environment.errorCode .TRANSACTION_NOT_FOUND "transaction not found" []
  | some entry => endWith (transactionMembers environment format entry)

/-- The ids that a request for a transaction names: the message id that the handler is left with,
and whether there is none at all. -/
def messageIdOf (hieroTransactionIdString : Option String) :
    Except Exception (Option (List UInt8) × Bool) :=
  match hieroTransactionIdString with
  | none => .ok (none, true)
  | some text =>
      if text = "" then .ok (none, true)
      else do
        let hieroTransactionId ← environment.transactionId text
        let iotaMessageId ← environment.serialize hieroTransactionId
        return (some iotaMessageId, environment.isEmpty hieroTransactionId)

/-- The hex text of the message id is read, but `iotaMessageId` stays null. -/
def getTransaction : Answering (Option Members) :=
  orReturn (getStringParameter environment.errorCode params "format" false) fun format =>
    (getUInt64Parameter environment.errorCode params "transactionId" true).andThen
      fun transactionId =>
        (getStringParameter environment.errorCode params "hieroTransactionId" true).andThen
          fun hieroTransactionIdString =>
            (getBinaryFromHexStringParameter environment.errorCode environment.fromHex params
                "iotaMessageId" true).andThen fun _ =>
              (calling (messageIdOf environment hieroTransactionIdString)).andThen fun ids =>
                if transactionId.getD 0 = 0 ∧ ids.1 = none ∧ ids.2 = true then
                  returnError environment.errorCode .INVALID_PARAMS
                    "transactionId, hieroTransactionId or iotaMessageId needed"
                else
                  (calling (findTransaction blockchain (transactionId.getD 0) ids.1)).andThen
                    (answerTransaction environment format)

/-! ## `findUserByNameHash` -/

def answerUser : List Entry → Answering (Option Members)
  | [] => endWithError environment.errorCode .ADDRESS_NOT_FOUND "user not found"
      [timeUsed environment]
  | entry :: _ => endWith (.ok [timeUsed environment,
      ("pubkey", .string (environment.convertToHex (environment.entry.accountPublicKey entry)))])

def findUserByNameHash : Answering (Option Members) :=
  orReturn (getStringParameter environment.errorCode params "nameHash" false) fun nameHashHex =>
    (calling (environment.fromHex nameHashHex)).andThen fun nameHash =>
      (calling (blockchain.findAll
          { environment.defaultFilter with transactionType := environment.REGISTER_ADDRESS }
          fun entry =>
            if environment.entry.nameHash entry = nameHash then ⟨true, true⟩
            else FilterResult.DISMISS)).andThen (answerUser environment)

end Methods

section Handle

variable {TransactionId Entry : Type} (environment : ApiEnvironment TransactionId Entry)

/-- The first of the three parameters that is a string, empty if none is. -/
def getGroupAlias (params : Json) : Answering String :=
  (getStringParameter environment.errorCode params "groupAlias" true).andThen fun groupAlias =>
    match groupAlias with
    | some groupAlias => Fallible.outcome (.ok groupAlias)
    | none =>
        (getStringParameter environment.errorCode params "communityId" true).andThen
          fun communityId =>
            match communityId with
            | some communityId => Fallible.outcome (.ok communityId)
            | none =>
                (getStringParameter environment.errorCode params "topic" true).andThen
                  fun topic => Fallible.outcome (.ok (topic.getD ""))

def noNeedForPubkey : List String :=
  ["getLastTransaction", "getTransactions", "getTransaction", "findUserByNameHash"]

/-- The public key, null for the methods that need none. -/
def getPubkey (method : String) (params : Json) : Answering (Option (Option (List UInt8))) :=
  if method ∈ noNeedForPubkey then Fallible.outcome (.ok (some none))
  else
    orReturn (getStringParameter environment.errorCode params "pubkey" false) fun pubkeyHex =>
      (calling (environment.fromHex pubkeyHex)).andThen fun pubkey =>
        Fallible.outcome (.ok (some (some pubkey)))

def callMethod (method : String) (blockchain : ApiBlockchain Entry)
    (pubkey : Option (List UInt8)) (params : Json) : Answering (Option Members) :=
  if method = "getLastTransaction" then getLastTransaction environment blockchain params
  else if method = "getTransactions" then getTransactions environment blockchain params
  else if method = "getAddressBalance" then getAddressBalance environment blockchain pubkey params
  else if method = "getAddressType" then getAddressType blockchain pubkey
  else if method = "getAddressTxids" then getAddressTxids environment blockchain pubkey
  else if method = "getTransaction" then getTransaction environment blockchain params
  else if method = "getCreationSumForMonth" then
    getCreationSumForMonth environment blockchain pubkey params
  else if method = "listTransactions" then listTransactions environment blockchain pubkey params
  else if method = "getTransactionsForAddress" then
    getTransactionsForAddress environment blockchain pubkey params
  else if method = "findUserByNameHash" then findUserByNameHash environment blockchain params
  else endWithError environment.errorCode .METHODE_NOT_FOUND "method not known" []

/-- The end of `handle`: the result is added where no error is. -/
def addResult : Option Members → Answering Unit
  | none => Fallible.outcome (.ok ())
  | some resultJson => fun response =>
      if response.any fun member => member.1 = "error" then (.ok (), response)
      else addMember "result" (.object resultJson) response

/-- The requests of one community. -/
def handleCommunity (method : String) (params : Json) (blockchain : ApiBlockchain Entry) :
    Answering (Option Members) :=
  orReturn (getPubkey environment method params) fun pubkey =>
    callMethod environment method blockchain pubkey params

def handle (method : String) (params : Json) : Answering Unit :=
  if method = "listCommunities" then
    (calling (listCommunities environment)).andThen fun resultJson =>
      addMember "result" (.object resultJson)
  else
    (getGroupAlias environment params).andThen fun groupAlias =>
      if groupAlias = "" then
        error environment.errorCode .UNKNOWN_GROUP
          "neither topic, groupAlias nor communityId were specified"
      else
        (calling (environment.findBlockchain groupAlias)).andThen fun found =>
          match found with
          | none => error environment.errorCode .UNKNOWN_GROUP "community not known"
          | some blockchain =>
              (handleCommunity environment method params blockchain).andThen addResult

end Handle

end JsonRpc

end Server

end GradidoNode

import GradidoNode.Apollo.TransactionList
import GradidoNode.Blockchain.FindByMessageId
import GradidoNode.Server.JsonRpc.AnsweredSafely

/-!
# Looking a transaction up by its message id

A message id comes from the program itself, or from a request that names it by a transaction id
or in hex.
-/

namespace GradidoNode

open Library Cache Blockchain Blockchain.FileBased

namespace Server

namespace JsonRpc

/-- How a request names a transaction. -/
inductive NamedBy
  | hieroTransactionId
  | iotaMessageId
  deriving DecidableEq, Repr

inductive LookUp
  | findByMessageId (messageId : List UInt8)
  /-- The request asks for the transaction with the message id in a format. -/
  | getTransaction (namedBy : NamedBy) (request : Json) (format : String) (messageId : List UInt8)

section Definitions

variable {RequestId TransactionId Entry : Type} [LinearOrder TransactionId]
  (environment : ApiEnvironment RequestId Entry) (blockchain : ApiBlockchain Entry)

/-- A request for a transaction of the blockchain that is not named by a number. -/
structure AsksFor (request params : Json) (format : String) : Prop where
  isObject : request.isObject = true
  hasParams : request.member? "params" = some params
  paramsObject : params.isObject = true
  hasMethod : request.member? "method" = some (.string "getTransaction")
  community : requestedBlockchain environment params = some blockchain
  hasFormat : (params.member? "format").bind Json.string? = some format
  noNumber : ((params.member? "transactionId").bind Json.uint64?).getD 0 = 0

/-- What the request names the message id by. -/
def Names (params : Json) (messageId : List UInt8) : NamedBy → Prop
  | .hieroTransactionId =>
      (params.member? "iotaMessageId").bind Json.string? = none ∧
        ∃ text, (params.member? "hieroTransactionId").bind Json.string? = some text ∧ text ≠ "" ∧
          ∃ hieroTransactionId, environment.transactionId text = .ok hieroTransactionId ∧
            environment.serialize hieroTransactionId = .ok messageId
  | .iotaMessageId =>
      (params.member? "hieroTransactionId").bind Json.string? = none ∧
        ∃ hex, (params.member? "iotaMessageId").bind Json.string? = some hex ∧
          environment.fromHex hex = .ok messageId

variable (idFormat : TransactionIdFormat TransactionId) (blocks : List (StoredBlock Entry))
  (findInChain : List UInt8 → Except Exception (Option Entry)) (transactionOf : UInt64 → Entry)
  (messageIdOf : Entry → List UInt8) (ids : HieroTransactionId TransactionId)

/-- The chain that the blockchain answers from, and the formats its transactions have. -/
structure Serves : Prop where
  stored : ChainStored blocks transactionOf
  filled : RangesFilled blocks
  scans : ScansRightly blocks findInChain transactionOf messageIdOf
  findByMessageId : ∀ messageId, blockchain.findByMessageId (some messageId) =
    (FileBased.findByMessageId idFormat blocks findInChain messageId ids).1
  presents : ∀ format, ∀ entry ∈ transactions blocks transactionOf, ∃ members,
    transactionMembers environment format entry = .ok members
  tellsApart : ∀ format, ∀ first ∈ transactions blocks transactionOf,
    ∀ second ∈ transactions blocks transactionOf,
      transactionMembers environment format first =
        transactionMembers environment format second → first = second

/-- A request asks for a confirmed transaction. -/
def LookUp.Valid : LookUp → Prop
  | .findByMessageId _ => True
  | .getTransaction namedBy request format messageId =>
      ∃ params, AsksFor environment blockchain request params format ∧
        Names environment params messageId namedBy ∧
        ∃ entry ∈ transactions blocks transactionOf, messageIdOf entry = messageId

/-- The right transaction is found, and a request is answered with it. -/
def LookUp.Answered (errorCode : JsonRPCErrorCodes → Int) : LookUp → Prop
  | .findByMessageId messageId =>
      ∃ result, (FileBased.findByMessageId idFormat blocks findInChain messageId ids).1 =
        .ok result ∧ IsAnswer blocks transactionOf messageIdOf messageId result
  | .getTransaction _ request format messageId =>
      ∃ entry ∈ transactions blocks transactionOf, messageIdOf entry = messageId ∧
        ∃ members, transactionMembers environment format entry = .ok members ∧
          handleOneRpcCall errorCode (handle environment) request =
            .ok (.object [("result", .object members), ("jsonrpc", .string "2.0"),
              ("id", request.get "id")])

/-- A look-up that works. A request by the hex text of the message id never does. -/
def LookUp.Works : LookUp → Prop
  | .findByMessageId messageId =>
      FoundRightly idFormat blocks transactionOf messageIdOf ids messageId
  | .getTransaction .hieroTransactionId _ _ messageId =>
      FoundRightly idFormat blocks transactionOf messageIdOf ids messageId
  | .getTransaction .iotaMessageId _ _ _ => False

end Definitions

section Requests

variable {RequestId Entry : Type} {environment : ApiEnvironment RequestId Entry}
  {blockchain : ApiBlockchain Entry} {errorCode : JsonRPCErrorCodes → Int}
  {request params : Json} {format : String} {messageId : List UInt8}

/-- The request comes to its method. -/
theorem AsksFor.handleParams_eq (asks : AsksFor environment blockchain request params format) :
    handleParams errorCode (handle environment) request [] =
      catchException errorCode ((getTransaction environment blockchain params).andThen addResult)
        [] := by
  have givenParams : (request.member? "params").bind Json.objectOrArray? = some params := by
    rw [asks.hasParams]
    cases params with
    | object members => rfl
    | _ => cases asks.paramsObject
  have givenMethod : (request.member? "method").bind Json.string? = some "getTransaction" := by
    rw [asks.hasMethod]
    rfl
  have other : "getTransaction" ≠ "listCommunities" := by decide
  rw [handleParams_given errorCode (handle environment) asks.isObject givenParams givenMethod]
  unfold catchException
  rcases handle_eq asks.paramsObject other with ⟨unknown, _⟩ | ⟨known, found, continued⟩
  · exact nomatch unknown.symm.trans asks.community
  · cases found.symm.trans asks.community
    rw [continued]
    rfl

/-- Behind the optional parameters. -/
theorem AsksFor.getTransaction_eq (asks : AsksFor environment blockchain request params format) :
    getTransaction environment blockchain params =
      (getBinaryFromHexStringParameter environment.errorCode environment.fromHex params
        "iotaMessageId" true).andThen fun _ =>
          (calling (messageIdOf environment
              ((params.member? "hieroTransactionId").bind Json.string?))).andThen fun ids =>
            if ids.1 = none ∧ ids.2 = true then
              returnError environment.errorCode .INVALID_PARAMS
                "transactionId, hieroTransactionId or iotaMessageId needed"
            else
              (calling (blockchain.findByMessageId ids.1)).andThen
                (answerTransaction environment format) := by
  unfold getTransaction getStringParameter getUInt64Parameter orReturn findTransaction
  rw [getParameter_given asks.paramsObject _ asks.hasFormat, Fallible.outcome_ok_andThen]
  dsimp only
  rw [getParameter_optional asks.paramsObject, Fallible.outcome_ok_andThen,
    getParameter_optional asks.paramsObject, Fallible.outcome_ok_andThen, asks.noNumber]
  simp

/-- The hex text is read, and no message id is there. -/
theorem AsksFor.getTransaction_hex (asks : AsksFor environment blockchain request params format)
    (names : Names environment params messageId .iotaMessageId) :
    ∃ message, getTransaction environment blockchain params [] = (.ok none, [("error", message)]) := by
  obtain ⟨noHiero, hex, given, read⟩ := names
  rw [asks.getTransaction_eq, noHiero]
  unfold getBinaryFromHexStringParameter getStringParameter
  rw [getParameter_optional asks.paramsObject, given, Fallible.outcome_ok_andThen]
  dsimp only
  rw [read]
  exact ⟨_, rfl⟩

/-- The text of the transaction id is turned into the message id. -/
theorem AsksFor.getTransaction_hiero
    (asks : AsksFor environment blockchain request params format)
    (names : Names environment params messageId .hieroTransactionId) :
    getTransaction environment blockchain params =
      (calling (blockchain.findByMessageId (some messageId))).andThen
        (answerTransaction environment format) := by
  obtain ⟨noHex, text, given, notEmpty, hieroTransactionId, parsed, serialized⟩ := names
  have read : messageIdOf environment (some text) =
      .ok (some messageId, environment.isEmpty hieroTransactionId) := by
    unfold messageIdOf
    dsimp only
    rw [if_neg notEmpty, parsed]
    simp only [bind, Except.bind, serialized]
    rfl
  rw [asks.getTransaction_eq, given, read]
  unfold getBinaryFromHexStringParameter getStringParameter
  rw [getParameter_optional asks.paramsObject, noHex, Fallible.outcome_ok_andThen]
  rfl

/-- What the method leaves is the answer, before the version and the id. -/
theorem AsksFor.handleOneRpcCall_eq (asks : AsksFor environment blockchain request params format)
    {response : Members}
    (caught : catchException errorCode
      ((getTransaction environment blockchain params).andThen addResult) [] = (.ok (), response)) :
    handleOneRpcCall errorCode (handle environment) request =
      .ok (.object (response ++ [("jsonrpc", .string "2.0"), ("id", request.get "id")])) :=
  JsonRpc.handleOneRpcCall_eq asks.isObject (asks.handleParams_eq.trans caught)

/-- An answer with an error is none with a result. -/
theorem AsksFor.not_result (asks : AsksFor environment blockchain request params format)
    {message : Json}
    (caught : catchException errorCode
      ((getTransaction environment blockchain params).andThen addResult) [] =
        (.ok (), [("error", message)])) {members : Members} :
    handleOneRpcCall errorCode (handle environment) request ≠
      .ok (.object [("result", .object members), ("jsonrpc", .string "2.0"),
        ("id", request.get "id")]) := by
  rw [asks.handleOneRpcCall_eq caught]
  simp

/-- A transaction that is found is the result. -/
theorem AsksFor.answer_found (asks : AsksFor environment blockchain request params format)
    (names : Names environment params messageId .hieroTransactionId) {entry : Entry}
    (found : blockchain.findByMessageId (some messageId) = .ok (some entry)) {members : Members}
    (presented : transactionMembers environment format entry = .ok members) :
    handleOneRpcCall errorCode (handle environment) request =
      .ok (.object [("result", .object members), ("jsonrpc", .string "2.0"),
        ("id", request.get "id")]) := by
  have caught : catchException errorCode
      ((getTransaction environment blockchain params).andThen addResult) [] =
        (.ok (), [("result", .object members)]) := by
    unfold catchException
    rw [asks.getTransaction_hiero names, found]
    simp only [calling, Except.mapError, Fallible.andThen, Fallible.outcome, answerTransaction,
      endWith, presented]
    rfl
  exact asks.handleOneRpcCall_eq caught

/-- Anything else is answered with an error. -/
theorem AsksFor.answer_notFound (asks : AsksFor environment blockchain request params format)
    (names : Names environment params messageId .hieroTransactionId)
    (notFound : ∀ entry, blockchain.findByMessageId (some messageId) ≠ .ok (some entry))
    {members : Members} :
    handleOneRpcCall errorCode (handle environment) request ≠
      .ok (.object [("result", .object members), ("jsonrpc", .string "2.0"),
        ("id", request.get "id")]) := by
  cases found : blockchain.findByMessageId (some messageId) with
  | error exception =>
      refine @AsksFor.not_result _ _ _ _ errorCode _ _ _ asks (errorMember errorCode
        .GRADIDO_NODE_ERROR "gradido node intern exception" .null) ?_ _
      unfold catchException
      rw [asks.getTransaction_hiero names, found]
      rfl
  | ok result =>
      cases result with
      | some entry => exact absurd found (notFound entry)
      | none =>
          refine @AsksFor.not_result _ _ _ _ errorCode _ _ _ asks (errorMember
            environment.errorCode .TRANSACTION_NOT_FOUND "transaction not found" .null) ?_ _
          unfold catchException
          rw [asks.getTransaction_hiero names, found]
          rfl

end Requests

section Main

variable {RequestId TransactionId Entry : Type} [LinearOrder TransactionId]
  {environment : ApiEnvironment RequestId Entry} {blockchain : ApiBlockchain Entry}
  {idFormat : TransactionIdFormat TransactionId} {blocks : List (StoredBlock Entry)}
  {findInChain : List UInt8 → Except Exception (Option Entry)} {transactionOf : UInt64 → Entry}
  {messageIdOf : Entry → List UInt8} {ids : HieroTransactionId TransactionId}

/-- A request by a transaction id is answered with the transaction exactly where that is found. -/
theorem answered_hiero_iff
    (serves : Serves environment blockchain idFormat blocks findInChain transactionOf messageIdOf
      ids) (errorCode : JsonRPCErrorCodes → Int) {request params : Json} {format : String}
    {messageId : List UInt8} (asks : AsksFor environment blockchain request params format)
    (names : Names environment params messageId .hieroTransactionId)
    (confirmed : ∃ entry ∈ transactions blocks transactionOf, messageIdOf entry = messageId) :
    LookUp.Answered environment idFormat blocks findInChain transactionOf messageIdOf ids errorCode
        (.getTransaction .hieroTransactionId request format messageId) ↔
      FoundRightly idFormat blocks transactionOf messageIdOf ids messageId := by
  rw [← findByMessageId_right_iff serves.stored serves.filled serves.scans,
    ← serves.findByMessageId messageId]
  constructor
  · rintro ⟨entry, inChain, isEntry, members, presented, answered⟩
    by_cases found : ∃ other, blockchain.findByMessageId (some messageId) = .ok (some other)
    · obtain ⟨other, found⟩ := found
      have alsoInChain := mem_transactions_of_found serves.stored serves.filled serves.scans
        ((serves.findByMessageId messageId).symm.trans found)
      obtain ⟨otherMembers, otherPresented⟩ := serves.presents format other alsoInChain
      have same := answered.symm.trans (asks.answer_found names found otherPresented)
      simp only [Except.ok.injEq, Json.object.injEq, List.cons.injEq, Prod.mk.injEq, true_and,
        and_true] at same
      have isOther := serves.tellsApart format entry inChain other alsoInChain
        (presented.trans (same ▸ otherPresented.symm))
      exact ⟨some other, found, alsoInChain, isOther ▸ isEntry⟩
    · exact absurd answered (asks.answer_notFound names fun other isOther => found ⟨other, isOther⟩)
  · rintro ⟨result, found, right⟩
    cases result with
    | none =>
        obtain ⟨entry, inChain, isEntry⟩ := confirmed
        exact absurd isEntry (right entry inChain)
    | some entry =>
        obtain ⟨members, presented⟩ := serves.presents format entry right.1
        exact ⟨entry, right.1, right.2, members, presented,
          asks.answer_found names found presented⟩

/-- A message id that is neither cached nor stored, and that of transaction 1, is looked up
rightly, by the program and by a request with a transaction id; every other one that is cached
or stored is answered with transaction 1. A request by the hex text is never answered. -/
theorem lookUp_answered_iff (errorCode : JsonRPCErrorCodes → Int)
    (serves : Serves environment blockchain idFormat blocks findInChain transactionOf messageIdOf
      ids) (lookUp : LookUp)
    (valid : lookUp.Valid environment blockchain blocks transactionOf messageIdOf) :
    lookUp.Answered environment idFormat blocks findInChain transactionOf messageIdOf ids
        errorCode ↔ lookUp.Works idFormat blocks transactionOf messageIdOf ids := by
  cases lookUp with
  | findByMessageId messageId =>
      exact findByMessageId_right_iff serves.stored serves.filled serves.scans
  | getTransaction namedBy request format messageId =>
      obtain ⟨params, asks, names, confirmed⟩ := valid
      cases namedBy with
      | hieroTransactionId => exact answered_hiero_iff serves errorCode asks names confirmed
      | iotaMessageId =>
          refine ⟨?_, False.elim⟩
          rintro ⟨entry, _, _, members, _, answered⟩
          obtain ⟨message, taken⟩ := asks.getTransaction_hex names
          have caught : catchException errorCode
              ((getTransaction environment blockchain params).andThen addResult) [] =
                (.ok (), [("error", message)]) := by
            unfold catchException
            rw [Fallible.andThen_of_ok taken]
            rfl
          exact absurd answered (asks.not_result caught)

end Main

section Example

open Apollo.TransactionList

/-- Two transactions, with the numbers 1 and 2. -/
def exampleChain : List (StoredBlock UInt64) := [exampleAccountBlock]

/-- A transaction id is a number, written as so many bytes. -/
def exampleIdFormat : TransactionIdFormat Nat where
  deserialize := fun bytes => .ok (some bytes.length)
  convertToBase64 := fun bytes => bytes.map fun _ => 'A'

def exampleMessageId (transaction : UInt64) : List UInt8 := List.replicate transaction.toNat 1

/-- Both message ids are in the memory cache. -/
def exampleMessageIds : HieroTransactionId Nat where
  initalized := false
  levelDBFile := OrderedMap.empty
  hieroTransactionIdTransactionNrs := (OrderedMap.empty.set 1 1).set 2 2

def exampleScan (messageId : List UInt8) : Except Exception (Option UInt64) :=
  .ok ([1, 2].find? fun transaction => exampleMessageId transaction = messageId)

def exampleBlockchain : ApiBlockchain UInt64 where
  lastTransaction := .ok (some 2)
  firstTransaction := .ok (some 1)
  getTransactionForId := fun number => getTransactionForId number exampleChain
  findByMessageId := fun messageId =>
    (FileBased.findByMessageId exampleIdFormat exampleChain exampleScan (messageId.getD [])
      exampleMessageIds).1
  findAll := fun _ _ => .ok [1, 2]
  count := fun _ => .ok 2
  findAllFast := fun _ => .ok [1, 2]
  fromEnd := fun _ _ _ => .ok "0"
  creationSum := fun _ _ _ => .ok "0"
  getAddressType := fun _ => .ok "NONE"
  generateList := fun _ _ => .ok []

/-- A server with one community, whose transaction ids are texts of so many characters. -/
def exampleServer : ApiEnvironment Nat UInt64 where
  errorCode := fun _ => -32600
  listCommunityIds := .ok ["community"]
  findBlockchain := fun communityId =>
    .ok (if communityId = "community" then some exampleBlockchain else none)
  entry := {
    serializedTransaction := fun transaction => [transaction.toUInt8]
    toJson := fun transaction => .ok (.integer transaction.toNat)
    communityRoot := fun _ => .ok ([], [])
    nameHash := fun _ => []
    accountPublicKey := fun _ => [] }
  fromHex := fun hex => .ok (hex.toList.map fun _ => 1)
  convertToHex := fun _ => ""
  convertToBase64 := fun bytes => if bytes = [1] then "AQ==" else "Ag=="
  transactionId := fun text => .ok text.length
  isEmpty := fun transactionId => transactionId = 0
  serialize := fun transactionId => .ok (List.replicate transactionId 1)
  dateTimeStringToTimePoint := fun _ => .ok 0
  firstDay := fun _ _ => 0
  now := 0
  timeUsed := ""
  defaultFilter := Filter.ALL_TRANSACTIONS .ASC
  CREATION := 1
  REGISTER_ADDRESS := 2

def exampleParams : Json :=
  .object [("communityId", .string "community"), ("format", .string "base64"),
    ("hieroTransactionId", .string "1")]

def exampleRequest : Json :=
  .object [("method", .string "getTransaction"), ("params", exampleParams), ("id", .integer 7)]

theorem transactions_exampleChain : transactions exampleChain id = [1, 2] := rfl

theorem transactionMembers_exampleServer (format : String) (entry : UInt64) :
    transactionMembers exampleServer format entry = .ok [("transaction",
      if format = "json" then .integer entry.toNat
      else .string (if [entry.toUInt8] = [1] then "AQ==" else "Ag==")),
      formatType format, timeUsed exampleServer] := by
  have notEmpty : exampleServer.entry.serializedTransaction entry ≠ [] := List.cons_ne_nil _ _
  unfold transactionMembers transactionValue
  rw [if_pos notEmpty]
  by_cases isJson : format = "json"
  · rw [if_pos isJson, if_pos isJson]
    rfl
  · rw [if_neg isJson, if_neg isJson]
    rfl

theorem serves_exampleServer :
    Serves exampleServer exampleBlockchain exampleIdFormat exampleChain exampleScan id
      exampleMessageId exampleMessageIds where
  stored := chainStored_exampleAccountBlock
  filled := by
    constructor
    · intro block member
      rw [List.mem_singleton.mp member]
      decide
    · intro block member
      rw [List.mem_singleton.mp member]
      decide
  scans messageId := by
    refine ⟨_, rfl, ?_⟩
    cases found : [1, 2].find? fun transaction => exampleMessageId transaction = messageId with
    | none =>
        intro entry member isEntry
        exact List.find?_eq_none.mp found entry member (decide_eq_true isEntry)
    | some entry =>
        exact ⟨List.mem_of_find?_eq_some found, by simpa using List.find?_some found⟩
  findByMessageId _ := rfl
  presents format entry _ := ⟨_, transactionMembers_exampleServer format entry⟩
  tellsApart format first inFirst second inSecond same := by
    rw [transactions_exampleChain] at inFirst inSecond
    rw [transactionMembers_exampleServer, transactionMembers_exampleServer] at same
    have shown := congrArg Prod.snd (List.cons.inj (Except.ok.inj same)).1
    by_cases isJson : format = "json"
    · simp only [if_pos isJson, Json.integer.injEq, Nat.cast_inj] at shown
      exact UInt64.toNat_inj.mp shown
    · simp only [if_neg isJson, Json.string.injEq] at shown
      simp only [List.mem_cons, List.not_mem_nil, or_false] at inFirst inSecond
      rcases inFirst with rfl | rfl <;> rcases inSecond with rfl | rfl
      · rfl
      · exact absurd shown (by decide)
      · exact absurd shown (by decide)
      · rfl

theorem known_exampleMessageIds {messageId : List UInt8}
    (cached : exampleMessageIds.hieroTransactionIdTransactionNrs.find? messageId.length ≠ none) :
    exampleMessageIds.Known exampleIdFormat messageId := ⟨messageId.length, rfl, .inl cached⟩

/-- A request by the transaction id of transaction 1 is answered with it. -/
theorem lookUp_firstTransaction :
    (LookUp.getTransaction .hieroTransactionId exampleRequest "base64" [1]).Answered exampleServer
      exampleIdFormat exampleChain exampleScan id exampleMessageId exampleMessageIds
      fun _ => -32600 := by
  refine (lookUp_answered_iff _ serves_exampleServer _ ?_).mpr ?_
  · refine ⟨exampleParams, ⟨rfl, rfl, rfl, rfl, rfl, rfl, rfl⟩,
      ⟨rfl, "1", rfl, by decide, 1, rfl, rfl⟩, 1, ?_, rfl⟩
    rw [transactions_exampleChain]
    exact List.mem_cons_self ..
  · refine .inr ⟨known_exampleMessageIds (by decide), ?_, rfl⟩
    rw [transactions_exampleChain]
    exact List.mem_cons_self ..

/-- The message id of transaction 2 is cached, and transaction 1 is found. -/
theorem not_lookUp_secondTransaction :
    Serves exampleServer exampleBlockchain exampleIdFormat exampleChain exampleScan id
        exampleMessageId exampleMessageIds ∧
      ¬ (LookUp.findByMessageId [1, 1]).Answered exampleServer exampleIdFormat exampleChain
        exampleScan id exampleMessageId exampleMessageIds fun _ => -32600 := by
  refine ⟨serves_exampleServer, ?_⟩
  rintro ⟨result, found, right⟩
  have known : exampleMessageIds.Known exampleIdFormat [1, 1] :=
    known_exampleMessageIds (by decide)
  rw [findByMessageId_of_known serves_exampleServer.stored serves_exampleServer.filled known]
    at found
  have isFirst : firstTransaction exampleChain id = some 1 := rfl
  rw [isFirst] at found
  cases found
  exact absurd right.2 (by decide)

end Example

end JsonRpc

end Server

end GradidoNode

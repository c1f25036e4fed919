import GradidoNode.Server.JsonRpc.ApiHandler
import Mathlib.Data.List.Forall2

/-!
# Answers to JSON-RPC requests

Which requests are answered with exactly one result or error, under their id and without member
access to a value that has no members.
-/

namespace GradidoNode

open Library

namespace Server

namespace JsonRpc

/-- The answer to a request echoes its id and has a result or an error, and that once. -/
structure Answer (request response : Json) : Prop where
  isObject : response.isObject = true
  id : (response.members.filter fun member => member.1 = "id") = [("id", request.get "id")]
  resultOrError :
    (response.members.filter fun member => member.1 = "result" ∨ member.1 = "error").length = 1

section Definitions

variable {TransactionId Entry : Type}

/-- The blockchains may change from one request of a batch to the next. -/
def handleWith (environment : Nat → ApiEnvironment TransactionId Entry) (number : Nat) :
    String → Json → Answering Unit := handle (environment number)

/-- Each request of a body gets its answer. -/
def AnsweredSafely (errorCode : JsonRPCErrorCodes → Int)
    (environment : Nat → ApiEnvironment TransactionId Entry) : Json → Prop
  | .array elements =>
      ∃ responses, handleRequest errorCode (handleWith environment) (.ok (.array elements)) =
        .ok (.array responses) ∧ List.Forall₂ Answer elements responses
  | body =>
      ∃ response, handleRequest errorCode (handleWith environment) (.ok body) = .ok response ∧
        Answer body response

/-- The group alias that params name. -/
def groupAliasOf (params : Json) : String :=
  (((params.member? "groupAlias").bind Json.string?).or
    (((params.member? "communityId").bind Json.string?).or
      ((params.member? "topic").bind Json.string?))).getD ""

/-- The blockchain that params ask for, if it is found. -/
def requestedBlockchain (environment : ApiEnvironment TransactionId Entry) (params : Json) :
    Option (ApiBlockchain Entry) :=
  if groupAliasOf params = "" then none
  else ((environment.findBlockchain (groupAliasOf params)).toOption).bind id

/-- A request that is answered safely. -/
structure Answerable (environment : ApiEnvironment TransactionId Entry) (request : Json) :
    Prop where
  isObject : request.isObject = true
  /-- Only the list of communities may be asked for with an array. -/
  paramsObject : ∀ elements method, request.member? "params" = some (.array elements) →
    request.member? "method" = some (.string method) → method = "listCommunities"
  /-- A last transaction without a format is only asked for where there is one. -/
  format : ∀ members blockchain, request.member? "params" = some (.object members) →
    request.member? "method" = some (.string "getLastTransaction") →
    requestedBlockchain environment (.object members) = some blockchain →
    ((Json.object members).member? "format").bind Json.string? = none →
      ∃ entry, blockchain.lastTransaction = .ok (some entry)

/-- A body all of whose requests are answered safely. -/
def BodyAnswerable (environment : Nat → ApiEnvironment TransactionId Entry) : Json → Prop
  | .array elements =>
      ∀ number request, elements[number]? = some request → Answerable (environment number) request
  | .object members => Answerable (environment 0) (.object members)
  | _ => True

end Definitions

/-- A server without communities. -/
def emptyServer : ApiEnvironment Unit Unit where
  errorCode := fun _ => -32600
  listCommunityIds := .ok []
  findBlockchain := fun _ => .ok none
  entry := {
    serializedTransaction := fun _ => []
    toJson := fun _ => .ok .null
    communityRoot := fun _ => .ok ([], [])
    nameHash := fun _ => []
    accountPublicKey := fun _ => [] }
  fromHex := fun _ => .ok []
  convertToHex := fun _ => ""
  convertToBase64 := fun _ => ""
  transactionId := fun _ => .ok ()
  isEmpty := fun _ => true
  serialize := fun _ => .ok []
  dateTimeStringToTimePoint := fun _ => .ok 0
  firstDay := fun _ _ => 0
  now := 0
  timeUsed := ""
  defaultFilter := Blockchain.Filter.ALL_TRANSACTIONS .ASC
  CREATION := 1
  REGISTER_ADDRESS := 2

/-! ## Calls on a response without members -/

section Calls

variable {Value Result : Type} {errorCode : JsonRPCErrorCodes → Int}

/-- A call that adds nothing and does not access members where there are none. -/
structure Silent (call : Answering Value) : Prop where
  adds : (call []).2 = []
  accesses : (call []).1 ≠ .error .memberAccess

/-- How the call for a value ends: the value is there, or an error says that it is not. -/
inductive Reading : Except Abort (Option Value) × Members → Prop
  | given (value : Value) : Reading (.ok (some value), [])
  | missing (message : Json) : Reading (.ok none, [("error", message)])
  | thrown (exception : Exception) : Reading (.error (.exception exception), [])

/-- How a method ends: like the call for a result, or with an error beside the result. -/
inductive Handling : Except Abort (Option Members) × Members → Prop
  | read {outcome : Except Abort (Option Members) × Members} : Reading outcome → Handling outcome
  | refused (resultJson : Members) (message : Json) :
      Handling (.ok (some resultJson), [("error", message)])

/-- Returning a value adds nothing. -/
theorem silent_ok (value : Value) : Silent (Fallible.outcome (.ok value)) :=
  ⟨rfl, fun aborted => nomatch aborted⟩

/-- Nor does a call of other code, which may throw. -/
theorem silent_calling (call : Except Exception Value) : Silent (calling call) := by
  cases call with
  | ok value => exact ⟨rfl, fun aborted => nomatch aborted⟩
  | error exception => exact ⟨rfl, fun aborted => nomatch aborted⟩

/-- A silent call succeeds or throws. -/
theorem Silent.cases {call : Answering Value} (silent : Silent call) :
    (∃ value, call [] = (.ok value, [])) ∨
      ∃ exception, call [] = (.error (.exception exception), []) := by
  rcases taken : call [] with ⟨outcome, response⟩
  have adds := silent.adds
  have accesses := silent.accesses
  rw [taken] at adds accesses
  cases adds
  cases outcome with
  | ok value => exact .inl ⟨value, rfl⟩
  | error abort =>
      cases abort with
      | memberAccess => exact absurd rfl accesses
      | exception exception => exact .inr ⟨exception, rfl⟩

/-- Silent calls one after the other are silent. -/
theorem Silent.andThen {first : Answering Value} {second : Value → Answering Result}
    (silent : Silent first) (later : ∀ value, Silent (second value)) :
    Silent (first.andThen second) := by
  rcases silent.cases with ⟨value, taken⟩ | ⟨exception, taken⟩
  · constructor
    · rw [Fallible.andThen_of_ok taken]
      exact (later value).adds
    · rw [Fallible.andThen_of_ok taken]
      exact (later value).accesses
  · constructor
    · rw [Fallible.andThen_of_error taken]
    · rw [Fallible.andThen_of_error taken]
      exact fun aborted => nomatch aborted

/-- After a silent call comes the next one, unless it throws. -/
theorem ends_andThen {ends : Except Abort Result × Members → Prop} {first : Answering Value}
    {second : Value → Answering Result}
    (thrown : ∀ exception, ends (.error (.exception exception), [])) (silent : Silent first)
    (later : ∀ value, ends (second value [])) : ends (first.andThen second []) := by
  rcases silent.cases with ⟨value, taken⟩ | ⟨exception, taken⟩
  · rw [Fallible.andThen_of_ok taken]
    exact later value
  · rw [Fallible.andThen_of_error taken]
    exact thrown exception

/-- After a call for a value comes the next one, unless there is no value. -/
theorem ends_orReturn {ends : Except Abort (Option Result) × Members → Prop}
    {first : Answering (Option Value)} {second : Value → Answering (Option Result)}
    (missing : ∀ message, ends (.ok none, [("error", message)]))
    (thrown : ∀ exception, ends (.error (.exception exception), [])) (reading : Reading (first []))
    (later : ∀ value, ends (second value [])) : ends (orReturn first second []) := by
  unfold orReturn
  rcases taken : first [] with ⟨outcome, response⟩
  rw [taken] at reading
  cases reading with
  | given value =>
      rw [Fallible.andThen_of_ok taken]
      exact later value
  | missing message =>
      rw [Fallible.andThen_of_ok taken]
      exact missing message
  | thrown exception =>
      rw [Fallible.andThen_of_error taken]
      exact thrown exception

/-- What a silent call does before a method ends does not matter to how it ends. -/
theorem Handling.andThen {first : Answering Value} {second : Value → Answering (Option Members)}
    (silent : Silent first) (later : ∀ value, Handling (second value [])) :
    Handling (first.andThen second []) :=
  ends_andThen (fun exception => .read (.thrown exception)) silent later

/-- A method that returns where a parameter is missing. -/
theorem Handling.orReturn {first : Answering (Option Value)}
    {second : Value → Answering (Option Members)} (reading : Reading (first []))
    (later : ∀ value, Handling (second value [])) : Handling (orReturn first second []) :=
  ends_orReturn (fun message => .read (.missing message)) (fun exception => .read (.thrown exception))
    reading later

/-- A method that ends with a result, or with the exception of computing it. -/
theorem handling_endWith (resultJson : Except Exception Members) :
    Handling (endWith resultJson []) :=
  .andThen (silent_calling resultJson) fun resultJson => .read (.given resultJson)

/-- An error answered handles the request. -/
theorem handling_returnError (code : JsonRPCErrorCodes) (message : String) :
    Handling (returnError errorCode code message []) := .read (.missing _)

/-- A method that ends with an error of its own, and has a result all the same. -/
theorem handling_endWithError (code : JsonRPCErrorCodes) (message : String)
    (resultJson : Members) : Handling (endWithError errorCode code message resultJson []) :=
  .refused resultJson _

end Calls

/-! ## Parameters of an object -/

section Parameters

variable {Value : Type} {errorCode : JsonRPCErrorCodes → Int} {params : Json}

/-- In an object the look-up of a member does not fail. -/
theorem findMember_of_isObject (isObject : params.isObject = true) (name : String) :
    findMember params name = Fallible.outcome (.ok (params.member? name)) := by
  rw [findMember, if_pos isObject]

/-- An optional parameter is there or not. -/
theorem getParameter_optional (isObject : params.isObject = true) (read : Json → Option Value)
    (mistyped : String → String) (fieldName : String) :
    getParameter errorCode read mistyped params fieldName true =
      Fallible.outcome (.ok ((params.member? fieldName).bind read)) := by
  funext response
  rw [getParameter, findMember_of_isObject isObject]
  cases params.member? fieldName with
  | none => rfl
  | some value =>
      cases readValue : read value with
      | none => simp [Fallible.andThen, Fallible.outcome, complain, readValue]
      | some value => simp [Fallible.andThen, Fallible.outcome, readValue]

/-- A mandatory parameter that is there. -/
theorem getParameter_given (isObject : params.isObject = true) {read : Json → Option Value}
    (mistyped : String → String) {fieldName : String} {value : Value}
    (given : (params.member? fieldName).bind read = some value) :
    getParameter errorCode read mistyped params fieldName false =
      Fallible.outcome (.ok (some value)) := by
  funext response
  rw [getParameter, findMember_of_isObject isObject]
  obtain ⟨member, found, readValue⟩ := Option.bind_eq_some_iff.mp given
  simp [Fallible.andThen, Fallible.outcome, found, readValue]

/-- A mandatory parameter that is missing or mistyped. -/
theorem getParameter_missing (errorCode : JsonRPCErrorCodes → Int) (isObject : params.isObject = true) {read : Json → Option Value}
    (mistyped : String → String) {fieldName : String}
    (missing : (params.member? fieldName).bind read = none) :
    ∃ message, ∀ response, getParameter errorCode read mistyped params fieldName false response =
      (.ok none, response ++ [("error", message)]) := by
  rw [getParameter, findMember_of_isObject isObject]
  cases found : params.member? fieldName with
  | none => exact ⟨_, fun response => rfl⟩
  | some member =>
      rw [found, Option.bind_some] at missing
      refine ⟨errorMember errorCode .INVALID_PARAMS (mistyped fieldName) .null, fun response => ?_⟩
      simp [Fallible.andThen, Fallible.outcome, complain, error, addMember, missing]

/-- A parameter that must be there is read, or its complaint is the error. -/
theorem reading_getParameter (isObject : params.isObject = true) (read : Json → Option Value)
    (mistyped : String → String) (fieldName : String) :
    Reading (getParameter errorCode read mistyped params fieldName false []) := by
  cases outcome : (params.member? fieldName).bind read with
  | some value =>
      rw [getParameter_given isObject mistyped outcome]
      exact .given value
  | none =>
      obtain ⟨message, added⟩ := getParameter_missing errorCode isObject mistyped outcome
      rw [added []]
      exact .missing message

/-- One that may be missing is complained about in no response. -/
theorem silent_getParameter (isObject : params.isObject = true) (read : Json → Option Value)
    (mistyped : String → String) (fieldName : String) :
    Silent (getParameter errorCode read mistyped params fieldName true) := by
  rw [getParameter_optional isObject]
  exact silent_ok _

/-- A member with a default is read silently. -/
theorem silent_memberOr (isObject : params.isObject = true) (read : Json → Option Value)
    (name : String) (default : Value) : Silent (memberOr read params name default) := by
  rw [memberOr, findMember_of_isObject isObject]
  exact (silent_ok _).andThen fun member => silent_ok _

/-- Optional bytes in hex are read, or their text is refused with an exception. -/
theorem silent_getBinaryFromHexStringParameter (isObject : params.isObject = true)
    (fromHex : String → Except Exception (List UInt8)) (fieldName : String) :
    Silent (getBinaryFromHexStringParameter errorCode fromHex params fieldName true) := by
  refine (silent_getParameter isObject _ _ _).andThen fun hex => ?_
  cases hex with
  | none => exact silent_ok _
  | some hex => exact (silent_calling _).andThen fun _ => silent_ok _

end Parameters

/-! ## The methods -/

section Methods

variable {TransactionId Entry : Type} {environment : ApiEnvironment TransactionId Entry}
  {blockchain : ApiBlockchain Entry} {params : Json}

/-- The first of the three names that is a text is the group alias. -/
theorem getGroupAlias_eq (isObject : params.isObject = true) :
    getGroupAlias environment params = Fallible.outcome (.ok (groupAliasOf params)) := by
  funext response
  unfold getGroupAlias getStringParameter groupAliasOf
  simp only [getParameter_optional isObject]
  cases (params.member? "groupAlias").bind Json.string? with
  | some groupAlias => rfl
  | none =>
      cases (params.member? "communityId").bind Json.string? with
      | some communityId => rfl
      | none => rfl

/-- Methods that need a public key read it, the others go on without. -/
theorem reading_getPubkey (isObject : params.isObject = true) (method : String) :
    Reading (getPubkey environment method params []) := by
  unfold getPubkey
  split
  · exact .given none
  · exact ends_orReturn .missing .thrown (reading_getParameter isObject _ _ _) fun pubkeyHex =>
      ends_andThen .thrown (silent_calling _) fun pubkey => .given (some pubkey)

/-- The last transaction is answered in a known format, or the format is the error. -/
theorem handling_answerLastTransaction (format : String) (lastTransaction : Option Entry) :
    Handling (answerLastTransaction environment format lastTransaction []) := by
  cases lastTransaction with
  | none => exact handling_returnError _ _
  | some lastTransaction =>
      unfold answerLastTransaction
      split
      · exact handling_endWith _
      · exact handling_endWithError _ _ _

/-- The format is there, or the last transaction is. -/
theorem handling_getLastTransaction (isObject : params.isObject = true)
    (orEntry : (params.member? "format").bind Json.string? = none →
      ∃ entry, blockchain.lastTransaction = .ok (some entry)) :
    Handling (getLastTransaction environment blockchain params []) := by
  unfold getLastTransaction getStringParameter
  cases outcome : (params.member? "format").bind Json.string? with
  | some format =>
      rw [getParameter_given isObject _ outcome]
      exact .andThen (silent_ok _) fun format =>
        .andThen (silent_calling _) fun lastTransaction => handling_answerLastTransaction _ _
  | none =>
      obtain ⟨entry, last⟩ := orEntry outcome
      obtain ⟨message, added⟩ := getParameter_missing environment.errorCode isObject invalid outcome
      rw [Fallible.andThen_of_ok (added []), last]
      exact .refused _ _

/-- Without a format and without a last transaction there are two errors, one of which comes
from the exception if there is one. -/
theorem getLastTransaction_twoErrors (environment : ApiEnvironment TransactionId Entry)
    (isObject : params.isObject = true)
    (missing : (params.member? "format").bind Json.string? = none)
    (noEntry : ¬ ∃ entry, blockchain.lastTransaction = .ok (some entry)) :
    ∃ first, (∃ second, getLastTransaction environment blockchain params [] =
        (.ok none, [("error", first), ("error", second)])) ∨
      ∃ exception, getLastTransaction environment blockchain params [] =
        (.error (.exception exception), [("error", first)]) := by
  obtain ⟨message, added⟩ := getParameter_missing environment.errorCode isObject invalid missing
  refine ⟨message, ?_⟩
  unfold getLastTransaction getStringParameter
  rw [Fallible.andThen_of_ok (added [])]
  cases last : blockchain.lastTransaction with
  | error exception => exact .inr ⟨exception, rfl⟩
  | ok lastTransaction =>
      cases lastTransaction with
      | none => exact .inl ⟨_, rfl⟩
      | some entry => exact absurd ⟨entry, last⟩ noEntry

/-- `getTransactions` reads its parameters from an object. -/
theorem handling_getTransactions (isObject : params.isObject = true) :
    Handling (getTransactions environment blockchain params []) :=
  .orReturn (reading_getParameter isObject _ _ _) fun _ =>
    .orReturn (reading_getParameter isObject _ _ _) fun _ =>
      .andThen (silent_getParameter isObject _ _ _) fun _ => handling_endWith _

/-- So does `getAddressBalance`. -/
theorem handling_getAddressBalance (isObject : params.isObject = true)
    (pubkey : Option (List UInt8)) :
    Handling (getAddressBalance environment blockchain pubkey params []) :=
  .orReturn (reading_getParameter isObject _ _ _) fun _ =>
    .andThen (silent_calling _) fun _ =>
      .andThen (silent_memberOr isObject _ _ _) fun _ => handling_endWith _

/-- So does `getCreationSumForMonth`. -/
theorem handling_getCreationSumForMonth (isObject : params.isObject = true)
    (pubkey : Option (List UInt8)) :
    Handling (getCreationSumForMonth environment blockchain pubkey params []) :=
  .orReturn (reading_getParameter isObject _ _ _) fun _ =>
    .orReturn (reading_getParameter isObject _ _ _) fun _ =>
      .orReturn (reading_getParameter isObject _ _ _) fun _ =>
        .andThen (silent_calling _) fun _ => handling_endWith _

/-- So does `listTransactions`. -/
theorem handling_listTransactions (isObject : params.isObject = true)
    (pubkey : Option (List UInt8)) :
    Handling (listTransactions environment blockchain pubkey params []) :=
  .andThen (silent_memberOr isObject _ _ _) fun _ =>
    .andThen (silent_memberOr isObject _ _ _) fun _ =>
      .andThen (silent_memberOr isObject _ _ _) fun _ =>
        .andThen (silent_memberOr isObject _ _ _) fun _ => handling_endWith _

/-- So does `getTransactionsForAddress`. -/
theorem handling_getTransactionsForAddress (isObject : params.isObject = true)
    (pubkey : Option (List UInt8)) :
    Handling (getTransactionsForAddress environment blockchain pubkey params []) :=
  .andThen (silent_memberOr isObject _ _ _) fun _ =>
    .andThen (silent_memberOr isObject _ _ _) fun _ => handling_endWith _

/-- A transaction is answered whether it was found or not. -/
theorem handling_answerTransaction (format : String) (found : Option Entry) :
    Handling (answerTransaction environment format found []) := by
  cases found with
  | none => exact handling_endWithError _ _ _
  | some entry => exact handling_endWith _

/-- `getTransaction` reads its parameters from an object. -/
theorem handling_getTransaction (isObject : params.isObject = true) :
    Handling (getTransaction environment blockchain params []) := by
  refine .orReturn (reading_getParameter isObject _ _ _) fun format =>
    .andThen (silent_getParameter isObject _ _ _) fun transactionId =>
      .andThen (silent_getParameter isObject _ _ _) fun hieroTransactionIdString =>
        .andThen (silent_getBinaryFromHexStringParameter isObject _ _) fun _ =>
          .andThen (silent_calling _) fun ids => ?_
  split
  · exact handling_returnError _ _
  · exact .andThen (silent_calling _) fun found => handling_answerTransaction _ _

/-- The users found are answered. -/
theorem handling_answerUser (found : List Entry) :
    Handling (answerUser environment found []) := by
  cases found with
  | nil => exact handling_endWithError _ _ _
  | cons entry rest => exact handling_endWith _

/-- `findUserByNameHash` reads its parameters from an object. -/
theorem handling_findUserByNameHash (isObject : params.isObject = true) :
    Handling (findUserByNameHash environment blockchain params []) :=
  .orReturn (reading_getParameter isObject _ _ _) fun _ =>
    .andThen (silent_calling _) fun _ =>
      .andThen (silent_calling _) fun found => handling_answerUser found

/-- Every method ends in one of the ways that are handled, the last transaction without a format
only where there is one. -/
theorem handling_callMethod (isObject : params.isObject = true) (method : String)
    (pubkey : Option (List UInt8))
    (orEntry : method = "getLastTransaction" → (params.member? "format").bind Json.string? = none →
      ∃ entry, blockchain.lastTransaction = .ok (some entry)) :
    Handling (callMethod environment method blockchain pubkey params []) := by
  unfold callMethod
  split_ifs with isLast
  · exact handling_getLastTransaction isObject (orEntry isLast)
  · exact handling_getTransactions isObject
  · exact handling_getAddressBalance isObject pubkey
  · exact handling_endWith _
  · exact handling_endWith _
  · exact handling_getTransaction isObject
  · exact handling_getCreationSumForMonth isObject pubkey
  · exact handling_listTransactions isObject pubkey
  · exact handling_getTransactionsForAddress isObject pubkey
  · exact handling_findUserByNameHash isObject
  · exact handling_endWithError _ _ _

end Methods

/-! ## One request -/

section Request

variable {TransactionId Entry : Type} {environment : ApiEnvironment TransactionId Entry}
  {errorCode : JsonRPCErrorCodes → Int}

/-- How `handle` ends when all is well: with a result or an error, or with an exception before
it has added either. -/
inductive Handled : Except Abort Unit × Members → Prop
  | result (resultJson : Json) : Handled (.ok (), [("result", resultJson)])
  | error (message : Json) : Handled (.ok (), [("error", message)])
  | thrown (exception : Exception) : Handled (.error (.exception exception), [])

/-- The result is added where no error is, so that one of both is in the response. -/
theorem Handling.addResult {method : Answering (Option Members)} (handling : Handling (method [])) :
    Handled (method.andThen addResult []) := by
  rcases taken : method [] with ⟨outcome, response⟩
  rw [taken] at handling
  cases handling with
  | refused resultJson message =>
      rw [Fallible.andThen_of_ok taken]
      exact .error message
  | read reading =>
      cases reading with
      | given resultJson =>
          rw [Fallible.andThen_of_ok taken]
          exact .result _
      | missing message =>
          rw [Fallible.andThen_of_ok taken]
          exact .error message
      | thrown exception =>
          rw [Fallible.andThen_of_error taken]
          exact .thrown exception

/-- The list of communities needs no params. -/
theorem handled_listCommunities (params : Json) :
    Handled (handle environment "listCommunities" params []) := by
  unfold handle
  rw [if_pos rfl]
  exact ends_andThen .thrown (silent_calling _) fun resultJson => .result _

/-- The group alias is read, and the blockchain found or not. -/
theorem handle_eq {params : Json} (isObject : params.isObject = true) {method : String}
    (other : method ≠ "listCommunities") :
    (requestedBlockchain environment params = none ∧
      Handled (handle environment method params [])) ∨
    ∃ blockchain, requestedBlockchain environment params = some blockchain ∧
      handle environment method params [] =
        (handleCommunity environment method params blockchain).andThen addResult [] := by
  unfold handle requestedBlockchain
  rw [if_neg other, getGroupAlias_eq isObject, Fallible.outcome_ok_andThen]
  by_cases unnamed : groupAliasOf params = ""
  · rw [if_pos unnamed, if_pos unnamed]
    exact .inl ⟨rfl, .error _⟩
  · rw [if_neg unnamed, if_neg unnamed]
    cases looked : environment.findBlockchain (groupAliasOf params) with
    | error exception => exact .inl ⟨rfl, .thrown exception⟩
    | ok found =>
        cases found with
        | none => exact .inl ⟨rfl, .error _⟩
        | some blockchain => exact .inr ⟨blockchain, rfl, rfl⟩

/-- The call is settled with one result or one error. -/
inductive Settled : Except Abort Unit × Members → Prop
  | result (resultJson : Json) : Settled (.ok (), [("result", resultJson)])
  | error (message : Json) : Settled (.ok (), [("error", message)])

/-- An exception becomes the only error. -/
theorem Handled.catchException {call : Answering Unit} (handled : Handled (call [])) :
    Settled (catchException errorCode call []) := by
  unfold JsonRpc.catchException
  rcases taken : call [] with ⟨outcome, response⟩
  rw [taken] at handled
  cases handled with
  | result resultJson => exact .result resultJson
  | error message => exact .error message
  | thrown exception => exact .error _

/-- What `handle` adds is one result or one error, or it throws before. -/
theorem handled_handle {params : Json} (isObject : params.isObject = true) {method : String}
    (orEntry : ∀ blockchain, method = "getLastTransaction" →
      requestedBlockchain environment params = some blockchain →
      (params.member? "format").bind Json.string? = none →
        ∃ entry, blockchain.lastTransaction = .ok (some entry)) :
    Handled (handle environment method params []) := by
  by_cases isList : method = "listCommunities"
  · rw [isList]
    exact handled_listCommunities params
  · rcases handle_eq isObject isList with
      ⟨_, handled⟩ | ⟨blockchain, requested, continued⟩
    · exact handled
    · rw [continued]
      refine Handling.addResult (.orReturn (reading_getPubkey isObject method) fun pubkey => ?_)
      exact handling_callMethod isObject method pubkey fun isLast =>
        orEntry blockchain isLast requested

/-- A request with params and a method is handled. -/
theorem handleParams_given (errorCode : JsonRPCErrorCodes → Int)
    (handle : String → Json → Answering Unit) {request params : Json} {method : String}
    (isObject : request.isObject = true)
    (givenParams : (request.member? "params").bind Json.objectOrArray? = some params)
    (givenMethod : (request.member? "method").bind Json.string? = some method) :
    handleParams errorCode handle request = catchException errorCode (handle method params) := by
  unfold handleParams checkObjectOrArrayParameter getStringParameter
  rw [getParameter_given isObject _ givenParams, Fallible.outcome_ok_andThen]
  dsimp only
  rw [getParameter_given isObject _ givenMethod, Fallible.outcome_ok_andThen]

/-- A request without params or a method is not. -/
theorem settled_handleParams_missing {handle : String → Json → Answering Unit} {request : Json}
    (isObject : request.isObject = true)
    (missing : (request.member? "params").bind Json.objectOrArray? = none ∨
      (request.member? "method").bind Json.string? = none) :
    Settled (handleParams errorCode handle request []) := by
  unfold handleParams checkObjectOrArrayParameter getStringParameter
  cases params : (request.member? "params").bind Json.objectOrArray? with
  | none =>
      obtain ⟨message, added⟩ := getParameter_missing errorCode isObject
        (fun fieldName => fieldName ++ " is not a object or array") params
      rw [Fallible.andThen_of_ok (added [])]
      exact .error message
  | some value =>
      have noMethod := missing.resolve_left fun none => nomatch params.symm.trans none
      obtain ⟨message, added⟩ := getParameter_missing errorCode isObject invalid noMethod
      rw [getParameter_given isObject _ params, Fallible.outcome_ok_andThen]
      dsimp only
      rw [Fallible.andThen_of_ok (added [])]
      exact .error message

/-- What was handled is put before the version and the id. -/
theorem handleOneRpcCall_eq {handle : String → Json → Answering Unit} {request : Json}
    {response : Members} (isObject : request.isObject = true)
    (handled : handleParams errorCode handle request [] = (.ok (), response)) :
    handleOneRpcCall errorCode handle request =
      .ok (.object (response ++ [("jsonrpc", .string "2.0"), ("id", request.get "id")])) := by
  unfold handleOneRpcCall answerMembers
  rw [Fallible.andThen_of_ok handled, findMember_of_isObject isObject]
  simp [Fallible.andThen, addMember, Fallible.outcome, Json.get]

/-- What aborts the handling aborts the call. -/
theorem handleOneRpcCall_abort {handle : String → Json → Answering Unit} {request : Json}
    {response : Members} {abort : Abort}
    (aborted : handleParams errorCode handle request [] = (.error abort, response)) :
    handleOneRpcCall errorCode handle request = .error abort := by
  unfold handleOneRpcCall answerMembers
  rw [Fallible.andThen_of_error aborted]

/-- A settled call makes an answer under the id of the request. -/
theorem answer_of_settled {handle : String → Json → Answering Unit} {request : Json}
    (isObject : request.isObject = true)
    (settled : Settled (handleParams errorCode handle request [])) :
    ∃ response, handleOneRpcCall errorCode handle request = .ok response ∧
      Answer request response := by
  rcases taken : handleParams errorCode handle request [] with ⟨outcome, response⟩
  rw [taken] at settled
  cases settled with
  | result resultJson =>
      exact ⟨_, handleOneRpcCall_eq isObject taken,
        ⟨rfl, by simp [Json.members], by simp [Json.members]⟩⟩
  | error message =>
      exact ⟨_, handleOneRpcCall_eq isObject taken,
        ⟨rfl, by simp [Json.members], by simp [Json.members]⟩⟩

/-- The members of a value that is no object are asked for. -/
theorem handleParams_noObject (errorCode : JsonRPCErrorCodes → Int)
    (handle : String → Json → Answering Unit) {request : Json} (noObject : request.isObject = false) :
    handleParams errorCode handle request [] = (.error .memberAccess, []) := by
  unfold handleParams checkObjectOrArrayParameter getParameter findMember
  rw [if_neg (Bool.eq_false_iff.mp noObject)]
  rfl

/-- The group alias of an array is asked for. -/
theorem handle_array {elements : List Json} {method : String} (other : method ≠ "listCommunities") :
    handle environment method (.array elements) [] = (.error .memberAccess, []) := by
  unfold handle
  rw [if_neg other]
  rfl

/-- Two errors are not one. -/
theorem handle_twoErrors (errorCode : JsonRPCErrorCodes → Int) {params : Json} {blockchain : ApiBlockchain Entry}
    (isObject : params.isObject = true)
    (requested : requestedBlockchain environment params = some blockchain)
    (missing : (params.member? "format").bind Json.string? = none)
    (noEntry : ¬ ∃ entry, blockchain.lastTransaction = .ok (some entry)) :
    ∃ first second, catchException errorCode (handle environment "getLastTransaction" params) [] =
      (.ok (), [("error", first), ("error", second)]) := by
  have other : "getLastTransaction" ≠ "listCommunities" := by decide
  rcases handle_eq isObject other with ⟨unknown, _⟩ | ⟨known, found, continued⟩
  · exact nomatch unknown.symm.trans requested
  cases found.symm.trans requested
  have called : handleCommunity environment "getLastTransaction" params blockchain =
      getLastTransaction environment blockchain params := rfl
  obtain ⟨first, ⟨second, returned⟩ | ⟨exception, thrown⟩⟩ :=
    getLastTransaction_twoErrors environment isObject missing noEntry
  · refine ⟨first, second, ?_⟩
    unfold catchException
    rw [continued, called, Fallible.andThen_of_ok returned]
    rfl
  · refine ⟨first, errorMember errorCode .GRADIDO_NODE_ERROR "gradido node intern exception" .null,
      ?_⟩
    unfold catchException
    rw [continued, called, Fallible.andThen_of_error thrown]
    rfl

variable {request : Json}

/-- An array as params aborts every method but the list of communities. -/
theorem handleOneRpcCall_array {elements : List Json} {method : String}
    (isObject : request.isObject = true)
    (params : request.member? "params" = some (.array elements))
    (given : request.member? "method" = some (.string method))
    (other : method ≠ "listCommunities") :
    handleOneRpcCall errorCode (handle environment) request = .error .memberAccess := by
  have handled := handleParams_given errorCode (handle environment) isObject (by rw [params]; rfl)
    (by rw [given]; rfl)
  have aborted : handleParams errorCode (handle environment) request [] =
      (.error .memberAccess, []) := by
    rw [handled]
    unfold catchException
    rw [handle_array other]
  exact handleOneRpcCall_abort aborted

/-- A request that gets its answer is an object whose params are one, or need not be. -/
theorem Answerable.of_answer {response : Json}
    (called : handleOneRpcCall errorCode (handle environment) request = .ok response)
    (answer : Answer request response) : Answerable environment request := by
  have isObject : request.isObject = true := by
    by_contra noObject
    have aborted := handleOneRpcCall_abort
      (handleParams_noObject errorCode (handle environment) (Bool.eq_false_iff.mpr noObject))
    exact nomatch called.symm.trans aborted
  refine ⟨isObject, fun elements method params given => ?_,
    fun members blockchain params given requested missing => ?_⟩
  · by_contra other
    exact nomatch called.symm.trans (handleOneRpcCall_array isObject params given other)
  · by_contra noEntry
    have handled := handleParams_given errorCode (handle environment) isObject
      (by rw [params]; rfl) (by rw [given]; rfl)
    obtain ⟨first, second, two⟩ := handle_twoErrors errorCode rfl requested missing noEntry
    rw [← handled] at two
    cases called.symm.trans (handleOneRpcCall_eq isObject two)
    have one := answer.resultOrError
    simp [Json.members] at one

/-- An answerable request is settled. -/
theorem Answerable.settled (answerable : Answerable environment request) :
    Settled (handleParams errorCode (handle environment) request []) := by
  have isObject := answerable.isObject
  cases params : (request.member? "params").bind Json.objectOrArray? with
  | none => exact settled_handleParams_missing isObject (.inl params)
  | some value =>
      cases given : (request.member? "method").bind Json.string? with
      | none => exact settled_handleParams_missing isObject (.inr given)
      | some method =>
          rw [handleParams_given errorCode (handle environment) isObject params given]
          obtain ⟨member, found, isValue⟩ := Option.bind_eq_some_iff.mp params
          obtain ⟨text, foundText, isText⟩ := Option.bind_eq_some_iff.mp given
          have isMethod := Json.string?_eq_some_iff.mp isText
          rw [isMethod] at foundText
          refine Handled.catchException ?_
          rcases Json.objectOrArray?_eq_some_iff.mp isValue with
            ⟨members, rfl, rfl⟩ | ⟨elements, rfl, rfl⟩
          · refine handled_handle rfl fun blockchain isLast requested missing => ?_
            rw [isLast] at foundText
            exact answerable.format members blockchain found foundText requested missing
          · rw [answerable.paramsObject elements method found foundText]
            exact handled_listCommunities _

/-- Exactly the answerable requests get their answer. -/
theorem answered_iff :
    (∃ response, handleOneRpcCall errorCode (handle environment) request = .ok response ∧
      Answer request response) ↔ Answerable environment request :=
  ⟨fun ⟨_, called, answer⟩ => .of_answer called answer,
    fun answerable => answer_of_settled answerable.isObject answerable.settled⟩

end Request

/-! ## A batch of requests -/

section Batch

variable {TransactionId Entry : Type} {errorCode : JsonRPCErrorCodes → Int}

/-- A batch is answered one request after the other. -/
theorem handleBatch_cons_ok {handle : Nat → String → Json → Answering Unit} {request : Json}
    {rest responses : List Json} :
    handleBatch errorCode handle (request :: rest) = .ok responses ↔
      ∃ first later, handleOneRpcCall errorCode (handle 0) request = .ok first ∧
        handleBatch errorCode (fun number => handle (number + 1)) rest = .ok later ∧
        responses = first :: later := by
  rw [handleBatch]
  cases handleOneRpcCall errorCode (handle 0) request with
  | error abort => simp [bind, Except.bind]
  | ok first =>
      cases handleBatch errorCode (fun number => handle (number + 1)) rest with
      | error abort => simp [bind, Except.bind]
      | ok later => simp [bind, Except.bind, pure, Except.pure, eq_comm]

/-- A batch gets its answers where each of its requests does. -/
theorem batchAnswered_iff {environment : Nat → ApiEnvironment TransactionId Entry}
    {elements : List Json} :
    (∃ responses, handleBatch errorCode (handleWith environment) elements = .ok responses ∧
      List.Forall₂ Answer elements responses) ↔
    ∀ number request, elements[number]? = some request →
      Answerable (environment number) request := by
  induction elements generalizing environment with
  | nil => simp [handleBatch]
  | cons request rest ih =>
      have later := @ih fun number => environment (number + 1)
      constructor
      · rintro ⟨responses, handled, answers⟩
        obtain ⟨first, responsesRest, called, handledRest, rfl⟩ := handleBatch_cons_ok.mp handled
        cases answers with
        | cons answer answersRest =>
            have inRest := later.mp ⟨responsesRest, handledRest, answersRest⟩
            intro number other at_number
            cases number with
            | zero =>
                cases at_number
                exact .of_answer called answer
            | succ number => exact inRest number other at_number
      · intro answerable
        obtain ⟨first, called, answer⟩ := answered_iff.mpr (answerable 0 request rfl)
        obtain ⟨responsesRest, handledRest, answersRest⟩ :=
          later.mpr fun number other at_number => answerable (number + 1) other at_number
        exact ⟨first :: responsesRest,
          handleBatch_cons_ok.mpr ⟨first, responsesRest, called, handledRest, rfl⟩,
          .cons answer answersRest⟩

/-- A body that is an array is answered with one, if with anything. -/
theorem handleRequest_array {handle : Nat → String → Json → Answering Unit}
    {elements responses : List Json} :
    handleRequest errorCode handle (.ok (.array elements)) = .ok (.array responses) ↔
      handleBatch errorCode handle elements = .ok responses := by
  rw [handleRequest]
  cases handleBatch errorCode handle elements with
  | error abort => simp [Except.map]
  | ok answers => simp [Except.map]

/-- A body that is no request is refused under the id null. -/
theorem answer_refusal {body : Json} (noObject : body.isObject = false) {code : JsonRPCErrorCodes}
    {message : String} {data : Json} : Answer body (refusal errorCode code message data) := by
  have noMembers : body.get "id" = .null := by
    cases body with
    | object members => cases noObject
    | _ => rfl
  refine ⟨rfl, ?_, ?_⟩
  · rw [noMembers]
    rfl
  · rfl

/-- A body is answered safely exactly where all of its requests are objects, ask for more than
the list of communities with an object only, and give a format for a last transaction that is
not there. -/
theorem answeredSafely_iff (errorCode : JsonRPCErrorCodes → Int)
    (environment : Nat → ApiEnvironment TransactionId Entry) (body : Json) :
    AnsweredSafely errorCode environment body ↔ BodyAnswerable environment body := by
  cases body with
  | array elements =>
      constructor
      · rintro ⟨responses, handled, answers⟩
        exact batchAnswered_iff.mp ⟨responses, handleRequest_array.mp handled, answers⟩
      · intro answerable
        obtain ⟨responses, handled, answers⟩ := batchAnswered_iff.mpr answerable
        exact ⟨responses, handleRequest_array.mpr handled, answers⟩
  | object members => exact answered_iff
  | null => exact ⟨fun _ => trivial, fun _ => ⟨_, rfl, answer_refusal rfl⟩⟩
  | bool value => exact ⟨fun _ => trivial, fun _ => ⟨_, rfl, answer_refusal rfl⟩⟩
  | integer value => exact ⟨fun _ => trivial, fun _ => ⟨_, rfl, answer_refusal rfl⟩⟩
  | double bits => exact ⟨fun _ => trivial, fun _ => ⟨_, rfl, answer_refusal rfl⟩⟩
  | string value => exact ⟨fun _ => trivial, fun _ => ⟨_, rfl, answer_refusal rfl⟩⟩

/-- A batch with an element that is no object is not answered safely. -/
theorem not_answeredSafely_number :
    ¬ AnsweredSafely (fun _ => -32600) (fun _ => emptyServer) (.array [.integer 1]) := by
  rintro ⟨responses, handled, _⟩
  exact nomatch handled

end Batch

end JsonRpc

end Server

end GradidoNode

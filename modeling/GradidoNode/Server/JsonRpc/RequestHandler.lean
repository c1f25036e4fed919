import GradidoNode.Exceptions
import GradidoNode.Library.Json

/-!
# The request handler of the JSON-RPC server

A parsed body is one request or a batch of them. Each request is checked, handled and answered
with an object whose members are added one after the other.
-/

namespace GradidoNode

open Library

namespace Server

namespace JsonRpc

/-- What ends a call before it has answered. -/
inductive Abort
  /-- Member access to a value that is no object, which rapidjson asserts. -/
  | memberAccess
  | exception (exception : Exception)
  deriving DecidableEq, Repr

abbrev Members := List (String × Json)

/-- A call that may add members to the response. -/
abbrev Answering (Value : Type) := Fallible Abort Members Value

/-- The error codes are numbers of the blockchain library. -/
inductive JsonRPCErrorCodes
  | PARSE_ERROR
  | INVALID_REQUEST
  | METHODE_NOT_FOUND
  | INVALID_PARAMS
  | UNKNOWN_GROUP
  | GRADIDO_NODE_ERROR
  | ADDRESS_NOT_FOUND
  | TRANSACTION_NOT_FOUND
  deriving DecidableEq, Repr

/-- What rapidjson tells about a text that it cannot parse. -/
structure ParseError where
  message : String
  offset : Nat
  deriving DecidableEq, Repr

/-- A call of code that may throw. -/
def calling {Value : Type} (call : Except Exception Value) : Answering Value :=
  Fallible.outcome (call.mapError .exception)

/-- `AddMember`, which looks at no name. -/
def addMember (name : String) (value : Json) : Answering Unit := fun response =>
  (.ok (), response ++ [(name, value)])

/-- `FindMember`, `HasMember` and `operator[]`. -/
def findMember (json : Json) (name : String) : Answering (Option Json) :=
  Fallible.outcome (if json.isObject then .ok (json.member? name) else .error .memberAccess)

section Handler

variable (errorCode : JsonRPCErrorCodes → Int)

/-- What `error` puts under the name error; null stands for no data. -/
def errorMember (code : JsonRPCErrorCodes) (message : String) (data : Json) : Json :=
  .object ([("code", .integer (errorCode code)), ("message", .string message)] ++
    match data with
    | .null => []
    | data => [("data", data)])

def error (code : JsonRPCErrorCodes) (message : String) : Answering Unit :=
  addMember "error" (errorMember errorCode code message .null)

/-! ## Parameters -/

/-- No value, with an error unless the parameter is optional. -/
def complain {Value : Type} (message : String) (optional : Bool) : Answering (Option Value) :=
  if optional then Fallible.outcome (.ok none)
  else (error errorCode .INVALID_PARAMS message).andThen fun _ => Fallible.outcome (.ok none)

/-- What the functions for the different types of parameters do. -/
def getParameter {Value : Type} (read : Json → Option Value) (mistyped : String → String)
    (params : Json) (fieldName : String) (optional : Bool) : Answering (Option Value) :=
  (findMember params fieldName).andThen fun itr =>
    match itr with
    | none => complain errorCode (fieldName ++ " not found") optional
    | some value =>
        match read value with
        | none => complain errorCode (mistyped fieldName) optional
        | some value => Fallible.outcome (.ok (some value))

/-- The complaint about a value of another type. -/
def invalid (fieldName : String) : String := "invalid " ++ fieldName

def getIntParameter : Json → String → Bool → Answering (Option Int32) :=
  getParameter errorCode Json.int? invalid

def getUIntParameter : Json → String → Bool → Answering (Option UInt32) :=
  getParameter errorCode Json.uint? invalid

def getUInt64Parameter : Json → String → Bool → Answering (Option UInt64) :=
  getParameter errorCode Json.uint64? invalid

def getStringParameter : Json → String → Bool → Answering (Option String) :=
  getParameter errorCode Json.string? invalid

def checkObjectOrArrayParameter : Json → String → Bool → Answering (Option Json) :=
  getParameter errorCode Json.objectOrArray? fun fieldName =>
    fieldName ++ " is not a object or array"

/-- `getBinaryFromHexStringParameter`. The block is built for the parameter `binaryParameter`,
which is passed by value, so all that the caller gets is whether it was built. -/
def getBinaryFromHexStringParameter (fromHex : String → Except Exception (List UInt8))
    (params : Json) (fieldName : String) (optional : Bool) : Answering Bool :=
  (getStringParameter errorCode params fieldName optional).andThen fun hex =>
    match hex with
    | none => Fallible.outcome (.ok false)
    | some hex => (calling (fromHex hex)).andThen fun _ => Fallible.outcome (.ok true)

/-! ## Requests -/

/-- The `try` block around `handle`. -/
def catchException (call : Answering Unit) : Answering Unit := fun response =>
  match call response with
  | (.error (.exception _), next) =>
      error errorCode .GRADIDO_NODE_ERROR "gradido node intern exception" next
  | (.error .memberAccess, next) => (.error .memberAccess, next)
  | (.ok (), next) => (.ok (), next)

/-- What is handled of a request; `handle` is virtual. -/
def handleParams (handle : String → Json → Answering Unit) (jsonRpcRequest : Json) :
    Answering Unit :=
  (checkObjectOrArrayParameter errorCode jsonRpcRequest "params" false).andThen fun params =>
    match params with
    | none => Fallible.outcome (.ok ())
    | some params =>
        (getStringParameter errorCode jsonRpcRequest "method" false).andThen fun method =>
          match method with
          | none => Fallible.outcome (.ok ())
          | some method => catchException errorCode (handle method params)

/-- The members of the answer to one request. -/
def answerMembers (handle : String → Json → Answering Unit) (jsonRpcRequest : Json) :
    Answering Unit :=
  (handleParams errorCode handle jsonRpcRequest).andThen fun _ =>
    (addMember "jsonrpc" (.string "2.0")).andThen fun _ =>
      (findMember jsonRpcRequest "id").andThen fun id => addMember "id" (id.getD .null)

def handleOneRpcCall (handle : String → Json → Answering Unit) (jsonRpcRequest : Json) :
    Except Abort Json :=
  match answerMembers errorCode handle jsonRpcRequest [] with
  | (.ok (), response) => .ok (.object response)
  | (.error abort, _) => .error abort

/-- The loop over a batch. The blockchains may change between two of its requests, so each is
handled by a handler of its own. -/
def handleBatch :
    (handle : Nat → String → Json → Answering Unit) → List Json → Except Abort (List Json)
  | _, [] => .ok []
  | handle, jsonRpcRequest :: rest => do
      let response ← handleOneRpcCall errorCode (handle 0) jsonRpcRequest
      let responses ← handleBatch (fun number => handle (number + 1)) rest
      return response :: responses

/-- The answer to a body that is no request. -/
def refusal (code : JsonRPCErrorCodes) (message : String) (data : Json) : Json :=
  .object [("jsonrpc", .string "2.0"), ("id", .null),
    ("error", errorMember errorCode code message data)]

/-- `handleRequest` of a POST or PUT request, on what parsing its body yields. -/
def handleRequest (handle : Nat → String → Json → Answering Unit) :
    Except ParseError Json → Except Abort Json
  | .error parseError =>
      .ok (refusal errorCode .PARSE_ERROR "error parsing request to json"
        (.object [("parseError", .string parseError.message),
          ("errorOffset", .integer parseError.offset)]))
  | .ok (.object members) => handleOneRpcCall errorCode (handle 0) (.object members)
  | .ok (.array elements) => (handleBatch errorCode handle elements).map .array
  | .ok _ => .ok (refusal errorCode .INVALID_REQUEST "empty body" .null)

end Handler

end JsonRpc

end Server

end GradidoNode

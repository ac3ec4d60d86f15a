import PgGateway.Failure
import PgGateway.Shape.Record

set_option autoImplicit false

/-!
# Messages

The messages of JSON-RPC 2.0: requests and responses. A request without an id is a notification,
and nobody waits for its response.

## Main definitions

* `PgGateway.Rpc.RequestId`, `Request`, `RpcError`, `Response` — the messages and their parts.
* `PgGateway.Rpc.Message` — a request or a response.
* `PgGateway.Rpc.Response.line` — a response as it is sent.
-/

namespace PgGateway.Rpc

open Shape

/-- The version of JSON-RPC. -/
def rpcVersion : String := "2.0"

/-- The id of a request. -/
inductive RequestId where
  /-- A string. -/
  | text (value : String)
  /-- An integer of 64 bits. -/
  | number (value : Int)
  /-- Null. -/
  | null
  deriving DecidableEq, Inhabited

namespace RequestId

/-- The written form of an id. -/
def toJson : RequestId → Json
  | .text s => .str s
  | .number n => .int n
  | .null => .null

/-- The reader of the id that is null. -/
def readNull : Reader RequestId
  | .null => .ok .null
  | other => .error (.kind other "null")

/-- The reader of an id. -/
def read : Reader RequestId :=
  oneOf "RequestId"
    [mapped .text Shape.text, mapped .number (integer "i64" (-Nat.pow 2 63) (Nat.pow 2 63 - 1)),
      readNull]

end RequestId

/-- A member for a value that may be missing. -/
def memberIf (key : String) : Option Json → List (String × Json)
  | some value => [(key, value)]
  | none => []

/-- A request. -/
structure Request where
  /-- The version of the protocol. -/
  version : String
  /-- The id, if a response is expected. -/
  id : Option RequestId
  /-- The method. -/
  method : String
  /-- The parameters. -/
  params : Option Json
  deriving Inhabited

namespace Request

/-- Whether no response is expected. -/
def isNotification (r : Request) : Bool :=
  r.id.isNone

/-- The written form of a request. -/
def toJson (r : Request) : Json :=
  .object ([("jsonrpc", .str r.version), ("method", .str r.method)] ++
    memberIf "id" (r.id.map RequestId.toJson) ++ memberIf "params" r.params)

/-- The fields of a request. -/
def record : Record Request :=
  let version := Field.required "jsonrpc" text
  let id := Field.optional "id" RequestId.read
  let method := Field.required "method" text
  let params := Field.optional "params" any
  ⟨"struct JsonRpcRequest", [version.slot, id.slot, method.slot, params.slot], fun given => do
    return ⟨← version.of given, ← id.of given, ← method.of given, ← params.of given⟩⟩

end Request

/-- Why a request could not be served. -/
structure RpcError where
  /-- The number of the cause. -/
  code : Int
  /-- The wording of the cause. -/
  message : String
  /-- Further data. -/
  data : Option Json := none
  deriving Inhabited

namespace RpcError

/-- The text of a request is not JSON, or not a message. -/
def parseError : RpcError := ⟨-32700, "Parse error", none⟩

/-- The request makes no sense. -/
def invalidRequest (message : String) : RpcError := ⟨-32600, message, none⟩

/-- There is no such method. -/
def methodNotFound (method : String) : RpcError :=
  ⟨-32601, "Method not found: " ++ method, none⟩

/-- The parameters do not fit the method. -/
def invalidParams (message : String) : RpcError := ⟨-32602, message, none⟩

/-- The server failed. -/
def internalError (message : String) : RpcError := ⟨-32603, message, none⟩

/-- The error by which a protocol error is reported. -/
def ofProtocol (e : ProtocolError) : RpcError := ⟨e.code, e.message, none⟩

/-- The members of a written error, in the order in which they are sent. -/
def members (e : RpcError) : List (String × Json) :=
  [("code", .int e.code), ("message", .str e.message)] ++ memberIf "data" e.data

/-- The written form of an error. -/
def toJson (e : RpcError) : Json :=
  .object e.members

/-- The fields of an error. -/
def record : Record RpcError :=
  let code := Field.required "code" integer32
  let message := Field.required "message" text
  let data := Field.optional "data" any
  ⟨"struct JsonRpcError", [code.slot, message.slot, data.slot], fun given => do
    return ⟨← code.of given, ← message.of given, ← data.of given⟩⟩

end RpcError

/-- A response. -/
structure Response where
  /-- The version of the protocol. -/
  version : String := rpcVersion
  /-- The id of the request. -/
  id : Option RequestId
  /-- The result, if there is one. -/
  result : Option Json
  /-- The error, if there is one. -/
  error : Option RpcError
  deriving Inhabited

namespace Response

/-- The response to a request that was served. -/
def success (id : Option RequestId) (result : Json) : Response :=
  ⟨rpcVersion, id, some result, none⟩

/-- The response to a request that could not be served. -/
def failure (id : Option RequestId) (error : RpcError) : Response :=
  ⟨rpcVersion, id, none, some error⟩

/-- The response that reports an outcome. -/
def ofOutcome (id : Option RequestId) : Except ProtocolError Json → Response
  | .ok result => success id result
  | .error e => failure id (.ofProtocol e)

/-- The members of a written response, in the order in which they are sent. -/
def members (r : Response) : List (String × Json) :=
  [("jsonrpc", .str r.version), ("id", .ofOption RequestId.toJson r.id)] ++
    memberIf "result" r.result ++ memberIf "error" (r.error.map fun e => .obj e.members)

/-- The written form of a response. -/
def toJson (r : Response) : Json :=
  .object r.members

/-- The text of a response as it is sent, on one line. -/
def line (r : Response) : String :=
  (Json.obj r.members).compact

/-- The fields of a response. -/
def record : Record Response :=
  let version := Field.required "jsonrpc" text
  let id := Field.optional "id" RequestId.read
  let result := Field.optional "result" any
  let error := Field.optional "error" RpcError.record.read
  ⟨"struct JsonRpcResponse", [version.slot, id.slot, result.slot, error.slot], fun given => do
    return ⟨← version.of given, ← id.of given, ← result.of given, ← error.of given⟩⟩

end Response

/-- A message. -/
inductive Message where
  /-- A request. -/
  | request (r : Request)
  /-- A response. -/
  | response (r : Response)
  deriving Inhabited

/-- The reader of a message: what can be read as a request is one. -/
def Message.read : Reader Message :=
  oneOf "Message" [mapped .request Request.record.read, mapped .response Response.record.read]

end PgGateway.Rpc

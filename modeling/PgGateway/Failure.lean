set_option autoImplicit false

/-!
# Failures

Everything that can go wrong, by cause, and the wording of each cause.

## Main definitions

* `PgGateway.ProtocolError`, `DatabaseError`, `ConfigError`, `ToolError` — the causes by layer.
* `PgGateway.Failure` — a cause of any layer; `Failure.message` is its wording and `Failure.kind`
  its name.
-/

namespace PgGateway

/-- What is wrong with a request. -/
inductive ProtocolError where
  /-- The text is not JSON. -/
  | parseError
  /-- The message is not a request. -/
  | invalidRequest (detail : String)
  /-- There is no such method. -/
  | methodNotFound (method : String)
  /-- The parameters do not fit the method. -/
  | invalidParams (detail : String)
  /-- The server failed. -/
  | internalError (detail : String)
  /-- The method may not be called before the handshake. -/
  | notInitialized
  deriving DecidableEq, Inhabited

namespace ProtocolError

/-- The wording of a protocol error. -/
def message : ProtocolError → String
  | .parseError => "Parse error: invalid JSON"
  | .invalidRequest detail => "Invalid request: " ++ detail
  | .methodNotFound method => "Method not found: " ++ method
  | .invalidParams detail => "Invalid params: " ++ detail
  | .internalError detail => "Internal error: " ++ detail
  | .notInitialized => "Server not initialized"

/-- The number of a protocol error in an answer. -/
def code : ProtocolError → Int
  | .parseError => -32700
  | .invalidRequest _ => -32600
  | .methodNotFound _ => -32601
  | .invalidParams _ => -32602
  | .internalError _ => -32603
  | .notInitialized => -32002

/-- The name of the cause. -/
def kind : ProtocolError → String
  | .parseError => "ParseError"
  | .invalidRequest _ => "InvalidRequest"
  | .methodNotFound _ => "MethodNotFound"
  | .invalidParams _ => "InvalidParams"
  | .internalError _ => "InternalError"
  | .notInitialized => "NotInitialized"

end ProtocolError

/-- Why the database did not do what it was asked. -/
inductive DatabaseError where
  /-- No database is configured. -/
  | notConnected
  /-- No connection could be made. -/
  | connectionFailed (detail : String)
  /-- The pool has no connection to give. -/
  | poolExhausted
  /-- The statement failed. -/
  | queryFailed (detail : String)
  /-- The statement took longer than allowed. -/
  | timeout (millis : Nat)
  /-- The transaction failed. -/
  | transaction (detail : String)
  deriving DecidableEq, Inhabited

namespace DatabaseError

/-- The wording of a database error. -/
def message : DatabaseError → String
  | .notConnected =>
    "No database connection configured. Set DATABASE_URL and restart the server."
  | .connectionFailed detail => "Connection failed: " ++ detail
  | .poolExhausted => "Connection pool exhausted"
  | .queryFailed detail => "Query execution failed: " ++ detail
  | .timeout millis => "Query timeout after " ++ toString millis ++ "ms"
  | .transaction detail => "Transaction error: " ++ detail

/-- The name of the cause. -/
def kind : DatabaseError → String
  | .notConnected => "NotConnected"
  | .connectionFailed _ => "ConnectionFailed"
  | .poolExhausted => "PoolExhausted"
  | .queryFailed _ => "QueryFailed"
  | .timeout _ => "Timeout"
  | .transaction _ => "Transaction"

end DatabaseError

/-- What is wrong with a configuration. -/
inductive ConfigError where
  /-- A field is empty that must not be. -/
  | missingField (field : String)
  /-- A value is not allowed. -/
  | invalidValue (field detail : String)
  /-- The connection URL cannot be read. -/
  | invalidDatabaseUrl (detail : String)
  /-- An alias stands for a method that does not exist. -/
  | aliasTarget (group name canonical : String)
  /-- Two tools have the same method name, or an alias takes the name of a method. -/
  | duplicateMethod (group method : String)
  deriving DecidableEq, Inhabited

namespace ConfigError

/-- The wording of a configuration error. -/
def message : ConfigError → String
  | .missingField field => "Missing required field: " ++ field
  | .invalidValue field detail => "Invalid value for " ++ field ++ ": " ++ detail
  | .invalidDatabaseUrl detail => "Invalid database URL: " ++ detail
  | .aliasTarget group name canonical =>
    "Alias '" ++ group ++ "." ++ name ++ "' points at missing method '" ++ canonical ++ "'"
  | .duplicateMethod group method =>
    "Method '" ++ group ++ "." ++ method ++ "' is derived from more than one tool"

/-- The name of the cause. -/
def kind : ConfigError → String
  | .missingField _ => "MissingField"
  | .invalidValue _ _ => "InvalidValue"
  | .invalidDatabaseUrl _ => "InvalidDatabaseUrl"
  | .aliasTarget _ _ _ => "AliasTarget"
  | .duplicateMethod _ _ => "DuplicateMethod"

end ConfigError

/-- Why a tool could not be found or run. -/
inductive ToolError where
  /-- There is no such tool or method. -/
  | notFound (name : String)
  /-- The arguments do not fit the tool. -/
  | invalidArguments (detail : String)
  /-- The tool ran and failed. -/
  | executionFailed (detail : String)
  /-- An argument is missing. -/
  | missingArgument (name : String)
  deriving DecidableEq, Inhabited

namespace ToolError

/-- The wording of a tool error. -/
def message : ToolError → String
  | .notFound name => "Tool not found: " ++ name
  | .invalidArguments detail => "Invalid arguments: " ++ detail
  | .executionFailed detail => "Execution failed: " ++ detail
  | .missingArgument name => "Missing required argument: " ++ name

/-- The name of the cause. -/
def kind : ToolError → String
  | .notFound _ => "NotFound"
  | .invalidArguments _ => "InvalidArguments"
  | .executionFailed _ => "ExecutionFailed"
  | .missingArgument _ => "MissingArgument"

end ToolError

/-- A failure of any layer. -/
inductive Failure where
  /-- Of the protocol. -/
  | protocol (cause : ProtocolError)
  /-- Of the database. -/
  | database (cause : DatabaseError)
  /-- Of the configuration. -/
  | config (cause : ConfigError)
  /-- Of a tool. -/
  | tool (cause : ToolError)
  /-- Of input or output. -/
  | stream (detail : String)
  /-- Of the reading or writing of JSON. -/
  | json (detail : String)
  /-- Of the server itself. -/
  | internal (detail : String)
  deriving DecidableEq, Inhabited

namespace Failure

/-- The wording of a failure: its layer and its cause. -/
def message : Failure → String
  | .protocol cause => "Protocol error: " ++ cause.message
  | .database cause => "Database error: " ++ cause.message
  | .config cause => "Configuration error: " ++ cause.message
  | .tool cause => "Tool error: " ++ cause.message
  | .stream detail => "IO error: " ++ detail
  | .json detail => "JSON error: " ++ detail
  | .internal detail => "Internal error: " ++ detail

/-- The name of a failure: its layer and its cause. -/
def kind : Failure → String
  | .protocol cause => "Protocol." ++ cause.kind
  | .database cause => "Database." ++ cause.kind
  | .config cause => "Config." ++ cause.kind
  | .tool cause => "Tool." ++ cause.kind
  | .stream _ => "Io"
  | .json _ => "Json"
  | .internal _ => "Internal"

/-- The number of a protocol error; other failures have none. -/
def code? : Failure → Option Int
  | .protocol cause => some cause.code
  | _ => none

end Failure

end PgGateway

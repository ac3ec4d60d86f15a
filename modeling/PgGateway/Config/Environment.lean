import PgGateway.Config.Url

set_option autoImplicit false

/-!
# Configuration from the environment

Variables of the environment set parts of a configuration. The URL is taken first, and the
variables for single parts count more than it does.

## Main definitions

* `PgGateway.Config.Environment` — the values of variables.
* `PgGateway.Config.Database.withEnvironment` — the configuration with what the environment sets.
* `PgGateway.Config.flagOf` — the truth value that a text denotes.
-/

namespace PgGateway.Config

/-- The values of variables by their names. -/
abbrev Environment := String → Option String

/-- What a variable sets, or what is there already. -/
def setting (env : Environment) (name : String) (present : String) : String :=
  (env name).getD present

/-- The truth value of a variable, in any case and with blanks around it. -/
def flagOf (field value : String) : Except ConfigError Bool :=
  let word := Text.lowered (Text.strip value)
  if ["1", "true", "yes", "on"].contains word then .ok true
  else if ["0", "false", "no", "off"].contains word then .ok false
  else .error (.invalidValue field ("Expected a boolean, got '" ++ word ++ "'"))

/-- The truth value that a variable sets, or what is there already. -/
def flagSetting (env : Environment) (name : String) (present : Bool) : Except ConfigError Bool :=
  match env name with
  | some value => flagOf name value
  | none => .ok present

namespace Database

/-- The port that the environment sets, or what is there already. -/
def portSetting (env : Environment) (present : Nat) : Except ConfigError Nat :=
  match env "DATABASE_PORT" with
  | none => .ok present
  | some value =>
    match portOf? value.toList with
    | some port => .ok port
    | none => .error (.invalidValue "DATABASE_PORT" "Invalid port number")

/-- The size of the pool that the environment sets, or what is there already. A value that is no
number sets the usual size. -/
def poolSizeSetting (env : Environment) (present : Nat) : Nat :=
  match env "DATABASE_POOL_SIZE" with
  | none => present
  | some value => (Text.unsigned? (Nat.pow 2 64) value.toList).getD defaultPoolSize

/-- The time limit that the environment sets, or what is there already. -/
def timeoutSetting (env : Environment) (present : Span) : Except ConfigError Span :=
  match env "DATABASE_QUERY_TIMEOUT_MS" with
  | none => .ok present
  | some value =>
    match Text.unsigned? (Nat.pow 2 64) value.toList with
    | some millis => .ok (Span.ofMillis millis)
    | none =>
      .error (.invalidValue "DATABASE_QUERY_TIMEOUT_MS" "Expected a number of milliseconds")

/-- The configuration with the URL that the environment sets. -/
def withUrlOf (c : Database) (env : Environment) : Except ConfigError Database :=
  match env "DATABASE_URL" with
  | some url => c.withUrl url
  | none => .ok c

/-- The configuration with what the environment sets. -/
def withEnvironment (c : Database) (env : Environment) : Except ConfigError Database := do
  let c ← c.withUrlOf env
  let port ← portSetting env c.port
  let queryTimeout ← timeoutSetting env c.queryTimeout
  return {
    host := setting env "DATABASE_HOST" c.host
    port
    database := setting env "DATABASE_NAME" c.database
    username := setting env "DATABASE_USER" c.username
    password := setting env "DATABASE_PASSWORD" c.password
    poolSize := poolSizeSetting env c.poolSize
    queryTimeout }

end Database

end PgGateway.Config

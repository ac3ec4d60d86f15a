import PgGateway.Failure
import PgGateway.Shape.Record
import PgGateway.Shape.Span

set_option autoImplicit false

/-!
# Configuration of the database

Where the database is, who connects to it, and how many connections and how much time there are.

## Main definitions

* `PgGateway.Config.Database` — the configuration; `Database.validated` checks it.
* `PgGateway.Config.Database.toJson`, `PgGateway.Config.Database.read` — the written form, which
  does not show the password, and the reader.
-/

namespace PgGateway.Config

open Shape

/-- The port of a database if nothing is said. -/
def defaultPort : Nat := 5432

/-- The size of the pool if nothing is said. -/
def defaultPoolSize : Nat := 16

/-- The configuration of the database. -/
structure Database where
  /-- The host. -/
  host : String := "localhost"
  /-- The port. -/
  port : Nat := defaultPort
  /-- The name of the database. -/
  database : String := "postgres"
  /-- The name of the user. -/
  username : String := "postgres"
  /-- The password of the user. -/
  password : String := ""
  /-- The greatest number of connections. -/
  poolSize : Nat := defaultPoolSize
  /-- How long a statement may take. -/
  queryTimeout : Span := Span.ofSeconds 30
  deriving DecidableEq, Inhabited

namespace Database

/-- The configuration itself if nothing in it is empty that must not be. -/
def validated (c : Database) : Except ConfigError Database :=
  if c.host.isEmpty then .error (.missingField "host")
  else if c.database.isEmpty then .error (.missingField "database")
  else if c.username.isEmpty then .error (.missingField "username")
  else if c.poolSize = 0 then
    .error (.invalidValue "pool_size" "Pool size must be greater than 0")
  else .ok c

/-- The written form of a configuration. -/
def toJson (c : Database) : Json :=
  .object [("host", .str c.host), ("port", .nat c.port), ("database", .str c.database),
    ("username", .str c.username), ("pool_size", .nat c.poolSize),
    ("query_timeout", spanJson c.queryTimeout)]

/-- The reader of a configuration. -/
def read : Reader Database :=
  let host := Field.required "host" text
  let port := Field.required "port" natural16
  let database := Field.required "database" text
  let username := Field.required "username" text
  let password := Field.required "password" text
  let poolSize := Field.required "pool_size" size
  let queryTimeout := Field.required "query_timeout" span
  Record.read ⟨"struct DatabaseConfig",
    [host.slot, port.slot, database.slot, username.slot, password.slot, poolSize.slot,
      queryTimeout.slot],
    fun given => do
      return ⟨← host.of given, ← port.of given, ← database.of given, ← username.of given,
        ← password.of given, ← poolSize.of given, ← queryTimeout.of given⟩⟩

end Database

end PgGateway.Config

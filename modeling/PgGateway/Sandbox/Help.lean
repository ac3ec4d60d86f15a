import PgGateway.Sandbox.Surface
import PgGateway.Text.Blank

set_option autoImplicit false

/-!
# Help

What the surface tells about itself, as a whole and group by group.

## Main definitions

* `PgGateway.Sandbox.examples` — calls of the methods of a group, as code.
* `PgGateway.Sandbox.Surface.help`, `PgGateway.Sandbox.Group.help` — the two kinds of help.
* `PgGateway.Sandbox.Surface.describe` — the help at a path.
-/

namespace PgGateway.Sandbox

/-- The name of the object that holds the groups in code. -/
def rootName : String := "pg"

/-- How methods are called. -/
def usage : String :=
  "Call pg.<group>.<method>(...args). Arguments may be one options object, " ++
    "positional values, or positional values followed by an options object. " ++
    "Use pg.<group>.help() to list a group's methods."

/-- Calls of the methods of a group, as code; there are none for other groups. -/
def examples (group : String) : List String :=
  match group with
  | "core" =>
    ["await pg.core.readQuery('SELECT * FROM orders WHERE total > 100')",
      r"await pg.core.readQuery({ sql: 'SELECT * FROM orders', limit: 10 })",
      "await pg.core.describeTable('orders')",
      r"await pg.core.createIndex('orders', ['customer_id'], { unique: true })",
      "await pg.core.count('orders', 'status = \\'open\\'')"]
  | "transactions" =>
    ["await pg.transactions.execute(['INSERT INTO a VALUES (1)', 'UPDATE b SET n = n + 1'])",
      "await pg.transaction(['DELETE FROM sessions WHERE expired'])"]
  | "json" =>
    ["await pg.json.extract('users', 'profile', 'address.city')",
      r"await pg.json.set('users', 'profile', 'theme', 'dark', { where: 'id = 1' })",
      r"await pg.json.contains('events', 'payload', { kind: 'click' })"]
  | "fulltext" =>
    ["await pg.fulltext.fulltextSearch('articles', ['title', 'body'], 'connection pooling')",
      "await pg.fulltext.fulltextCreateIndex('articles', ['title', 'body'])"]
  | "performance" =>
    ["await pg.performance.explain('SELECT * FROM orders WHERE id = 1')",
      r"await pg.performance.explain({ sql: 'SELECT count(*) FROM orders', analyze: true })",
      "await pg.performance.cacheHitRatio()"]
  | "admin" =>
    [r"await pg.admin.vacuum('orders', { analyze: true })",
      "await pg.admin.reindex('orders')"]
  | "docstore" =>
    ["await pg.docstore.createCollection('events')",
      r"await pg.docstore.insert('events', [{ kind: 'click' }, { kind: 'view' }])",
      r"await pg.docstore.find('events', { kind: 'click' })"]
  | _ => []

/-- The help about a group. Aliases that only repeat the name of the group are left out. -/
def Group.help (g : Group) : Json :=
  .object [("group", .str g.name), ("methods", Json.strings g.methodNames),
    ("aliases", Json.strings (g.aliasNames.filter (Alias.isUseful g.name))),
    ("examples", Json.strings (examples g.name))]

namespace Surface

/-- The help about the whole surface. -/
def help (s : Surface) : Json :=
  .object
    [("groups", .object (s.groups.map fun g => (g.name, Json.strings g.methodNames))),
      ("topLevel", Json.strings s.promotedNames), ("usage", .str usage)]

/-- A path without blanks around it and without the name of the root. -/
def withoutRoot (path : List Char) : List Char :=
  let path := Text.trim path
  (Text.after? (rootName.toList ++ ['.']) path).getD path

/-- The ending of a path that asks for help. -/
def helpEnding : List Char := ".help".toList

/-- The help at a path: that about a group, which `.help` may follow, or about the whole. -/
def describeAt (s : Surface) (path : List Char) : Except ToolError Json :=
  if path.isEmpty || path = "help".toList then .ok s.help
  else
    let group := (Text.before? helpEnding path).getD path
    match s.group? (String.ofList group) with
    | some g => .ok g.help
    | none => .error (.notFound (String.ofList path))

/-- The help at a path, or about the whole if there is no path. -/
def describe (s : Surface) (path : Option String) : Except ToolError Json :=
  s.describeAt (match path with
    | some path => withoutRoot path.toList
    | none => [])

end Surface

end PgGateway.Sandbox

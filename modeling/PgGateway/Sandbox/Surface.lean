import PgGateway.Sandbox.Convention
import PgGateway.Sandbox.Group
import PgGateway.Tool.Desk

set_option autoImplicit false

/-!
# The surface that code sees

All groups of methods with their calling convention. Some methods can also be called without the
name of their group.

## Main definitions

* `PgGateway.Sandbox.Surface` — the groups; `Surface.ofTools` builds them.
* `PgGateway.Sandbox.Surface.get?`, `promoted?` — the methods by group and name, and by name alone.
* `PgGateway.Sandbox.Surface.call` — calls a method.
-/

namespace PgGateway.Sandbox

/-- The groups of methods and the convention by which they are called. -/
structure Surface where
  /-- The groups in the order of their names. -/
  groups : List Group
  /-- The calling convention. -/
  convention : Convention

namespace Surface

/-- The surface of some tools. -/
def ofTools (strict : Bool) (aliases : List Alias) (convention : Convention) (tools : List Tool) :
    Except ConfigError Surface := do
  let groups ← (classify tools).mapM fun (name, members) =>
    Group.ofTools strict aliases name members
  return ⟨groups, convention⟩

/-- The group of a name. -/
def group? (s : Surface) (name : String) : Option Group :=
  s.groups.find? fun g => g.name = name

/-- The method of a group that a name or an alias means. -/
def get? (s : Surface) (group method : String) : Option Method :=
  (s.group? group).bind (·.get? method)

/-- The methods that can be called without a group: their names there, and their groups and names
otherwise. -/
def promotions : List (String × String × String) :=
  [("readQuery", "core", "readQuery"), ("writeQuery", "core", "writeQuery"),
    ("listTables", "core", "listTables"), ("describeTable", "core", "describeTable"),
    ("transaction", "transactions", "execute")]

/-- The promoted methods that the surface has, with their names. -/
def promoted (s : Surface) : List (String × Method) :=
  promotions.filterMap fun (name, group, method) => (s.get? group method).map (name, ·)

/-- The promoted method of a name. -/
def promoted? (s : Surface) (name : String) : Option Method :=
  s.promoted.lookup name

/-- The names of the promoted methods in order. -/
def promotedNames (s : Surface) : List String :=
  s.promoted.map Prod.fst

/-- The parameters that a method gets for the arguments of a call. -/
def parameters (s : Surface) (m : Method) (arguments : List Json) : Json :=
  (s.convention.bind m.name arguments).getD (.obj [])

variable {σ : Type}

/-- Calls a method. -/
def call (s : Surface) (m : Method) (arguments : List Json) (executor : Executor σ)
    (timeout : Span) (d : Desk σ) : Except Failure Json × Desk σ :=
  d.serve executor timeout .codeMode fun context => m.tool.act context (s.parameters m arguments)

/-- Calls a method by its group and name; there is no call if there is no such method. -/
def callByName (s : Surface) (group method : String) (arguments : List Json)
    (executor : Executor σ) (timeout : Span) (d : Desk σ) : Except Failure Json × Desk σ :=
  match s.get? group method with
  | some m => s.call m arguments executor timeout d
  | none => (.error (.tool (.notFound (group ++ "." ++ method))), d)

end Surface

end PgGateway.Sandbox

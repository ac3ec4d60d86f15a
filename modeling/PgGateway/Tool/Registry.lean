import PgGateway.Keyed
import PgGateway.Tool.Basic

set_option autoImplicit false

/-!
# Registries

The tools that a server offers, in the order in which their names were first registered. A name has
one tool: registering a name again puts the new tool in the place of the old one. Where the tool of
a name stands is looked up in an index.

## Main definitions

* `PgGateway.Registry` — the registries, with `register`, `ofList` and `get?`.
* `PgGateway.Registry.act` — what the tool of a name does.
-/

namespace PgGateway

/-- The tools of a server in order. -/
structure Registry where
  /-- The tools. -/
  tools : List Tool := []
  /-- The place of each tool by its name. -/
  index : Keyed Nat := []

namespace Registry

/-- The registry with one more tool, in the place of the tool of its name or at the end. -/
def register (r : Registry) (tool : Tool) : Registry :=
  match r.index.get? tool.name with
  | some i => { r with tools := r.tools.set i tool }
  | none => ⟨r.tools ++ [tool], r.index.put tool.name r.tools.length⟩

/-- The registry in which the tools were registered one after the other. -/
def ofList (tools : List Tool) : Registry :=
  tools.foldl register {}

/-- The tool of a name. -/
def get? (r : Registry) (name : String) : Option Tool :=
  (r.index.get? name).bind fun i => r.tools[i]?

/-- The definitions of all tools in order. -/
def definitions (r : Registry) : List Definition :=
  r.tools.map Tool.definition

/-- The number of tools. -/
def size (r : Registry) : Nat :=
  r.tools.length

/-- What the tool of a name does with its arguments. -/
def act (r : Registry) (name : String) (context : Context) (arguments : Json) : Action :=
  match r.get? name with
  | some tool => tool.act context arguments
  | none => .fail (.tool (.notFound name))

end Registry

end PgGateway

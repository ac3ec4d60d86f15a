import PgGateway.Catalog.Standard
import PgGateway.Proofs.Sandbox.Path
import PgGateway.Proofs.Sandbox.Surface
import PgGateway.Proofs.Tool.Registry

set_option autoImplicit false

/-!
# The catalog as methods

The tools of the catalog have distinct names, and distinct method names within their groups. So each
is found by its name in the registry, and by the path of its method on the surface, strict or not.

## Main results

* `PgGateway.Catalog.get?_standard` — the registry finds each tool by its name.
* `PgGateway.Catalog.exists_surface` — the catalog has a surface, also a strict one.
* `PgGateway.Catalog.target_of_mem_tools` — the path of a tool means the tool as a method.
* `PgGateway.Catalog.act_of_mem_tools` — no tool looks at its context.
-/

namespace PgGateway.Catalog

open Sandbox

/-- The path under which a tool is called in code. -/
def pathOfTool (t : Tool) : String :=
  pathOf t.group (methodName t.name t.group)

/-- The tools have distinct names. -/
lemma nodup_names : (tools.map Tool.name).Nodup := by
  decide +kernel

/-- The tools of a group have distinct method names. -/
lemma nodup_methods : (tools.map fun t => (t.group, methodName t.name t.group)).Nodup := by
  decide +kernel

/-- The registry holds the tools in order. -/
lemma tools_standard : standard.tools = tools :=
  Registry.tools_ofList nodup_names

/-- The registry finds each tool by its name. -/
theorem get?_standard {t : Tool} (ht : t ∈ tools) : standard.get? t.name = some t :=
  Registry.get?_ofList nodup_names ht

/-- The catalog has a surface with the standard aliases and convention, also a strict one. -/
theorem exists_surface (strict : Bool) :
    ∃ s, Surface.ofTools strict Alias.standard Convention.standard standard.tools = .ok s := by
  have hok : (Surface.ofTools strict Alias.standard Convention.standard
      standard.tools).toOption.isSome = true := by
    cases strict <;> decide +kernel
  revert hok
  cases Surface.ofTools strict Alias.standard Convention.standard standard.tools with
  | ok s => exact fun _ => ⟨s, rfl⟩
  | error e => exact fun hok => absurd hok (by simp [Except.toOption])

/-- The group and the method name of each tool can be told from its path. -/
lemma isSpelled_of_mem_tools {t : Tool} (ht : t ∈ tools) :
    IsSpelled t.group (methodName t.name t.group) := by
  have hspelled : ∀ t ∈ tools, IsSpelled t.group (methodName t.name t.group) := by
    decide +kernel
  exact hspelled t ht

/-- **The paths of the catalog.** On a surface of the catalog, the path of each tool means the tool
as a method.

**Proof sketch.** The names can be told from the path (`Surface.target_pathOf`), and they mean the
first tool of the group that has the method name (`Surface.get?_ofTools`), which is the only one. -/
theorem target_of_mem_tools {strict : Bool} {aliases : List Alias} {convention : Convention}
    {s : Surface} (hs : Surface.ofTools strict aliases convention tools = .ok s) {t : Tool}
    (ht : t ∈ tools) : s.target (pathOfTool t) = .ok (.method (.ofTool t.group t)) := by
  have hfirst : (tools.find? fun u =>
      u.group = t.group ∧ methodName u.name t.group = methodName t.name t.group) = some t := by
    refine find?_eq_some_of_nodup nodup_methods ht fun u _ => ?_
    rw [decide_eq_true_iff, Prod.mk.injEq]
    exact and_congr_right fun hgroup => by rw [hgroup]
  rw [pathOfTool, Surface.target_pathOf s (isSpelled_of_mem_tools ht),
    Surface.get?_ofTools hs hfirst]

/-- No tool looks at the context in which it is called. -/
lemma act_of_mem_tools {t : Tool} (ht : t ∈ tools) (c c' : Context) (given : Json) :
    t.act c given = t.act c' given := by
  simp only [tools, List.mem_cons, List.not_mem_nil, or_false] at ht
  rcases ht with rfl | rfl | rfl | rfl | rfl | rfl | rfl | rfl | rfl | rfl | rfl | rfl | rfl |
    rfl | rfl | rfl | rfl | rfl | rfl | rfl | rfl | rfl | rfl | rfl | rfl | rfl | rfl | rfl <;> rfl

end PgGateway.Catalog

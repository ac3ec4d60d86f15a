import PgGateway.Proofs.Catalog.Methods
import PgGateway.Proofs.Sandbox.Strict
import PgGateway.Proofs.Server.Surfaces
import PgGateway.Tool.Echo

set_option autoImplicit false

/-!
# The tables of a strict server

A server with a strict code mode is only built if the tools of every group fit the aliases of the
group. That leaves out the groups without tools, the promoted names and the methods of the calling
convention, so such a server need not have all that the tables name.

## Main results

* `PgGateway.Server.strict_server_keepsTables_iff` — when a strict server is built, and what it has
  of the tables.
-/

namespace PgGateway.Server

open Sandbox

variable {σ : Type}

/-- A server with a strict code mode has the surface of a strict build. -/
lemma make?_strict_eq_ok {config : Config.Server} (henabled : config.codeMode.enabled = true)
    (hstrict : config.codeMode.strict = true) {registry : Registry} {executor : Executor σ}
    {server : Server σ} :
    make? config registry executor = .ok server ↔
      ∃ s, Surface.ofTools true Alias.standard Convention.standard registry.tools = .ok s ∧
        ⟨config, registry, executor, some s⟩ = server := by
  rw [make?, surfaceOf, if_pos henabled, hstrict]
  cases Surface.ofTools true Alias.standard Convention.standard registry.tools with
  | ok s =>
    constructor
    · intro h
      exact ⟨s, rfl, Except.ok.inj h⟩
    · rintro ⟨s', hs, h⟩
      cases hs
      exact congrArg Except.ok h
  | error e =>
    constructor
    · intro h
      cases h
    · rintro ⟨_, h, -⟩
      cases h

/-- **The tables of a strict server.** A server with a strict code mode is built exactly if the
tools of every group that has one fit its aliases. Then it has an alias or a promoted name exactly
if its group has a tool, and a method of the calling convention exactly if a tool has this method
name. So it has all that the tables name exactly if each group with aliases has a tool, and so has
each method that only the convention names.

**Proof sketch.** The surface is that of a strict build (`make?_strict_eq_ok`), and each table is
read off it (`Surface.isSome_get?_alias_iff`, `Surface.promotion_mem_promotedNames_iff`,
`Surface.exists_mem_methodNames_iff`, `Surface.keepsTables_iff`). -/
theorem strict_server_keepsTables_iff {config : Config.Server}
    (henabled : config.codeMode.enabled = true) (hstrict : config.codeMode.strict = true)
    (registry : Registry) (executor : Executor σ) :
    ((∃ server, make? config registry executor = .ok server) ↔
      ∀ t ∈ registry.tools, Group.FitsAliases Alias.standard t.group
        (registry.tools.filter fun u => u.group = t.group)) ∧
    ∀ server, make? config registry executor = .ok server →
      ∃ s, server.surface = some s ∧
        (∀ a ∈ Alias.standard, (s.get? a.group a.name).isSome = true ↔
          ∃ t ∈ registry.tools, t.group = a.group) ∧
        (∀ p ∈ Surface.promotions, p.1 ∈ s.promotedNames ↔
          ∃ t ∈ registry.tools, t.group = p.2.1) ∧
        (∀ method ∈ Convention.standard.methods, (∃ g ∈ s.groups, method ∈ g.methodNames) ↔
          ∃ t ∈ registry.tools, methodName t.name t.group = method) ∧
        (s.KeepsTables ↔
          (∀ group ∈ Surface.aliasedGroups, ∃ t ∈ registry.tools, t.group = group) ∧
            ∀ method ∈ Surface.unaliasedMethods,
              ∃ t ∈ registry.tools, methodName t.name t.group = method) := by
  constructor
  · rw [← Surface.exists_ofTools_strict_iff Alias.arePlain_standard]
    simp only [make?_strict_eq_ok henabled hstrict]
    constructor
    · rintro ⟨-, s, hs, -⟩
      exact ⟨s, hs⟩
    · rintro ⟨s, hs⟩
      exact ⟨_, s, hs, rfl⟩
  · intro server hserver
    obtain ⟨s, hs, rfl⟩ := (make?_strict_eq_ok henabled hstrict).mp hserver
    exact ⟨s, rfl, fun a ha => Surface.isSome_get?_alias_iff hs ha,
      fun p hp => Surface.promotion_mem_promotedNames_iff hs hp,
      fun method _ => Surface.exists_mem_methodNames_iff hs, Surface.keepsTables_iff hs⟩

/-- The configuration of a server with a strict code mode. -/
def strictConfig : Config.Server :=
  { codeMode := { enabled := true, strict := true } }

/-- The catalog has all that the tables name. -/
theorem strict_server_keepsTables_of_catalog :
    ∃ server s, make? strictConfig Catalog.standard Executor.disconnected =
        .ok (server : Server Unit) ∧ server.surface = some s ∧ s.KeepsTables := by
  have henabled : strictConfig.codeMode.enabled = true := rfl
  have hstrict : strictConfig.codeMode.strict = true := rfl
  obtain ⟨surface, -, hmake⟩ := exists_make? henabled (Executor.disconnected : Executor Unit)
  obtain ⟨s, hs, -, -, -, hkeeps⟩ := (strict_server_keepsTables_iff henabled hstrict
    Catalog.standard Executor.disconnected).2 _ hmake
  refine ⟨_, s, hmake, hs, hkeeps.mpr ?_⟩
  rw [Catalog.tools_standard]
  decide +kernel

/-- A strict server whose only tool runs transactions is built, although it has neither the aliases
and promoted names of the other groups nor the methods that only the convention names. -/
theorem not_keepsTables_of_transactions :
    ∃ server s, make? strictConfig (.ofList [Tool.echo "pg_transaction_execute" "transactions"])
        Executor.disconnected = .ok (server : Server Unit) ∧ server.surface = some s ∧
      s.get? "core" "query" = none ∧ "readQuery" ∉ s.promotedNames ∧
      (∀ g ∈ s.groups, "count" ∉ g.methodNames) ∧ ¬ s.KeepsTables := by
  refine ⟨_, _, rfl, rfl, rfl, by decide +kernel, by decide +kernel, fun hkeeps => ?_⟩
  exact absurd (hkeeps.promotion_mem ("readQuery", "core", "readQuery") (by decide))
    (by decide +kernel)

end PgGateway.Server

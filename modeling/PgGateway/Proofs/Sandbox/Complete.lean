import PgGateway.Proofs.Sandbox.Callable
import PgGateway.Proofs.Sandbox.Surface

set_option autoImplicit false

/-!
# Every tool is a method

A build that is not strict succeeds for all tools and aliases, and leaves out a tool only where an
earlier one of its group has the same method name. No alias takes the place of a method.

## Main definitions

* `PgGateway.Sandbox.Surface.IsCompleteFor` — whether a surface has all methods of some tools.

## Main results

* `PgGateway.Sandbox.Surface.exists_ofTools_isCompleteFor` — a build that is not strict succeeds
  with such a surface.
-/

namespace PgGateway.Sandbox.Surface

variable {strict : Bool} {aliases : List Alias} {convention : Convention} {tools : List Tool}
  {s : Surface}

/-- Whether a tool is in the group of another and has the same method name there. -/
def SharesName (t u : Tool) : Prop :=
  u.group = t.group ∧ methodName u.name t.group = methodName t.name t.group

instance (t u : Tool) : Decidable (SharesName t u) :=
  inferInstanceAs (Decidable (_ ∧ _))

/-- Whether a surface has all methods of some tools. -/
structure IsCompleteFor (s : Surface) (tools : List Tool) : Prop where
  /-- The groups stand in the order of their names, each once. -/
  pairwise_groups : (s.groups.map Group.name).Pairwise (· < ·)
  /-- There is a group exactly if a tool belongs to it. -/
  mem_groups : ∀ name, name ∈ s.groups.map Group.name ↔ ∃ t ∈ tools, t.group = name
  /-- The method name of a tool means the first tool of the group that has it. -/
  get?_methodName : ∀ t ∈ tools, ∃ first, tools.find? (SharesName t ·) = some first ∧
    s.get? t.group (methodName t.name t.group) = some (.ofTool t.group first)
  /-- The names of the methods of a group are the method names of its tools in their order, each
  where it occurs first. -/
  methodNames_eq : ∀ g ∈ s.groups, g.methodNames =
    ((tools.filter fun t => t.group = g.name).map fun t => methodName t.name g.name).eraseDups
  /-- A tool is what its method name means, unless an earlier tool of the group took the name. -/
  displaced : ∀ before t after, tools = before ++ t :: after →
    s.get? t.group (methodName t.name t.group) = some (.ofTool t.group t) ∨
      ∃ u ∈ before, SharesName t u

/-- A build that is not strict succeeds for all tools and aliases. -/
lemma exists_ofTools_lenient (aliases : List Alias) (convention : Convention) (tools : List Tool) :
    ∃ s, ofTools false aliases convention tools = .ok s := by
  obtain ⟨groups, hgroups⟩ := exists_mapM_eq_ok_iff.mpr fun entry (_ : entry ∈ classify tools) =>
    Group.exists_ofTools_lenient aliases entry.1 entry.2
  exact ⟨⟨groups, convention⟩, bind_eq_ok_iff.mpr ⟨groups, hgroups, rfl⟩⟩

/-- A build, strict or not, has a group exactly if a tool belongs to it. -/
lemma mem_groupNames_iff (h : ofTools strict aliases convention tools = .ok s) {name : String} :
    name ∈ s.groups.map Group.name ↔ ∃ t ∈ tools, t.group = name := by
  rw [← keys_classify h, Keyed.keys, List.mem_map]
  constructor
  · rintro ⟨entry, hentry, rfl⟩
    exact (mem_classify.mp hentry).1
  · intro hsome
    exact ⟨(name, tools.filter fun t => t.group = name), mem_classify.mpr ⟨hsome, rfl⟩, rfl⟩

/-- **Every tool is a method.** A build, strict or not, that succeeds has all methods of the tools.

**Proof sketch.** The groups are those of the tools, each built of the tools that belong to it
(`group?_eq_some_iff`), so the names of its methods are theirs (`Group.methodNames_ofTools`). In the
list of tools, the first with the method name of a tool stands before it or is the tool itself. -/
theorem isCompleteFor_ofTools (h : ofTools strict aliases convention tools = .ok s) :
    s.IsCompleteFor tools where
  pairwise_groups := keys_classify h ▸ isSorted_classify tools
  mem_groups _ := mem_groupNames_iff h
  get?_methodName t ht := by
    have hsome : (tools.find? (SharesName t ·)).isSome = true :=
      List.find?_isSome.mpr ⟨t, ht, by simp [SharesName]⟩
    obtain ⟨first, hfirst⟩ := Option.isSome_iff_exists.mp hsome
    exact ⟨first, hfirst, get?_ofTools h hfirst⟩
  methodNames_eq g hg :=
    Group.methodNames_ofTools ((group?_eq_some_iff h).mp (group?_of_mem h hg)).2
  displaced before t after htools := by
    cases hbefore : before.find? (SharesName t ·) with
    | some u =>
      exact .inr ⟨u, List.mem_of_find?_eq_some hbefore, by simpa using List.find?_some hbefore⟩
    | none =>
      have hfirst : tools.find? (SharesName t ·) = some t := by
        rw [htools, List.find?_append, hbefore, Option.none_or]
        exact List.find?_cons_of_pos (by simp [SharesName])
      exact .inl (get?_ofTools h hfirst)

/-- **Builds that are not strict are complete.** For all tools and aliases, a build that is not
strict succeeds. The surface has exactly the groups of the tools; in each of them the method name of
a tool means the first tool that has it, and the methods stand in the order of the tools. So a tool
is missing only if an earlier tool of its group took its method name. -/
theorem exists_ofTools_isCompleteFor (aliases : List Alias) (convention : Convention)
    (tools : List Tool) :
    ∃ s, ofTools false aliases convention tools = .ok s ∧ s.IsCompleteFor tools := by
  obtain ⟨s, hs⟩ := exists_ofTools_lenient aliases convention tools
  exact ⟨s, hs, isCompleteFor_ofTools hs⟩

end PgGateway.Sandbox.Surface

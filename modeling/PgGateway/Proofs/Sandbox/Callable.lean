import PgGateway.Proofs.Sandbox.Group
import PgGateway.Tool.Echo
import Mathlib.Data.List.Induction
import Mathlib.Data.Set.Card

set_option autoImplicit false

/-!
# The names of a group

A group lists the names of its methods and its aliases, and looks up what they mean in a map. It is
built name by name, and each step keeps the lists and the map in step: no name is listed twice, the
map has the names that are listed and no others, and whatever a name shares is shared by the name of
the method itself. So every alias stands for one of the methods, and the methods stand in the order
of the tools.

## Main definitions

* `PgGateway.Sandbox.Group.IsInStep` — whether the lists of names and the map of a group fit
  together.
* `PgGateway.Sandbox.Group.KeepsNames` — whether the names of a group mean what they are listed for,
  and what they mean without its aliases.

## Main results

* `PgGateway.Sandbox.Group.IsInStep.addTool`, `PgGateway.Sandbox.Group.IsInStep.addAlias` — a tool
  and an alias keep a group in step.
* `PgGateway.Sandbox.Group.isInStep_ofTools` — every group that is built is in step.
* `PgGateway.Sandbox.Group.keepsNames_ofTools` — every group that is built keeps its names.
* `PgGateway.Sandbox.Group.methodNames_ofTools` — the names of the methods are those of the tools,
  each where it occurs first.
* `PgGateway.Sandbox.Group.exists_ofTools_lenient` — a build that is not strict succeeds.
-/

namespace PgGateway.Sandbox.Group

variable {strict : Bool} {g g' : Group} {called : String} {target : Shared}

/-! ## Lists and map in step -/

/-- Whether the lists of names and the map of a group fit together. -/
structure IsInStep (g : Group) : Prop where
  /-- The map is in order. -/
  isSorted : g.methods.IsSorted
  /-- No name is listed twice, be it as a method or as an alias. -/
  nodup : (g.methodNames ++ g.aliasNames).Nodup
  /-- The map has the names that are listed, and no others. -/
  mem_callable_iff : ∀ {called}, called ∈ g.callable ↔ called ∈ g.methodNames ++ g.aliasNames
  /-- The name of a method shares the method of this name. -/
  name_eq : ∀ {called target}, called ∈ g.methodNames → g.shared? called = some target →
    target.method.name = called
  /-- Whatever a name shares is made of a tool, stands in its place among the methods, and is shared
  by the name of the method. -/
  target_eq : ∀ {called target}, g.shared? called = some target →
    target.method = .ofTool g.name target.method.tool ∧
      g.methodNames[target.serial]? = some target.method.name ∧
      g.shared? target.method.name = some target

/-- The names that share a method are those that can be called. -/
lemma isSome_shared?_iff : (g.shared? called).isSome = true ↔ called ∈ g.callable :=
  Keyed.isSome_get?_iff

/-- The names that mean something are those that can be called. -/
lemma isSome_get?_iff : (g.get? called).isSome = true ↔ called ∈ g.callable := by
  rw [get?, Option.isSome_map, isSome_shared?_iff]

/-- A name that shares nothing cannot be called. -/
lemma shared?_eq_none_iff : g.shared? called = none ↔ called ∉ g.callable := by
  rw [← isSome_shared?_iff, Option.not_isSome_iff_eq_none]

/-- A group without methods is in step. -/
lemma isInStep_empty (name : String) : IsInStep { name } where
  isSorted := .nil
  nodup := .nil
  mem_callable_iff := iff_of_false List.not_mem_nil List.not_mem_nil
  name_eq := nofun
  target_eq := nofun

namespace IsInStep

/-- A method of a new name keeps a group in step. -/
lemma withMethod (h : g.IsInStep) {tool : Tool}
    (hfree : g.shared? (methodName tool.name g.name) = none) :
    (g.withMethod (.ofTool g.name tool)).IsInStep where
  isSorted := h.isSorted.put _ _
  nodup := by
    rw [shared?_eq_none_iff, h.mem_callable_iff] at hfree
    rw [methodNames_withMethod, aliasNames_withMethod, List.append_assoc, List.singleton_append,
      List.perm_middle.nodup_iff]
    exact List.nodup_cons.mpr ⟨hfree, h.nodup⟩
  mem_callable_iff {called} := by
    have hold : called ∈ g.methods.keys ↔ called ∈ g.methodNames ++ g.aliasNames :=
      h.mem_callable_iff
    rw [callable, Group.withMethod, Keyed.mem_keys_put, hold, List.append_assoc,
      List.singleton_append, List.perm_middle.mem_iff, List.mem_cons]
  name_eq {called target} hcalled htarget := by
    rw [shared?_withMethod] at htarget
    split at htarget
    · next heq =>
      cases htarget
      exact heq
    · next hne =>
      rw [methodNames_withMethod, List.mem_append, List.mem_singleton] at hcalled
      exact h.name_eq (hcalled.resolve_right (Ne.symm hne)) htarget
  target_eq {called target} htarget := by
    rw [shared?_withMethod] at htarget
    rw [shared?_withMethod, methodNames_withMethod, getElem?_concat_eq_some_iff]
    split at htarget
    · cases htarget
      exact ⟨rfl, .inr ⟨rfl, rfl⟩, if_pos rfl⟩
    · obtain ⟨hmade, hplace, hown⟩ := h.target_eq htarget
      have hne : (Method.ofTool g.name tool).name ≠ target.method.name := fun heq => by
        rw [← heq, Method.ofTool, hfree] at hown
        cases hown
      exact ⟨hmade, .inl hplace, by rw [if_neg hne, hown]⟩

/-- An alias of a new name that shares one of the methods keeps a group in step. -/
lemma withAlias (h : g.IsInStep) {name method : String} {shared : Shared}
    (hshared : g.shared? method = some shared) (hfree : g.shared? name = none) :
    (g.withAlias name shared).IsInStep where
  isSorted := h.isSorted.put _ _
  nodup := by
    rw [shared?_eq_none_iff, h.mem_callable_iff] at hfree
    rw [methodNames_withAlias, aliasNames_withAlias, ← List.append_assoc]
    exact List.nodup_append_comm.mp (List.nodup_cons.mpr ⟨hfree, h.nodup⟩)
  mem_callable_iff {called} := by
    have hold : called ∈ g.methods.keys ↔ called ∈ g.methodNames ++ g.aliasNames :=
      h.mem_callable_iff
    rw [callable, Group.withAlias, Keyed.mem_keys_put, hold, ← List.append_assoc,
      List.mem_append (t := [name]), List.mem_singleton, or_comm]
  name_eq {called target} hcalled htarget := by
    rw [shared?_withAlias] at htarget
    split at htarget
    · next heq =>
      rw [shared?_eq_none_iff, h.mem_callable_iff, heq] at hfree
      exact absurd (List.mem_append_left _ hcalled) hfree
    · exact h.name_eq hcalled htarget
  target_eq {called target} htarget := by
    have hold : ∃ old, g.shared? old = some target := by
      rw [shared?_withAlias] at htarget
      split at htarget
      · exact ⟨method, hshared.trans htarget⟩
      · exact ⟨called, htarget⟩
    obtain ⟨old, hold⟩ := hold
    obtain ⟨hmade, hplace, hown⟩ := h.target_eq hold
    have hne : name ≠ target.method.name := fun heq => by
      rw [← heq, hfree] at hown
      cases hown
    exact ⟨hmade, hplace, by rw [shared?_withAlias, if_neg hne, hown]⟩

/-- One more tool keeps a group in step. -/
theorem addTool (h : g.IsInStep) {tool : Tool} (hadd : addTool strict g tool = .ok g') :
    g'.IsInStep := by
  rcases addTool_cases hadd with ⟨-, rfl⟩ | ⟨hfree, rfl⟩
  · exact h
  · exact h.withMethod hfree

/-- One more alias keeps a group in step. -/
theorem addAlias (h : g.IsInStep) {a : Alias} (hadd : addAlias strict g a = .ok g') :
    g'.IsInStep := by
  rcases addAlias_cases hadd with ⟨-, rfl⟩ | ⟨target, htarget, hfree, rfl⟩
  · exact h
  · exact h.withAlias htarget hfree

/-- The names that can be called are those that are listed. -/
lemma perm_callable (h : g.IsInStep) : g.callable.Perm (g.methodNames ++ g.aliasNames) :=
  (List.perm_ext_iff_of_nodup h.isSorted.nodup h.nodup).mpr fun _ => h.mem_callable_iff

/-- As many names can be called as are listed. -/
lemma length_callable (h : g.IsInStep) :
    g.callable.length = g.methodNames.length + g.aliasNames.length := by
  rw [h.perm_callable.length_eq, List.length_append]

/-- A name that is listed shares a method. -/
lemma exists_shared? (h : g.IsInStep) (hcalled : called ∈ g.methodNames ++ g.aliasNames) :
    ∃ target, g.shared? called = some target :=
  Option.isSome_iff_exists.mp (isSome_shared?_iff.mpr (h.mem_callable_iff.mpr hcalled))

/-- The name of the method that a name shares is listed as that of a method. -/
lemma name_mem (h : g.IsInStep) (htarget : g.shared? called = some target) :
    target.method.name ∈ g.methodNames :=
  List.mem_of_getElem? (h.target_eq htarget).2.1

/-- As many names mean something as can be called. -/
lemma ncard_called (h : g.IsInStep) :
    {called | (g.get? called).isSome = true}.ncard = g.callable.length := by
  have hset : {called | (g.get? called).isSome = true} = ↑g.callable.toFinset := by
    ext called
    rw [List.coe_toFinset]
    exact isSome_get?_iff
  have hnodup : g.callable.Nodup := h.isSorted.nodup
  rw [hset, Set.ncard_coe_finset, List.toFinset_card_of_nodup hnodup]

end IsInStep

/-- **The names of a group.** In every group that is built, strictly or not, the lists of names and
the map are in step.

**Proof sketch.** This holds of a group without methods and is kept by every tool and every alias
that is added. -/
theorem isInStep_ofTools {aliases : List Alias} {name : String} {tools : List Tool}
    (h : ofTools strict aliases name tools = .ok g) : g.IsInStep := by
  obtain ⟨bare, htools, haliases⟩ := exists_of_bind_eq_ok h
  exact foldlM_keeps (fun h hadd => h.addAlias hadd)
    (foldlM_keeps (fun h hadd => h.addTool hadd) (isInStep_empty name) htools) haliases

/-! ## The order of the methods -/

/-- The names of the methods after some tools were added to a group without names are the method
names of the tools, each where it occurs first. -/
lemma methodNames_foldlM_addTool {name : String} {tools : List Tool}
    (h : tools.foldlM (addTool strict) { name } = .ok g) :
    g.methodNames = (tools.map fun t => methodName t.name name).eraseDups := by
  induction tools using List.reverseRecOn generalizing g with
  | nil =>
    cases h
    rfl
  | append_singleton tools tool ih =>
    rw [List.foldlM_append] at h
    obtain ⟨before, hbefore, h⟩ := exists_of_bind_eq_ok h
    have hname : before.name = name := (foldlM_addTool_eq_ok hbefore).1
    have hused : (before.shared? (methodName tool.name name)).isSome = true ↔
        methodName tool.name name ∈ tools.map fun t => methodName t.name name := by
      rw [← isSome_get?_foldlM_addTool hbefore, get?, Option.isSome_map]
    rw [List.foldlM_cons] at h
    obtain ⟨after, hafter, h⟩ := exists_of_bind_eq_ok h
    cases h
    rw [List.map_append, List.map_singleton, eraseDups_concat, ← ih hbefore]
    rcases addTool_cases hafter with ⟨hsome, rfl⟩ | ⟨hnone, rfl⟩
    · rw [hname] at hsome
      rw [if_pos (hused.mp hsome)]
    · rw [hname, ← Option.not_isSome_iff_eq_none] at hnone
      rw [if_neg (mt hused.mpr hnone), methodNames_withMethod, Method.ofTool, hname]

/-- **The methods of a group.** Their names are the method names of the tools in the order of the
tools, each where it occurs first. -/
theorem methodNames_ofTools {aliases : List Alias} {name : String} {tools : List Tool}
    (h : ofTools strict aliases name tools = .ok g) :
    g.methodNames = (tools.map fun t => methodName t.name name).eraseDups := by
  obtain ⟨bare, htools, haliases⟩ := exists_of_bind_eq_ok h
  rw [(foldlM_addAlias_eq_ok haliases).2, methodNames_foldlM_addTool htools]

/-- The names of the methods are the method names of the tools. -/
theorem mem_methodNames_ofTools {aliases : List Alias} {name : String} {tools : List Tool}
    (h : ofTools strict aliases name tools = .ok g) {method : String} :
    method ∈ g.methodNames ↔ ∃ t ∈ tools, methodName t.name name = method := by
  rw [methodNames_ofTools h, List.mem_eraseDups, List.mem_map]

/-- What a name means in a group that is built is made of a tool. -/
lemma eq_ofTool_of_get? {aliases : List Alias} {name : String} {tools : List Tool}
    (h : ofTools strict aliases name tools = .ok g) {m : Method} (hm : g.get? called = some m) :
    m = .ofTool name m.tool := by
  obtain ⟨target, htarget, rfl⟩ := Option.map_eq_some_iff.mp hm
  rw [← name_ofTools h]
  exact ((isInStep_ofTools h).target_eq htarget).1

/-! ## What the names mean -/

/-- Whether the names of a group mean what they are listed for, and what they mean in the same group
without aliases. -/
structure KeepsNames (g bare : Group) : Prop where
  /-- No name is listed twice, be it as a method or as an alias. -/
  nodup : (g.methodNames ++ g.aliasNames).Nodup
  /-- The names that can be called, which are those of the map, are those that are listed. -/
  perm_callable : g.callable.Perm (g.methodNames ++ g.aliasNames)
  /-- So the size of the map is that of the two lists together. -/
  length_methods : g.methods.length = g.methodNames.length + g.aliasNames.length
  /-- The names that mean something are those that are listed. -/
  isSome_get?_iff : ∀ called, (g.get? called).isSome = true ↔ called ∈ g.methodNames ++ g.aliasNames
  /-- There are as many of them as methods and aliases are listed. -/
  ncard_called : {called | (g.get? called).isSome = true}.ncard =
    g.methodNames.length + g.aliasNames.length
  /-- The name of a method means the method of this name, which is shared by no other method. -/
  shared?_methodName : ∀ called ∈ g.methodNames, ∃ target, g.shared? called = some target ∧
    target.method.name = called ∧ target.method.group = g.name ∧
    ∀ other ∈ g.methodNames, ∀ target', g.shared? other = some target' →
      (target'.serial = target.serial ↔ other = called)
  /-- An alias shares the very method that is shared by the name of this method, which is listed as
  the name of a method and is not the alias. -/
  shared?_aliasName : ∀ called ∈ g.aliasNames, ∃ target, g.shared? called = some target ∧
    g.shared? target.method.name = some target ∧ target.method.name ∈ g.methodNames ∧
    target.method.name ≠ called
  /-- Without aliases the methods are the same. -/
  methodNames_eq : bare.methodNames = g.methodNames
  /-- Whatever a name shares without aliases, it shares with them. -/
  shared?_of_bare : ∀ called target, bare.shared? called = some target →
    g.shared? called = some target

/-- The name of a method of a group in step means this method, and no other method has its
number. -/
lemma IsInStep.shared?_methodName (h : g.IsInStep) (hcalled : called ∈ g.methodNames) :
    ∃ target, g.shared? called = some target ∧ target.method.name = called ∧
      target.method.group = g.name ∧
      ∀ other ∈ g.methodNames, ∀ target', g.shared? other = some target' →
        (target'.serial = target.serial ↔ other = called) := by
  obtain ⟨target, htarget⟩ := h.exists_shared? (List.mem_append_left _ hcalled)
  obtain ⟨hmade, hplace, -⟩ := h.target_eq htarget
  have hname := h.name_eq hcalled htarget
  refine ⟨target, htarget, hname, by rw [hmade]; rfl, fun other hother target' htarget' => ?_⟩
  constructor
  · -- The number is the place of the name in the list.
    intro hserial
    have hplace' := (h.target_eq htarget').2.1
    rw [hserial, hplace, hname, h.name_eq hother htarget'] at hplace'
    exact (Option.some.inj hplace').symm
  · rintro rfl
    rw [Option.some.inj (htarget'.symm.trans htarget)]

/-- An alias of a group in step shares one of its methods, whose name is not the alias. -/
lemma IsInStep.shared?_aliasName (h : g.IsInStep) (hcalled : called ∈ g.aliasNames) :
    ∃ target, g.shared? called = some target ∧ g.shared? target.method.name = some target ∧
      target.method.name ∈ g.methodNames ∧ target.method.name ≠ called := by
  obtain ⟨target, htarget⟩ := h.exists_shared? (List.mem_append_right _ hcalled)
  have hname := h.name_mem htarget
  exact ⟨target, htarget, (h.target_eq htarget).2.2, hname,
    (List.nodup_append.mp h.nodup).2.2 _ hname _ hcalled⟩

/-- **What the names mean.** For all tools and aliases, in every group that is built, strictly or
not, no name is listed twice, and the map has just the names that are listed, so as many as both
lists have. The name of a method means the method of this name. An alias shares the very method that
is shared by the name of this method, which is listed and is not the alias. And no name shares
anything else than it does in the group without aliases, which can be built as well.

**Proof sketch.** In a group that is built the lists and the map are in step (`isInStep_ofTools`),
and aliases change nothing about names that share a method (`shared?_foldlM_addAlias`). -/
theorem keepsNames_ofTools {aliases : List Alias} {name : String} {tools : List Tool}
    (h : ofTools strict aliases name tools = .ok g) :
    ∃ bare, ofTools strict [] name tools = .ok bare ∧ g.KeepsNames bare := by
  have hstep := isInStep_ofTools h
  obtain ⟨bare, htools, haliases⟩ := exists_of_bind_eq_ok h
  refine ⟨bare, bind_eq_ok_iff.mpr ⟨bare, htools, rfl⟩, ?_⟩
  exact {
    nodup := hstep.nodup
    perm_callable := hstep.perm_callable
    length_methods := by rw [← hstep.length_callable, callable, Keyed.keys, List.length_map]
    isSome_get?_iff := fun _ => isSome_get?_iff.trans hstep.mem_callable_iff
    ncard_called := hstep.ncard_called.trans hstep.length_callable
    shared?_methodName := fun _ hcalled => hstep.shared?_methodName hcalled
    shared?_aliasName := fun _ hcalled => hstep.shared?_aliasName hcalled
    methodNames_eq := (foldlM_addAlias_eq_ok haliases).2.symm
    shared?_of_bare := fun _ _ htarget => shared?_foldlM_addAlias haliases htarget }

/-- Two tools that want one name, an alias of an alias, one that is named like a method and one of
itself: the group has the first of the tools, and two names for it beside its own, which share the
one method that was made. -/
theorem keepsNames_ofTools_of_clashing :
    ∃ g bare, ofTools false
        [⟨"json", "get", "extract"⟩, ⟨"json", "pick", "get"⟩, ⟨"json", "extract", "get"⟩,
          ⟨"json", "self", "self"⟩] "json"
        [.echo "pg_json_extract" "json", .echo "pg_extract" "json"] = .ok g ∧
      g.methodNames = ["extract"] ∧ g.aliasNames = ["get", "pick"] ∧
      g.methods.map (fun entry => (entry.1, entry.2.serial)) =
        [("extract", 0), ("get", 0), ("pick", 0)] ∧
      g.KeepsNames bare := by
  have hbuilt : ∃ g, ofTools false
        [⟨"json", "get", "extract"⟩, ⟨"json", "pick", "get"⟩, ⟨"json", "extract", "get"⟩,
          ⟨"json", "self", "self"⟩] "json"
        [.echo "pg_json_extract" "json", .echo "pg_extract" "json"] = .ok g ∧
      g.methodNames = ["extract"] ∧ g.aliasNames = ["get", "pick"] ∧
      g.methods.map (fun entry => (entry.1, entry.2.serial)) =
        [("extract", 0), ("get", 0), ("pick", 0)] :=
    ⟨_, rfl, by decide +kernel, by decide +kernel, by decide +kernel⟩
  obtain ⟨g, hg, hmethods, haliases, hmap⟩ := hbuilt
  obtain ⟨bare, -, hkeeps⟩ := keepsNames_ofTools hg
  exact ⟨g, bare, hg, hmethods, haliases, hmap, hkeeps⟩

/-! ## Builds that are not strict -/

/-- A build that is not strict takes every tool. -/
lemma exists_addTool_lenient (g : Group) (tool : Tool) : ∃ g', addTool false g tool = .ok g' := by
  rw [addTool]
  split
  · exact ⟨g, rfl⟩
  · exact ⟨_, rfl⟩

/-- A build that is not strict takes every alias. -/
lemma exists_addAlias_lenient (g : Group) (a : Alias) : ∃ g', addAlias false g a = .ok g' := by
  rw [addAlias]
  split
  · exact ⟨g, rfl⟩
  · split
    · exact ⟨g, rfl⟩
    · exact ⟨_, rfl⟩

/-- **Builds that are not strict.** They succeed for all tools and aliases. -/
theorem exists_ofTools_lenient (aliases : List Alias) (name : String) (tools : List Tool) :
    ∃ g, ofTools false aliases name tools = .ok g := by
  obtain ⟨bare, hbare⟩ := exists_foldlM_eq_ok exists_addTool_lenient tools { name }
  obtain ⟨g, hg⟩ := exists_foldlM_eq_ok exists_addAlias_lenient (Alias.ofGroup name aliases) bare
  exact ⟨g, bind_eq_ok_iff.mpr ⟨bare, hbare, hg⟩⟩

end PgGateway.Sandbox.Group

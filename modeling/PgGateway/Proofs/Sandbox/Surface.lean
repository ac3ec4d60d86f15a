import PgGateway.Proofs.Keyed
import PgGateway.Proofs.Sandbox.Group
import PgGateway.Sandbox.Surface

set_option autoImplicit false

/-!
# The methods of a surface

A surface has a group for every group of its tools, with the tools of that group in their order. So
a group name and a method name mean the first tool of the group that has the method name.

## Main results

* `PgGateway.Sandbox.get?_classify` — the tools of a group are those that belong to it.
* `PgGateway.Sandbox.Surface.group?_eq_some_iff` — which groups a surface has.
* `PgGateway.Sandbox.Surface.get?_ofTools` — what a group name and a method name mean.
-/

namespace PgGateway.Sandbox

/-! ## Tools by their groups -/

/-- Sorting tools into groups puts each at the end of its group. -/
lemma get?_foldl_classify (group : String) (tools : List Tool) (groups : Keyed (List Tool)) :
    (Keyed.get? group (tools.foldl (fun groups t =>
        Keyed.put t.group ((Keyed.get? t.group groups).getD [] ++ [t]) groups) groups)).getD [] =
      (Keyed.get? group groups).getD [] ++ tools.filter fun t => t.group = group := by
  induction tools generalizing groups with
  | nil => exact (List.append_nil _).symm
  | cons tool tools ih =>
    rw [List.foldl_cons, ih, Keyed.get?_put]
    by_cases hgroup : tool.group = group
    · rw [if_pos hgroup, hgroup, Option.getD_some, List.append_assoc, List.singleton_append,
        List.filter_cons_of_pos (by simpa using hgroup)]
    · rw [if_neg hgroup, List.filter_cons_of_neg (by simpa using hgroup)]

/-- The tools of a group are those that belong to it, in their order. There is no group without
tools. -/
theorem get?_classify {group : String} {tools : List Tool}
    (h : ∃ t ∈ tools, t.group = group) :
    Keyed.get? group (classify tools) = some (tools.filter fun t => t.group = group) := by
  have hmembers := get?_foldl_classify group tools []
  rw [show (Keyed.get? group ([] : Keyed (List Tool))).getD [] = [] by rfl, List.nil_append]
    at hmembers
  rw [classify]
  obtain ⟨t, ht, hgroup⟩ := h
  revert hmembers
  cases Keyed.get? group (tools.foldl (fun groups t =>
      Keyed.put t.group ((Keyed.get? t.group groups).getD [] ++ [t]) groups) []) with
  | some members => exact fun hmembers => congrArg some hmembers
  | none =>
    intro hmembers
    have hmem : t ∈ tools.filter fun t => t.group = group :=
      List.mem_filter.mpr ⟨ht, by simpa using hgroup⟩
    rw [← hmembers] at hmem
    cases hmem

/-- There is no group without tools. -/
lemma get?_classify_eq_none {group : String} {tools : List Tool}
    (h : ∀ t ∈ tools, t.group ≠ group) : Keyed.get? group (classify tools) = none := by
  suffices hfold : ∀ groups : Keyed (List Tool), Keyed.get? group groups = none →
      Keyed.get? group (tools.foldl (fun groups t =>
        Keyed.put t.group ((Keyed.get? t.group groups).getD [] ++ [t]) groups) groups) = none from
    hfold [] rfl
  induction tools with
  | nil => exact fun groups hnone => hnone
  | cons tool tools ih =>
    intro groups hnone
    refine ih (fun t ht => h t (List.mem_cons_of_mem _ ht)) _ ?_
    rw [Keyed.get?_put, if_neg (h tool List.mem_cons_self), hnone]

/-- The groups stand in the order of their names. -/
lemma isSorted_classify (tools : List Tool) : (classify tools).IsSorted := by
  suffices hfold : ∀ groups : Keyed (List Tool), groups.IsSorted →
      (tools.foldl (fun groups t =>
        Keyed.put t.group ((Keyed.get? t.group groups).getD [] ++ [t]) groups) groups).IsSorted from
    hfold [] .nil
  induction tools with
  | nil => exact fun groups hsorted => hsorted
  | cons tool tools ih => exact fun groups hsorted => ih _ (hsorted.put _ _)

/-- The groups are those of the tools, each with the tools that belong to it. -/
theorem mem_classify {tools : List Tool} {entry : String × List Tool} :
    entry ∈ classify tools ↔
      (∃ t ∈ tools, t.group = entry.1) ∧ entry.2 = tools.filter fun t => t.group = entry.1 := by
  obtain ⟨group, members⟩ := entry
  rw [← Keyed.get?_eq_some_iff (isSorted_classify tools).nodup]
  by_cases hgroup : ∃ t ∈ tools, t.group = group
  · rw [get?_classify hgroup, Option.some.injEq, and_iff_right hgroup, eq_comm]
  · have hnone : ∀ t ∈ tools, t.group ≠ group := fun t ht heq => hgroup ⟨t, ht, heq⟩
    simp [get?_classify_eq_none hnone, hgroup]

namespace Surface

variable {strict : Bool} {aliases : List Alias} {convention : Convention} {tools : List Tool}
  {s : Surface}

/-- A surface has the convention that it was built with. -/
lemma convention_ofTools (h : ofTools strict aliases convention tools = .ok s) :
    s.convention = convention := by
  obtain ⟨groups, -, h⟩ := exists_of_bind_eq_ok h
  cases h
  rfl

/-- Groups that are built of the entries of a keyed list are found where these are. -/
lemma find?_of_forall₂ {entries : Keyed (List Tool)} {groups : List Group}
    (h : List.Forall₂ (fun entry g => Group.ofTools strict aliases entry.1 entry.2 = .ok g)
      entries groups) {name : String} {members : List Tool}
    (hmembers : Keyed.get? name entries = some members) :
    ∃ g, groups.find? (fun g => g.name = name) = some g ∧
      Group.ofTools strict aliases name members = .ok g := by
  -- Both lists are searched from the front, and an entry and its group have the same name.
  induction h with
  | nil => cases hmembers
  | @cons entry g entries groups hg _ ih =>
    have hname := Group.name_ofTools hg
    rw [Keyed.get?] at hmembers
    by_cases hkey : entry.1 = name
    · rw [if_pos hkey] at hmembers
      cases hmembers
      exact ⟨g, List.find?_cons_of_pos (by simpa [hname] using hkey), hkey ▸ hg⟩
    · rw [if_neg hkey] at hmembers
      rw [List.find?_cons_of_neg (by simpa [hname] using hkey)]
      exact ih hmembers

/-- A surface has a group for every group of the tools, built of those that belong to it. -/
theorem group?_ofTools (h : ofTools strict aliases convention tools = .ok s) {name : String}
    (hname : ∃ t ∈ tools, t.group = name) :
    ∃ g, s.group? name = some g ∧
      Group.ofTools strict aliases name (tools.filter fun t => t.group = name) = .ok g := by
  obtain ⟨groups, hgroups, h⟩ := exists_of_bind_eq_ok h
  cases h
  exact find?_of_forall₂ (forall₂_of_mapM_eq_ok hgroups) (get?_classify hname)

/-- The groups of a surface are built of the tools of each group. -/
lemma forall₂_ofTools (h : ofTools strict aliases convention tools = .ok s) :
    List.Forall₂ (fun entry g => Group.ofTools strict aliases entry.1 entry.2 = .ok g)
      (classify tools) s.groups := by
  obtain ⟨groups, hgroups, h⟩ := exists_of_bind_eq_ok h
  cases h
  exact forall₂_of_mapM_eq_ok hgroups

/-- The groups of a surface have the names of the groups of the tools, in order. -/
lemma keys_classify (h : ofTools strict aliases convention tools = .ok s) :
    (classify tools).keys = s.groups.map Group.name := by
  rw [← List.forall₂_eq_eq_eq, Keyed.keys, List.forall₂_map_left_iff, List.forall₂_map_right_iff]
  exact (forall₂_ofTools h).imp fun _ _ hg => (Group.name_ofTools hg).symm

/-- The groups of a surface have distinct names. -/
lemma nodup_groupNames (h : ofTools strict aliases convention tools = .ok s) :
    (s.groups.map Group.name).Nodup := by
  rw [← keys_classify h]
  exact (isSorted_classify tools).nodup

/-- A group of a surface is found by its name. -/
lemma group?_of_mem (h : ofTools strict aliases convention tools = .ok s) {g : Group}
    (hg : g ∈ s.groups) : s.group? g.name = some g :=
  find?_eq_some_of_nodup (nodup_groupNames h) hg fun _ _ => decide_eq_true_iff

/-- **The groups of a surface.** They are those of the tools, each built of the tools that belong to
it. -/
theorem group?_eq_some_iff (h : ofTools strict aliases convention tools = .ok s) {name : String}
    {g : Group} :
    s.group? name = some g ↔ (∃ t ∈ tools, t.group = name) ∧
      Group.ofTools strict aliases name (tools.filter fun t => t.group = name) = .ok g := by
  constructor
  · intro hg
    have hname : name ∈ s.groups.map Group.name := by
      have hfound : g.name = name := by simpa using List.find?_some hg
      exact hfound ▸ List.mem_map_of_mem (List.mem_of_find?_eq_some hg)
    rw [← keys_classify h] at hname
    obtain ⟨entry, hentry, rfl⟩ := List.mem_map.mp hname
    have hsome := (mem_classify.mp hentry).1
    obtain ⟨g', hg', hbuilt⟩ := group?_ofTools h hsome
    rw [hg, Option.some.injEq] at hg'
    exact ⟨hsome, hg' ▸ hbuilt⟩
  · rintro ⟨hsome, hbuilt⟩
    obtain ⟨g', hg', hbuilt'⟩ := group?_ofTools h hsome
    rw [hbuilt, Except.ok.injEq] at hbuilt'
    rw [hg', hbuilt']

/-- **What a group name and a method name mean.** They mean the first tool of the group that has
the method name.

**Proof sketch.** The group is built of the tools that belong to it (`group?_ofTools`), in which the
method name means the first tool that has it (`Group.get?_ofTools`). -/
theorem get?_ofTools (h : ofTools strict aliases convention tools = .ok s) {group method : String}
    {t : Tool}
    (ht : (tools.find? fun t => t.group = group ∧ methodName t.name group = method) = some t) :
    s.get? group method = some (.ofTool group t) := by
  have hfound : t.group = group ∧ methodName t.name group = method := by
    simpa using List.find?_some ht
  have hgroup : ∃ t ∈ tools, t.group = group := ⟨t, List.mem_of_find?_eq_some ht, hfound.1⟩
  obtain ⟨g, hg, hbuilt⟩ := group?_ofTools h hgroup
  rw [get?, hg, Option.bind_some]
  refine Group.get?_ofTools hbuilt ?_
  rw [List.find?_filter]
  simpa using ht

end Surface

end PgGateway.Sandbox

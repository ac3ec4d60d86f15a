import PgGateway.Proofs.Keyed
import PgGateway.Proofs.Outcome
import PgGateway.Sandbox.Group

set_option autoImplicit false

/-!
# What the names of a group mean

A group is built in steps: a tool adds a method under its method name, and an alias adds a name for
a method that is there. Neither does anything to a name in use. So the first of the tools of a group
that has a method name is the method of that name, whatever the aliases are.

## Main definitions

* `PgGateway.Sandbox.Method.ofTool` — the method that a tool makes in a group.
* `PgGateway.Sandbox.Alias.AreDirect` — whether no alias stands for another one.

## Main results

* `PgGateway.Sandbox.Group.addTool_cases`, `PgGateway.Sandbox.Group.addAlias_cases` — what a tool
  and an alias do to a group.
* `PgGateway.Sandbox.Group.get?_ofTools` — a method name means the first tool that has it.
* `PgGateway.Sandbox.Group.of_get?_ofTools` — what a name means that is no method name.
-/

namespace PgGateway.Sandbox

/-- The method that a tool makes in a group. -/
def Method.ofTool (group : String) (t : Tool) : Method :=
  ⟨group, methodName t.name group, t⟩

/-- Whether no alias stands for another one. -/
def Alias.AreDirect (aliases : List Alias) : Prop :=
  ∀ a ∈ aliases, ∀ b ∈ aliases, a.group = b.group → a.method ≠ b.name

namespace Group

variable {strict : Bool} {g g' : Group}

/-! ## One name more -/

/-- A new method is what its name means, and other names mean what they did. -/
@[simp]
lemma shared?_withMethod (g : Group) (m : Method) (called : String) :
    (g.withMethod m).shared? called =
      if m.name = called then some ⟨g.methodNames.length, m⟩ else g.shared? called :=
  Keyed.get?_put ..

/-- A new alias means what it shares, and other names mean what they did. -/
@[simp]
lemma shared?_withAlias (g : Group) (name : String) (target : Shared) (called : String) :
    (g.withAlias name target).shared? called =
      if name = called then some target else g.shared? called :=
  Keyed.get?_put ..

@[simp]
lemma name_withMethod (g : Group) (m : Method) : (g.withMethod m).name = g.name := rfl

@[simp]
lemma methodNames_withMethod (g : Group) (m : Method) :
    (g.withMethod m).methodNames = g.methodNames ++ [m.name] := rfl

@[simp]
lemma aliasNames_withMethod (g : Group) (m : Method) :
    (g.withMethod m).aliasNames = g.aliasNames := rfl

@[simp]
lemma name_withAlias (g : Group) (name : String) (target : Shared) :
    (g.withAlias name target).name = g.name := rfl

@[simp]
lemma methodNames_withAlias (g : Group) (name : String) (target : Shared) :
    (g.withAlias name target).methodNames = g.methodNames := rfl

@[simp]
lemma aliasNames_withAlias (g : Group) (name : String) (target : Shared) :
    (g.withAlias name target).aliasNames = g.aliasNames ++ [name] := rfl

/-- A name means nothing exactly if it shares nothing. -/
lemma get?_eq_none_iff {called : String} : g.get? called = none ↔ g.shared? called = none :=
  Option.map_eq_none_iff

/-- A name that shares a method means this method. -/
lemma get?_of_shared? {called : String} {target : Shared} (h : g.shared? called = some target) :
    g.get? called = some target.method := by
  rw [get?, h, Option.map_some]

/-! ## Tools -/

/-- What a strict build refuses leaves the group as it is in a build that succeeds. -/
lemma eq_of_refused {e : ConfigError}
    (h : (if strict then .error e else .ok g : Except ConfigError Group) = .ok g') : g' = g := by
  cases strict with
  | true => cases h
  | false => exact (Except.ok.inj h).symm

/-- A tool adds its method if the method name meant nothing, and otherwise leaves the group as it
is. -/
lemma addTool_cases {tool : Tool} (h : addTool strict g tool = .ok g') :
    (g.shared? (methodName tool.name g.name)).isSome = true ∧ g' = g ∨
      g.shared? (methodName tool.name g.name) = none ∧ g' = g.withMethod (.ofTool g.name tool) := by
  rw [addTool] at h
  split at h
  · next hused => exact .inl ⟨hused, eq_of_refused h⟩
  · next hfree =>
    cases h
    exact .inr ⟨Option.not_isSome_iff_eq_none.mp hfree, rfl⟩

/-- A group with one more tool: its name and its aliases are kept, and the tool is the method of its
method name unless that meant something. -/
lemma addTool_eq_ok {tool : Tool} (h : addTool strict g tool = .ok g') :
    g'.name = g.name ∧ g'.aliasNames = g.aliasNames ∧
      ∀ called : String, g'.get? called =
        (g.get? called).or
          (if methodName tool.name g.name = called then some (.ofTool g.name tool) else none) := by
  rcases addTool_cases h with ⟨hused, rfl⟩ | ⟨hfree, rfl⟩
  · obtain ⟨old, hold⟩ := Option.isSome_iff_exists.mp hused
    refine ⟨rfl, rfl, fun called => ?_⟩
    split
    · next heq =>
      subst heq
      rw [get?_of_shared? hold, Option.some_or]
    · rw [Option.or_none]
  · refine ⟨rfl, rfl, fun called => ?_⟩
    rw [get?, shared?_withMethod]
    by_cases heq : methodName tool.name g.name = called
    · subst heq
      rw [get?_eq_none_iff.mpr hfree, Option.none_or, if_pos rfl]
      exact congrArg _ (if_pos rfl)
    · rw [if_neg heq, Option.or_none, get?]
      exact congrArg _ (if_neg heq)

/-- A group with more tools: its name and its aliases are kept, and the first of the tools with a
method name is the method of that name unless this meant something. -/
lemma foldlM_addTool_eq_ok {tools : List Tool} (h : tools.foldlM (addTool strict) g = .ok g') :
    g'.name = g.name ∧ g'.aliasNames = g.aliasNames ∧
      ∀ called : String, g'.get? called =
        (g.get? called).or
          ((tools.find? fun t => methodName t.name g.name = called).map (.ofTool g.name)) := by
  induction tools generalizing g with
  | nil =>
    cases h
    exact ⟨rfl, rfl, fun called => (Option.or_none).symm⟩
  | cons tool tools ih =>
    rw [List.foldlM_cons] at h
    obtain ⟨next, hnext, h⟩ := exists_of_bind_eq_ok h
    obtain ⟨hname, haliases, hfirst⟩ := addTool_eq_ok hnext
    obtain ⟨hname', haliases', hrest⟩ := ih h
    refine ⟨hname'.trans hname, haliases'.trans haliases, fun called => ?_⟩
    rw [hrest, hfirst, hname, Option.or_assoc]
    by_cases hmethod : methodName tool.name g.name = called
    · rw [if_pos hmethod, List.find?_cons_of_pos (by simpa using hmethod)]
      rfl
    · rw [if_neg hmethod, List.find?_cons_of_neg (by simpa using hmethod), Option.none_or]

/-- The tools of a group without aliases give each method name the first of them that has it. -/
lemma get?_foldlM_addTool {name : String} {tools : List Tool}
    (h : tools.foldlM (addTool strict) { name } = .ok g) (called : String) :
    g.get? called = (tools.find? fun t => methodName t.name name = called).map (.ofTool name) :=
  (foldlM_addTool_eq_ok h).2.2 called

/-- Before there are aliases, the names that mean something are the method names of the tools. -/
lemma isSome_get?_foldlM_addTool {name : String} {tools : List Tool}
    (h : tools.foldlM (addTool strict) { name } = .ok g) {called : String} :
    (g.get? called).isSome = true ↔ called ∈ tools.map fun t => methodName t.name name := by
  rw [get?_foldlM_addTool h, Option.isSome_map, List.find?_isSome, List.mem_map]
  simp only [decide_eq_true_eq]

/-! ## Aliases -/

/-- An alias is added if its name meant nothing and its method is there, and otherwise leaves the
group as it is. -/
lemma addAlias_cases {a : Alias} (h : addAlias strict g a = .ok g') :
    (g.shared? a.method = none ∨ (g.shared? a.name).isSome = true) ∧ g' = g ∨
      ∃ target, g.shared? a.method = some target ∧ g.shared? a.name = none ∧
        g' = g.withAlias a.name target := by
  rw [addAlias] at h
  split at h
  · next hmissing => exact .inl ⟨.inl hmissing, eq_of_refused h⟩
  · next target htarget =>
    split at h
    · next hused => exact .inl ⟨.inr hused, eq_of_refused h⟩
    · next hfree =>
      cases h
      exact .inr ⟨target, htarget, Option.not_isSome_iff_eq_none.mp hfree, rfl⟩

/-- Aliases change neither the name of a group nor the names of its methods. -/
lemma foldlM_addAlias_eq_ok {aliases : List Alias}
    (h : aliases.foldlM (addAlias strict) g = .ok g') :
    g'.name = g.name ∧ g'.methodNames = g.methodNames := by
  induction aliases generalizing g with
  | nil =>
    cases h
    exact ⟨rfl, rfl⟩
  | cons a aliases ih =>
    rw [List.foldlM_cons] at h
    obtain ⟨next, hnext, h⟩ := exists_of_bind_eq_ok h
    have hrest := ih h
    rcases addAlias_cases hnext with ⟨-, rfl⟩ | ⟨target, -, -, rfl⟩
    · exact hrest
    · exact hrest

/-- With an alias, its name means what it shares, and other names mean what they did. -/
lemma get?_withAlias (g : Group) (name : String) (target : Shared) (called : String) :
    (g.withAlias name target).get? called =
      if called = name then some target.method else g.get? called := by
  rw [get?, shared?_withAlias]
  split
  · next heq => rw [if_pos heq.symm, Option.map_some]
  · next hne => rw [if_neg (Ne.symm hne), get?]

/-- Aliases change nothing about a name that shares a method. -/
lemma shared?_foldlM_addAlias {aliases : List Alias}
    (h : aliases.foldlM (addAlias strict) g = .ok g') {called : String} {target : Shared}
    (hcalled : g.shared? called = some target) : g'.shared? called = some target := by
  induction aliases generalizing g with
  | nil =>
    cases h
    exact hcalled
  | cons a aliases ih =>
    rw [List.foldlM_cons] at h
    obtain ⟨next, hnext, h⟩ := exists_of_bind_eq_ok h
    refine ih h ?_
    rcases addAlias_cases hnext with ⟨-, rfl⟩ | ⟨other, -, hfree, rfl⟩
    · exact hcalled
    · have hne : a.name ≠ called := fun heq => by rw [heq, hcalled] at hfree; cases hfree
      rw [shared?_withAlias, if_neg hne, hcalled]

/-- Aliases change nothing about a name that has a meaning. -/
lemma get?_foldlM_addAlias {aliases : List Alias}
    (h : aliases.foldlM (addAlias strict) g = .ok g') {called : String} {m : Method}
    (hm : g.get? called = some m) : g'.get? called = some m := by
  obtain ⟨target, htarget, rfl⟩ := Option.map_eq_some_iff.mp hm
  exact get?_of_shared? (shared?_foldlM_addAlias h htarget)

/-- After aliases of a group, none of which stands for another, a name means what it meant without
them, or what the method of an alias of this name meant without them. -/
lemma of_get?_foldlM_addAlias {aliases : List Alias}
    (hdirect : ∀ a ∈ aliases, ∀ b ∈ aliases, a.method ≠ b.name)
    (h : aliases.foldlM (addAlias strict) g = .ok g') {called : String} {m : Method}
    (hm : g'.get? called = some m) :
    g.get? called = some m ∨ ∃ a ∈ aliases, a.name = called ∧ g.get? a.method = some m := by
  induction aliases generalizing g with
  | nil =>
    cases h
    exact .inl hm
  | cons a aliases ih =>
    rw [List.foldlM_cons] at h
    obtain ⟨next, hnext, h⟩ := exists_of_bind_eq_ok h
    have hrest := ih (fun b hb c hc => hdirect b (List.mem_cons_of_mem _ hb) c
      (List.mem_cons_of_mem _ hc)) h
    rcases addAlias_cases hnext with ⟨-, rfl⟩ | ⟨target, htarget, -, rfl⟩
    · refine hrest.imp_right ?_
      rintro ⟨b, hb, hb'⟩
      exact ⟨b, List.mem_cons_of_mem _ hb, hb'⟩
    · rcases hrest with hold | ⟨b, hb, hname, hmeans⟩
      · rw [get?_withAlias] at hold
        split at hold
        · next heq =>
          exact .inr ⟨a, List.mem_cons_self, heq.symm, (get?_of_shared? htarget).trans hold⟩
        · exact .inl hold
      · have hne := hdirect b (List.mem_cons_of_mem _ hb) a List.mem_cons_self
        rw [get?_withAlias, if_neg hne] at hmeans
        exact .inr ⟨b, List.mem_cons_of_mem _ hb, hname, hmeans⟩

/-! ## Built groups -/

variable {aliases : List Alias} {name : String} {tools : List Tool}

/-- A group has the name that it was built for. -/
theorem name_ofTools (h : ofTools strict aliases name tools = .ok g) : g.name = name := by
  obtain ⟨bare, hbare, h⟩ := exists_of_bind_eq_ok h
  exact (foldlM_addAlias_eq_ok h).1.trans (foldlM_addTool_eq_ok hbare).1

/-- **Method names.** The method name of a tool means the first tool of the group that has it, also
where an alias is spelled the same. -/
theorem get?_ofTools (h : ofTools strict aliases name tools = .ok g) {method : String} {t : Tool}
    (ht : (tools.find? fun t => methodName t.name name = method) = some t) :
    g.get? method = some (.ofTool name t) := by
  obtain ⟨bare, hbare, h⟩ := exists_of_bind_eq_ok h
  exact get?_foldlM_addAlias h (by rw [get?_foldlM_addTool hbare, ht, Option.map_some])

/-- What a name means in a group: the method of that name, or the method that an alias of that name
stands for. -/
theorem of_get?_ofTools (hdirect : Alias.AreDirect aliases)
    (h : ofTools strict aliases name tools = .ok g) {called : String} {m : Method}
    (hm : g.get? called = some m) :
    m.group = name ∧ (m.name = called ∨
      ∃ a ∈ aliases, a.group = name ∧ a.name = called ∧ a.method = m.name) := by
  obtain ⟨bare, hbare, h⟩ := exists_of_bind_eq_ok h
  have hmethod : ∀ {method : String}, bare.get? method = some m →
      m.group = name ∧ m.name = method := by
    intro method hfound
    rw [get?_foldlM_addTool hbare, Option.map_eq_some_iff] at hfound
    obtain ⟨t, ht, rfl⟩ := hfound
    have hname : methodName t.name name = method := by simpa using List.find?_some ht
    exact ⟨rfl, hname⟩
  have hown : ∀ a ∈ Alias.ofGroup name aliases, a ∈ aliases ∧ a.group = name := fun a ha => by
    simpa [Alias.ofGroup] using ha
  have hplain : ∀ a ∈ Alias.ofGroup name aliases, ∀ b ∈ Alias.ofGroup name aliases,
      a.method ≠ b.name := fun a ha b hb =>
    hdirect a (hown a ha).1 b (hown b hb).1 ((hown a ha).2.trans (hown b hb).2.symm)
  rcases of_get?_foldlM_addAlias hplain h hm with hold | ⟨a, ha, hname, hmeans⟩
  · exact ⟨(hmethod hold).1, .inl (hmethod hold).2⟩
  · obtain ⟨hgroup, hname'⟩ := hmethod hmeans
    exact ⟨hgroup, .inr ⟨a, (hown a ha).1, (hown a ha).2, hname, hname'.symm⟩⟩

end Group

end PgGateway.Sandbox

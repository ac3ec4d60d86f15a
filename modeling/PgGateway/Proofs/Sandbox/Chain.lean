import PgGateway.Proofs.Sandbox.Callable

set_option autoImplicit false

/-!
# Chains of aliases

A build takes the aliases one after the other, and looks up the method of each among all names that
the group has by then. So an alias can also stand for another one before it. Where no alias does so,
the group is what the aliases say of the methods alone, whatever their order is.

## Main definitions

* `PgGateway.Sandbox.Alias.IsChained` — whether an alias is taken because of another one.
* `PgGateway.Sandbox.Alias.NoneChained` — whether none is.
* `PgGateway.Sandbox.Alias.AreChainless` — whether none is, in whatever order they stand.
* `PgGateway.Sandbox.Group.directly` — what a name means by the aliases that stand for methods.
* `PgGateway.Sandbox.Group.Takes` — whether a build takes an alias after others.
* `PgGateway.Sandbox.Group.TakesDirectly` — whether it takes only those that stand for methods.

## Main results

* `PgGateway.Sandbox.Group.get?_addAlias` — what one alias changes.
* `PgGateway.Sandbox.Group.get?_eq_directly` — without chains a name means what it means directly.
* `PgGateway.Sandbox.Group.takesDirectly_iff` — without chains only aliases of methods are taken.
-/

namespace PgGateway.Sandbox

/-- Whether an alias is taken after others because of one of these: it stands for no method, but for
an alias that stands for one, and its own name is still free. -/
structure Alias.IsChained (methods : List String) (before : List Alias) (b : Alias) : Prop where
  /-- No method has its name. -/
  name_not_mem : b.name ∉ methods
  /-- No method has the name that it stands for. -/
  method_not_mem : b.method ∉ methods
  /-- An alias before it has this name and stands for a method. -/
  exists_target : ∃ a ∈ before, a.name = b.method ∧ a.method ∈ methods
  /-- No alias before it that stands for a method has its name. -/
  name_free : ∀ a ∈ before, a.method ∈ methods → a.name ≠ b.name

/-- Whether no alias is taken because of one of those before it. -/
def Alias.NoneChained (methods : List String) (aliases : List Alias) : Prop :=
  ∀ before a after, aliases = before ++ a :: after → ¬ a.IsChained methods before

/-- Whether no alias can be taken because of another one, in whatever order they stand: if one
stands for another one that stands for a method, one of both has the name of a method. -/
def Alias.AreChainless (methods : List String) (aliases : List Alias) : Prop :=
  ∀ a ∈ aliases, ∀ b ∈ aliases, a.method ∈ methods → b.method = a.name →
    a.name ∈ methods ∨ b.name ∈ methods

instance (methods : List String) (aliases : List Alias) :
    Decidable (Alias.AreChainless methods aliases) :=
  inferInstanceAs (Decidable (∀ a ∈ aliases, ∀ b ∈ aliases, _ → _ → _ ∨ _))

namespace Alias

variable {methods : List String} {aliases : List Alias}

/-- No aliases, no chained one. -/
lemma noneChained_nil (methods : List String) : NoneChained methods [] := fun _ _ _ h =>
  absurd h.symm (List.append_ne_nil_of_right_ne_nil _ (List.cons_ne_nil _ _))

/-- More aliases behind them make none of some aliases chained. -/
lemma NoneChained.of_append {after : List Alias} (h : NoneChained methods (aliases ++ after)) :
    NoneChained methods aliases := fun front a back heq =>
  h front a (back ++ after) (by rw [heq, List.append_assoc, List.cons_append])

/-- None of some aliases is chained if none of those before the last one is and this one is not. -/
lemma noneChained_concat_iff {a : Alias} :
    NoneChained methods (aliases ++ [a]) ↔
      NoneChained methods aliases ∧ ¬ a.IsChained methods aliases := by
  constructor
  · exact fun h => ⟨h.of_append, h aliases a [] rfl⟩
  · rintro ⟨haliases, hlast⟩ before b after heq
    cases after using List.reverseRecOn with
    | nil =>
      obtain ⟨rfl, hb⟩ := List.append_inj' heq rfl
      cases hb
      exact hlast
    | append_singleton after c _ =>
      rw [← List.cons_append, ← List.append_assoc] at heq
      exact haliases before b after (List.append_inj' heq rfl).1

/-- Without chains in any order there are none in this one. -/
lemma AreChainless.noneChained {other : List Alias} (h : AreChainless methods aliases)
    (hother : ∀ a ∈ other, a ∈ aliases) : NoneChained methods other := by
  rintro before b after rfl hchained
  obtain ⟨a, ha, hname, hmethod⟩ := hchained.exists_target
  rcases h a (hother a (List.mem_append_left _ ha)) b
    (hother b (List.mem_append_right _ List.mem_cons_self)) hmethod hname.symm with hmem | hmem
  · exact hchained.method_not_mem (hname ▸ hmem)
  · exact hchained.name_not_mem hmem

end Alias

namespace Group

variable {strict : Bool}

/-! ## One alias after the other -/

/-- An alias changes at most what its own name means: if this was nothing, it is what the method of
the alias means. -/
theorem get?_addAlias {g g' : Group} {a : Alias} (h : addAlias strict g a = .ok g')
    (called : String) :
    g'.get? called =
      if called = a.name then (g.get? called).or (g.get? a.method) else g.get? called := by
  rcases addAlias_cases h with ⟨hmissing | hused, rfl⟩ | ⟨target, htarget, hfree, rfl⟩
  · rw [get?_eq_none_iff.mpr hmissing, Option.or_none, ite_self]
  · obtain ⟨old, hold⟩ := Option.isSome_iff_exists.mp hused
    split
    · next heq => rw [heq, get?_of_shared? hold, Option.some_or]
    · rfl
  · rw [get?_withAlias]
    split
    · next heq =>
      rw [heq, get?_eq_none_iff.mpr hfree, Option.none_or, get?_of_shared? htarget]
    · rfl

/-- An alias is listed exactly if its name meant nothing and its method something. -/
lemma aliasNames_addAlias {g g' : Group} {a : Alias} (h : addAlias strict g a = .ok g') :
    g'.aliasNames = g.aliasNames ++ [a.name] ↔
      g.get? a.name = none ∧ (g.get? a.method).isSome = true := by
  have hsame : ¬ g.aliasNames = g.aliasNames ++ [a.name] := fun heq =>
    List.cons_ne_nil _ _ (List.self_eq_append_right.mp heq)
  rw [get?_eq_none_iff, get?, Option.isSome_map]
  rcases addAlias_cases h with ⟨hmissing | hused, rfl⟩ | ⟨target, htarget, hfree, rfl⟩
  · exact iff_of_false hsame (by simp [hmissing])
  · exact iff_of_false hsame fun hnew => by simp [hnew.1] at hused
  · exact iff_of_true rfl ⟨hfree, by rw [htarget]; rfl⟩

/-! ## What names mean directly -/

/-- What a name means by the aliases that stand for methods of a group: the method of this name, or
what the first such alias of this name stands for. -/
def directly (bare : Group) (aliases : List Alias) (called : String) : Option Method :=
  (bare.get? called).or
    ((aliases.find? fun a => a.name = called ∧ (bare.get? a.method).isSome = true).bind
      fun a => bare.get? a.method)

/-- The names that mean something directly are those of the methods and of the aliases that stand
for methods. -/
lemma isSome_directly_iff {bare : Group} {aliases : List Alias} {called : String} :
    (directly bare aliases called).isSome = true ↔ (bare.get? called).isSome = true ∨
      ∃ a ∈ aliases, a.name = called ∧ (bare.get? a.method).isSome = true := by
  rw [directly, Option.isSome_or, Bool.or_eq_true]
  refine or_congr_right ?_
  cases hfind : aliases.find? fun a => a.name = called ∧ (bare.get? a.method).isSome = true with
  | none =>
    rw [List.find?_eq_none] at hfind
    simpa using hfind
  | some a =>
    have ha : a.name = called ∧ (bare.get? a.method).isSome = true := by
      simpa using List.find?_some hfind
    exact iff_of_true ha.2 ⟨a, List.mem_of_find?_eq_some hfind, ha⟩

/-- One more alias gives its name what its method means, if the name meant nothing. -/
lemma directly_concat (bare : Group) (aliases : List Alias) (a : Alias) (called : String) :
    directly bare (aliases ++ [a]) called =
      if called = a.name then (directly bare aliases called).or (bare.get? a.method)
      else directly bare aliases called := by
  rw [directly, directly, List.find?_append, List.find?_singleton]
  cases hfind : aliases.find? fun a => a.name = called ∧ (bare.get? a.method).isSome = true with
  | some b =>
    have hb : b.name = called ∧ (bare.get? b.method).isSome = true := by
      simpa using List.find?_some hfind
    obtain ⟨m, hm⟩ := Option.isSome_iff_exists.mp hb.2
    simp [hm]
  | none =>
    by_cases hname : called = a.name
    · subst hname
      cases bare.get? a.name <;> cases hmethod : bare.get? a.method <;> simp [hmethod]
    · simp [hname, Ne.symm hname]

variable {bare : Group} {methods : List String}

/-- An alias that is not chained adds what it says of the methods alone. -/
lemma or_directly_of_not_isChained
    (hmethods : ∀ called, (bare.get? called).isSome = true ↔ called ∈ methods)
    {before : List Alias} {a : Alias} (h : ¬ a.IsChained methods before) :
    (directly bare before a.name).or (directly bare before a.method) =
      (directly bare before a.name).or (bare.get? a.method) := by
  cases hname : directly bare before a.name with
  | some m => rw [Option.some_or, Option.some_or]
  | none =>
    rw [Option.none_or, Option.none_or]
    cases hmethod : bare.get? a.method with
    | some m => rw [directly, hmethod, Option.some_or]
    | none =>
      rw [← Option.not_isSome_iff_eq_none, isSome_directly_iff] at hname ⊢
      rw [not_or] at hname
      rintro (hsome | ⟨b, hb, htarget, hsome⟩)
      · rw [hmethod] at hsome
        cases hsome
      · refine h ⟨mt (hmethods _).mpr hname.1, fun hmem => ?_,
          ⟨b, hb, htarget, (hmethods _).mp hsome⟩,
          fun c hc hmem heq => hname.2 ⟨c, hc, heq, (hmethods _).mpr hmem⟩⟩
        rw [← hmethods, hmethod] at hmem
        cases hmem

/-- **Meanings without chains.** If none of the aliases is chained, every name means after them what
it means directly.

**Proof sketch.** By induction on the aliases from the front: one that is not chained adds what it
says of the methods alone (`or_directly_of_not_isChained`). -/
theorem get?_eq_directly
    (hmethods : ∀ called, (bare.get? called).isSome = true ↔ called ∈ methods)
    {aliases : List Alias} {g : Group} (h : aliases.foldlM (addAlias strict) bare = .ok g)
    (hplain : Alias.NoneChained methods aliases) (called : String) :
    g.get? called = directly bare aliases called := by
  induction aliases using List.reverseRecOn generalizing g called with
  | nil =>
    cases h
    exact (Option.or_none).symm
  | append_singleton aliases a ih =>
    rw [List.foldlM_append] at h
    obtain ⟨mid, hmid, h⟩ := exists_of_bind_eq_ok h
    rw [List.foldlM_cons] at h
    obtain ⟨next, hnext, h⟩ := exists_of_bind_eq_ok h
    cases h
    obtain ⟨hbefore, hlast⟩ := Alias.noneChained_concat_iff.mp hplain
    have hmeans : ∀ called, mid.get? called = directly bare aliases called := ih hmid hbefore
    rw [get?_addAlias hnext, directly_concat, hmeans, hmeans]
    split
    · next heq => rw [heq, or_directly_of_not_isChained hmethods hlast]
    · rfl

/-! ## Which aliases are taken -/

/-- The method names of tools in a group. -/
def toolNames (name : String) (tools : List Tool) : List String :=
  tools.map fun t => methodName t.name name

/-- Whether a build takes an alias after others: one more name is listed with it. -/
def Takes (strict : Bool) (name : String) (tools : List Tool) (before : List Alias) (a : Alias) :
    Prop :=
  ∃ g g', ofTools strict before name tools = .ok g ∧
    ofTools strict (before ++ [a]) name tools = .ok g' ∧
    g'.aliasNames = g.aliasNames ++ [a.name]

/-- Whether a build takes no alias but those that stand for method names of tools. -/
def TakesDirectly (strict : Bool) (aliases : List Alias) (name : String) (tools : List Tool) :
    Prop :=
  ∀ before a after, Alias.ofGroup name aliases = before ++ a :: after →
    Takes strict name tools before a → a.method ∈ toolNames name tools

/-- A build of aliases that all belong to the group takes them one after the other. -/
lemma ofTools_eq_ok {name : String} {tools : List Tool} {aliases : List Alias} {g : Group}
    (htools : tools.foldlM (addTool strict) { name } = .ok bare)
    (hown : ∀ a ∈ aliases, a.group = name)
    (haliases : aliases.foldlM (addAlias strict) bare = .ok g) :
    ofTools strict aliases name tools = .ok g := by
  have hall : Alias.ofGroup name aliases = aliases :=
    List.filter_eq_self.mpr fun a ha => by simpa using hown a ha
  exact bind_eq_ok_iff.mpr ⟨bare, htools, by rw [hall, haliases]⟩

/-- An alias is taken exactly if after those before it its name means nothing and its method
something. -/
lemma takes_iff {name : String} {tools : List Tool} {before : List Alias} {a : Alias}
    {mid next : Group} (htools : tools.foldlM (addTool strict) { name } = .ok bare)
    (hown : ∀ b ∈ before ++ [a], b.group = name)
    (hmid : before.foldlM (addAlias strict) bare = .ok mid)
    (hnext : addAlias strict mid a = .ok next) :
    Takes strict name tools before a ↔
      mid.get? a.name = none ∧ (mid.get? a.method).isSome = true := by
  have hbefore : ofTools strict before name tools = .ok mid :=
    ofTools_eq_ok htools (fun b hb => hown b (List.mem_append_left _ hb)) hmid
  have hafter : ofTools strict (before ++ [a]) name tools = .ok next :=
    ofTools_eq_ok htools hown <| by
      rw [List.foldlM_append]
      exact bind_eq_ok_iff.mpr ⟨mid, hmid, bind_eq_ok_iff.mpr ⟨next, hnext, rfl⟩⟩
  rw [← aliasNames_addAlias hnext]
  constructor
  · rintro ⟨g, g', hg, hg', heq⟩
    rw [hbefore, Except.ok.injEq] at hg
    rw [hafter, Except.ok.injEq] at hg'
    rwa [hg, hg']
  · exact fun heq => ⟨mid, next, hbefore, hafter, heq⟩

/-- After aliases that are not chained, one is taken exactly if directly its name means nothing and
its method something. -/
lemma takes_iff_directly {name : String} {tools : List Tool} {before after : List Alias} {a : Alias}
    {g : Group} (htools : tools.foldlM (addTool strict) { name } = .ok bare)
    (hown : ∀ b ∈ before ++ a :: after, b.group = name)
    (haliases : (before ++ a :: after).foldlM (addAlias strict) bare = .ok g)
    (hplain : Alias.NoneChained (toolNames name tools) before) :
    Takes strict name tools before a ↔
      directly bare before a.name = none ∧ (directly bare before a.method).isSome = true := by
  rw [List.foldlM_append] at haliases
  obtain ⟨mid, hmid, haliases⟩ := exists_of_bind_eq_ok haliases
  rw [List.foldlM_cons] at haliases
  obtain ⟨next, hnext, -⟩ := exists_of_bind_eq_ok haliases
  have hmeans : ∀ called, mid.get? called = directly bare before called :=
    get?_eq_directly (fun called => isSome_get?_foldlM_addTool htools) hmid hplain
  have hfront : ∀ b ∈ before ++ [a], b.group = name := fun b hb => hown b <| by
    rw [← List.singleton_append, ← List.append_assoc]
    exact List.mem_append_left _ hb
  rw [takes_iff htools hfront hmid hnext, hmeans, hmeans]

/-- A chained alias has a free name and something to stand for, directly. -/
lemma directly_of_isChained
    (hmethods : ∀ called, (bare.get? called).isSome = true ↔ called ∈ methods)
    {before : List Alias} {a : Alias} (h : a.IsChained methods before) :
    directly bare before a.name = none ∧ (directly bare before a.method).isSome = true := by
  rw [← Option.not_isSome_iff_eq_none, isSome_directly_iff, isSome_directly_iff]
  constructor
  · rintro (hsome | ⟨b, hb, hname, hsome⟩)
    · exact h.name_not_mem ((hmethods _).mp hsome)
    · exact h.name_free b hb ((hmethods _).mp hsome) hname
  · obtain ⟨b, hb, hname, hmem⟩ := h.exists_target
    exact .inr ⟨b, hb, hname, (hmethods _).mpr hmem⟩

/-- An alias with a free name and something to stand for, directly, stands for a method unless it is
chained. -/
lemma method_mem_of_not_isChained
    (hmethods : ∀ called, (bare.get? called).isSome = true ↔ called ∈ methods)
    {before : List Alias} {a : Alias} (h : ¬ a.IsChained methods before)
    (hname : directly bare before a.name = none)
    (hmethod : (directly bare before a.method).isSome = true) : a.method ∈ methods := by
  have hsame := or_directly_of_not_isChained hmethods h
  rw [hname, Option.none_or, Option.none_or] at hsame
  exact (hmethods _).mp (hsame ▸ hmethod)

/-- **Aliases that are taken.** A build that succeeds takes only aliases that stand for method names
of tools exactly if none is chained.

**Proof sketch.** If the aliases before one are not chained, this one is taken exactly if directly
its name means nothing and its method something (`takes_iff_directly`). A chained one is such an
alias (`directly_of_isChained`), so the first chained one would be taken for a name that is no
method name. One that is not chained and is taken stands for a method
(`method_mem_of_not_isChained`). -/
theorem takesDirectly_iff {aliases : List Alias} {name : String} {tools : List Tool} {g : Group}
    (h : ofTools strict aliases name tools = .ok g) :
    TakesDirectly strict aliases name tools ↔
      Alias.NoneChained (toolNames name tools) (Alias.ofGroup name aliases) := by
  obtain ⟨bare, htools, haliases⟩ := exists_of_bind_eq_ok h
  have hmethods : ∀ called, (bare.get? called).isSome = true ↔ called ∈ toolNames name tools :=
    fun called => isSome_get?_foldlM_addTool htools
  have hown : ∀ a ∈ Alias.ofGroup name aliases, a.group = name := fun a ha => by
    simpa [Alias.ofGroup] using (List.mem_filter.mp ha).2
  rw [TakesDirectly]
  -- From here on only the aliases of the group matter.
  generalize Alias.ofGroup name aliases = own at *
  constructor
  · intro hdirect
    have hfront : ∀ before after, own = before ++ after →
        Alias.NoneChained (toolNames name tools) before := by
      intro before
      induction before using List.reverseRecOn with
      | nil => exact fun _ _ => Alias.noneChained_nil _
      | append_singleton before a ih =>
        intro after hsplit
        rw [List.append_assoc, List.singleton_append] at hsplit
        have hplain := ih (a :: after) hsplit
        refine Alias.noneChained_concat_iff.mpr ⟨hplain, fun hchained => ?_⟩
        subst hsplit
        refine hchained.method_not_mem (hdirect before a after rfl ?_)
        exact (takes_iff_directly htools hown haliases hplain).mpr
          (directly_of_isChained hmethods hchained)
    exact hfront own [] (List.append_nil own).symm
  · rintro hplain before a after rfl htakes
    obtain ⟨hname, hmethod⟩ :=
      (takes_iff_directly htools hown haliases hplain.of_append).mp htakes
    exact method_mem_of_not_isChained hmethods (hplain before a after rfl) hname hmethod

end Group

end PgGateway.Sandbox

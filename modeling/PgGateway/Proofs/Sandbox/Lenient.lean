import PgGateway.Proofs.Sandbox.Callable

set_option autoImplicit false

/-!
# Strict and lenient builds

A lenient build drops the tools and aliases that a strict build refuses, and takes all others just
as that does. So a strict build succeeds exactly if a lenient one drops nothing, and then the two
give the same group; otherwise it reports the first entry that a lenient build drops.

## Main definitions

* `PgGateway.DropsRefused` — whether of two ways to take items one drops what the other refuses.
* `PgGateway.Sandbox.Group.entries` — what a group is built of.

## Main results

* `PgGateway.DropsRefused.foldlM` — nothing is dropped exactly if nothing is refused.
* `PgGateway.DropsRefused.foldlM_eq_error_iff` — what is refused is the first item that is dropped.
* `PgGateway.Sandbox.Group.ofTools_strict_eq_error_iff` — the error of a strict build.
* `PgGateway.Sandbox.Group.exists_lenient_agreeing` — the two kinds of builds agree.
-/

namespace PgGateway

section Folds

variable {ε α β : Type} {lenient strict : β → α → Except ε β} {size : β → ℕ}

/-- Whether of two ways to take items one drops what the other refuses: every other item is taken
the same way by both, and is counted. -/
def DropsRefused (lenient strict : β → α → Except ε β) (size : β → ℕ) : Prop :=
  ∀ b a, (∃ b', lenient b a = .ok b' ∧ strict b a = .ok b' ∧ size b' = size b + 1) ∨
    lenient b a = .ok b ∧ ∃ e, strict b a = .error e

/-- **Nothing is dropped exactly if nothing is refused.** The lenient way takes all items, and
counts at most as many as there are. The strict way has a result exactly if the lenient way counts
every item, and it is the same.

**Proof sketch.** Induction on the items. After one that is dropped, the others are too few to make
up for it. -/
theorem DropsRefused.foldlM (h : DropsRefused lenient strict size) (items : List α) (b : β) :
    ∃ b', items.foldlM lenient b = .ok b' ∧ size b' ≤ size b + items.length ∧
      ((∃ s, items.foldlM strict b = .ok s) ↔ size b' = size b + items.length) ∧
      ∀ s, items.foldlM strict b = .ok s → s = b' := by
  induction items generalizing b with
  | nil =>
    refine ⟨b, rfl, Nat.le_refl _, iff_of_true ⟨b, rfl⟩ rfl, ?_⟩
    intro s hs
    cases hs
    rfl
  | cons item items ih =>
    simp only [List.foldlM_cons, List.length_cons]
    rcases h b item with ⟨next, hlenient, hstrict, hsize⟩ | ⟨hlenient, e, hstrict⟩
    · obtain ⟨b', hb', hle, hiff, hsame⟩ := ih next
      rw [hlenient, hstrict]
      refine ⟨b', hb', by omega, hiff.trans ?_, hsame⟩
      rw [hsize, Nat.add_assoc, Nat.add_comm 1]
    · obtain ⟨b', hb', hle, -, -⟩ := ih b
      rw [hlenient, hstrict]
      refine ⟨b', hb', by omega, iff_of_false ?_ (by omega), ?_⟩
      · rintro ⟨s, hs⟩
        cases hs
      · rintro s hs
        cases hs

/-- **What is refused.** The strict way fails exactly with the error of the first item that the
lenient way drops, after all items before it were taken. -/
theorem DropsRefused.foldlM_eq_error_iff (h : DropsRefused lenient strict size) {items : List α}
    {b : β} {e : ε} :
    items.foldlM strict b = .error e ↔
      ∃ before item after mid, items = before ++ item :: after ∧
        before.foldlM lenient b = .ok mid ∧ size mid = size b + before.length ∧
        lenient mid item = .ok mid ∧ strict mid item = .error e := by
  constructor
  · intro herror
    induction items generalizing b with
    | nil => cases herror
    | cons item items ih =>
      rw [List.foldlM_cons] at herror
      rcases h b item with ⟨next, hlenient, hstrict, hsize⟩ | ⟨hlenient, e', hstrict⟩
      · rw [hstrict] at herror
        obtain ⟨before, dropped, after, mid, rfl, hmid, hcount, hdropped⟩ := ih herror
        refine ⟨item :: before, dropped, after, mid, rfl, ?_, ?_, hdropped⟩
        · rw [List.foldlM_cons, hlenient]
          exact hmid
        · rw [hcount, hsize, List.length_cons, Nat.add_assoc, Nat.add_comm 1]
      · rw [hstrict] at herror
        cases herror
        exact ⟨[], item, items, b, rfl, rfl, rfl, hlenient, hstrict⟩
  · rintro ⟨before, item, after, mid, rfl, hmid, hcount, -, herror⟩
    obtain ⟨b', hb', -, hiff, hsame⟩ := h.foldlM before b
    obtain rfl : b' = mid := Except.ok.inj (hb'.symm.trans hmid)
    obtain ⟨s, hs⟩ := hiff.mpr hcount
    rw [List.foldlM_append, hs, hsame s hs]
    change (item :: after).foldlM strict b' = .error e
    rw [List.foldlM_cons, herror]
    rfl

end Folds

namespace Sandbox.Group

/-- The group with one more entry, a tool or an alias. -/
def addEntry (strict : Bool) (g : Group) : Tool ⊕ Alias → Except ConfigError Group
  | .inl tool => addTool strict g tool
  | .inr a => addAlias strict g a

/-- What a group is built of: tools, and then aliases. -/
def entries (aliases : List Alias) (name : String) (tools : List Tool) : List (Tool ⊕ Alias) :=
  tools.map .inl ++ (Alias.ofGroup name aliases).map .inr

/-- The number of names that a group lists. -/
def size (g : Group) : ℕ :=
  g.methodNames.length + g.aliasNames.length

/-- There are as many entries as tools and aliases of the group. -/
lemma length_entries (aliases : List Alias) (name : String) (tools : List Tool) :
    (entries aliases name tools).length = tools.length + (Alias.ofGroup name aliases).length := by
  rw [entries, List.length_append, List.length_map, List.length_map]

/-- A build takes the entries one after the other. -/
lemma ofTools_eq_foldlM (strict : Bool) (aliases : List Alias) (name : String)
    (tools : List Tool) :
    ofTools strict aliases name tools =
      (entries aliases name tools).foldlM (addEntry strict) { name } := by
  simp only [entries, List.foldlM_append, List.foldlM_map]
  rfl

/-- A lenient build drops the entries that a strict build refuses. -/
lemma dropsRefused_addEntry : DropsRefused (addEntry false) (addEntry true) size := by
  intro g entry
  cases entry with
  | inl tool =>
    rw [addEntry, addEntry, addTool, addTool]
    split
    · exact .inr ⟨rfl, _, rfl⟩
    · refine .inl ⟨_, rfl, rfl, ?_⟩
      rw [size, size, methodNames_withMethod, aliasNames_withMethod, List.length_append,
        List.length_singleton]
      omega
  | inr a =>
    rw [addEntry, addEntry, addAlias, addAlias]
    split
    · exact .inr ⟨rfl, _, rfl⟩
    · split
      · exact .inr ⟨rfl, _, rfl⟩
      · refine .inl ⟨_, rfl, rfl, ?_⟩
        rw [size, size, methodNames_withAlias, aliasNames_withAlias, List.length_append,
          List.length_singleton]
        omega

/-- **The error of a strict build.** It is that of the first entry that a lenient build drops, after
it took all entries before. -/
theorem ofTools_strict_eq_error_iff {aliases : List Alias} {name : String} {tools : List Tool}
    {e : ConfigError} :
    ofTools true aliases name tools = .error e ↔
      ∃ before entry after mid, entries aliases name tools = before ++ entry :: after ∧
        before.foldlM (addEntry false) { name } = .ok mid ∧ mid.size = before.length ∧
        addEntry false mid entry = .ok mid ∧ addEntry true mid entry = .error e := by
  rw [ofTools_eq_foldlM, dropsRefused_addEntry.foldlM_eq_error_iff]
  simp [size]

/-- **Strict and lenient builds agree.** For all tools and aliases a lenient build succeeds, with as
many names as its map has, each of which can be called. A strict build succeeds exactly if the
lenient one drops nothing, so that these are as many as there are tools and aliases of the group.
And if the strict build succeeds, the two give the same group, with the same methods and aliases
under the same names.

**Proof sketch.** Entry by entry, a lenient build drops what a strict one refuses
(`dropsRefused_addEntry`). In a group that is built the map has the names that are listed, so they
are as many as are listed (`IsInStep.length_callable`). -/
theorem exists_lenient_agreeing (aliases : List Alias) (name : String) (tools : List Tool) :
    ∃ g, ofTools false aliases name tools = .ok g ∧
      {called | (g.get? called).isSome = true}.ncard = g.methods.length ∧
      ((∃ s, ofTools true aliases name tools = .ok s) ↔
        g.methods.length = tools.length + aliases.countP fun a => a.group = name) ∧
      ∀ s, ofTools true aliases name tools = .ok s → s = g := by
  obtain ⟨g, hg, -, hiff, hsame⟩ :=
    dropsRefused_addEntry.foldlM (entries aliases name tools) { name }
  rw [← ofTools_eq_foldlM] at hg
  simp only [← ofTools_eq_foldlM] at hiff hsame
  have hstep := isInStep_ofTools hg
  have hcallable : g.callable.length = g.methods.length := List.length_map ..
  have hempty : size { name } = 0 := rfl
  have hown : (Alias.ofGroup name aliases).length = aliases.countP fun a => a.group = name :=
    List.countP_eq_length_filter.symm
  refine ⟨g, hg, hstep.ncard_called.trans hcallable, hiff.trans ?_, hsame⟩
  rw [length_entries, hown, hempty, Nat.zero_add, size, ← hstep.length_callable, hcallable]

/-- Beside an alias that fits, one without its method is dropped or refused, and one of another
group is neither. -/
theorem exists_lenient_agreeing_of_dangling :
    (¬ ∃ s, ofTools true [⟨"core", "query", "readQuery"⟩, ⟨"core", "truncate", "truncateTable"⟩,
        ⟨"json", "get", "extract"⟩] "core" [.echo "pg_read_query" "core"] = .ok s) ∧
      ∃ s, ofTools true [⟨"core", "query", "readQuery"⟩, ⟨"json", "get", "extract"⟩] "core"
          [.echo "pg_read_query" "core"] = .ok s ∧
        ofTools false [⟨"core", "query", "readQuery"⟩, ⟨"json", "get", "extract"⟩] "core"
          [.echo "pg_read_query" "core"] = .ok s ∧
        s.callable = ["query", "readQuery"] := by
  constructor
  · obtain ⟨g, hg, -, hiff, -⟩ := exists_lenient_agreeing [⟨"core", "query", "readQuery"⟩,
      ⟨"core", "truncate", "truncateTable"⟩, ⟨"json", "get", "extract"⟩] "core"
      [.echo "pg_read_query" "core"]
    cases hg
    rw [hiff]
    decide +kernel
  · obtain ⟨g, hg, -, hiff, hsame⟩ := exists_lenient_agreeing [⟨"core", "query", "readQuery"⟩,
      ⟨"json", "get", "extract"⟩] "core" [.echo "pg_read_query" "core"]
    have hnames : g.callable = ["query", "readQuery"] ∧ g.methods.length = 2 := by
      cases hg
      decide +kernel
    obtain ⟨s, hs⟩ := hiff.mpr (by rw [hnames.2]; decide)
    obtain rfl := hsame s hs
    exact ⟨s, hs, hg, hnames.1⟩

end Sandbox.Group

end PgGateway

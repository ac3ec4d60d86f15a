import PgGateway.Proofs.Text.Cut
import PgGateway.Sandbox.Path

set_option autoImplicit false

/-!
# Paths of methods

A group name and a method name can be told from the path that is made of them, unless the path means
something else: blanks at its ends and the name of the root before it do not count, it may ask for
help, and it is cut at its first dot.

## Main definitions

* `PgGateway.Sandbox.pathOf` — the path made of a group name and a method name.
* `PgGateway.Sandbox.IsSpelled` — whether the two can be told from it.

## Main results

* `PgGateway.Sandbox.isSpelled_iff` — such a path is taken as it stands, does not ask for help, and
  has its first dot between the names.
* `PgGateway.Sandbox.Surface.target_pathOf` — such a path means the method of the two names.
-/

namespace PgGateway.Sandbox

/-- The path made of a group name and a method name. -/
def pathOf (group method : String) : String :=
  group ++ "." ++ method

/-- Whether a group name and a method name can be told from the path that is made of them. -/
structure IsSpelled (group method : String) : Prop where
  /-- There is no dot in the group name. -/
  dot_notMem : '.' ∉ group.toList
  /-- The group does not have the name of the root. -/
  ne_root : group ≠ rootName
  /-- The group name does not begin with a blank. -/
  group_start : group.toList.head?.any Text.isBlank = false
  /-- The method name does not end with a blank. -/
  method_end : method.toList.getLast?.any Text.isBlank = false
  /-- The method name does not ask for help. -/
  ne_help : method ≠ "help"
  /-- The method name does not end as a request for help. -/
  before_help : Text.before? Surface.helpEnding method.toList = none

instance (group method : String) : Decidable (IsSpelled group method) :=
  decidable_of_iff
    ('.' ∉ group.toList ∧ group ≠ rootName ∧ group.toList.head?.any Text.isBlank = false ∧
      method.toList.getLast?.any Text.isBlank = false ∧ method ≠ "help" ∧
      Text.before? Surface.helpEnding method.toList = none)
    ⟨fun ⟨hdot, hroot, hgroup, hmethod, hhelp, hending⟩ =>
        ⟨hdot, hroot, hgroup, hmethod, hhelp, hending⟩,
      fun h => ⟨h.dot_notMem, h.ne_root, h.group_start, h.method_end, h.ne_help,
        h.before_help⟩⟩

variable {group method : String}

/-! ## What a path is made of -/

/-- The characters of a path. -/
lemma toList_pathOf (group method : String) :
    (pathOf group method).toList = group.toList ++ '.' :: method.toList := by
  rw [pathOf, String.toList_append, String.toList_append, show ".".toList = ['.'] by rfl,
    List.append_assoc, List.singleton_append]

/-- A path is cut at its first dot into the two names. -/
lemma cutFirst_pathOf (hdot : '.' ∉ group.toList) :
    Text.cutFirst ['.'] (pathOf group method).toList = some (group.toList, method.toList) :=
  Text.cutFirst_eq_some.mpr ⟨toList_pathOf group method, hdot⟩

/-- A path is taken as it stands exactly if it has no blank ends and does not begin with the name of
the root. -/
lemma withoutRoot_eq_self {path : List Char} :
    Surface.withoutRoot path = path ↔
      Text.IsTrimmed path ∧ Text.after? (rootName.toList ++ ['.']) path = none := by
  rw [Surface.withoutRoot]
  constructor
  · intro h
    cases hafter : Text.after? (rootName.toList ++ ['.']) (Text.trim path) with
    | none =>
      rw [hafter, Option.getD_none] at h
      rw [h] at hafter
      exact ⟨Text.trim_eq_self_iff.mp h, hafter⟩
    | some rest =>
      -- The rest after the name of the root is shorter than the path.
      rw [hafter, Option.getD_some] at h
      subst h
      obtain ⟨front, back, hpath, -, -⟩ := Text.exists_append_trim_append rest
      rw [Text.after?_eq_some.mp hafter] at hpath
      have hlength := congrArg List.length hpath
      simp only [List.length_append, List.length_singleton] at hlength
      omega
  · rintro ⟨htrimmed, hafter⟩
    rw [Text.trim_eq_self_iff.mpr htrimmed, hafter, Option.getD_none]

/-- A path begins with the name of the root exactly if its group has that name. -/
lemma after?_root_pathOf (hdot : '.' ∉ group.toList) :
    Text.after? (rootName.toList ++ ['.']) (pathOf group method).toList = none ↔
      group ≠ rootName := by
  rw [Option.eq_none_iff_forall_ne_some]
  constructor
  · rintro h rfl
    refine h method.toList (Text.after?_eq_some.mpr ?_)
    rw [toList_pathOf, List.append_assoc, List.singleton_append]
  · intro hroot rest hrest
    rw [Text.after?_eq_some, List.append_assoc, List.singleton_append] at hrest
    have hcut := Text.cutFirst_eq_some.mpr ⟨hrest, by decide⟩
    rw [cutFirst_pathOf hdot, Option.some.injEq, Prod.mk.injEq] at hcut
    exact hroot (String.toList_inj.mp hcut.1)

/-- A path asks for help exactly if its method name does. -/
lemma before?_pathOf :
    Text.before? Surface.helpEnding (pathOf group method).toList = none ↔
      method ≠ "help" ∧ Text.before? Surface.helpEnding method.toList = none := by
  simp only [Option.eq_none_iff_forall_ne_some, ne_eq, Text.before?_eq_some, toList_pathOf]
  constructor
  · intro h
    refine ⟨?_, fun front hfront => h (group.toList ++ '.' :: front) ?_⟩
    · rintro rfl
      exact h group.toList rfl
    · rw [hfront, List.append_assoc, List.cons_append]
  · rintro ⟨hhelp, hnot⟩ front hfront
    rw [List.append_eq_append_iff] at hfront
    -- The ending begins in the group name, at the dot or in the method name.
    rcases hfront with ⟨mid, -, hmethod⟩ | ⟨mid, -, hending⟩
    · cases mid with
      | nil => exact hhelp (String.toList_inj.mp (List.cons.inj hmethod).2)
      | cons c mid => exact hnot mid (List.cons.inj hmethod).2
    · cases mid with
      | nil => exact hhelp (String.toList_inj.mp (List.cons.inj hending).2.symm)
      | cons c mid =>
        have hdot : '.' ∈ "help".toList := by
          rw [show "help".toList = mid ++ '.' :: method.toList from (List.cons.inj hending).2]
          simp
        exact absurd hdot (by decide)

/-- **Spelled names.** Two names can be told from their path exactly if the path is taken as it
stands, does not ask for help and has its first dot between the names. -/
theorem isSpelled_iff :
    IsSpelled group method ↔ '.' ∉ group.toList ∧
      Surface.withoutRoot (pathOf group method).toList = (pathOf group method).toList ∧
      Text.before? Surface.helpEnding (pathOf group method).toList = none := by
  have htrimmed : Text.IsTrimmed (pathOf group method).toList ↔
      group.toList.head?.any Text.isBlank = false ∧
        method.toList.getLast?.any Text.isBlank = false := by
    rw [toList_pathOf, Text.isTrimmed_append_cons (by decide)]
  rw [withoutRoot_eq_self, htrimmed, before?_pathOf]
  constructor
  · exact fun h => ⟨h.dot_notMem, ⟨⟨h.group_start, h.method_end⟩,
      (after?_root_pathOf h.dot_notMem).mpr h.ne_root⟩, h.ne_help, h.before_help⟩
  · exact fun ⟨hdot, ⟨⟨hgroup, hmethod⟩, hroot⟩, hhelp, hending⟩ =>
      ⟨hdot, (after?_root_pathOf hdot).mp hroot, hgroup, hmethod, hhelp, hending⟩

/-! ## What a path means -/

namespace Surface

/-- **Paths of methods.** The path made of a group name and a method name means the method of the
two, if they can be told from it.

**Proof sketch.** The path is taken as it stands and does not ask for help (`isSpelled_iff`), so it
is cut at its first dot, which is the one between the names. -/
theorem target_pathOf (s : Surface) (h : IsSpelled group method) :
    s.target (pathOf group method) =
      match s.get? group method with
      | some m => .ok (.method m)
      | none => .error (.notFound (pathOf group method)) := by
  obtain ⟨hdot, hself, hending⟩ := isSpelled_iff.mp h
  -- A path has a dot, which the word for help has not.
  have hword : (pathOf group method).toList ≠ "help".toList := by
    intro heq
    have hmem : '.' ∈ (pathOf group method).toList := by simp [toList_pathOf]
    rw [heq] at hmem
    exact absurd hmem (by decide)
  cases hmethod : s.get? group method <;>
    simp only [target, hself, hending, hword, Option.isSome_none, decide_false, Bool.or_self,
      Bool.false_eq_true, if_false, methodAt?, cutFirst_pathOf hdot, String.ofList_toList, hmethod]

end Surface

end PgGateway.Sandbox

import PgGateway.Proofs.Keyed
import PgGateway.Proofs.Sandbox.Group
import PgGateway.Proofs.Sandbox.Path
import PgGateway.Tool.Echo

set_option autoImplicit false

/-!
# Paths that ask for help

Help can be asked for directly, or by calling a path that ends so. A call takes the blanks around
the path and the root away, and then asks directly for what is left, where this is done once more.
So the two give the same help unless what is left begins with a blank or again with the root, as it
does if a group has the name of the root. Then they never agree, whatever groups there are.

## Main definitions

* `PgGateway.Sandbox.AsksHelp` — whether a path without the root asks for help.

## Main results

* `PgGateway.Sandbox.Surface.invoke_of_asksHelp` — what a call of such a path gives.
* `PgGateway.Sandbox.Surface.describeAt_withoutRoot_iff` — where taking the root away once more does
  not matter.
* `PgGateway.Sandbox.Surface.invoke_eq_describe_iff` — when the call gives the help at the path.
-/

namespace PgGateway.Sandbox

/-- Whether a path without the root asks for help: about the whole, or about what stands before the
ending. -/
def AsksHelp (path : List Char) : Prop :=
  path = "help".toList ∨ Surface.helpEnding <:+ path

instance (path : List Char) : Decidable (AsksHelp path) :=
  inferInstanceAs (Decidable (_ ∨ _))

namespace Surface

variable (s : Surface)

/-! ## What is asked for -/

/-- A call of a path that asks for help asks for the help at what is left of it without the root,
and is not counted. -/
theorem invoke_of_asksHelp {path : String} (hhelp : AsksHelp (withoutRoot path.toList)) {σ : Type}
    (arguments : List Json) (executor : Executor σ) (timeout : Span) (d : Desk σ) :
    s.invoke path arguments executor timeout d =
      ((s.describeAt (withoutRoot (withoutRoot path.toList))).mapError .tool, d) := by
  have hcond : (withoutRoot path.toList = "help".toList ||
      (Text.before? helpEnding (withoutRoot path.toList)).isSome) = true := by
    rw [Bool.or_eq_true, decide_eq_true_eq]
    refine hhelp.imp_right ?_
    rintro ⟨front, hfront⟩
    rw [Text.before?_eq_some.mpr hfront.symm]
    rfl
  rw [invoke, target]
  simp only [hcond, if_true, describe, String.toList_ofList]
  cases s.describeAt (withoutRoot (withoutRoot path.toList)) <;> rfl

/-- Behind a path that ends so, the help about a group is asked for. -/
lemma describeAt_append_helpEnding (front : List Char) :
    s.describeAt (front ++ helpEnding) =
      match s.group? (String.ofList front) with
      | some g => .ok g.help
      | none => .error (.notFound (String.ofList (front ++ helpEnding))) := by
  have hword : front ++ helpEnding ≠ "help".toList := by
    intro heq
    have hlength := congrArg List.length heq
    rw [List.length_append] at hlength
    exact absurd hlength (by simp [helpEnding])
  have hempty : (front ++ helpEnding).isEmpty = false := by simp [helpEnding]
  rw [describeAt, hempty, decide_eq_false hword, Bool.or_self, if_neg Bool.false_ne_true,
    Text.before?_eq_some.mpr rfl]
  rfl

/-- The help about a group has the name of the group. -/
lemma member?_group_help (g : Group) : g.help.member? "group" = some (.str g.name) := by
  rw [Group.help, Json.object, Json.member?, Keyed.get?_ofList]
  rfl

/-- The help about the whole has no name of a group. -/
lemma member?_help : s.help.member? "group" = none := by
  rw [help, Json.object, Json.member?, Keyed.get?_ofList]
  rfl

/-- The help at two paths that end so is the same only if they are. -/
lemma eq_of_describeAt_eq {front other : List Char}
    (h : s.describeAt (front ++ helpEnding) = s.describeAt (other ++ helpEnding)) :
    front = other := by
  rw [describeAt_append_helpEnding, describeAt_append_helpEnding] at h
  have hname : ∀ {name g}, s.group? name = some g → g.name = name := fun hg => by
    simpa using List.find?_some hg
  cases hfront : s.group? (String.ofList front) with
  | none =>
    cases hother : s.group? (String.ofList other) with
    | none =>
      rw [hfront, hother, Except.error.injEq, ToolError.notFound.injEq, String.ofList_inj] at h
      exact List.append_cancel_right h
    | some g' =>
      rw [hfront, hother] at h
      cases h
  | some g =>
    cases hother : s.group? (String.ofList other) with
    | none =>
      rw [hfront, hother] at h
      cases h
    | some g' =>
      rw [hfront, hother, Except.ok.injEq] at h
      have hgroup := congrArg (Json.member? "group") h
      rw [member?_group_help, member?_group_help, hname hfront, hname hother, Option.some.injEq,
        Json.str.injEq, String.ofList_inj] at hgroup
      exact hgroup

/-- The help about the whole is not what is found at a path that ends so. -/
lemma describeAt_append_helpEnding_ne (front : List Char) :
    s.describeAt (front ++ helpEnding) ≠ .ok s.help := by
  rw [describeAt_append_helpEnding]
  cases s.group? (String.ofList front) with
  | none => nofun
  | some g =>
    intro heq
    have hgroup := congrArg (Json.member? "group") (Except.ok.inj heq)
    rw [member?_group_help, member?_help] at hgroup
    cases hgroup

/-! ## The root once more -/

/-- The blanks before a path that ends so are taken away, and there are none behind it. -/
lemma trim_append_helpEnding (front : List Char) :
    Text.trim (front ++ helpEnding) = Text.trimStart front ++ helpEnding := by
  have hstart : Text.trimStart (front ++ helpEnding) = Text.trimStart front ++ helpEnding := by
    rw [Text.trimStart, List.dropWhile_append]
    split
    · next hempty =>
      rw [Text.trimStart, List.isEmpty_iff.mp hempty]
      rfl
    · rfl
  rw [Text.trim, hstart, Text.trimEnd_eq_self, List.getLast?_append]
  rfl

/-- What is left of a path that ends so without the root also asks for help. -/
lemma asksHelp_withoutRoot (front : List Char) : AsksHelp (withoutRoot (front ++ helpEnding)) := by
  rw [withoutRoot, trim_append_helpEnding]
  cases hafter : Text.after? (rootName.toList ++ ['.']) (Text.trimStart front ++ helpEnding) with
  | none => exact .inr (List.suffix_append _ _)
  | some rest =>
    rw [Option.getD_some]
    rw [Text.after?_eq_some, List.append_eq_append_iff] at hafter
    rcases hafter with ⟨mid, hroot, hending⟩ | ⟨mid, -, hrest⟩
    · -- The ending begins with the root, or with the dot behind it.
      cases mid with
      | nil => exact .inr ⟨[], hending⟩
      | cons c mid =>
        obtain rfl : '.' = c := (List.cons.inj hending).1
        have hchars : ['p', 'g', '.'] = Text.trimStart front ++ '.' :: mid := hroot
        have hmid : mid = [] := by
          generalize Text.trimStart front = t at hchars
          rcases t with _ | ⟨x, _ | ⟨y, _ | ⟨z, t⟩⟩⟩ <;> simp_all
        rw [hmid] at hending
        exact .inl (List.cons.inj hending).2.symm
    · exact .inr ⟨mid, hrest.symm⟩

/-- **The root once more.** The help at a path that asks for it is the same without the root exactly
if the path is taken as it stands.

**Proof sketch.** What is left without the root asks for help about the whole, or about another
group, which is known from the name in the help or the path in the error. -/
theorem describeAt_withoutRoot_iff {path : List Char} (hhelp : AsksHelp path) :
    s.describeAt (withoutRoot path) = s.describeAt path ↔ withoutRoot path = path := by
  refine ⟨fun h => ?_, fun h => by rw [h]⟩
  rcases hhelp with rfl | ⟨front, rfl⟩
  · decide
  · rcases asksHelp_withoutRoot front with hword | ⟨other, hother⟩
    · rw [hword] at h
      exact absurd h.symm (s.describeAt_append_helpEnding_ne front)
    · rw [← hother] at h ⊢
      rw [s.eq_of_describeAt_eq h]

/-- A path that asks for help is taken as it stands exactly if it begins neither with a blank nor
with the root. -/
lemma AsksHelp.withoutRoot_eq_self {path : List Char} (hhelp : AsksHelp path) :
    withoutRoot path = path ↔ path.head?.any Text.isBlank = false ∧
      Text.after? (rootName.toList ++ ['.']) path = none := by
  have hlast : path.getLast?.any Text.isBlank = false := by
    rcases hhelp with rfl | ⟨front, rfl⟩
    · rfl
    · rw [List.getLast?_append]
      rfl
  rw [Sandbox.withoutRoot_eq_self, Text.IsTrimmed]
  simp only [hlast, and_true]

/-- **Help by a call and directly.** Take a path that asks for help once the blanks around it and
the root before it are taken away. On every surface, and for all arguments, a call of the path has
the outcome of asking for the help at it, errors included, exactly if what is left of the path
begins neither with a blank nor once more with the root.

**Proof sketch.** The call takes the root away twice (`invoke_of_asksHelp`), and the second time
matters unless there is nothing to take away (`describeAt_withoutRoot_iff`). -/
theorem invoke_eq_describe_iff {path : String} (hhelp : AsksHelp (withoutRoot path.toList))
    {σ : Type} (arguments : List Json) (executor : Executor σ) (timeout : Span) (d : Desk σ) :
    s.invoke path arguments executor timeout d = ((s.describe (some path)).mapError .tool, d) ↔
      (withoutRoot path.toList).head?.any Text.isBlank = false ∧
        Text.after? (rootName.toList ++ ['.']) (withoutRoot path.toList) = none := by
  have hinj : ∀ x y : Except ToolError Json,
      x.mapError Failure.tool = y.mapError Failure.tool ↔ x = y := by
    intro x y
    cases x <;> cases y <;> simp [Except.mapError]
  rw [s.invoke_of_asksHelp hhelp, Prod.mk.injEq, and_iff_left rfl, hinj]
  exact (s.describeAt_withoutRoot_iff hhelp).trans (AsksHelp.withoutRoot_eq_self hhelp)

/-- The help about a group is the same by a call and directly. -/
theorem invoke_eq_describe_of_core :
    ∃ s, ofTools false Alias.standard Convention.standard
        [Tool.echo "pg_read_query" "core"] = .ok s ∧
      AsksHelp (withoutRoot " pg.core.help".toList) ∧
      s.invoke " pg.core.help" [.null] (Executor.disconnected : Executor Unit) (.ofSeconds 5)
          ⟨0, ()⟩ =
        ((s.describe (some " pg.core.help")).mapError .tool, ⟨0, ()⟩) := by
  obtain ⟨s, hs⟩ : ∃ s, ofTools false Alias.standard Convention.standard
      [Tool.echo "pg_read_query" "core"] = .ok s := ⟨_, rfl⟩
  have hhelp : AsksHelp (withoutRoot " pg.core.help".toList) := by decide
  exact ⟨s, hs, hhelp, (invoke_eq_describe_iff s hhelp _ _ _ _).mpr (by decide)⟩

/-- The help about a group that has the name of the root is only found directly: the call gives the
help about the whole. -/
theorem invoke_ne_describe_of_rootGroup :
    ∃ s, ofTools false Alias.standard Convention.standard [Tool.echo "x" "pg"] = .ok s ∧
      AsksHelp (withoutRoot "pg.pg.help".toList) ∧
      s.invoke "pg.pg.help" [] (Executor.disconnected : Executor Unit) (.ofSeconds 5) ⟨0, ()⟩ ≠
        ((s.describe (some "pg.pg.help")).mapError .tool, ⟨0, ()⟩) := by
  obtain ⟨s, hs, hcall, hdirect⟩ : ∃ s,
      ofTools false Alias.standard Convention.standard [Tool.echo "x" "pg"] = .ok s ∧
        s.invoke "pg.pg.help" [] (Executor.disconnected : Executor Unit) (.ofSeconds 5) ⟨0, ()⟩ =
          (.ok s.help, ⟨0, ()⟩) ∧
        s.describe (some "pg.pg.help") =
          .ok (Group.help (.withMethod { name := "pg" } (.ofTool "pg" (.echo "x" "pg")))) :=
    ⟨_, rfl, rfl, rfl⟩
  refine ⟨s, hs, by decide, fun heq => ?_⟩
  rw [hcall, hdirect, Prod.mk.injEq, Except.mapError, Except.ok.injEq] at heq
  have hgroup := congrArg (Json.member? "group") heq.1
  rw [member?_group_help, member?_help] at hgroup
  cases hgroup

end Surface

end PgGateway.Sandbox

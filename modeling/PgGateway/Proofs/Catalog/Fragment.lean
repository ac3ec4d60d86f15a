import PgGateway.Proofs.Catalog.Quoting.JsonColumn
import PgGateway.Proofs.Sql.Position

set_option autoImplicit false

/-!
# Conditions in the middle of a statement

Five tools write more text behind the condition of their caller, which they use as it is. The text
begins with a closing parenthesis. The database reads it as the tool means it exactly if the
condition leaves nothing open; but a line comment at its end goes on over the rest, because no line
break stands between the two.

## Main definitions

* `PgGateway.Catalog.Frame` — the pieces of a statement before and behind the condition.
* `PgGateway.Catalog.Encloses` — a statement that is a condition in a frame.
* `PgGateway.Catalog.Splices` — a plan whose statement encloses the condition of the caller.
* `PgGateway.Catalog.SplicingTool` — a tool with the frame of its arguments.
* `PgGateway.Catalog.splicingTools` — the tools that write text behind the condition.

## Main results

* `PgGateway.Catalog.Encloses.isApart_iff` — when the text behind an enclosed condition is read as
  it is by itself.
* `PgGateway.Catalog.splicingTools_isApart_iff` — the same for each of the tools.
-/

namespace PgGateway.Catalog

open Sql

/-- The pieces of a statement around the condition of the caller. -/
structure Frame where
  /-- What stands before the condition. -/
  front : List Piece
  /-- What stands behind it. -/
  rest : List Piece

namespace Frame

/-- The text before the condition. -/
def frontChars (s : Frame) : List Char :=
  s.front.flatMap Piece.chars

/-- The text behind the condition. -/
def restChars (s : Frame) : List Char :=
  s.rest.flatMap Piece.chars

end Frame

/-- A statement that is a condition in a frame, where the text before the condition ends outside all
literals, quoted names and comments. -/
structure Encloses (sql : String) (s : Frame) (f : String) : Prop where
  /-- The statement is the text of the three. -/
  chars : sql.toList = s.frontChars ++ (f.toList ++ s.restChars)
  /-- The names before the condition are accepted. -/
  accepted : ∀ p ∈ s.front, p.isAccepted = true
  /-- The condition begins outside. -/
  outside : (s.front.map Piece.outline).foldlM Outline.read? (.code .none) = some (.code .none)
  /-- The text behind the condition begins with a parenthesis. -/
  closes : s.restChars.head? = some ')'

/-- **What a condition swallows.** The text behind an enclosed condition is read as it is by itself
exactly if the condition leaves no literal, no quoted name and no block comment open and does not
end in a line comment. -/
theorem Encloses.isApart_iff {sql f : String} {s : Frame} (h : Encloses sql s f) :
    IsApart (s.frontChars ++ f.toList) s.restChars ↔
      IsBalanced f.toList ∧ ¬ EndsInLine f.toList := by
  obtain ⟨rest, hrest⟩ := List.head?_eq_some_iff.mp h.closes
  have hfront : position s.frontChars = .code .none := foldl_step_flatMap h.accepted h.outside
  rw [hrest, Sql.isApart_iff, position_append, hfront]
  exact isOutside_position_iff

/-- A plan whose one statement encloses the condition of the caller, if there is one. -/
def Splices {α : Type} (plan : α → Except ToolError Action) (condition : α → Option String)
    (frame : α → Frame) : Prop :=
  ∀ {a : α} {action : Action} {timeout : Span} {f : String},
    plan a = .ok action → condition? (condition a) = some f →
      ∃ sql, (action.calls timeout).flatMap Call.statements = [sql] ∧ Encloses sql (frame a) f

/-- A tool, the condition of the caller that its arguments give, and the frame around it. -/
structure SplicingTool where
  /-- The tool. -/
  tool : Tool
  /-- The condition, if there is one. -/
  condition? : Json → Option String
  /-- The frame, if the arguments fit the tool. -/
  frame? : Json → Option Frame

/-- The tool with a plan, for arguments that a reader takes from JSON. -/
def SplicingTool.of {α : Type} (tool : Tool) (arguments : Shape.Reader α)
    (condition : α → Option String) (frame : α → Frame) : SplicingTool where
  tool := tool
  condition? given := (arguments given).toOption.bind fun a => Sql.condition? (condition a)
  frame? given := (arguments given).toOption.map frame

/-- A plan that runs the one statement which it builds hands over what the statement encloses. -/
lemma exists_encloses {built : Except ToolError String} {act : String → Action} {action : Action}
    {timeout : Span} {s : Frame} {f : String}
    (hact : ∀ sql, ((act sql).calls timeout).flatMap Call.statements = [sql])
    (hencloses : ∀ {sql : String}, built = .ok sql → Encloses sql s f)
    (hplan : (do let sql ← built; return act sql) = (.ok action : Except ToolError Action)) :
    ∃ sql, (action.calls timeout).flatMap Call.statements = [sql] ∧ Encloses sql s f := by
  obtain ⟨sql, hsql, hrun⟩ := exists_of_bind_eq_ok hplan
  cases hrun
  exact ⟨sql, hact sql, hencloses hsql⟩

/-- A splicing tool that makes a call with a condition sends it in the frame of its arguments. -/
lemma Splices.exists_frame {α : Type} {arguments : Shape.Reader α}
    {plan : α → Except ToolError Action} {condition : α → Option String} {frame : α → Frame}
    (h : Splices plan condition frame) (group name description : String) (schema : Schema)
    {c : Context} {given : Json} {f : String}
    (hcall : (Tool.reading group name description schema arguments plan).calls c given ≠ [])
    (hcond : (SplicingTool.of (.reading group name description schema arguments plan) arguments
      condition frame).condition? given = some f) :
    ∃ s sql, (SplicingTool.of (.reading group name description schema arguments plan) arguments
        condition frame).frame? given = some s ∧
      (Tool.reading group name description schema arguments plan).statements c given = [sql] ∧
      Encloses sql s f := by
  obtain ⟨a, action, hread, hplan, hact⟩ := Tool.actionOf_eq_of_calls hcall
  have hsome : Sql.condition? (condition a) = some f := by
    simpa [SplicingTool.of, hread, Except.toOption] using hcond
  obtain ⟨sql, hsql, hencloses⟩ := @h a action c.timeout f hplan hsome
  refine ⟨frame a, sql, by simp [SplicingTool.of, hread, Except.toOption], ?_, hencloses⟩
  rwa [← hact] at hsql

/-! ## Asking for rows -/

namespace Filter

/-- The frame of the question whether there are rows. -/
def existsFrame (a : Filter) : Frame where
  front := [.fixed "SELECT EXISTS (SELECT 1 FROM ", .name a.table, .fixed " WHERE "]
  rest := [.fixed ") AS exists"]

/-- The statement encloses the condition. -/
lemma existsEncloses {a : Filter} {sql f : String} (hsome : condition? a.condition = some f)
    (h : a.existsSql? = .ok sql) : Encloses sql a.existsFrame f := by
  obtain ⟨table, htable, hsql⟩ := exists_of_bind_eq_ok h
  obtain ⟨hname, hchars⟩ := quoteName_eq_ok.mp htable
  cases hsql
  refine ⟨?_, by simp [existsFrame, hname], rfl, rfl⟩
  unfold Frame.frontChars Frame.restChars existsFrame whereClause
  simp [hsome, hchars, Piece.chars, -String.reduceToList]

/-- The tool that asks whether there are rows splices the condition. -/
theorem existsSplices : Splices existsPlan condition existsFrame :=
  fun h hsome => exists_encloses (fun _ => rfl) (existsEncloses hsome) h

end Filter

/-! ## Taking values out and putting them in -/

namespace JsonExtract

/-- The frame of the statement. -/
def frame (a : JsonExtract) : Frame where
  front := a.pieces ++ [.fixed " WHERE ", .fixed "("]
  rest := [.fixed ")"]

/-- The statement encloses the condition. -/
lemma encloses {a : JsonExtract} {sql f : String} (hsome : condition? a.condition = some f)
    (h : a.sql? = .ok sql) : Encloses sql a.frame f := by
  obtain ⟨path, hpath, h⟩ := exists_of_bind_eq_ok h
  obtain ⟨column, hcolumn, h⟩ := exists_of_bind_eq_ok h
  obtain ⟨table, htable, hsql⟩ := exists_of_bind_eq_ok h
  obtain ⟨hcolumnName, hcolumnChars⟩ := quoteName_eq_ok.mp hcolumn
  obtain ⟨htableName, htableChars⟩ := quoteName_eq_ok.mp htable
  cases hsql
  refine ⟨?_, by simp [frame, pieces, hcolumnName, htableName], rfl, rfl⟩
  unfold Frame.frontChars Frame.restChars frame pieces whereAll
  simp [hsome, hcolumnChars, htableChars, segments_of_eq_ok hpath, arrayLiteral, Text.join,
    Text.joined, Piece.chars, -String.reduceToList]

/-- The tool that extracts values splices the condition. -/
theorem splices : Splices plan condition frame :=
  fun h hsome => exists_encloses (fun _ => rfl) (encloses hsome) h

end JsonExtract

namespace JsonSet

/-- The frame of the statement. -/
def frame (a : JsonSet) : Frame where
  front := a.pieces ++ [.fixed " WHERE ", .fixed "("]
  rest := [.fixed ")"]

/-- The statement encloses the condition. -/
lemma encloses {a : JsonSet} {sql f : String} (hsome : condition? a.condition = some f)
    (h : a.sql? = .ok sql) : Encloses sql a.frame f := by
  obtain ⟨column, hcolumn, h⟩ := exists_of_bind_eq_ok h
  obtain ⟨path, hpath, h⟩ := exists_of_bind_eq_ok h
  obtain ⟨table, htable, hsql⟩ := exists_of_bind_eq_ok h
  obtain ⟨hcolumnName, hcolumnChars⟩ := quoteName_eq_ok.mp hcolumn
  obtain ⟨htableName, htableChars⟩ := quoteName_eq_ok.mp htable
  cases hsql
  have hempty : ", '{}'::jsonb), ".toList =
      ", ".toList ++ (literalChars "{}".toList ++ "::jsonb), ".toList) := by
    decide +kernel
  have houtside : ∀ createMissing qualified qualified' : Bool,
      [.fixed "UPDATE ", .name qualified', .fixed " SET ", .name qualified,
        .fixed " = jsonb_set(COALESCE(", .name qualified, .fixed ", ", .literal,
        .fixed "::jsonb), ", .literal, .fixed ", ", .literal, .fixed "::jsonb", .fixed ", ",
        .fixed (if createMissing then "true" else "false"), .fixed ")", .fixed " WHERE ",
        .fixed "("].foldlM Outline.read? (.code .none) = some (.code .none) := by decide
  refine ⟨?_, by simp [frame, pieces, hcolumnName, htableName], houtside .., rfl⟩
  unfold Frame.frontChars Frame.restChars frame pieces whereAll
  simp [hsome, hempty, hcolumnChars, htableChars, segments_of_eq_ok hpath, arrayLiteral,
    jsonbLiteral, Text.join, Text.joined, Piece.chars, -String.reduceToList]

/-- The tool that sets values splices the condition. -/
theorem splices : Splices plan condition frame :=
  fun h hsome => exists_encloses (fun _ => rfl) (encloses hsome) h

end JsonSet

/-! ## Listing keys and finding documents -/

namespace JsonKeys

/-- The frame of the statement. -/
def frame (a : JsonKeys) : Frame where
  front := [.fixed "SELECT DISTINCT jsonb_object_keys("] ++ a.targetPieces ++
    [.fixed ") AS key FROM ", .name a.table, .fixed " WHERE ", .fixed "("]
  rest := [.fixed ")", .fixed " AND ", .fixed "jsonb_typeof("] ++ a.targetPieces ++
    [.fixed ") = ", .literal "object".toList, .fixed " ORDER BY key"]

/-- The statement encloses the condition. -/
lemma encloses {a : JsonKeys} {sql f : String} (hsome : condition? a.condition = some f)
    (h : a.sql? = .ok sql) : Encloses sql a.frame f := by
  obtain ⟨target, htarget, h⟩ := exists_of_bind_eq_ok h
  obtain ⟨table, htable, hsql⟩ := exists_of_bind_eq_ok h
  obtain ⟨hcolumnName, htargetChars⟩ := target?_eq_ok htarget
  obtain ⟨htableName, htableChars⟩ := quoteName_eq_ok.mp htable
  cases hsql
  have hobject : ") = 'object'".toList = ") = ".toList ++ literalChars "object".toList := by
    decide +kernel
  refine ⟨?_, ?_, ?_, rfl⟩
  · unfold Frame.frontChars Frame.restChars frame whereAll
    simp [hsome, hobject, htargetChars, htableChars, Text.join, Text.joined, Piece.chars,
      -String.reduceToList]
  · have haccepted : ∀ p ∈ a.targetPieces, p.isAccepted = true := by
      unfold targetPieces
      split <;> simp [hcolumnName]
    simpa [frame, or_imp, forall_and, htableName] using haccepted
  · simp only [frame, List.map_append, outline_targetPieces]
    cases a.path.isSome <;> rfl

/-- The tool that lists keys splices the condition. -/
theorem splices : Splices plan condition frame :=
  fun h hsome => exists_encloses (fun _ => rfl) (encloses hsome) h

end JsonKeys

namespace JsonContains

/-- The frame of the statement. -/
def frame (a : JsonContains) : Frame where
  front := [.fixed "SELECT * FROM ", .name a.table, .fixed " WHERE ", .fixed "("]
  rest := [.fixed ")", .fixed " AND ", .name a.column, .fixed " @> ", .literal a.value.chars,
    .fixed "::jsonb"]

/-- The statement encloses the condition. -/
lemma encloses {a : JsonContains} {sql f : String} (hsome : condition? a.condition = some f)
    (h : a.sql? = .ok sql) : Encloses sql a.frame f := by
  obtain ⟨column, hcolumn, h⟩ := exists_of_bind_eq_ok h
  obtain ⟨table, htable, hsql⟩ := exists_of_bind_eq_ok h
  obtain ⟨-, hcolumnChars⟩ := quoteName_eq_ok.mp hcolumn
  obtain ⟨htableName, htableChars⟩ := quoteName_eq_ok.mp htable
  cases hsql
  refine ⟨?_, by simp [frame, htableName], rfl, rfl⟩
  unfold Frame.frontChars Frame.restChars frame whereAll
  simp [hsome, hcolumnChars, htableChars, jsonbLiteral, Text.join, Text.joined, Piece.chars,
    -String.reduceToList]

/-- The tool that finds documents splices the condition. -/
theorem splices : Splices plan condition frame :=
  fun h hsome => exists_encloses (fun _ => rfl) (encloses hsome) h

end JsonContains

/-! ## All of them -/

/-- The tools that write text behind the condition of their caller. -/
def splicingTools : List SplicingTool :=
  [.of Filter.existsTool Filter.read Filter.condition Filter.existsFrame,
    .of JsonExtract.tool JsonExtract.read JsonExtract.condition JsonExtract.frame,
    .of JsonSet.tool JsonSet.read JsonSet.condition JsonSet.frame,
    .of JsonKeys.tool JsonKeys.read JsonKeys.condition JsonKeys.frame,
    .of JsonContains.tool JsonContains.read JsonContains.condition JsonContains.frame]

/-- Each of the tools sends the condition in its frame. -/
lemma exists_frame_of_mem_splicingTools {e : SplicingTool} (he : e ∈ splicingTools) {c : Context}
    {given : Json} {f : String} (hcall : e.tool.calls c given ≠ [])
    (hcond : e.condition? given = some f) :
    ∃ s sql, e.frame? given = some s ∧ e.tool.statements c given = [sql] ∧ Encloses sql s f := by
  simp only [splicingTools, List.mem_cons, List.not_mem_nil, or_false] at he
  rcases he with rfl | rfl | rfl | rfl | rfl
  · exact Filter.existsSplices.exists_frame _ _ _ _ hcall hcond
  · exact JsonExtract.splices.exists_frame _ _ _ _ hcall hcond
  · exact JsonSet.splices.exists_frame _ _ _ _ hcall hcond
  · exact JsonKeys.splices.exists_frame _ _ _ _ hcall hcond
  · exact JsonContains.splices.exists_frame _ _ _ _ hcall hcond

/-- **When the text behind a condition is swallowed.** Whenever one of the tools makes a call with a
condition of its caller, it sends one statement, the condition in the frame of the arguments. The
text behind the condition is not empty. It is read as it is by itself exactly if the condition,
without the blanks around it, leaves no literal, no quoted name and no block comment open and does
not end in a line comment.

**Proof sketch.** Each tool encloses the condition (`exists_frame_of_mem_splicingTools`): the text
before it ends outside, so the position behind it is that of the condition by itself. The text
behind it begins with a parenthesis, which shows where it is read (`Encloses.isApart_iff`). -/
theorem splicingTools_isApart_iff :
    ∀ e ∈ splicingTools, ∀ (c : Context) (given : Json) (f : String),
      e.tool.calls c given ≠ [] → e.condition? given = some f →
        ∃ s, e.frame? given = some s ∧
          e.tool.statements c given =
            [String.ofList (s.frontChars ++ (f.toList ++ s.restChars))] ∧
          s.restChars ≠ [] ∧
          (IsApart (s.frontChars ++ f.toList) s.restChars ↔
            IsBalanced f.toList ∧ ¬ EndsInLine f.toList) := by
  intro e he c given f hcall hcond
  obtain ⟨s, sql, hs, hsql, hencloses⟩ := exists_frame_of_mem_splicingTools he hcall hcond
  refine ⟨s, hs, ?_, ?_, hencloses.isApart_iff⟩
  · rw [hsql, ← hencloses.chars, String.ofList_toList]
  · intro hnil
    have hcloses := hencloses.closes
    rw [hnil] at hcloses
    cases hcloses

/-- A comment in the middle of a condition and quotes at its end swallow nothing. -/
theorem splicingTools_isApart_iff_of_closed_condition :
    let e := SplicingTool.of JsonKeys.tool JsonKeys.read JsonKeys.condition JsonKeys.frame
    let f := "a = 1 -- x\n AND b = E'it\\'s'"
    let given := Json.obj [("column", .str "doc"), ("table", .str "t"), ("where", .str f)]
    e ∈ splicingTools ∧ e.tool.calls {} given ≠ [] ∧ e.condition? given = some f ∧
      ∃ s, e.frame? given = some s ∧ IsApart (s.frontChars ++ f.toList) s.restChars := by
  intro e f given
  have he : e ∈ splicingTools := by simp [splicingTools, e]
  have hcall : e.tool.calls {} given ≠ [] := by decide +kernel
  have hcond : e.condition? given = some f := by decide +kernel
  have hclosed : IsBalanced f.toList ∧ ¬ EndsInLine f.toList := by decide +kernel
  obtain ⟨s, hs, -, -, hapart⟩ := splicingTools_isApart_iff e he {} given f hcall hcond
  exact ⟨he, hcall, hcond, s, hs, hapart.mpr hclosed⟩

/-- **A swallowed parenthesis.** A condition that ends in a line comment leaves nothing else open,
and the parenthesis that the tool writes behind it belongs to the comment. -/
theorem not_isApart_of_line_comment :
    let e := SplicingTool.of Filter.existsTool Filter.read Filter.condition Filter.existsFrame
    let f := "a = 1 -- x"
    let given := Json.obj [("table", .str "t"), ("where", .str f)]
    let front := "SELECT EXISTS (SELECT 1 FROM \"t\" WHERE ".toList
    let rest := ") AS exists".toList
    e ∈ splicingTools ∧ e.condition? given = some f ∧
      e.tool.statements {} given = [String.ofList (front ++ (f.toList ++ rest))] ∧
      IsBalanced f.toList ∧ ¬ IsApart (front ++ f.toList) rest := by
  intro e f given front rest
  have hinside : (position (front ++ f.toList)).isOutside = false := by decide +kernel
  refine ⟨by simp [splicingTools, e], by decide +kernel, by decide +kernel, by decide +kernel, ?_⟩
  intro hapart
  have houtside := (Sql.isApart_iff " AS exists".toList).mp hapart
  rw [hinside] at houtside
  cases houtside

end PgGateway.Catalog

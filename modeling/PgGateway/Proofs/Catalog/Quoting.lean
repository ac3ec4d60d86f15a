import PgGateway.Catalog.Argument
import PgGateway.Proofs.Outcome
import PgGateway.Proofs.Sql.Template
import PgGateway.Proofs.Tool.Calls
import PgGateway.Sql.Condition

set_option autoImplicit false

/-!
# Tools that quote what they are given

A tool that writes its statements itself puts the strings and JSON values of its caller into
quotes. What else its statements depend on is the form of the arguments: which of them are given,
which flags are set, which names are qualified, and how long the lists are.

## Main definitions

* `PgGateway.Catalog.Form` — the form of arguments.
* `PgGateway.Catalog.Sketch` — the form of arguments, and the pieces of the statements.
* `PgGateway.Catalog.Quotes` — a plan whose statements are those of a sketch.
* `PgGateway.Catalog.QuotingTool` — a tool with the sketch of its arguments; `QuotingTool.IsFree`
  says that its calls are free of injection.

## Main results

* `PgGateway.Catalog.Quotes.isFree` — a reader finds in the statements of a quoting tool exactly the
  lexemes of the sketch, and what is left of them without the contents of the quotes depends on the
  form only.
-/

namespace PgGateway.Catalog

open Sql

/-- What the text of a statement may depend on apart from the contents of its quotes. -/
structure Form where
  /-- Which optional arguments are given, and which flags are set. -/
  flags : List Bool := []
  /-- Which names are qualified, in order; `none` for a name that is not given. -/
  names : List (Option Bool) := []
  /-- The number of documents. -/
  documents : Nat := 0
  /-- The access method of an index. -/
  method : Option String := none
  deriving DecidableEq

/-- The form of arguments, and the statements that are made of them, piece by piece. -/
structure Sketch where
  /-- The form of the arguments. -/
  form : Form
  /-- The pieces of each statement. -/
  statements : List (List Piece)

namespace Sketch

/-- The outlines of the statements. -/
def outlines (s : Sketch) : List (List Outline) :=
  s.statements.map (·.map Piece.outline)

end Sketch

/-- Whether a statement is the text of sound pieces. -/
structure Writes (sql : String) (pieces : List Piece) : Prop where
  /-- The statement is their text. -/
  chars : sql.toList = pieces.flatMap Piece.chars
  /-- They make a statement. -/
  sound : Sound pieces

/-- A plan whose statements are those of a sketch, with outlines that only the form decides, unless
the caller gives a condition, which is put into a statement as it is. -/
structure Quotes {α : Type} (plan : α → Except ToolError Action) (condition : α → Option String)
    (sketch : α → Sketch) : Prop where
  /-- The statements are made of the pieces of the sketch. -/
  writes : ∀ {a : α} {action : Action} {timeout : Span},
    plan a = .ok action → condition? (condition a) = none →
      List.Forall₂ Writes ((action.calls timeout).flatMap Call.statements) (sketch a).statements
  /-- Arguments of one form have statements with the same outlines. -/
  uniform : ∀ {a a' : α} {action action' : Action},
    plan a = .ok action → plan a' = .ok action' →
    condition? (condition a) = none → condition? (condition a') = none →
      (sketch a).form = (sketch a').form → (sketch a).outlines = (sketch a').outlines

/-- A plan that runs the one statement which it builds hands over the pieces of the statement. -/
lemma forall₂_writes {built : Except ToolError String} {act : String → Action} {action : Action}
    {timeout : Span} {pieces : List Piece}
    (hact : ∀ sql, ((act sql).calls timeout).flatMap Call.statements = [sql])
    (hwrites : ∀ {sql : String}, built = .ok sql → Writes sql pieces)
    (hplan : (do let sql ← built; return act sql) = (.ok action : Except ToolError Action)) :
    List.Forall₂ Writes ((action.calls timeout).flatMap Call.statements) [pieces] := by
  obtain ⟨sql, hsql, hrun⟩ := exists_of_bind_eq_ok hplan
  cases hrun
  rw [hact]
  exact .cons (hwrites hsql) .nil

/-- A tool, the condition of the caller's own that its arguments give, and their sketch. -/
structure QuotingTool where
  /-- The tool. -/
  tool : Tool
  /-- The condition that is put into a statement as it is, if there is one. -/
  condition? : Json → Option String
  /-- The sketch of the arguments, if they fit the tool. -/
  sketch? : Json → Option Sketch

/-- The tool with a plan, for arguments that a reader takes from JSON. -/
def QuotingTool.of {α : Type} (tool : Tool) (arguments : Shape.Reader α)
    (condition : α → Option String) (sketch : α → Sketch) : QuotingTool where
  tool := tool
  condition? given := (arguments given).toOption.bind fun a => Sql.condition? (condition a)
  sketch? given := (arguments given).toOption.map sketch

/-- Arguments that never give a condition. -/
def unconditional {α : Type} (_ : α) : Option String :=
  none

/-! ## Pieces in a row -/

section Rows

variable {front back glue : List Outline} {parts : List (List Outline)} {prev b c : Bool}

/-- Two rows of pieces make one if the second may follow the first. -/
lemma foldlM_follow_append (hfront : front.foldlM Outline.follow prev = some b)
    (hback : back.foldlM Outline.follow b = some c) :
    (front ++ back).foldlM Outline.follow prev = some c := by
  rw [List.foldlM_append, hfront, Option.bind_eq_bind, Option.bind_some, hback]

/-- The parts of a list make a row if each may stand at the start, and the text between them may
stand after each. -/
lemma foldlM_follow_intercalate (hne : parts ≠ [])
    (hparts : ∀ part ∈ parts, part.foldlM Outline.follow false = some b)
    (hglue : glue.foldlM Outline.follow b = some false) :
    (glue.intercalate parts).foldlM Outline.follow false = some b := by
  induction parts with
  | nil => exact absurd rfl hne
  | cons part parts ih =>
    have hpart := hparts part (by simp)
    cases parts with
    | nil => simpa [List.intercalate] using hpart
    | cons next rest =>
      have hrest := ih (by simp) fun p hp => hparts p (List.mem_cons_of_mem _ hp)
      have hsplit : glue.intercalate (part :: next :: rest) =
          part ++ (glue ++ glue.intercalate (next :: rest)) := by simp [List.intercalate]
      rw [hsplit]
      exact foldlM_follow_append hpart (foldlM_follow_append hglue hrest)

/-- A row may stand by itself. -/
lemma areApart_of_foldlM (h : front.foldlM Outline.follow false = some b) :
    areApart front = true := by
  rw [areApart, h, Option.isSome_some]

end Rows

/-! ## Pieces made of lists -/

section Lists

variable {α : Type} {glue : List Piece} {f : α → List Piece} {items : List α}

/-- Parts that are joined are the text of the pieces of the items, and names that are accepted in
the items are accepted in the whole. -/
lemma written_join {between : String} {parts : List String}
    (hbetween : between.toList = glue.flatMap Piece.chars)
    (hglue : ∀ p ∈ glue, p.isAccepted = true)
    (hparts : List.Forall₂ (fun item part => (∀ p ∈ f item, p.isAccepted = true) ∧
      part.toList = (f item).flatMap Piece.chars) items parts) :
    (∀ p ∈ glue.intercalate (items.map f), p.isAccepted = true) ∧
      (Text.join between parts).toList =
        (glue.intercalate (items.map f)).flatMap Piece.chars := by
  obtain ⟨hitems, htexts⟩ := (List.forall₂_and_left _ _).mp hparts
  constructor
  · intro p hp
    rcases Text.mem_of_mem_intercalate hp with hp | ⟨part, hpart, hp⟩
    · exact hglue p hp
    · obtain ⟨item, hitem, rfl⟩ := List.mem_map.mp hpart
      exact hitems item hitem p hp
  · have hchars : parts.map String.toList = (items.map f).map (·.flatMap Piece.chars) := by
      clear hitems hparts
      induction htexts with
      | nil => rfl
      | cons hpart _ ih => rw [List.map_cons, List.map_cons, List.map_cons, ih, hpart]
    rw [Text.join, String.toList_ofList, Text.joined_eq_intercalate, hbetween, hchars,
      Text.flatMap_intercalate]

/-- The outlines of a list of pieces. -/
lemma outline_intercalate :
    (glue.intercalate (items.map f)).map Piece.outline =
      (glue.map Piece.outline).intercalate (items.map fun item => (f item).map Piece.outline) := by
  rw [Text.map_intercalate, List.map_map]
  rfl

/-- Lists of names of one form are qualified at the same places. -/
lemma map_isQualified_eq {names names' : List String}
    (h : names.map (fun name => some (isQualified name)) =
      names'.map fun name => some (isQualified name)) :
    names.map isQualified = names'.map isQualified := by
  have hget := congrArg (List.map fun qualified => Option.getD qualified false) h
  simpa [Function.comp_def] using hget

end Lists

/-! ## Statements of a quoting tool -/

/-- Whether the calls of a tool are free of injection: its statements are those of the sketch, with
every value inside its quotes, and depend on the form of the arguments only. -/
structure QuotingTool.IsFree (e : QuotingTool) : Prop where
  /-- Arguments on which a call is made have a sketch. A reader finds the lexemes of its pieces in
  the statements, and the characters outside quotes mean nothing to it. -/
  lexemes : ∀ {c : Context} {given : Json}, e.tool.calls c given ≠ [] →
    e.condition? given = none → ∃ s, e.sketch? given = some s ∧
      List.Forall₂
        (fun sql pieces => lex? sql = some (pieces.flatMap Piece.lexemes) ∧
          ∀ ch, .char ch ∈ pieces.flatMap Piece.lexemes → Lexeme.isInert ch = true)
        (e.tool.statements c given) s.statements
  /-- Arguments of one form have the same statements but for the contents of the quotes. -/
  erased : ∀ {c c' : Context} {given given' : Json} {s s' : Sketch},
    e.tool.calls c given ≠ [] → e.tool.calls c' given' ≠ [] →
    e.condition? given = none → e.condition? given' = none →
    e.sketch? given = some s → e.sketch? given' = some s' → s.form = s'.form →
      (e.tool.statements c given).map erased? = (e.tool.statements c' given').map erased?

namespace Quotes

variable {α : Type} {arguments : Shape.Reader α} {plan : α → Except ToolError Action}
  {condition : α → Option String} {sketch : α → Sketch}

/-- Erasing the contents of all quotes leaves the texts of the outlines. -/
lemma map_erased?_of_forall₂ {sqls : List String} {statements : List (List Piece)}
    (h : List.Forall₂ Writes sqls statements) :
    sqls.map erased? =
      (statements.map (·.map Piece.outline)).map fun o => some (o.flatMap Outline.chars) := by
  induction h with
  | nil => rfl
  | cons hw _ ih =>
    rw [List.map_cons, List.map_cons, List.map_cons, ih, hw.sound.erased?_eq hw.chars]

/-- A quoting tool that makes a call has a plan for its arguments and writes the statements of their
sketch. -/
lemma exists_plan (h : Quotes plan condition sketch) (group name description : String)
    (schema : Schema) {c : Context} {given : Json}
    (hcall : (Tool.reading group name description schema arguments plan).calls c given ≠ [])
    (hcond : (QuotingTool.of (.reading group name description schema arguments plan) arguments
      condition sketch).condition? given = none) :
    ∃ a action, arguments given = .ok a ∧ plan a = .ok action ∧ condition? (condition a) = none ∧
      List.Forall₂ Writes
        ((Tool.reading group name description schema arguments plan).statements c given)
        (sketch a).statements := by
  obtain ⟨a, action, hread, hplan, hact⟩ := Tool.actionOf_eq_of_calls hcall
  have hnone : condition? (condition a) = none := by
    simpa [QuotingTool.of, hread, Except.toOption] using hcond
  refine ⟨a, action, hread, hplan, hnone, ?_⟩
  have hwrites := @h.writes a action c.timeout hplan hnone
  rwa [← hact] at hwrites

/-- **A plan that quotes what it is given is free of injection.**

**Proof sketch.** The statements are the text of the pieces of the sketch. Sound pieces are read
back (`Sound.lex?_eq`), and what is left of them without the contents of the quotes is known from
their outlines (`Sound.erased?_eq`), which the form decides. -/
theorem isFree (h : Quotes plan condition sketch) (group name description : String)
    (schema : Schema) :
    (QuotingTool.of (.reading group name description schema arguments plan) arguments condition
      sketch).IsFree where
  lexemes hcall hcond := by
    obtain ⟨a, action, hread, -, -, hwrites⟩ :=
      h.exists_plan group name description schema hcall hcond
    refine ⟨sketch a, by simp [QuotingTool.of, hread, Except.toOption], ?_⟩
    exact hwrites.imp fun _ _ hw => ⟨hw.sound.lex?_eq hw.chars, fun _ hc => hw.sound.isInert hc⟩
  erased hcall hcall' hcond hcond' hs hs' hform := by
    obtain ⟨a, action, hread, hplan, hnone, hwrites⟩ :=
      h.exists_plan group name description schema hcall hcond
    obtain ⟨a', action', hread', hplan', hnone', hwrites'⟩ :=
      h.exists_plan group name description schema hcall' hcond'
    obtain rfl : sketch a = _ := by simpa [QuotingTool.of, hread, Except.toOption] using hs
    obtain rfl : sketch a' = _ := by simpa [QuotingTool.of, hread', Except.toOption] using hs'
    have hout := h.uniform hplan hplan' hnone hnone' hform
    rw [Sketch.outlines, Sketch.outlines] at hout
    exact (map_erased?_of_forall₂ hwrites).trans
      (hout ▸ (map_erased?_of_forall₂ hwrites').symm)

end Quotes

end PgGateway.Catalog

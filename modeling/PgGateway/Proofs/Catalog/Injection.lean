import PgGateway.Proofs.Catalog.Quoting.Collection
import PgGateway.Proofs.Catalog.Quoting.Fulltext
import PgGateway.Proofs.Catalog.Quoting.Index
import PgGateway.Proofs.Catalog.Quoting.JsonColumn
import PgGateway.Proofs.Catalog.Quoting.Listing

set_option autoImplicit false

/-!
# Injection freedom

Callers of the tools that write their own statements cannot change what a statement says. Whatever
strings and JSON values they give, a reader of SQL finds each of them inside one literal or one
quoted name, and the text around them is fixed by the form of the arguments.

## Main definitions

* `PgGateway.Catalog.quotingTools` — the tools that quote all they are given.

## Main results

* `PgGateway.Catalog.quotingTools_injection_free` — the statements of these tools are free of
  injection.
-/

namespace PgGateway.Catalog

open Sql

/-- The tools that quote all they are given, each with the condition that its arguments give, if it
takes one, and with their sketch. -/
def quotingTools : List QuotingTool :=
  [.of ListTables.tool ListTables.read unconditional ListTables.sketch,
    .of DescribeTable.tool DescribeTable.read unconditional DescribeTable.sketch,
    .of Statistics.indexTool Statistics.read unconditional Statistics.indexSketch,
    .of Statistics.tableTool Statistics.read unconditional Statistics.tableSketch,
    .of FulltextSearch.tool FulltextSearch.read unconditional FulltextSearch.sketch,
    .of FulltextIndex.tool FulltextIndex.read unconditional FulltextIndex.sketch,
    .of Collection.createTool Collection.read unconditional Collection.createSketch,
    .of Collection.dropTool Collection.read unconditional Collection.dropSketch,
    .of InsertDocuments.tool InsertDocuments.read unconditional InsertDocuments.sketch,
    .of FindDocuments.tool FindDocuments.read unconditional FindDocuments.sketch,
    .of DropTable.tool DropTable.read unconditional DropTable.sketch,
    .of CreateIndex.tool CreateIndex.read unconditional CreateIndex.sketch,
    .of Reindex.tool Reindex.read unconditional Reindex.sketch,
    .of JsonExtract.tool JsonExtract.read JsonExtract.condition JsonExtract.sketch,
    .of JsonSet.tool JsonSet.read JsonSet.condition JsonSet.sketch,
    .of JsonKeys.tool JsonKeys.read JsonKeys.condition JsonKeys.sketch,
    .of JsonContains.tool JsonContains.read JsonContains.condition JsonContains.sketch,
    .of Filter.countTool Filter.read Filter.condition Filter.countSketch,
    .of Filter.existsTool Filter.read Filter.condition Filter.existsSketch]

/-- All the tools that quote what they are given are free of injection. -/
lemma isFree_of_mem_quotingTools {e : QuotingTool} (he : e ∈ quotingTools) : e.IsFree := by
  simp only [quotingTools, List.mem_cons, List.not_mem_nil, or_false] at he
  rcases he with rfl | rfl | rfl | rfl | rfl | rfl | rfl | rfl | rfl | rfl | rfl | rfl | rfl |
    rfl | rfl | rfl | rfl | rfl | rfl
  · exact ListTables.quotes.isFree ..
  · exact DescribeTable.quotes.isFree ..
  · exact Statistics.indexQuotes.isFree ..
  · exact Statistics.tableQuotes.isFree ..
  · exact FulltextSearch.quotes.isFree ..
  · exact FulltextIndex.quotes.isFree ..
  · exact Collection.createQuotes.isFree ..
  · exact Collection.dropQuotes.isFree ..
  · exact InsertDocuments.quotes.isFree ..
  · exact FindDocuments.quotes.isFree ..
  · exact DropTable.quotes.isFree ..
  · exact CreateIndex.quotes.isFree ..
  · exact Reindex.quotes.isFree ..
  · exact JsonExtract.quotes.isFree ..
  · exact JsonSet.quotes.isFree ..
  · exact JsonKeys.quotes.isFree ..
  · exact JsonContains.quotes.isFree ..
  · exact Filter.countQuotes.isFree ..
  · exact Filter.existsQuotes.isFree ..

/-- **Injection freedom.** Take a tool that quotes what it is given, and any two arguments on which
it makes a call, neither with a condition of the caller's own. Each statement of the first is read
as exactly the lexemes of its sketch: it does not end inside quotes, every value is the contents of
one literal and every part of a name that of one quoted name, and the characters outside quotes
begin no quotes and no comment and do not end the statement. If the two arguments have the same
form, their statements are the same but for the contents of the quotes.

**Proof sketch.** Each tool writes the text of the pieces of its sketch (`Quotes`), and a plan that
does so is free of injection (`Quotes.isFree`). -/
theorem quotingTools_injection_free :
    ∀ e ∈ quotingTools, ∀ (c c' : Context) (given given' : Json),
      e.tool.calls c given ≠ [] → e.tool.calls c' given' ≠ [] →
      e.condition? given = none → e.condition? given' = none →
        ∃ s s', e.sketch? given = some s ∧ e.sketch? given' = some s' ∧
          List.Forall₂
            (fun sql pieces => lex? sql = some (pieces.flatMap Piece.lexemes) ∧
              ∀ ch, .char ch ∈ pieces.flatMap Piece.lexemes → Lexeme.isInert ch = true)
            (e.tool.statements c given) s.statements ∧
          (s.form = s'.form →
            (e.tool.statements c given).map erased? =
              (e.tool.statements c' given').map erased?) := by
  intro e he c c' given given' hcall hcall' hcond hcond'
  have hfree := isFree_of_mem_quotingTools he
  obtain ⟨s, hs, hlexemes⟩ := hfree.lexemes hcall hcond
  obtain ⟨s', hs', -⟩ := hfree.lexemes hcall' hcond'
  exact ⟨s, s', hs, hs', hlexemes, hfree.erased hcall hcall' hcond hcond' hs hs'⟩

/-- Values with quotes, backslashes and comment marks leave the statement that finds them as it is:
a table, a column and a value that a caller tries to break out with, against harmless ones. -/
theorem quotingTools_injection_free_of_hostile_value :
    let e := QuotingTool.of JsonContains.tool JsonContains.read JsonContains.condition
      JsonContains.sketch
    let hostile := Json.obj [("column", .str "doc"), ("table", .str " logs "),
      ("value", .str "\'; DROP TABLE logs; --"), ("where", .str " ")]
    let harmless := Json.obj [("column", .str "tags"), ("table", .str "t"), ("value", .null)]
    e ∈ quotingTools ∧ e.tool.calls {} hostile ≠ [] ∧ e.tool.calls {} harmless ≠ [] ∧
      e.condition? hostile = none ∧ e.condition? harmless = none ∧
      (e.tool.statements {} hostile).map erased? = (e.tool.statements {} harmless).map erased? := by
  intro e hostile harmless
  have he : e ∈ quotingTools := by simp [quotingTools, e]
  have hcall : e.tool.calls {} hostile ≠ [] := by decide +kernel
  have hcall' : e.tool.calls {} harmless ≠ [] := by decide +kernel
  have hcond : e.condition? hostile = none := by decide +kernel
  have hcond' : e.condition? harmless = none := by decide +kernel
  obtain ⟨s, s', hs, hs', -, herased⟩ :=
    quotingTools_injection_free e he {} {} hostile harmless hcall hcall' hcond hcond'
  have hform : (e.sketch? hostile).map Sketch.form = (e.sketch? harmless).map Sketch.form := by
    decide +kernel
  rw [hs, hs', Option.map_some, Option.map_some] at hform
  exact ⟨he, hcall, hcall', hcond, hcond', herased (Option.some.inj hform)⟩

end PgGateway.Catalog

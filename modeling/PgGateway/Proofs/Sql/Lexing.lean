import PgGateway.Sql.Literal
import Mathlib.Tactic.Common

set_option autoImplicit false

/-!
# Quoted text in a statement

How a reader of SQL finds the quoted text of a statement. A string literal is in single quotes and
a quoted name in double quotes; inside either, the mark written twice stands for one mark, and no
other character has a meaning. The reader goes over the text once, with a state that says whether
it is inside quotes, and hands out one lexeme for each character outside and for each quoted text.

## Main definitions

* `PgGateway.Sql.Lexeme` — a character outside quotes, or a quoted text with its contents.
* `PgGateway.Sql.Scan` — the state of the reader; `Scan.step` reads one character.
* `PgGateway.Sql.lex?` — the lexemes of a statement, unless it ends inside quotes.
* `PgGateway.Sql.erased?` — the statement with the contents of all quoted texts taken away.
* `PgGateway.Sql.Lexeme.follow` — which lexemes may stand next to each other.

## Main results

* `PgGateway.Sql.lexFrom_flatMap_chars` — lexemes that may stand next to each other are read back
  from what they are written as, whatever the contents of the quoted ones.
-/

namespace PgGateway.Sql

/-- The two kinds of quotes. -/
inductive Quote where
  /-- Around a string literal. -/
  | literal
  /-- Around a name. -/
  | name
  deriving DecidableEq

namespace Quote

/-- The character before and after the quoted text. -/
def mark : Quote → Char
  | .literal => '\''
  | .name => '"'

/-- The kind of quotes that a character outside quotes begins, if any. -/
def begun? (c : Char) : Option Quote :=
  if c = '\'' then some .literal else if c = '"' then some .name else none

/-- A mark begins quotes of its own kind. -/
lemma begun?_mark (q : Quote) : begun? q.mark = some q := by
  cases q <;> rfl

end Quote

/-- A unit of the text of a statement. -/
inductive Lexeme where
  /-- A character outside quotes. -/
  | char (c : Char)
  /-- A text in quotes. -/
  | quoted (q : Quote) (contents : List Char)
  deriving DecidableEq

/-- What the reader knows of the text so far. -/
inductive Scan where
  /-- It is outside quotes. -/
  | outside
  /-- It is inside quotes, after the given contents. -/
  | inside (q : Quote) (contents : List Char)
  /-- It has read a mark after the given contents. The quotes end there unless the mark follows
  once more. -/
  | closing (q : Quote) (contents : List Char)

namespace Scan

/-- Reads a character outside quotes: the next state, and the lexemes that are complete. -/
def start (c : Char) : Scan × List Lexeme :=
  match Quote.begun? c with
  | some q => (.inside q [], [])
  | none => (.outside, [.char c])

/-- Reads a character: the next state, and the lexemes that are complete. -/
def step : Scan → Char → Scan × List Lexeme
  | .outside, c => start c
  | .inside q contents, c =>
    if c = q.mark then (.closing q contents, []) else (.inside q (contents ++ [c]), [])
  | .closing q contents, c =>
    if c = q.mark then (.inside q (contents ++ [c]), [])
    else ((start c).1, .quoted q contents :: (start c).2)

/-- The lexemes that are complete at the end of the text, unless it ends inside quotes. -/
def finish : Scan → Option (List Lexeme)
  | .outside => some []
  | .inside _ _ => none
  | .closing q contents => some [.quoted q contents]

end Scan

/-- The lexemes of a text that is read from a given state. -/
def lexFrom : Scan → List Char → Option (List Lexeme)
  | state, [] => state.finish
  | state, c :: s => (lexFrom (state.step c).1 s).map ((state.step c).2 ++ ·)

/-- The lexemes of a statement, unless it ends inside quotes. -/
def lex? (sql : String) : Option (List Lexeme) :=
  lexFrom .outside sql.toList

namespace Lexeme

/-- The text of a lexeme, with every mark inside quotes written twice. -/
def chars : Lexeme → List Char
  | .char c => [c]
  | .quoted q contents => q.mark :: Text.substitute q.mark [q.mark, q.mark] contents ++ [q.mark]

/-- The text of a lexeme without the contents of its quotes. -/
def erased : Lexeme → List Char
  | .char c => [c]
  | .quoted q _ => [q.mark, q.mark]

/-- The characters that have no meaning of their own to a reader of SQL beyond being there: they
begin neither quotes nor comments, escape nothing and do not end the statement. -/
def isInert (c : Char) : Bool :=
  !(['\'', '"', '-', '/', '\\', '$', ';'].contains c)

/-- Whether a lexeme may follow one that is in quotes or not, and whether it is in quotes itself.
Quoted texts next to each other could be read as one. -/
def follow (afterQuoted : Bool) : Lexeme → Option Bool
  | .char c => if isInert c then some false else none
  | .quoted _ _ => if afterQuoted then none else some true

end Lexeme

/-- A statement with the contents of all quoted texts taken away, unless it ends inside quotes. -/
def erased? (sql : String) : Option (List Char) :=
  (lex? sql).map (·.flatMap Lexeme.erased)

/-! ## Reading one lexeme -/

/-- A character may stand anywhere if it is inert, and nowhere otherwise. -/
lemma follow_char {prev b : Bool} {c : Char} :
    Lexeme.follow prev (.char c) = some b ↔ Lexeme.isInert c = true ∧ b = false := by
  by_cases hc : Lexeme.isInert c = true <;> simp [Lexeme.follow, hc, eq_comm]

/-- A quoted text may stand anywhere but after another one. -/
lemma follow_quoted {prev b : Bool} {q : Quote} {contents : List Char} :
    Lexeme.follow prev (.quoted q contents) = some b ↔ prev = false ∧ b = true := by
  cases prev <;> simp [Lexeme.follow, eq_comm]

/-- An inert character begins no quotes. -/
lemma begun?_of_isInert {c : Char} (h : Lexeme.isInert c = true) : Quote.begun? c = none := by
  simp only [Lexeme.isInert, Bool.not_eq_true', List.contains_eq_mem, List.mem_cons,
    decide_eq_false_iff_not, not_or] at h
  simp [Quote.begun?, h.1, h.2.1]

/-- A character outside quotes is a lexeme of its own. -/
lemma lexFrom_char {c : Char} (h : Quote.begun? c = none) (rest : List Char) :
    lexFrom .outside (c :: rest) = (lexFrom .outside rest).map (.char c :: ·) := by
  simp [lexFrom, Scan.step, Scan.start, h]

/-- A mark outside quotes begins quotes without contents. -/
lemma lexFrom_mark (q : Quote) (rest : List Char) :
    lexFrom .outside (q.mark :: rest) = lexFrom (.inside q []) rest := by
  simp [lexFrom, Scan.step, Scan.start, Quote.begun?_mark]

/-- Inside quotes, a text whose marks are written twice is taken up as it is, and the next mark may
close the quotes.

**Proof sketch.** Induction on the text. A mark is read as two: the first leads to the closing
state and the second back into the quotes with one mark more. -/
lemma lexFrom_inside (q : Quote) (contents rest : List Char) : ∀ seen : List Char,
    lexFrom (.inside q seen)
        (Text.substitute q.mark [q.mark, q.mark] contents ++ q.mark :: rest) =
      lexFrom (.closing q (seen ++ contents)) rest := by
  induction contents with
  | nil => intro seen; simp [Text.substitute, lexFrom, Scan.step]
  | cons c contents ih =>
    intro seen
    have hstep : lexFrom (.inside q seen)
        (Text.substitute q.mark [q.mark, q.mark] (c :: contents) ++ q.mark :: rest) =
        lexFrom (.inside q (seen ++ [c]))
          (Text.substitute q.mark [q.mark, q.mark] contents ++ q.mark :: rest) := by
      by_cases hc : c = q.mark
      · simp [Text.substitute, lexFrom, Scan.step, hc]
      · simp [Text.substitute, lexFrom, Scan.step, hc]
    rw [hstep, ih, List.append_assoc, List.singleton_append]

/-- Quotes end where no further mark follows. -/
lemma lexFrom_closing (q : Quote) (contents : List Char) {rest : List Char}
    (h : rest.head? ≠ some q.mark) :
    lexFrom (.closing q contents) rest =
      (lexFrom .outside rest).map (.quoted q contents :: ·) := by
  cases rest with
  | nil => rfl
  | cons c rest =>
    have hc : c ≠ q.mark := by simpa using h
    cases hs : lexFrom (Scan.start c).1 rest <;> simp [lexFrom, Scan.step, hc, hs]

/-! ## Reading lexemes in a row -/

/-- Lexemes may stand in a row if the first may and the others may after it. -/
lemma foldlM_follow_cons {l : Lexeme} {ls : List Lexeme} {prev b : Bool} :
    (l :: ls).foldlM Lexeme.follow prev = some b ↔
      ∃ next, l.follow prev = some next ∧ ls.foldlM Lexeme.follow next = some b := by
  rw [List.foldlM_cons, Option.bind_eq_bind, Option.bind_eq_some_iff]

/-- What may stand after a quoted text does not begin with a mark. -/
lemma head?_of_follow {ls : List Lexeme} {b : Bool} (q : Quote)
    (h : ls.foldlM Lexeme.follow true = some b) :
    (ls.flatMap Lexeme.chars).head? ≠ some q.mark := by
  cases ls with
  | nil => simp
  | cons l ls =>
    obtain ⟨next, hl, -⟩ := foldlM_follow_cons.mp h
    cases l with
    | char c =>
      have hc := begun?_of_isInert (follow_char.mp hl).1
      intro heq
      have hq : c = q.mark := by simpa [Lexeme.chars] using heq
      rw [hq, Quote.begun?_mark] at hc
      cases hc
    | quoted q' v => simp [Lexeme.follow] at hl

/-- **Reading back.** Lexemes that may stand next to each other are read back from their text.

**Proof sketch.** Induction on the lexemes. An inert character is read by itself. A quoted text is
taken up by `lexFrom_inside`; what follows it does not begin with a mark (`head?_of_follow`), so
the quotes end where they should (`lexFrom_closing`). -/
theorem lexFrom_flatMap_chars {ls : List Lexeme} : ∀ {prev b : Bool},
    ls.foldlM Lexeme.follow prev = some b →
      lexFrom .outside (ls.flatMap Lexeme.chars) = some ls := by
  induction ls with
  | nil => intro _ _ _; rfl
  | cons l ls ih =>
    intro prev b h
    obtain ⟨next, hl, hls⟩ := foldlM_follow_cons.mp h
    cases l with
    | char c =>
      rw [List.flatMap_cons, Lexeme.chars, List.singleton_append,
        lexFrom_char (begun?_of_isInert (follow_char.mp hl).1), ih hls, Option.map_some]
    | quoted q v =>
      rw [(follow_quoted.mp hl).2] at hls
      rw [List.flatMap_cons, Lexeme.chars, List.cons_append, List.cons_append, List.append_assoc,
        List.singleton_append, lexFrom_mark, lexFrom_inside, List.nil_append,
        lexFrom_closing q v (head?_of_follow q hls), ih hls, Option.map_some]

/-- The characters outside quotes are inert. -/
theorem isInert_of_follow {ls : List Lexeme} {c : Char} : ∀ {prev b : Bool},
    ls.foldlM Lexeme.follow prev = some b → .char c ∈ ls → Lexeme.isInert c = true := by
  induction ls with
  | nil => intro _ _ _ hc; cases hc
  | cons l ls ih =>
    intro prev b h hc
    obtain ⟨next, hl, hls⟩ := foldlM_follow_cons.mp h
    rcases List.mem_cons.mp hc with rfl | hc
    · exact (follow_char.mp hl).1
    · exact ih hls hc

end PgGateway.Sql

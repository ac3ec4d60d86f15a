import PgGateway.Proofs.Sql.Lexing
import PgGateway.Proofs.Sql.Name
import Mathlib.Data.List.Basic

set_option autoImplicit false

/-!
# Statements with holes

A statement that a tool writes consists of fixed text, of string literals and of quoted names. What
is left of it when the contents of the quotes are taken away is known from its outline: the fixed
text, and whether each name is qualified.

## Main definitions

* `PgGateway.Sql.Piece` — a piece of a statement; `Piece.chars` is its text.
* `PgGateway.Sql.Piece.lexemes` — the lexemes that a reader ought to find in it.
* `PgGateway.Sql.Outline` — what is known of a piece without the contents of its quotes.
* `PgGateway.Sql.Sound` — pieces with accepted names, none of them in quotes next to another.

## Main results

* `PgGateway.Sql.Sound.lex?_eq` — a reader finds the lexemes of sound pieces.
* `PgGateway.Sql.Sound.erased?_eq` — erasing sound pieces leaves the text of their outlines.
-/

namespace PgGateway.Sql

/-- A piece of a statement. -/
inductive Piece where
  /-- Text that does not depend on the caller's strings. -/
  | fixed (text : String)
  /-- A string literal with the given value. -/
  | literal (value : List Char)
  /-- A name in double quotes, part by part. -/
  | name (given : String)

/-- What is known of a piece without the contents of its quotes. -/
inductive Outline where
  /-- The text, which is outside quotes. -/
  | fixed (text : String)
  /-- It is a literal. -/
  | literal
  /-- It is a name with or without a schema. -/
  | name (qualified : Bool)
  deriving DecidableEq

namespace Piece

/-- The text of a piece. -/
def chars : Piece → List Char
  | .fixed text => text.toList
  | .literal value => literalChars value
  | .name given => quotedChars given

/-- The lexemes of a piece: the characters of fixed text, one literal with the value as its
contents, and the parts of a name with points between them. -/
def lexemes : Piece → List Lexeme
  | .fixed text => text.toList.map .char
  | .literal value => [.quoted .literal value]
  | .name given => ((nameParts given).map (.quoted .name)).intersperse (.char '.')

/-- Whether the name of a piece is accepted; a piece without one always is. -/
def isAccepted : Piece → Bool
  | .name given => isName given
  | _ => true

/-- Fixed text has no name that could be refused. -/
@[simp] lemma isAccepted_fixed (text : String) : (fixed text).isAccepted = true := rfl

/-- A literal has no name that could be refused. -/
@[simp] lemma isAccepted_literal (value : List Char) : (literal value).isAccepted = true := rfl

/-- A name is accepted if it follows the grammar. -/
@[simp] lemma isAccepted_name (given : String) : (name given).isAccepted = isName given := rfl

/-- The outline of a piece. -/
def outline : Piece → Outline
  | .fixed text => .fixed text
  | .literal _ => .literal
  | .name given => .name (isQualified given)

end Piece

namespace Outline

/-- The text of a piece without the contents of its quotes. -/
def chars : Outline → List Char
  | .fixed text => text.toList
  | .literal => ['\'', '\'']
  | .name true => ['"', '"', '.', '"', '"']
  | .name false => ['"', '"']

/-- Whether a piece may follow one that ends in quotes or not, and whether it ends so itself. -/
def follow (afterQuoted : Bool) : Outline → Option Bool
  | .fixed text =>
    if text.toList.all Lexeme.isInert then some (afterQuoted && text.toList.isEmpty) else none
  | .literal | .name _ => if afterQuoted then none else some true

end Outline

/-- Whether pieces may stand in a row, seen from their outlines. -/
def areApart (outlines : List Outline) : Bool :=
  (outlines.foldlM Outline.follow false).isSome

/-- Pieces that make a statement: their names are accepted, their fixed text is inert, and no two
quoted texts touch. -/
structure Sound (pieces : List Piece) : Prop where
  /-- Their names are accepted. -/
  accepted : ∀ p ∈ pieces, p.isAccepted = true
  /-- They may stand in a row. -/
  apart : areApart (pieces.map Piece.outline) = true

/-! ## Names -/

/-- An accepted name has one part and no point, or two parts and a point. -/
lemma nameParts_cases {given : String} (h : isName given = true) :
    (∃ p, nameParts given = [p] ∧ isNamePart p = true ∧ isQualified given = false) ∨
    ∃ p q, nameParts given = [p, q] ∧ isNamePart p = true ∧ isNamePart q = true ∧
      isQualified given = true := by
  have hlen := length_nameParts h
  have hall := (isName_iff.mp h).2
  cases hq : isQualified given with
  | false =>
    rw [hq] at hlen
    obtain ⟨p, hp⟩ := List.length_eq_one_iff.mp hlen
    exact .inl ⟨p, hp, hall p (by simp [hp]), rfl⟩
  | true =>
    rw [hq] at hlen
    obtain ⟨p, q, hpq⟩ := List.length_eq_two.mp hlen
    exact .inr ⟨p, q, hpq, hall p (by simp [hpq]), hall q (by simp [hpq]), rfl⟩

/-- The text of a part of a name is that of its lexeme, since there are no marks in it. -/
lemma chars_quoted_name {part : List Char} (h : isNamePart part = true) :
    (Lexeme.quoted .name part).chars = quotePart part := by
  have hmark := quote_not_mem_of_isNamePart h
  have hsub : Text.substitute '"' ['"', '"'] part = part := by
    rw [Text.substitute, List.flatMap_congr (g := fun x => [x]), List.flatMap_singleton']
    intro x hx
    rw [if_neg (by rintro rfl; exact hmark hx)]
  simp only [Lexeme.chars, Quote.mark, hsub, quotePart]

/-! ## One piece -/

/-- The text of a piece is that of its lexemes. -/
lemma Piece.chars_eq_flatMap {p : Piece} (h : p.isAccepted = true) :
    p.chars = p.lexemes.flatMap Lexeme.chars := by
  cases p with
  | fixed text => simp [chars, lexemes, List.flatMap_map, Lexeme.chars]
  | literal value => simp [chars, lexemes, literalChars, Lexeme.chars, Quote.mark]
  | name given =>
    rcases nameParts_cases h with ⟨p, hp, hpart, -⟩ | ⟨p, q, hpq, hp, hq, -⟩
    · simp [chars, lexemes, quotedChars, hp, Text.joined, chars_quoted_name hpart]
    · simp [chars, lexemes, quotedChars, hpq, Text.joined, chars_quoted_name hp,
        chars_quoted_name hq, Lexeme.chars.eq_1]

/-- Erasing the contents of its quotes leaves the text of its outline. -/
lemma Piece.erased_eq {p : Piece} (h : p.isAccepted = true) :
    p.lexemes.flatMap Lexeme.erased = p.outline.chars := by
  cases p with
  | fixed text => simp [outline, lexemes, List.flatMap_map, Lexeme.erased, Outline.chars]
  | literal value => rfl
  | name given =>
    rcases nameParts_cases h with ⟨p, hp, -, hqual⟩ | ⟨p, q, hpq, -, -, hqual⟩
    · rw [lexemes, outline, hp, hqual]; rfl
    · rw [lexemes, outline, hpq, hqual]; rfl

/-- Inert characters may stand after anything. -/
lemma foldlM_follow_chars {s : List Char} (h : s.all Lexeme.isInert = true) : ∀ prev : Bool,
    (s.map Lexeme.char).foldlM Lexeme.follow prev = some (prev && s.isEmpty) := by
  induction s with
  | nil => intro prev; simp
  | cons c s ih =>
    intro prev
    rw [List.all_cons, Bool.and_eq_true] at h
    rw [List.map_cons, foldlM_follow_cons]
    refine ⟨false, follow_char.mpr ⟨h.1, rfl⟩, ?_⟩
    rw [ih h.2, Bool.false_and, List.isEmpty_cons, Bool.and_false]

/-- The lexemes of a piece may stand where its outline may. -/
lemma Piece.foldlM_follow {p : Piece} (h : p.isAccepted = true) {prev b : Bool}
    (hout : p.outline.follow prev = some b) : p.lexemes.foldlM Lexeme.follow prev = some b := by
  cases p with
  | fixed text =>
    rw [outline, Outline.follow] at hout
    split at hout
    · next hall => rw [lexemes, foldlM_follow_chars hall, hout]
    · cases hout
  | literal value =>
    rw [outline, Outline.follow] at hout
    cases prev <;> simp_all [lexemes, Lexeme.follow]
  | name given =>
    rw [outline, Outline.follow] at hout
    rcases nameParts_cases h with ⟨p, hp, -, -⟩ | ⟨p, q, hpq, -, -, -⟩
    · rw [lexemes, hp]
      cases prev <;> simp_all [Lexeme.follow]
    · have hdot : Lexeme.isInert '.' = true := by decide
      rw [lexemes, hpq]
      cases prev <;> simp_all [Lexeme.follow]

/-! ## Pieces in a row -/

/-- The lexemes of pieces may stand in a row if the pieces may. -/
lemma foldlM_follow_flatMap {pieces : List Piece} : ∀ {prev b : Bool},
    (∀ p ∈ pieces, p.isAccepted = true) →
    (pieces.map Piece.outline).foldlM Outline.follow prev = some b →
      (pieces.flatMap Piece.lexemes).foldlM Lexeme.follow prev = some b := by
  induction pieces with
  | nil => intro _ _ _ h; exact h
  | cons p pieces ih =>
    intro prev b hacc h
    rw [List.map_cons, List.foldlM_cons, Option.bind_eq_bind, Option.bind_eq_some_iff] at h
    obtain ⟨next, hp, hrest⟩ := h
    rw [List.flatMap_cons, List.foldlM_append,
      Piece.foldlM_follow (hacc p (by simp)) hp, Option.bind_eq_bind, Option.bind_some]
    exact ih (fun q hq => hacc q (List.mem_cons_of_mem _ hq)) hrest

namespace Sound

variable {pieces : List Piece} {sql : String}

/-- The lexemes of sound pieces may stand in a row. -/
lemma exists_follow (h : Sound pieces) :
    ∃ b, (pieces.flatMap Piece.lexemes).foldlM Lexeme.follow false = some b := by
  obtain ⟨b, hb⟩ := Option.isSome_iff_exists.mp h.apart
  exact ⟨b, foldlM_follow_flatMap h.accepted hb⟩

/-- **The reader finds what was written**: the lexemes of a statement made of sound pieces are
those of its pieces, so every literal and every name has the contents it was given. -/
theorem lex?_eq (h : Sound pieces) (hsql : sql.toList = pieces.flatMap Piece.chars) :
    lex? sql = some (pieces.flatMap Piece.lexemes) := by
  obtain ⟨b, hb⟩ := h.exists_follow
  have hchars : pieces.flatMap Piece.chars =
      (pieces.flatMap Piece.lexemes).flatMap Lexeme.chars := by
    rw [List.flatMap_assoc]
    exact List.flatMap_congr fun p hp => Piece.chars_eq_flatMap (h.accepted p hp)
  rw [lex?, hsql, hchars, lexFrom_flatMap_chars hb]

/-- Erasing the contents of all quotes leaves the text of the outlines. -/
theorem erased?_eq (h : Sound pieces) (hsql : sql.toList = pieces.flatMap Piece.chars) :
    erased? sql = some ((pieces.map Piece.outline).flatMap Outline.chars) := by
  rw [erased?, h.lex?_eq hsql, Option.map_some, List.flatMap_assoc, List.flatMap_map]
  exact congrArg some (List.flatMap_congr fun p hp => Piece.erased_eq (h.accepted p hp))

/-- The characters of sound pieces that are outside quotes are inert. -/
theorem isInert (h : Sound pieces) {c : Char} (hc : .char c ∈ pieces.flatMap Piece.lexemes) :
    Lexeme.isInert c = true := by
  obtain ⟨b, hb⟩ := h.exists_follow
  exact isInert_of_follow hb hc

end Sound

end PgGateway.Sql

import PgGateway.Proofs.Sql.Template

set_option autoImplicit false

/-!
# Where a reader of a statement stands

PostgreSQL finds the literals, quoted names and comments of a statement in one pass over its
characters. What it has read so far matters only by the position that it has come to: outside all of
them, or inside one. Inside are line comments, block comments, which nest, quoted names, literals,
literals behind the letter `E`, in which a backslash escapes, and literals between tags such as
`$tag$`. All settings of the database are taken to be the default ones.

## Main definitions

* `PgGateway.Sql.Position` — the positions; `Position.step` reads one character, and
  `Position.isOutside` says which positions are outside.
* `PgGateway.Sql.position` — the position after a text.
* `PgGateway.Sql.IsApart` — whether a text behind another one is read as it is by itself.
* `PgGateway.Sql.IsBalanced`, `PgGateway.Sql.EndsInLine` — what is left open at the end of a text.

## Main results

* `PgGateway.Sql.isApart_iff` — what begins with a closing parenthesis is read as it is by itself
  exactly if the text before it ends outside.
* `PgGateway.Sql.foldl_step_flatMap` — the position after pieces of a statement is known from their
  outlines.
-/

namespace PgGateway.Sql

/-- What a literal behind the letter `E` leaves behind it. The next literal goes on with it if only
blanks and line comments with a line break among them stand between the two. -/
inductive Trail where
  /-- Nothing: there was no such literal, or something else stands behind it. -/
  | none
  /-- There was no line break yet. -/
  | ended
  /-- There was a line break. -/
  | broken
  deriving DecidableEq

/-- Behind a line break. -/
def Trail.breakLine : Trail → Trail
  | .none => .none
  | _ => .broken

/-- What a reader knows of the text so far. -/
inductive Position where
  /-- It is outside, and nothing that it has read can go on. -/
  | code (trail : Trail)
  /-- It is in a word without quotes. -/
  | word
  /-- It has read a word that is the letter `E`. -/
  | letterE
  /-- It has read a dash. -/
  | dash (trail : Trail)
  /-- It has read a slash. -/
  | slash
  /-- It has read a dollar sign and what may be the letters of a tag. -/
  | tag (letters : List Char)
  /-- It is in a line comment. -/
  | line (trail : Trail)
  /-- It is in a block comment that stands in as many others, and the last character may be the
  first one of the marks of a comment. -/
  | block (depth : Nat) (last : Option Char)
  /-- It is in quotes. -/
  | quoted (q : Quote)
  /-- It has read a mark in quotes. They end there unless the mark follows once more. -/
  | closing (q : Quote)
  /-- It is in a literal behind the letter `E`, perhaps behind a backslash. -/
  | escaped (afterBackslash : Bool)
  /-- It has read a mark in such a literal. -/
  | escapedClosing
  /-- It is in a literal between tags, and has read a dollar sign and the given letters if these may
  be the closing tag. -/
  | dollar (letters : List Char) (seen : Option (List Char))
  deriving DecidableEq

/-! ## Characters -/

/-- The characters that a word begins with. -/
def isWordStart (c : Char) : Bool :=
  isAsciiLetter c || c = '_' || 128 ≤ c.toNat

/-- The characters that a word goes on with. -/
def isWordPart (c : Char) : Bool :=
  isWordStart c || isAsciiDigit c || c = '$'

/-- The characters that a tag goes on with behind the given letters. -/
def isTagPart (letters : List Char) (c : Char) : Bool :=
  isWordStart c || (isAsciiDigit c && !letters.isEmpty)

/-- The letter before a literal in which a backslash escapes. -/
def isLetterE (c : Char) : Bool :=
  c = 'E' || c = 'e'

/-- The characters that end a line. -/
def isLineEnd (c : Char) : Bool :=
  c = '\n' || c = '\r'

/-- The other blanks of a statement: space, tabs and form feed. -/
def isLineBlank (c : Char) : Bool :=
  c = ' ' || c = '\t' || c = '\x0B' || c = '\x0C'

namespace Position

/-! ## Reading a character -/

/-- Reads a character outside, where nothing goes on. -/
def start (trail : Trail) (c : Char) : Position :=
  if c = '\'' then if trail = .broken then .escaped false else .quoted .literal
  else if c = '"' then .quoted .name
  else if c = '-' then .dash trail
  else if c = '/' then .slash
  else if c = '$' then .tag []
  else if isLetterE c then .letterE
  else if isWordStart c then .word
  else if isLineEnd c then .code trail.breakLine
  else if isLineBlank c then .code trail
  else .code .none

/-- Reads a character. -/
def step : Position → Char → Position
  | .code trail, c => start trail c
  | .word, c => if isWordPart c then .word else start .none c
  | .letterE, c =>
    if c = '\'' then .escaped false else if isWordPart c then .word else start .none c
  | .dash trail, c => if c = '-' then .line trail else start .none c
  | .slash, c => if c = '*' then .block 0 none else start .none c
  | .tag letters, c =>
    if c = '$' then .dollar letters none
    else if isTagPart letters c then .tag (letters ++ [c])
    -- the dollar sign stands by itself, and the letters are a word
    else if c = '\'' && (letters = ['E'] || letters = ['e']) then .escaped false
    else start .none c
  | .line trail, c => if isLineEnd c then .code trail.breakLine else .line trail
  | .block depth last, c =>
    if c = '*' && last = some '/' then .block (depth + 1) none
    else if c = '/' && last = some '*' then
      match depth with
      | 0 => .code .none
      | depth + 1 => .block depth none
    else .block depth (some c)
  | .quoted q, c => if c = q.mark then .closing q else .quoted q
  | .closing q, c => if c = q.mark then .quoted q else start .none c
  | .escaped true, _ => .escaped false
  | .escaped false, c =>
    if c = '\\' then .escaped true else if c = '\'' then .escapedClosing else .escaped false
  | .escapedClosing, c => if c = '\'' then .escaped false else start .ended c
  | .dollar letters none, c => .dollar letters (if c = '$' then some [] else none)
  | .dollar letters (some seen), c =>
    if c = '$' then if seen = letters then .code .none else .dollar letters (some [])
    else .dollar letters (if isTagPart seen c then some (seen ++ [c]) else none)

/-- Whether a position is in a line comment. -/
def isLine : Position → Bool
  | .line _ => true
  | _ => false

/-- Whether a position is outside all literals, quoted names and comments. -/
def isOutside : Position → Bool
  | .line _ | .block _ _ | .quoted _ | .escaped _ | .dollar _ _ => false
  | _ => true

end Position

/-- The position after a text. -/
def position (s : List Char) : Position :=
  s.foldl Position.step (.code .none)

/-- Whether a text behind another one is read as it is by itself: after each of its characters the
reader has come to the same position with the text before it and without. -/
def IsApart (front rest : List Char) : Prop :=
  ∀ mid, mid ≠ [] → mid <+: rest → position (front ++ mid) = position mid

/-- Whether a text leaves no literal, no quoted name and no block comment open. A line comment at
its end may be open. -/
def IsBalanced (s : List Char) : Prop :=
  (position s).isOutside = true ∨ (position s).isLine = true

instance (s : List Char) : Decidable (IsBalanced s) :=
  inferInstanceAs (Decidable (_ ∨ _))

/-- Whether a text ends in a line comment. -/
def EndsInLine (s : List Char) : Prop :=
  (position s).isLine = true

instance (s : List Char) : Decidable (EndsInLine s) :=
  inferInstanceAs (Decidable (_ = true))

/-! ## Texts in a row -/

/-- The position after two texts. -/
lemma position_append (s t : List Char) :
    position (s ++ t) = t.foldl Position.step (position s) :=
  List.foldl_append

/-- A closing parenthesis outside is read as it is by itself. -/
lemma Position.step_paren_of_isOutside {p : Position} (h : p.isOutside = true) :
    p.step ')' = .code .none := by
  cases p with
  | code | word | letterE | dash | slash | escapedClosing => rfl
  | tag letters => rfl
  | closing q => cases q <;> rfl
  | line | block | quoted | escaped | dollar => cases h

/-- A closing parenthesis inside leads to no position outside. -/
lemma Position.isOutside_step_paren {p : Position} (h : p.isOutside = false) :
    (p.step ')').isOutside = false := by
  cases p with
  | line | block => rfl
  | quoted q => cases q <;> rfl
  | escaped afterBackslash => cases afterBackslash <;> rfl
  | dollar letters seen => cases seen <;> rfl
  | code | word | letterE | dash | slash | tag | closing | escapedClosing => cases h

/-- **What is swallowed.** A text that begins with a closing parenthesis is read as it is by itself
exactly if the text before it ends outside.

**Proof sketch.** Outside, the parenthesis leads to where it leads by itself, and so does the rest
(`Position.step_paren_of_isOutside`). Inside, it does not even lead outside
(`Position.isOutside_step_paren`). -/
theorem isApart_iff {front : List Char} (rest : List Char) :
    IsApart front (')' :: rest) ↔ (position front).isOutside = true := by
  constructor
  · intro h
    by_contra hinside
    rw [Bool.not_eq_true] at hinside
    have hparen := h [')'] (List.cons_ne_nil _ _) ⟨rest, rfl⟩
    have hstill := Position.isOutside_step_paren hinside
    rw [position_append] at hparen
    change (position front).step ')' = _ at hparen
    rw [hparen] at hstill
    cases hstill
  · rintro h mid hmid ⟨back, hback⟩
    obtain ⟨c, mid, rfl⟩ := List.exists_cons_of_ne_nil hmid
    obtain rfl : c = ')' := (List.cons.inj hback).1
    rw [position_append, List.foldl_cons, Position.step_paren_of_isOutside h]
    rfl

/-- A text ends outside exactly if it leaves nothing open, not even a line comment. -/
lemma isOutside_position_iff {s : List Char} :
    (position s).isOutside = true ↔ IsBalanced s ∧ ¬ EndsInLine s := by
  rw [IsBalanced, EndsInLine]
  cases position s <;> simp [Position.isOutside, Position.isLine]

/-- A mark in a literal between tags and a comment in a comment leave nothing open. -/
example : IsBalanced "a = $q$it's$q$ /* /* */ */".toList ∧
    ¬ EndsInLine "a = $q$it's$q$ /* /* */ */".toList := by decide

/-! ## Pieces of a statement -/

/-- Inside quotes, a text whose marks are written twice leads to where it began. -/
lemma foldl_step_substitute (q : Quote) (text : List Char) :
    (Text.substitute q.mark [q.mark, q.mark] text).foldl Position.step (.quoted q) =
      .quoted q := by
  induction text with
  | nil => rfl
  | cons c text ih =>
    rw [Text.substitute, List.flatMap_cons, List.foldl_append]
    by_cases hc : c = q.mark
    · have hpair : [q.mark, q.mark].foldl Position.step (.quoted q) = .quoted q := by
        simp [Position.step]
      rw [if_pos hc, hpair]
      exact ih
    · have hother : [c].foldl Position.step (.quoted q) = .quoted q := by
        simp [Position.step, hc]
      rw [if_neg hc, hother]
      exact ih

/-- Where a mark begins quotes, a quoted text leads behind its last mark. -/
lemma Lexeme.foldl_step_quoted {p : Position} {q : Quote} (h : p.step q.mark = .quoted q)
    (contents : List Char) :
    (Lexeme.quoted q contents).chars.foldl Position.step p = .closing q := by
  rw [Lexeme.chars, List.cons_append, List.foldl_cons, List.foldl_append, h,
    foldl_step_substitute]
  exact if_pos rfl

/-- The position behind a piece, if a mark begins quotes where the piece is a literal or a name. -/
def Outline.read? (p : Position) (o : Outline) : Option Position :=
  match o with
  | .fixed text => some (text.toList.foldl Position.step p)
  | .literal =>
    if p.step Quote.literal.mark = .quoted .literal then some (.closing .literal) else none
  | .name _ => if p.step Quote.name.mark = .quoted .name then some (.closing .name) else none

/-- The position behind a piece is known from its outline. -/
lemma Piece.foldl_step {piece : Piece} (haccepted : piece.isAccepted = true) {p p' : Position}
    (h : piece.outline.read? p = some p') : piece.chars.foldl Position.step p = p' := by
  cases piece with
  | fixed text => exact Option.some.inj h
  | literal value =>
    rw [outline, Outline.read?, Option.ite_none_right_eq_some] at h
    obtain ⟨hmark, hp⟩ := h
    rw [← Option.some.inj hp]
    exact Lexeme.foldl_step_quoted hmark value
  | name given =>
    rw [outline, Outline.read?, Option.ite_none_right_eq_some] at h
    obtain ⟨hmark, hp⟩ := h
    rw [← Option.some.inj hp, chars_eq_flatMap haccepted, lexemes]
    rcases nameParts_cases haccepted with ⟨part, hpart, -⟩ | ⟨part, next, hparts, -⟩
    · rw [hpart]
      change ((Lexeme.quoted .name part).chars ++ []).foldl Position.step p = _
      rw [List.append_nil, Lexeme.foldl_step_quoted hmark]
    · rw [hparts]
      change ((Lexeme.quoted .name part).chars ++
        '.' :: ((Lexeme.quoted .name next).chars ++ [])).foldl Position.step p = _
      have hsecond : ((Position.closing .name).step '.').step Quote.name.mark = .quoted .name := rfl
      rw [List.append_nil, List.foldl_append, Lexeme.foldl_step_quoted hmark, List.foldl_cons,
        Lexeme.foldl_step_quoted hsecond]

/-- **The position behind pieces.** It is known from their outlines. -/
theorem foldl_step_flatMap {pieces : List Piece} (haccepted : ∀ p ∈ pieces, p.isAccepted = true)
    {p p' : Position} (h : (pieces.map Piece.outline).foldlM Outline.read? p = some p') :
    (pieces.flatMap Piece.chars).foldl Position.step p = p' := by
  induction pieces generalizing p with
  | nil => exact Option.some.inj h
  | cons piece pieces ih =>
    rw [List.forall_mem_cons] at haccepted
    rw [List.map_cons, List.foldlM_cons, Option.bind_eq_bind, Option.bind_eq_some_iff] at h
    obtain ⟨next, hpiece, hrest⟩ := h
    rw [List.flatMap_cons, List.foldl_append, Piece.foldl_step haccepted.1 hpiece]
    exact ih haccepted.2 hrest

end PgGateway.Sql

import PgGateway.Proofs.Sql.Leading
import PgGateway.Proofs.Sql.Lexing

set_option autoImplicit false

/-!
# What a literal holds

To the database, a word in a literal, a quoted name or a comment is no keyword. The gateway looks
for the keywords that change data in the whole text of a `WITH` statement, so it takes a statement
that reads for one that does not if a literal, a quoted name or a comment holds such a word, and
exactly then does it matter what it holds.

## Main definitions

* `PgGateway.Sql.Passage` — a literal, a quoted name or a comment; `Passage.contents` is what it
  holds, and `Passage.Fits` says that it ends where a given text begins.

## Main results

* `PgGateway.Sql.body_append_of_isAsciiLetter` — the body of a statement goes on with its text.
* `PgGateway.Sql.Passage.hasWriteWord_append` — the keywords of a text are found apart in what
  stands before a passage, in it and behind it.
* `PgGateway.Sql.Passage.isReadOnly_replace_iff` — whether a `WITH` statement reads is the same for
  two passages exactly if both or none hold a keyword, or another one stands beside them.
-/

namespace PgGateway.Sql

/-- Whether a text may stand in a literal in which a backslash escapes the character behind it: the
mark only stands escaped or twice. -/
def isEscapedText : List Char → Bool
  | [] => true
  | '\\' :: _ :: s => isEscapedText s
  | ['\\'] => false
  | '\'' :: '\'' :: s => isEscapedText s
  | '\'' :: _ => false
  | _ :: s => isEscapedText s

/-- A literal, a quoted name or a comment. The text is what stands between its marks. -/
inductive Passage where
  /-- A text in quotes. -/
  | quoted (q : Quote) (text : List Char)
  /-- A literal behind the letter `E`, without the letter. -/
  | escaped (text : List Char) (isText : isEscapedText text = true)
  /-- A line comment, without the character that ends it. -/
  | line (text : List Char) (isText : ∀ c ∈ text, c ≠ '\n' ∧ c ≠ '\r')
  /-- A block comment. -/
  | block (text : List Char) (isClosed : afterNested? 0 (text ++ ['*', '/']) = some [])

namespace Passage

/-- The text of a passage. -/
def chars : Passage → List Char
  | .quoted q text => (Lexeme.quoted q text).chars
  | .escaped text _ => '\'' :: text ++ ['\'']
  | .line text _ => '-' :: '-' :: text
  | .block text _ => '/' :: '*' :: text ++ ['*', '/']

/-- What a passage holds. -/
def contents : Passage → List Char
  | .quoted _ text => text
  | .escaped text _ => text
  | .line text _ => text
  | .block text _ => text

/-- Whether a passage ends where the given text begins. Quotes go on behind a second mark, and a
line comment goes on to the end of its line. -/
def Fits (post : List Char) : Passage → Prop
  | .quoted q _ => post.head? ≠ some q.mark
  | .escaped _ _ => post.head? ≠ some '\''
  | .line _ _ => ∀ c ∈ post.head?, c = '\n' ∨ c = '\r'
  | .block _ _ => True

end Passage

/-! ## The body of a statement -/

/-- A text without blanks and comments before it, whose body begins with a letter, begins with no
blank and no comment whatever follows it. -/
lemma afterGap?_append_of_body {r t : List Char} {c : Char}
    (hstuck : ∀ g u, Dialect.gateway.IsGap g → r ≠ g ++ u) (hbody : body r = c :: t)
    (hc : isAsciiLetter c = true) (rest : List Char) :
    afterGap? (r ++ rest) = none ∧ afterGap? r = none := by
  cases r with
  | nil => cases hbody
  | cons d r =>
    have hnone : afterGap? (d :: r) = none := by
      by_contra hsome
      obtain ⟨u, hu⟩ := Option.ne_none_iff_exists'.mp hsome
      rcases Dialect.after?_eq_some ((Dialect.gateway_after? _).trans hu) with
        ⟨g, hgap, heq⟩ | ⟨rfl, -⟩
      · exact hstuck g u hgap heq
      · rw [body_of_afterGap?_eq_some hu] at hbody
        cases hbody
    have hblank : Text.isBlank d = false :=
      Bool.eq_false_iff.mpr fun hblank => hstuck [d] r (.blank hblank) rfl
    -- the first character is a parenthesis or the letter
    have hfirst : d = '(' ∨ isAsciiLetter d = true := by
      rw [body_of_afterGap?_eq_none hnone] at hbody
      by_cases hfiller : isFiller d = true
      · rw [isFiller, hblank, Bool.or_false, decide_eq_true_eq] at hfiller
        exact .inl hfiller
      · rw [List.dropWhile_cons_of_neg hfiller] at hbody
        obtain rfl := (List.cons.inj hbody).1
        exact .inr hc
    refine ⟨?_, hnone⟩
    have hdash : d ≠ '-' := by
      rintro rfl
      exact absurd hfirst (by decide)
    have hslash : d ≠ '/' := by
      rintro rfl
      exact absurd hfirst (by decide)
    rw [List.cons_append, afterGap?_cons hdash hslash, hblank, if_neg Bool.false_ne_true]

/-- **The body goes on.** Where the body of a text begins with a letter, what follows the text
belongs to the body. -/
theorem body_append_of_isAsciiLetter {s t : List Char} {c : Char} (hbody : body s = c :: t)
    (hc : isAsciiLetter c = true) (rest : List Char) : body (s ++ rest) = body s ++ rest := by
  obtain ⟨q, r, hq, rfl, hstuck⟩ := exists_isGaps_append Dialect.gateway s
  rw [body_append_of_isGaps hq] at hbody
  rw [List.append_assoc, body_append_of_isGaps hq, body_append_of_isGaps hq]
  obtain ⟨happend, hnone⟩ := afterGap?_append_of_body hstuck hbody hc rest
  rw [body_of_afterGap?_eq_none hnone] at hbody ⊢
  rw [body_of_afterGap?_eq_none happend, List.dropWhile_append, hbody]
  rfl

/-- The body of a statement with a keyword begins with a letter. -/
lemma exists_body_eq_cons_of_firstKeyword {s : List Char}
    (h : firstKeyword (String.ofList s) = "WITH") :
    ∃ c t, body s = c :: t ∧ isAsciiLetter c = true := by
  rw [firstKeyword, String.toList_ofList] at h
  cases hbody : body s with
  | nil =>
    rw [hbody] at h
    exact absurd h (by decide)
  | cons c t =>
    refine ⟨c, t, rfl, ?_⟩
    by_contra hc
    rw [hbody, List.takeWhile_cons_of_neg hc] at h
    exact absurd h (by decide)

/-! ## The keywords that change data -/

/-- A character that is no part of a word divides the keywords of a text. -/
lemma hasWriteWord_append_cons {z : Char} (hz : Text.isWordChar z = false) (u s : List Char) :
    hasWriteWord (u ++ z :: s) = (hasWriteWord u || hasWriteWord s) := by
  rw [hasWriteWord, Text.words_append_cons hz, List.any_append]
  rfl

/-- A character that is no part of a word does not matter before a text. -/
lemma hasWriteWord_cons {z : Char} (hz : Text.isWordChar z = false) (s : List Char) :
    hasWriteWord (z :: s) = hasWriteWord s := by
  rw [hasWriteWord, Text.words_cons_of_not hz]
  rfl

/-- A mark is no part of a word. -/
lemma Quote.isWordChar_mark (q : Quote) : Text.isWordChar q.mark = false := by
  cases q <;> decide +kernel

/-- Where marks are written twice, a text has the words that it has anyway. -/
lemma words_substitute (q : Quote) (text u : List Char) :
    Text.words (u ++ Text.substitute q.mark [q.mark, q.mark] text) = Text.words (u ++ text) := by
  induction text generalizing u with
  | nil => rfl
  | cons c text ih =>
    by_cases hc : c = q.mark
    · have hmark := q.isWordChar_mark
      have hrest : Text.words (Text.substitute q.mark [q.mark, q.mark] text) = Text.words text :=
        ih []
      rw [hc, Text.substitute, List.flatMap_cons, if_pos rfl, List.cons_append,
        List.cons_append, Text.words_append_cons hmark, Text.words_cons_of_not hmark,
        Text.words_append_cons hmark, ← hrest]
      rfl
    · rw [Text.substitute, List.flatMap_cons, if_neg hc, ← List.append_assoc,
        List.append_cons u c text]
      exact ih (u ++ [c])

namespace Passage

/-- A passage is divided from what stands before it. -/
lemma exists_chars_eq_cons (p : Passage) :
    ∃ z rest, p.chars = z :: rest ∧ Text.isWordChar z = false ∧ isAsciiLetter z = false := by
  cases p with
  | quoted q text => exact ⟨q.mark, _, rfl, q.isWordChar_mark, by cases q <;> decide⟩
  | escaped text isText => exact ⟨'\'', _, rfl, by decide +kernel, by decide⟩
  | line text isText => exact ⟨'-', _, rfl, by decide +kernel, by decide⟩
  | block text isClosed => exact ⟨'/', _, rfl, by decide +kernel, by decide⟩

/-- The keywords in a passage and behind it. -/
lemma hasWriteWord_chars_append {p : Passage} {post : List Char} (hfits : p.Fits post) :
    hasWriteWord (p.chars ++ post) = (hasWriteWord p.contents || hasWriteWord post) := by
  have hmark : Text.isWordChar '\'' = false := by decide +kernel
  have hdash : Text.isWordChar '-' = false := by decide +kernel
  have hslash : Text.isWordChar '/' = false := by decide +kernel
  have hstar : Text.isWordChar '*' = false := by decide +kernel
  cases p with
  | quoted q text =>
    have hwords : hasWriteWord (Text.substitute q.mark [q.mark, q.mark] text) =
        hasWriteWord text := congrArg (·.any isWriteWord) (words_substitute q text [])
    rw [chars, Lexeme.chars, List.cons_append, List.cons_append,
      hasWriteWord_cons q.isWordChar_mark, List.append_assoc, List.singleton_append,
      hasWriteWord_append_cons q.isWordChar_mark, hwords, contents]
  | escaped text isText =>
    rw [chars, List.cons_append, List.cons_append, hasWriteWord_cons hmark, List.append_assoc,
      List.singleton_append, hasWriteWord_append_cons hmark, contents]
  | line text isText =>
    rw [chars, List.cons_append, List.cons_append, hasWriteWord_cons hdash,
      hasWriteWord_cons hdash, contents]
    cases post with
    | nil =>
      rw [List.append_nil]
      exact (Bool.or_false _).symm
    | cons c post =>
      have hc : Text.isWordChar c = false := by
        rcases hfits c rfl with rfl | rfl <;> decide +kernel
      rw [hasWriteWord_append_cons hc, hasWriteWord_cons hc]
  | block text isClosed =>
    rw [chars, List.cons_append, List.cons_append, List.cons_append, List.cons_append,
      hasWriteWord_cons hslash, hasWriteWord_cons hstar, List.append_assoc]
    change hasWriteWord (text ++ '*' :: '/' :: post) = _
    rw [hasWriteWord_append_cons hstar, hasWriteWord_cons hslash, contents]

/-- **Keywords around a passage.** The keywords of a text are found apart in what stands before a
passage, in what the passage holds and in what stands behind it. -/
theorem hasWriteWord_append (u : List Char) {p : Passage} {post : List Char}
    (hfits : p.Fits post) :
    hasWriteWord (u ++ (p.chars ++ post)) =
      (hasWriteWord u || (hasWriteWord p.contents || hasWriteWord post)) := by
  obtain ⟨z, rest, hchars, hz, -⟩ := p.exists_chars_eq_cons
  rw [← hasWriteWord_chars_append hfits, hchars, List.cons_append, hasWriteWord_append_cons hz,
    hasWriteWord_cons hz]

/-! ## Statements with a passage -/

/-- A `WITH` statement reads exactly if there is no keyword before a passage, in it or behind
it. -/
theorem isReadOnly_append {pre post : List Char}
    (hwith : firstKeyword (String.ofList pre) = "WITH") {p : Passage} (hfits : p.Fits post) :
    isReadOnly (String.ofList (pre ++ (p.chars ++ post))) =
      !(hasWriteWord (body pre) || (hasWriteWord p.contents || hasWriteWord post)) := by
  obtain ⟨c, t, hpre, hc⟩ := exists_body_eq_cons_of_firstKeyword hwith
  have hbody := body_append_of_isAsciiLetter hpre hc (p.chars ++ post)
  have hkeyword : firstKeyword (String.ofList (pre ++ (p.chars ++ post))) = "WITH" := by
    obtain ⟨z, rest, hchars, -, hz⟩ := p.exists_chars_eq_cons
    rw [← hwith, firstKeyword, firstKeyword, String.toList_ofList, String.toList_ofList, hbody,
      hchars, List.cons_append, takeWhile_append_cons hz]
  rw [isReadOnly, if_pos hkeyword, String.toList_ofList, hbody, hasWriteWord_append _ hfits]

/-- **When it matters what a passage holds.** Behind the keyword of a `WITH` statement, one passage
in the place of another leaves what the statement is taken for unchanged exactly if both hold a
keyword that changes data or none does, or if such a keyword stands beside them.

**Proof sketch.** The body of the statement begins before the passage and goes on behind it
(`body_append_of_isAsciiLetter`). The marks of the passage are no part of a word, so the keywords
are found apart on its two sides and in it (`hasWriteWord_append`). -/
theorem isReadOnly_replace_iff {pre post : List Char}
    (hwith : firstKeyword (String.ofList pre) = "WITH") {p p' : Passage} (hfits : p.Fits post)
    (hfits' : p'.Fits post) :
    isReadOnly (String.ofList (pre ++ (p.chars ++ post))) =
        isReadOnly (String.ofList (pre ++ (p'.chars ++ post))) ↔
      hasWriteWord (body pre) = true ∨ hasWriteWord post = true ∨
        hasWriteWord p.contents = hasWriteWord p'.contents := by
  rw [isReadOnly_append hwith hfits, isReadOnly_append hwith hfits']
  cases hasWriteWord (body pre) <;> cases hasWriteWord post <;>
    cases hasWriteWord p.contents <;> cases hasWriteWord p'.contents <;> decide

/-- A literal without keywords may stand for another one, be its marks written twice or not. -/
theorem isReadOnly_replace_iff_of_literal :
    let pre := "WITH t AS (SELECT ".toList
    let post := " AS a) SELECT * FROM t".toList
    let p : Passage := .quoted .literal "a".toList
    let p' : Passage := .quoted .literal "it's\nall".toList
    firstKeyword (String.ofList pre) = "WITH" ∧ p.Fits post ∧ p'.Fits post ∧
      isReadOnly (String.ofList (pre ++ (p.chars ++ post))) =
        isReadOnly (String.ofList (pre ++ (p'.chars ++ post))) := by
  intro pre post p p'
  have hwith : firstKeyword (String.ofList pre) = "WITH" := by decide
  have hmark : post.head? ≠ some '\'' := by decide
  have hfits : p.Fits post := hmark
  have hfits' : p'.Fits post := hmark
  have hwords : hasWriteWord p.contents = hasWriteWord p'.contents := by decide +kernel
  exact ⟨hwith, hfits, hfits',
    (isReadOnly_replace_iff hwith hfits hfits').mpr (.inr (.inr hwords))⟩

/-- **A statement that reads, refused for a literal.** A `WITH` statement counts as reading with one
literal and as changing data with another, because the other one is the text `delete`. -/
theorem not_isReadOnly_of_keyword_in_literal :
    let pre := "WITH t AS (SELECT ".toList
    let post := " AS a) SELECT * FROM t".toList
    let p : Passage := .quoted .literal "a".toList
    let p' : Passage := .quoted .literal "delete".toList
    firstKeyword (String.ofList pre) = "WITH" ∧ p.Fits post ∧ p'.Fits post ∧
      isReadOnly (String.ofList (pre ++ (p.chars ++ post))) = true ∧
      isReadOnly (String.ofList (pre ++ (p'.chars ++ post))) = false := by
  have hfits : " AS a) SELECT * FROM t".toList.head? ≠ some '\'' := by decide
  exact ⟨by decide, hfits, hfits, by decide +kernel, by decide +kernel⟩

end Passage

end PgGateway.Sql

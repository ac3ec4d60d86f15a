import PgGateway.Proofs.Sql.Lexing
import PgGateway.Proofs.Text.Cut

set_option autoImplicit false

/-!
# Array literals

An array literal has two layers of quotes: its elements are in double quotes inside the text of the
array, and this text is a string literal. A reader of SQL takes off the outer layer with the scan
for quotes, and a reader of arrays takes off the inner one. Between them they read back the strings
that an array literal was made from, and the scan stops where the literal does.

## Main definitions

* `PgGateway.Sql.readLiteral?` — the contents of the string literal that a text begins with, and the
  text behind it.
* `PgGateway.Sql.ArrayScan` — the state of the reader of arrays; `ArrayScan.step` reads one
  character.
* `PgGateway.Sql.readArray?` — the elements of an array.
* `PgGateway.Sql.readArrayLiteral?` — both readers, one after the other.

## Main results

* `PgGateway.Sql.literalFrom_inside` — a string literal is read to its end.
* `PgGateway.Sql.arrayFrom_inside` — an element of an array is read to its end.
* `PgGateway.Sql.arrayLiteral_reads_back` — the strings of an array literal are read back.
-/

namespace PgGateway.Sql

/-! ## The reader of string literals -/

/-- The contents of a quoted text and the text behind it, read from a given state of the scan. The
quotes end in front of the first character that completes them, or with the text. -/
def literalFrom : Scan → List Char → Option (List Char × List Char)
  | .closing _ contents, [] => some (contents, [])
  | _, [] => none
  | state, c :: s =>
    match state.step c with
    | (_, .quoted _ contents :: _) => some (contents, c :: s)
    | (next, _) => literalFrom next s

/-- The contents of the string literal that a text begins with, and the text behind it. -/
def readLiteral? : List Char → Option (List Char × List Char)
  | [] => none
  | c :: s => if c = '\'' then literalFrom (.inside .literal []) s else none

/-- Quotes end where no further mark follows. -/
lemma literalFrom_closing (q : Quote) (contents : List Char) {rest : List Char}
    (h : rest.head? ≠ some q.mark) :
    literalFrom (.closing q contents) rest = some (contents, rest) := by
  cases rest with
  | nil => rfl
  | cons c rest =>
    have hc : c ≠ q.mark := by simpa using h
    simp [literalFrom, Scan.step, hc]

/-- **The end of a literal.** Inside quotes, a text whose marks are written twice is taken up as it
is, and the quotes end behind the next mark if no further one follows.

**Proof sketch.** Induction on the text. A mark is read as two: the first leads to the closing state
and the second back into the quotes with one mark more. -/
theorem literalFrom_inside (q : Quote) (contents : List Char) {rest : List Char}
    (h : rest.head? ≠ some q.mark) : ∀ seen : List Char,
    literalFrom (.inside q seen)
        (Text.substitute q.mark [q.mark, q.mark] contents ++ q.mark :: rest) =
      some (seen ++ contents, rest) := by
  induction contents with
  | nil =>
    intro seen
    have hmark : literalFrom (.inside q seen) (q.mark :: rest) =
        literalFrom (.closing q seen) rest := by
      simp [literalFrom, Scan.step]
    rw [Text.substitute, List.flatMap_nil, List.nil_append, hmark, literalFrom_closing q seen h,
      List.append_nil]
  | cons c contents ih =>
    intro seen
    have hstep : literalFrom (.inside q seen)
        (Text.substitute q.mark [q.mark, q.mark] (c :: contents) ++ q.mark :: rest) =
        literalFrom (.inside q (seen ++ [c]))
          (Text.substitute q.mark [q.mark, q.mark] contents ++ q.mark :: rest) := by
      by_cases hc : c = q.mark
      · simp [Text.substitute, literalFrom, Scan.step, hc]
      · simp [Text.substitute, literalFrom, Scan.step, hc]
    rw [hstep, ih, List.append_assoc, List.singleton_append]

/-- The contents of a string literal are read back, whatever follows that is no quote. -/
lemma readLiteral?_literalChars (contents : List Char) {rest : List Char}
    (h : rest.head? ≠ some '\'') :
    readLiteral? (literalChars contents ++ rest) = some (contents, rest) := by
  have hread := literalFrom_inside .literal contents h []
  rw [List.nil_append] at hread
  rw [literalChars, List.cons_append, List.cons_append, readLiteral?, if_pos rfl, ← hread,
    List.append_assoc, List.singleton_append]
  rfl

/-! ## The reader of arrays -/

/-- What the reader of an array knows of the text so far. -/
inductive ArrayScan where
  /-- It has read nothing. -/
  | start
  /-- It is behind the brace that opens the array. -/
  | opened
  /-- It is inside an element, after the given contents. -/
  | inside (contents : List Char)
  /-- It is inside an element, after the given contents and a backslash. -/
  | escaped (contents : List Char)
  /-- It is behind an element. -/
  | between
  /-- It is behind a comma. -/
  | next
  /-- It is behind the brace that closes the array. -/
  | closed

namespace ArrayScan

/-- Reads a character: the next state and the element that is complete, if any. Elements are in
double quotes with commas between them, and a backslash takes the next character as it is. -/
def step : ArrayScan → Char → Option (ArrayScan × Option (List Char))
  | .start, c => if c = '{' then some (.opened, none) else none
  | .opened, c =>
    if c = '"' then some (.inside [], none)
    else if c = '}' then some (.closed, none) else none
  | .inside contents, c =>
    if c = '"' then some (.between, some contents)
    else if c = '\\' then some (.escaped contents, none)
    else some (.inside (contents ++ [c]), none)
  | .escaped contents, c => some (.inside (contents ++ [c]), none)
  | .between, c =>
    if c = ',' then some (.next, none)
    else if c = '}' then some (.closed, none) else none
  | .next, c => if c = '"' then some (.inside [], none) else none
  | .closed, _ => none

end ArrayScan

/-- The elements of an array, read from a given state to the end of the text. -/
def arrayFrom : ArrayScan → List Char → Option (List (List Char))
  | .closed, [] => some []
  | _, [] => none
  | state, c :: s =>
    match state.step c with
    | some (after, element) => (arrayFrom after s).map (element.toList ++ ·)
    | none => none

/-- The elements of the array that a text is. -/
def readArray? (text : List Char) : Option (List String) :=
  (arrayFrom .start text).map (·.map String.ofList)

/-- A character that completes no element changes the state. -/
lemma arrayFrom_of_step {state after : ArrayScan} {c : Char} (h : state.step c = some (after, none))
    (s : List Char) : arrayFrom state (c :: s) = arrayFrom after s := by
  rw [arrayFrom, h]
  show (arrayFrom after s).map ([] ++ ·) = arrayFrom after s
  simp

/-- A character that completes an element hands it out. -/
lemma arrayFrom_of_step_some {state after : ArrayScan} {c : Char} {element : List Char}
    (h : state.step c = some (after, some element)) (s : List Char) :
    arrayFrom state (c :: s) = (arrayFrom after s).map (element :: ·) := by
  rw [arrayFrom, h]
  rfl

/-- A character of an element as it stands in an array. -/
def escapedElementChar (c : Char) : List Char :=
  if c = '"' ∨ c = '\\' then ['\\', c] else [c]

/-- The two passes over an element come to one: the second leaves the backslashes of the first as
they are, since it only looks for quotes. -/
lemma elementChars_eq (s : List Char) :
    elementChars s = '"' :: s.flatMap escapedElementChar ++ ['"'] := by
  have hpasses : Text.substitute '"' ['\\', '"'] (Text.substitute '\\' ['\\', '\\'] s) =
      s.flatMap escapedElementChar := by
    unfold Text.substitute
    rw [List.flatMap_assoc]
    apply List.flatMap_congr
    intro c _
    by_cases hslash : c = '\\'
    · subst hslash
      rfl
    · by_cases hquote : c = '"'
      · subst hquote
        rfl
      · simp [escapedElementChar, hslash, hquote]
  rw [elementChars, hpasses]

/-- An escaped character is read as itself. -/
lemma arrayFrom_escapedElementChar (seen : List Char) (c : Char) (s : List Char) :
    arrayFrom (.inside seen) (escapedElementChar c ++ s) = arrayFrom (.inside (seen ++ [c])) s := by
  unfold escapedElementChar
  by_cases hc : c = '"' ∨ c = '\\'
  · rw [if_pos hc]
    -- the backslash leads to the escaped state, and from there every character back
    have hslash : (ArrayScan.inside seen).step '\\' = some (.escaped seen, none) := rfl
    have hback : (ArrayScan.escaped seen).step c = some (.inside (seen ++ [c]), none) := rfl
    rw [List.cons_append, List.singleton_append, arrayFrom_of_step hslash, arrayFrom_of_step hback]
  · rw [if_neg hc]
    rw [not_or] at hc
    have hstep : (ArrayScan.inside seen).step c = some (.inside (seen ++ [c]), none) := by
      simp [ArrayScan.step, hc.1, hc.2]
    rw [List.singleton_append, arrayFrom_of_step hstep]

/-- **The end of an element.** Inside an element, a text whose quotes and backslashes are escaped is
taken up as it is, and the element ends at the next quote. -/
theorem arrayFrom_inside (s rest : List Char) : ∀ seen : List Char,
    arrayFrom (.inside seen) (s.flatMap escapedElementChar ++ '"' :: rest) =
      (arrayFrom .between rest).map ((seen ++ s) :: ·) := by
  induction s with
  | nil =>
    intro seen
    have hquote : (ArrayScan.inside seen).step '"' = some (.between, some seen) := rfl
    rw [List.flatMap_nil, List.nil_append, arrayFrom_of_step_some hquote, List.append_nil]
  | cons c s ih =>
    intro seen
    rw [List.flatMap_cons, List.append_assoc, arrayFrom_escapedElementChar, ih, List.append_assoc,
      List.singleton_append]

/-- Where an element may begin, one is read to its end. -/
lemma arrayFrom_elementChars {state : ArrayScan} (h : state.step '"' = some (.inside [], none))
    (s rest : List Char) :
    arrayFrom state (elementChars s ++ rest) = (arrayFrom .between rest).map (s :: ·) := by
  rw [elementChars_eq, List.cons_append, List.cons_append, List.append_assoc, List.singleton_append,
    arrayFrom_of_step h, arrayFrom_inside, List.nil_append]

/-- Elements with commas between them are read up to the brace that closes the array.

**Proof sketch.** Induction on the elements, from any state in which an element may begin: behind
the opening brace for the first one, and behind a comma for the others. -/
lemma arrayFrom_joined {segments : List String} (hne : segments ≠ []) : ∀ state : ArrayScan,
    state.step '"' = some (.inside [], none) →
      arrayFrom state
          (Text.joined [','] (segments.map fun s => elementChars s.toList) ++ ['}']) =
        some (segments.map String.toList) := by
  induction segments with
  | nil => exact absurd rfl hne
  | cons s segments ih =>
    intro state hstate
    cases segments with
    | nil =>
      rw [List.map_cons, List.map_nil, Text.joined, arrayFrom_elementChars hstate]
      rfl
    | cons next rest =>
      have hcomma : ArrayScan.between.step ',' = some (.next, none) := rfl
      have hnext := ih (List.cons_ne_nil next rest) .next rfl
      rw [List.map_cons] at hnext
      rw [List.map_cons, List.map_cons, Text.joined, List.append_assoc, List.append_assoc,
        arrayFrom_elementChars hstate, List.singleton_append, arrayFrom_of_step hcomma, hnext]
      rfl

/-- The elements of an array are read back from its text. -/
lemma readArray?_arrayChars (segments : List String) :
    readArray? (arrayChars segments) = some segments := by
  have hopen : ArrayScan.start.step '{' = some (.opened, none) := rfl
  have helements : arrayFrom .start (arrayChars segments) = some (segments.map String.toList) := by
    rw [arrayChars, List.cons_append, arrayFrom_of_step hopen]
    by_cases hne : segments = []
    · subst hne
      rfl
    · exact arrayFrom_joined hne .opened rfl
  rw [readArray?, helements, Option.map_some, List.map_map]
  simp [Function.comp_def]

/-! ## Both readers -/

/-- The strings of the array literal that a text begins with, and the text behind the literal. -/
def readArrayLiteral? (sql : String) : Option (List String × String) := do
  let (text, rest) ← readLiteral? sql.toList
  let segments ← readArray? text
  return (segments, String.ofList rest)

/-- **Array literals.** The strings that an array literal is made from are read back from it, and
the literal ends where it was written to end, whatever follows that is no single quote. -/
theorem arrayLiteral_reads_back (segments : List String) {rest : String}
    (h : rest.toList.head? ≠ some '\'') :
    readArrayLiteral? (arrayLiteral segments ++ rest) = some (segments, rest) := by
  have hliteral := readLiteral?_literalChars (arrayChars segments) h
  rw [readArrayLiteral?, String.toList_append, arrayLiteral, String.toList_ofList, hliteral]
  simp [readArray?_arrayChars]

/-- Segments with both kinds of quotes, backslashes before quotes, braces and commas, and an empty
one; what follows would begin another literal a little later. -/
theorem arrayLiteral_reads_back_of_quotes :
    let segments := ["", "it's", "\\\"", "\\\\", r#"{"a",'b'}"#, "'"]
    let rest := ", 'x'::jsonb"
    arrayLiteral segments = r#"'{"","it''s","\\\"","# ++
        r#""\\\\","{\"a\",''b''}","''"}'"# ∧
      rest.toList.head? ≠ some '\'' ∧
      readArrayLiteral? (arrayLiteral segments ++ rest) = some (segments, rest) := by
  intro segments rest
  have hrest : rest.toList.head? ≠ some '\'' := by decide
  exact ⟨by decide +kernel, hrest, arrayLiteral_reads_back segments hrest⟩

end PgGateway.Sql

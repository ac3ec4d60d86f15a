import PgGateway.Proofs.Sql.Name

set_option autoImplicit false

/-!
# The grammar of identifiers

A name is accepted by one reader, which puts it in quotes part by part, and taken apart by another,
which finds its schema and its table. Both follow one grammar: a table, or a schema and a table with
a point between them, where each of the two is a word of ASCII letters, digits, underscores and
dollar signs.

## Main definitions

* `PgGateway.Sql.IsWord` — the grammar of a part.
* `PgGateway.Sql.Identifier` — a table with or without a schema; `Identifier.text` is the name, and
  `Identifier.quoted` is the name in quotes.
* `PgGateway.Sql.unquoted` — a text without its double quotes.

## Main results

* `PgGateway.Sql.quoteName_eq_ok_iff_exists` — the names that are accepted, and what they become.
* `PgGateway.Sql.Identifier.splitName_of_strip` — the schema and the table of an accepted name.
* `PgGateway.Sql.Identifier.unquoted_quoted` — the name is what is left without quotes.
* `PgGateway.Sql.quoteName_grammar` — the grammar, the quoted form and the agreement of the readers.
-/

namespace PgGateway.Sql

/-! ## Words -/

/-- Whether a text is a word: an ASCII letter or an underscore, and then ASCII letters, digits,
underscores and dollar signs. -/
def IsWord (word : String) : Prop :=
  ∃ c s, word.toList = c :: s ∧ (c.isAlpha ∨ c = '_') ∧
    ∀ d ∈ s, d.isAlphanum ∨ d = '_' ∨ d = '$'

/-- The two ranges of ASCII letters. -/
lemma isAsciiLetter_eq (c : Char) : isAsciiLetter c = c.isAlpha := by
  have hupper : c.isUpper = ('A' ≤ c && c ≤ 'Z') := Bool.decide_and _ _
  have hlower : c.isLower = ('a' ≤ c && c ≤ 'z') := rfl
  show isAsciiLetter c = (c.isUpper || c.isLower)
  rw [hupper, hlower]
  exact Bool.or_comm _ _

/-- The range of ASCII digits. -/
lemma isAsciiDigit_eq (c : Char) : isAsciiDigit c = c.isDigit := by
  rfl

/-- The parts of names are the words. -/
lemma isNamePart_iff {word : String} : isNamePart word.toList = true ↔ IsWord word := by
  unfold IsWord
  cases word.toList with
  | nil => simp [isNamePart]
  | cons c s =>
    simp [isNamePart, isNameStart, isNameChar, isAsciiLetter_eq, isAsciiDigit_eq, Char.isAlphanum,
      List.all_eq_true, or_assoc]

/-- There are no points and no double quotes in a word. -/
lemma IsWord.not_mem {word : String} (h : IsWord word) :
    '.' ∉ word.toList ∧ '"' ∉ word.toList := by
  have hchar : ∀ c, isNameChar c = false → c ∉ word.toList := by
    intro c hc hmem
    rw [isNameChar_of_mem (isNamePart_iff.mpr h) hmem] at hc
    cases hc
  exact ⟨hchar '.' (by decide), hchar '"' (by decide)⟩

/-! ## Identifiers -/

/-- A table, with or without a schema before it. -/
structure Identifier where
  /-- The schema. -/
  schema : Option String
  /-- The table. -/
  table : String
  deriving DecidableEq

/-- A text in double quotes. -/
def inQuotes (word : String) : String :=
  "\"" ++ word ++ "\""

/-- A text without its double quotes. -/
def unquoted (text : String) : String :=
  String.ofList (text.toList.filter (· ≠ '"'))

namespace Identifier

/-- The schema, if there is one, and the table. -/
def parts (i : Identifier) : List String :=
  i.schema.toList ++ [i.table]

/-- Whether the parts are words. -/
def IsValid (i : Identifier) : Prop :=
  ∀ part ∈ i.parts, IsWord part

/-- The name: the parts with a point between them. -/
def text (i : Identifier) : String :=
  Text.join "." i.parts

/-- The name in quotes: the parts, each in double quotes, with a point between them. -/
def quoted (i : Identifier) : String :=
  Text.join "." (i.parts.map inQuotes)

/-- Without a schema the name is the table. -/
@[simp] lemma text_none (table : String) : (⟨none, table⟩ : Identifier).text = table := by
  simp [text, parts, Text.join, Text.joined]

/-- With a schema there is a point between it and the table. -/
@[simp] lemma text_some (schema table : String) :
    (⟨some schema, table⟩ : Identifier).text = schema ++ "." ++ table := by
  simp [text, parts, Text.join, Text.joined, String.append_assoc]

/-- Without a schema the quoted name is the table in quotes. -/
@[simp] lemma quoted_none (table : String) :
    (⟨none, table⟩ : Identifier).quoted = inQuotes table := by
  simp [quoted, parts, Text.join, Text.joined]

/-- With a schema there is a point between the two in quotes. -/
@[simp] lemma quoted_some (schema table : String) :
    (⟨some schema, table⟩ : Identifier).quoted = inQuotes schema ++ "." ++ inQuotes table := by
  simp [quoted, parts, Text.join, Text.joined, String.append_assoc]

variable {i : Identifier} {name : String}

/-- The parts of the name are those it is written from. -/
lemma nameParts_of_strip (hvalid : i.IsValid) (h : Text.strip name = i.text) :
    nameParts name = i.parts.map String.toList := by
  have hchars : Text.trim name.toList = Text.joined ['.'] (i.parts.map String.toList) := by
    simpa [Text.strip, text, Text.join] using congrArg String.toList h
  rw [nameParts, hchars]
  apply Text.pieces_joined
  · simp [parts]
  · intro part hpart
    obtain ⟨word, hword, rfl⟩ := List.mem_map.mp hpart
    exact (hvalid word hword).not_mem.1

/-- A name is accepted exactly if, without the blanks around it, it is that of an identifier. -/
lemma isName_iff_exists : isName name = true ↔
    ∃ i : Identifier, i.IsValid ∧ Text.strip name = i.text := by
  rw [isName_iff]
  constructor
  · rintro ⟨hlength, hparts⟩
    have hstrip : Text.strip name = String.ofList (Text.joined ['.'] (nameParts name)) := by
      rw [nameParts, Text.joined_pieces, Text.strip]
    have hword : ∀ part ∈ nameParts name, IsWord (String.ofList part) := by
      intro part hpart
      rw [← isNamePart_iff, String.toList_ofList]
      exact hparts part hpart
    rcases hcases : nameParts name with _ | ⟨first, _ | ⟨second, _ | ⟨third, rest⟩⟩⟩
    · exact absurd hcases (Text.pieces_ne_nil _ _)
    · rw [hcases] at hstrip hword
      exact ⟨⟨none, String.ofList first⟩, by simpa [IsValid, parts] using hword,
        by rw [hstrip, text_none]; rfl⟩
    · rw [hcases] at hstrip hword
      exact ⟨⟨some (String.ofList first), String.ofList second⟩,
        by simpa [IsValid, parts] using hword, by rw [hstrip]; simp [text, parts, Text.join]⟩
    · rw [hcases] at hlength
      simp at hlength
  · rintro ⟨i, hvalid, hstrip⟩
    rw [nameParts_of_strip hvalid hstrip]
    refine ⟨?_, ?_⟩
    · cases hschema : i.schema with
      | none => simp [parts, hschema]
      | some schema => simp [parts, hschema]
    · intro part hpart
      obtain ⟨word, hword, rfl⟩ := List.mem_map.mp hpart
      exact isNamePart_iff.mpr (hvalid word hword)

/-- The quoted form of the name. -/
lemma quotedChars_of_strip (hvalid : i.IsValid) (h : Text.strip name = i.text) :
    quotedChars name = i.quoted.toList := by
  rw [quotedChars, nameParts_of_strip hvalid h, quoted, Text.join, String.toList_ofList,
    List.map_map, List.map_map]
  congr 1
  apply List.map_congr_left
  intro part _
  simp [quotePart, inQuotes]

/-- **The other reader.** The schema and the table of the name are those of the identifier, and the
schema is `public` if it has none. -/
theorem splitName_of_strip (hvalid : i.IsValid) (h : Text.strip name = i.text) :
    splitName name = (i.schema.getD "public", i.table) := by
  have hchars : Text.trim name.toList = i.text.toList := by
    rw [← h, Text.strip, String.toList_ofList]
  obtain ⟨schema, table⟩ := i
  rw [splitName, h]
  cases schema with
  | none =>
    have hpoint := (hvalid table (by simp [parts])).not_mem.1
    rw [hchars, text_none, Text.cutFirst_eq_none.mpr hpoint]
    rfl
  | some schema =>
    have hpoint := (hvalid schema (by simp [parts])).not_mem.1
    have hcut : Text.trim name.toList = schema.toList ++ '.' :: table.toList := by
      rw [hchars, text_some]
      simp
    rw [Text.cutFirst_eq_some.mpr ⟨hcut, hpoint⟩]
    simp

/-- There is a point in the name exactly if the identifier has a schema. -/
lemma point_mem_iff (hvalid : i.IsValid) (h : Text.strip name = i.text) :
    '.' ∈ name.toList ↔ i.schema.isSome := by
  have hname : isName name = true := isName_iff_exists.mpr ⟨i, hvalid, h⟩
  have hlength := length_nameParts hname
  rw [nameParts_of_strip hvalid h, List.length_map] at hlength
  rw [← List.contains_iff_mem, ← isQualified]
  cases hschema : i.schema with
  | none => simpa [parts, hschema] using hlength
  | some schema => simpa [parts, hschema] using hlength

/-- The name is what is left of its quoted form without quotes. -/
theorem unquoted_quoted (hvalid : i.IsValid) : unquoted i.quoted = i.text := by
  obtain ⟨schema, table⟩ := i
  have hword : ∀ {word : String}, IsWord word →
      word.toList.filter (fun c => !decide (c = '"')) = word.toList := by
    intro word h
    apply List.filter_eq_self.mpr
    intro c hc
    have hne : c ≠ '"' := by
      rintro rfl
      exact h.not_mem.2 hc
    simpa using hne
  have htable := hword (hvalid table (by simp [parts]))
  cases schema with
  | none => simp [unquoted, inQuotes, htable]
  | some schema =>
    have hschema := hword (hvalid schema (by simp [parts]))
    simp [unquoted, inQuotes, htable, hschema, String.append_assoc]

end Identifier

/-! ## Both readers -/

/-- **Accepted names.** A name is accepted exactly if, without the blanks around it, it is that of
an identifier, and it becomes the quoted form of this identifier. -/
theorem quoteName_eq_ok_iff_exists {name sql : String} :
    quoteName name = .ok sql ↔
      ∃ i : Identifier, i.IsValid ∧ Text.strip name = i.text ∧ sql = i.quoted := by
  rw [quoteName_eq_ok, Identifier.isName_iff_exists]
  constructor
  · rintro ⟨⟨i, hvalid, h⟩, hsql⟩
    rw [Identifier.quotedChars_of_strip hvalid h] at hsql
    exact ⟨i, hvalid, h, String.toList_injective hsql⟩
  · rintro ⟨i, hvalid, h, rfl⟩
    exact ⟨⟨i, hvalid, h⟩, (Identifier.quotedChars_of_strip hvalid h).symm⟩

/-- **The grammar of names.** A name is accepted exactly if, without the blanks around it, it is one
word or two words with a point between them, and it becomes these words, each in double quotes, with
a point between them. So the name is what is left without the quotes, and names that become the same
are the same but for the blanks around them. What the other reader takes for the schema and the
table of an accepted name are the parts that are quoted. -/
theorem quoteName_grammar (name : String) :
    (∀ sql, quoteName name = .ok sql ↔
      ∃ i : Identifier, i.IsValid ∧ Text.strip name = i.text ∧ sql = i.quoted) ∧
    ∀ sql, quoteName name = .ok sql →
      unquoted sql = Text.strip name ∧
      (∀ other, quoteName other = .ok sql → Text.strip other = Text.strip name) ∧
      ('.' ∈ name.toList → ∃ schema table, splitName name = (schema, table) ∧
        sql = inQuotes schema ++ "." ++ inQuotes table) ∧
      ('.' ∉ name.toList → ∃ table, splitName name = ("public", table) ∧ sql = inQuotes table) := by
  have hunquoted : ∀ {name sql : String}, quoteName name = .ok sql →
      unquoted sql = Text.strip name := by
    intro name sql hsql
    obtain ⟨i, hvalid, h, rfl⟩ := quoteName_eq_ok_iff_exists.mp hsql
    rw [h, Identifier.unquoted_quoted hvalid]
  refine ⟨fun sql => quoteName_eq_ok_iff_exists, fun sql hsql => ?_⟩
  obtain ⟨⟨schema, table⟩, hvalid, h, rfl⟩ := quoteName_eq_ok_iff_exists.mp hsql
  have hsplit := Identifier.splitName_of_strip hvalid h
  have hpoint := Identifier.point_mem_iff hvalid h
  refine ⟨hunquoted hsql, fun other hother => ?_, fun hmem => ?_, fun hmem => ?_⟩
  · rw [← hunquoted hother, hunquoted hsql]
  · obtain ⟨schema, rfl⟩ := Option.isSome_iff_exists.mp (hpoint.mp hmem)
    exact ⟨schema, table, hsplit, Identifier.quoted_some schema table⟩
  · obtain rfl : schema = none := by simpa using mt hpoint.mpr hmem
    exact ⟨table, hsplit, Identifier.quoted_none table⟩

/-- A name with a schema and blanks around it, written in another way beside it. -/
theorem quoteName_grammar_of_schema :
    let name := "\t_sales.Order$2 "
    let sql := "\"_sales\".\"Order$2\""
    quoteName name = .ok sql ∧ quoteName "_sales.Order$2" = .ok sql ∧ '.' ∈ name.toList ∧
      unquoted sql = "_sales.Order$2" ∧ Text.strip "_sales.Order$2" = Text.strip name ∧
      ∃ schema table, splitName name = (schema, table) ∧
        sql = inQuotes schema ++ "." ++ inQuotes table := by
  intro name sql
  have hsql : quoteName name = .ok sql := by decide +kernel
  have hother : quoteName "_sales.Order$2" = .ok sql := by decide +kernel
  have hpoint : '.' ∈ name.toList := by decide
  have hstrip : Text.strip name = "_sales.Order$2" := by decide +kernel
  obtain ⟨hunquoted, hsame, hsplit, -⟩ := (quoteName_grammar name).2 sql hsql
  exact ⟨hsql, hother, hpoint, hunquoted.trans hstrip, hsame _ hother, hsplit hpoint⟩

end PgGateway.Sql

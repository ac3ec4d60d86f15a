import PgGateway.Catalog.Index
import PgGateway.Proofs.Outcome
import PgGateway.Proofs.Sql.Identifier
import PgGateway.Proofs.Text.Word

set_option autoImplicit false

/-!
# The default name of an index

An index without a name of its own is called by its table and its columns, joined with underscores.
Table and columns go into the statement without the blanks around them, and a column may be
qualified. In the name, though, the columns stand as they were given, so it is one word only if no
column is qualified and all blanks around columns are behind the last one.

## Main definitions

* `PgGateway.Catalog.CreateIndex.front` — the statement up to the name of the index.
* `PgGateway.Catalog.CreateIndex.ArePlain` — whether columns make one word.

## Main results

* `PgGateway.Sql.exists_quoteName_eq_inQuotes_iff` — which names are one word in quotes.
* `PgGateway.Sql.all_isNameChar_iff` — which accepted names have characters of words only.
* `PgGateway.Catalog.CreateIndex.isWord_indexName_iff` — which columns make one word.
* `PgGateway.Catalog.CreateIndex.defaultName_iff` — when the statement names the index by one word.
-/

namespace PgGateway.Sql

open Text

variable {name : String}

/-! ## Names of one word -/

/-- A name becomes one word in quotes exactly if it is a word without the blanks around it. -/
lemma exists_quoteName_eq_inQuotes_iff :
    (∃ word, IsWord word ∧ quoteName name = .ok (inQuotes word)) ↔ IsWord (strip name) := by
  constructor
  · rintro ⟨word, hword, hquote⟩
    obtain ⟨i, hvalid, hstrip, hquoted⟩ := quoteName_eq_ok_iff_exists.mp hquote
    have hbare : (⟨none, word⟩ : Identifier).IsValid := by
      simpa [Identifier.IsValid, Identifier.parts]
    have htext : i.text = word := by
      rw [← Identifier.unquoted_quoted hvalid, ← hquoted, ← Identifier.quoted_none,
        Identifier.unquoted_quoted hbare, Identifier.text_none]
    rwa [hstrip, htext]
  · intro hword
    refine ⟨strip name, hword, quoteName_eq_ok_iff_exists.mpr ⟨⟨none, strip name⟩, ?_, ?_, ?_⟩⟩
    · simpa [Identifier.IsValid, Identifier.parts]
    · rw [Identifier.text_none]
    · rw [Identifier.quoted_none]

/-- A word in quotes at the start of a text is found again. -/
lemma inQuotes_append_inj {word word' : String} (hword : IsWord word) (hword' : IsWord word')
    {rest rest' : List Char}
    (h : (inQuotes word).toList ++ rest = (inQuotes word').toList ++ rest') :
    word = word' ∧ rest = rest' := by
  have hinner : word.toList ++ '"' :: rest = word'.toList ++ '"' :: rest' := by
    simpa [inQuotes] using h
  have hcut := cutFirst_eq_some.mpr ⟨hinner, hword'.not_mem.2⟩
  rw [cutFirst_eq_some.mpr ⟨rfl, hword.not_mem.2⟩, Option.some.injEq, Prod.mk.injEq] at hcut
  exact ⟨String.toList_injective hcut.1, hcut.2⟩

/-- An identifier in quotes at the start of a text is the word in quotes there, unless a point
follows the word. -/
lemma Identifier.quoted_eq_of_append_eq {i : Identifier} (hvalid : i.IsValid) {word : String}
    (hword : IsWord word) {c : Char} (hc : c ≠ '.') {rest rest' : List Char}
    (h : (inQuotes word).toList ++ c :: rest = i.quoted.toList ++ rest') :
    i.quoted = inQuotes word := by
  obtain ⟨schema, table⟩ := i
  cases schema with
  | none =>
    rw [quoted_none] at h ⊢
    rw [(inQuotes_append_inj hword (hvalid table (by simp [parts])) h).1]
  | some schema =>
    rw [quoted_some, String.toList_append, String.toList_append, List.append_assoc,
      List.append_assoc] at h
    have hrest := (inQuotes_append_inj hword (hvalid schema (by simp [parts])) h).2
    exact absurd (List.cons.inj hrest).1 hc

/-! ## Characters of words -/

/-- A character of a word is not blank. -/
lemma isBlank_eq_false_of_isNameChar {c : Char} (h : isNameChar c = true) : isBlank c = false := by
  rw [← Bool.not_eq_true]
  intro hblank
  have hnone : ∀ n ∈ blankNumbers, isNameChar (Char.ofNat n) = false := by decide +kernel
  rw [← Char.ofNat_toNat c, hnone _ (toNat_mem_blankNumbers hblank)] at h
  cases h

/-- A word has no blank ends. -/
lemma isTrimmed_of_isNamePart {s : List Char} (h : isNamePart s = true) : IsTrimmed s :=
  trim_eq_self_iff.mp (trim_eq_self_of_forall fun _ hc =>
    isBlank_eq_false_of_isNameChar (isNameChar_of_mem h hc))

/-- A word that goes on with characters of words is a word. -/
lemma isNamePart_append {front : List Char} (h : isNamePart front = true) (s : List Char) :
    isNamePart (front ++ s) = s.all isNameChar := by
  cases front with
  | nil => cases h
  | cons c front =>
    rw [isNamePart, Bool.and_eq_true] at h
    rw [List.cons_append, isNamePart, List.all_append, h.1, h.2, Bool.true_and, Bool.true_and]

/-- An accepted name is not blank, and without the blanks around it it has characters of words and
points only. -/
lemma of_isName (h : isName name = true) :
    trim name.toList ≠ [] ∧ ∀ c ∈ trim name.toList, isNameChar c = true ∨ c = '.' := by
  have hparts := (isName_iff.mp h).2
  constructor
  · intro hnil
    rw [nameParts, hnil] at hparts
    simp [pieces, isNamePart] at hparts
  · intro c hc
    rw [← joined_pieces '.' (trim name.toList), joined_eq_intercalate] at hc
    rcases mem_of_mem_intercalate hc with hpoint | ⟨part, hpart, hmem⟩
    · exact .inr (List.mem_singleton.mp hpoint)
    · exact .inl (isNameChar_of_mem (hparts part hpart) hmem)

/-- What is left of an accepted name has characters of words only if the name is not qualified. -/
lemma all_isNameChar_trim_iff (h : isName name = true) :
    (trim name.toList).all isNameChar = true ↔ '.' ∉ name.toList := by
  rw [List.all_eq_true, ← mem_trim (c := '.') (by decide)]
  constructor
  · intro hall hmem
    cases hall _ hmem
  · intro hpoint c hc
    rcases (of_isName h).2 c hc with hname | rfl
    · exact hname
    · exact absurd hc hpoint

/-- An accepted name has characters of words only exactly if it is not qualified and has no blanks
around it. -/
lemma all_isNameChar_iff (h : isName name = true) :
    name.toList.all isNameChar = true ↔ '.' ∉ name.toList ∧ IsTrimmed name.toList := by
  rw [← all_isNameChar_trim_iff h, ← trim_eq_self_iff]
  constructor
  · intro hall
    have htrim : trim name.toList = name.toList := trim_eq_self_of_forall fun c hc =>
      isBlank_eq_false_of_isNameChar (List.all_eq_true.mp hall c hc)
    exact ⟨by rwa [htrim], htrim⟩
  · rintro ⟨hall, htrim⟩
    rwa [htrim] at hall

/-- An accepted name without the blanks behind it has characters of words only exactly if it is not
qualified and does not begin with a blank. -/
lemma all_isNameChar_trimEnd_iff (h : isName name = true) :
    (trimEnd name.toList).all isNameChar = true ↔
      '.' ∉ name.toList ∧ name.toList.head?.any isBlank = false := by
  rw [← all_isNameChar_trim_iff h, ← dropWhile_eq_self, ← trimStart]
  constructor
  · intro hall
    have hstart : trimStart name.toList = name.toList := by
      obtain ⟨back, hback, hblank⟩ := exists_dropEndWhile_append isBlank name.toList
      rw [trimStart, dropWhile_eq_self]
      cases hrest : trimEnd name.toList with
      | nil =>
        rw [← trimEnd, hrest, List.nil_append] at hback
        exact absurd (trim_eq_nil_iff.mpr (hback ▸ hblank)) (of_isName h).1
      | cons c rest =>
        rw [hrest, List.all_cons, Bool.and_eq_true] at hall
        rw [hback, ← trimEnd, hrest, List.cons_append, List.head?_cons, Option.any_some]
        exact isBlank_eq_false_of_isNameChar hall.1
    exact ⟨by rwa [trim, hstart], hstart⟩
  · rintro ⟨hall, hstart⟩
    rwa [trim, hstart] at hall

/-- Joined texts without the blanks at the end have characters of words only exactly if all have,
the last one without the blanks at its end. -/
lemma all_isNameChar_trimEnd_joined (texts : List (List Char)) (last : List Char) :
    (trimEnd (joined ['_'] (texts ++ [last]))).all isNameChar = true ↔
      (∀ s ∈ texts, s.all isNameChar = true) ∧ (trimEnd last).all isNameChar = true := by
  induction texts with
  | nil => simp [joined]
  | cons s texts ih =>
    have hjoined : joined ['_'] (s :: texts ++ [last]) =
        (s ++ ['_']) ++ joined ['_'] (texts ++ [last]) := by
      cases texts <;> rfl
    have hunderscore : ['_'].all isNameChar = true := by decide
    rw [hjoined, trimEnd_append (by rw [List.getLast?_concat]; decide), List.all_append,
      List.all_append, hunderscore, Bool.and_true, Bool.and_eq_true, ih, List.forall_mem_cons,
      and_assoc]

end PgGateway.Sql

namespace PgGateway.Catalog.CreateIndex

open Sql Text

/-! ## The statement -/

/-- The statement up to the name of the index. -/
def front (a : CreateIndex) : String :=
  "CREATE " ++ when a.unique "UNIQUE " ++ "INDEX " ++ when a.ifNotExists "IF NOT EXISTS "

/-- Whether columns make one word when they are joined with underscores and the blanks behind the
last one are dropped. -/
structure ArePlain (columns : List String) : Prop where
  /-- No column is qualified. -/
  unqualified : ∀ c ∈ columns, '.' ∉ c.toList
  /-- There are no blanks around a column but the last one. -/
  trimmed : ∀ c ∈ columns.dropLast, IsTrimmed c.toList
  /-- There is no blank before the last one. -/
  last : ∀ c ∈ columns.getLast?, c.toList.head?.any isBlank = false

variable {a : CreateIndex} {sql : String}

/-- The statement is put together from the names in quotes, if all of them are accepted. -/
lemma sql?_eq_ok_iff : a.sql? = .ok sql ↔ ∃ usingPart index table columns,
    a.usingPart? = .ok usingPart ∧ quoteName a.indexName = .ok index ∧
      quoteName a.table = .ok table ∧ quoteNames a.columns = .ok columns ∧
      sql = a.front ++ index ++ " ON " ++ (table ++ usingPart ++ " (" ++ columns ++ ")") := by
  simp only [sql?, bind_eq_ok_iff]
  constructor
  · rintro ⟨usingPart, husing, index, hindex, table, htable, columns, hcolumns, hsql⟩
    cases hsql
    exact ⟨usingPart, index, table, columns, husing, hindex, htable, hcolumns,
      by simp only [front, String.append_assoc]⟩
  · rintro ⟨usingPart, index, table, columns, husing, hindex, htable, hcolumns, rfl⟩
    exact ⟨usingPart, husing, index, hindex, table, htable, columns, hcolumns,
      by simp only [front, String.append_assoc]; rfl⟩

/-- A known method has its part in the statement. -/
lemma exists_usingPart (h : ∀ m ∈ a.method, lowered m ∈ methods) :
    ∃ usingPart, a.usingPart? = .ok usingPart := by
  rw [usingPart?]
  cases hmethod : a.method with
  | none => exact ⟨_, rfl⟩
  | some m =>
    have hm : methods.contains (lowered m) = true :=
      List.contains_iff_mem.mpr (h m (by rw [hmethod]; exact rfl))
    exact ⟨" USING " ++ lowered m, if_pos hm⟩

/-- Columns are put in quotes if there is one and all are accepted. -/
lemma exists_quoteNames {columns : List String} (hne : columns ≠ [])
    (h : ∀ c ∈ columns, isName c = true) : ∃ text, quoteNames columns = .ok text := by
  obtain ⟨quoted, hquoted⟩ := exists_mapM_eq_ok_iff.mpr fun c hc =>
    exists_quoteName_iff.mpr (h c hc)
  exact ⟨join ", " quoted, by rw [quoteNames, hquoted]; simp [hne, Except.map]⟩

/-- The name that is made for an index is a word, which the table gives, with the columns behind it
as they are. -/
lemma exists_indexName_eq (hname : a.name = none) (htable : isName a.table = true) :
    ∃ front, isNamePart front = true ∧
      a.indexName.toList = front ++ joined ['_'] (a.columns.map String.toList) := by
  obtain ⟨i, hvalid, hstrip⟩ := Identifier.isName_iff_exists.mp htable
  have hword : isNamePart i.table.toList = true :=
    isNamePart_iff.mpr (hvalid i.table (by simp [Identifier.parts]))
  refine ⟨"idx_".toList ++ (i.table.toList ++ ['_']), ?_, ?_⟩
  · rw [isNamePart_append (by decide), List.all_append, Bool.and_eq_true, List.all_eq_true]
    exact ⟨fun c hc => isNameChar_of_mem hword hc, by decide⟩
  · rw [indexName, hname, Identifier.splitName_of_strip hvalid hstrip]
    simp [join]

/-- **One word.** The name that is made for an index is one word, blanks aside, exactly if the
columns make one. -/
theorem isWord_indexName_iff (hname : a.name = none) (htable : isName a.table = true)
    (hne : a.columns ≠ []) (hcolumns : ∀ c ∈ a.columns, isName c = true) :
    IsWord (strip a.indexName) ↔ ArePlain a.columns := by
  obtain ⟨front, hfront, hindex⟩ := exists_indexName_eq hname htable
  obtain ⟨init, last, hlast⟩ := (List.eq_nil_or_concat a.columns).resolve_left hne
  rw [List.concat_eq_append] at hlast
  rw [hlast, List.map_append, List.map_singleton] at hindex
  rw [hlast, List.forall_mem_append, List.forall_mem_singleton] at hcolumns
  have hfrontNe : front ≠ [] := by
    rintro rfl
    cases hfront
  rw [← isNamePart_iff, strip, String.toList_ofList, hindex,
    trim_append hfrontNe (isTrimmed_of_isNamePart hfront), isNamePart_append hfront,
    all_isNameChar_trimEnd_joined, all_isNameChar_trimEnd_iff hcolumns.2, List.forall_mem_map,
    forall₂_congr fun c hc => all_isNameChar_iff (hcolumns.1 c hc), forall₂_and, hlast]
  constructor
  · rintro ⟨⟨hpoints, htrims⟩, hpoint, hstart⟩
    exact
      { unqualified := List.forall_mem_append.mpr ⟨hpoints, List.forall_mem_singleton.mpr hpoint⟩
        trimmed := by rwa [List.dropLast_concat]
        last := by simpa using hstart }
  · rintro ⟨hpoints, htrims, hstart⟩
    rw [List.forall_mem_append, List.forall_mem_singleton] at hpoints
    rw [List.dropLast_concat] at htrims
    exact ⟨⟨hpoints.1, htrims⟩, hpoints.2, hstart last (by simp)⟩

/-- **The default name.** If the table and the columns are accepted and the method is known, then
an index without a name of its own is created under one word in quotes exactly if no column is
qualified, no column but the last one has blanks around it, and the last one has none before it. -/
theorem defaultName_iff (hname : a.name = none) (htable : ∃ table, quoteName a.table = .ok table)
    (hne : a.columns ≠ []) (hcolumns : ∀ c ∈ a.columns, ∃ column, quoteName c = .ok column)
    (hmethod : ∀ m ∈ a.method, lowered m ∈ methods) :
    (∃ word rest, IsWord word ∧ a.sql? = .ok (a.front ++ inQuotes word ++ " ON " ++ rest)) ↔
      ArePlain a.columns := by
  obtain ⟨table, htable⟩ := htable
  have hnames : ∀ c ∈ a.columns, isName c = true := fun c hc =>
    exists_quoteName_iff.mp (hcolumns c hc)
  rw [← isWord_indexName_iff hname (quoteName_eq_ok.mp htable).1 hne hnames,
    ← exists_quoteName_eq_inQuotes_iff]
  constructor
  · rintro ⟨word, rest, hword, hsql⟩
    obtain ⟨_, index, _, _, -, hindex, -, -, hsame⟩ := sql?_eq_ok_iff.mp hsql
    obtain ⟨i, hvalid, -, rfl⟩ := quoteName_eq_ok_iff_exists.mp hindex
    have hchars := congrArg String.toList hsame
    simp only [String.toList_append, List.append_assoc, List.append_cancel_left_eq] at hchars
    exact ⟨word, hword,
      by rw [hindex, Identifier.quoted_eq_of_append_eq hvalid hword (c := ' ') (by decide) hchars]⟩
  · rintro ⟨word, hword, hquote⟩
    obtain ⟨usingPart, husing⟩ := exists_usingPart hmethod
    obtain ⟨columns, hquoted⟩ := exists_quoteNames hne hnames
    exact ⟨word, table ++ usingPart ++ " (" ++ columns ++ ")", hword,
      sql?_eq_ok_iff.mpr ⟨usingPart, inQuotes word, table, columns, husing, hquote, htable,
        hquoted, rfl⟩⟩

/-- Blanks behind the last column do not matter, and neither does the schema of the table. -/
theorem defaultName_of_blank_at_end :
    let a : CreateIndex :=
      ⟨"sales.orders", ["customer_id", "created_at "], none, true, false, some "BTREE"⟩
    ∃ word rest, IsWord word ∧ a.sql? = .ok (a.front ++ inQuotes word ++ " ON " ++ rest) := by
  intro a
  have htable : quoteName "sales.orders" = .ok "\"sales\".\"orders\"" := by rfl
  have hnames : ∀ c ∈ a.columns, isName c = true := by decide +kernel
  have hcolumns : ∀ c ∈ a.columns, ∃ column, quoteName c = .ok column := fun c hc =>
    exists_quoteName_iff.mpr (hnames c hc)
  have hmethod : ∀ m ∈ a.method, lowered m ∈ methods := by
    rintro m ⟨rfl⟩
    decide +kernel
  have hplain : ArePlain a.columns :=
    { unqualified := by decide +kernel
      trimmed := List.forall_mem_singleton.mpr ⟨by decide, by decide⟩
      last := by
        rintro c ⟨rfl⟩
        decide }
  exact (defaultName_iff rfl ⟨_, htable⟩ (by decide) hcolumns hmethod).mpr hplain

/-- With a blank before the column there is no index, though there is such a column, and with a
qualified column the name of the index is qualified. -/
theorem sql?_of_column_not_plain :
    let ofColumn (column : String) : CreateIndex := ⟨"orders", [column], none, false, false, none⟩
    quoteName "orders" = .ok "\"orders\"" ∧
    quoteName " id" = .ok "\"id\"" ∧
    (ofColumn " id").sql? = .error (.invalidArguments "Invalid identifier: 'idx_orders_ id'") ∧
    quoteName "orders.id" = .ok "\"orders\".\"id\"" ∧
    (ofColumn "orders.id").sql? = .ok ("CREATE INDEX \"idx_orders_orders\".\"id\"" ++
      " ON \"orders\" (\"orders\".\"id\")") := by
  exact ⟨by rfl, by rfl, by rfl, by rfl, by rfl⟩

end PgGateway.Catalog.CreateIndex

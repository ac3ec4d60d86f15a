import PgGateway.Sql.Comment
import PgGateway.Sql.Name
import PgGateway.Text.Word

set_option autoImplicit false

/-!
# Kinds of statements

Whether a statement only reads data is judged by its first keyword, which stands after comments,
blanks and opening parentheses. A `WITH` statement counts as reading as long as no word in it is a
keyword that changes data.

## Main definitions

* `PgGateway.Sql.firstKeyword` — the first keyword of a statement, in capitals.
* `PgGateway.Sql.isReadOnly` — whether a statement only reads data.
-/

namespace PgGateway.Sql

/-- The statement from its first keyword on. -/
def body (sql : List Char) : List Char :=
  (skipGaps sql).dropWhile fun c => c = '(' || Text.isBlank c

/-- The first keyword of a statement, in capitals; empty if it starts with something else. -/
def firstKeyword (sql : String) : String :=
  String.ofList (((body sql.toList).takeWhile isAsciiLetter).map Char.toUpper)

/-- The first keywords of statements that read. -/
def readKeywords : List String :=
  ["SELECT", "WITH", "EXPLAIN", "SHOW", "VALUES", "TABLE"]

/-- The keywords that change data. -/
def writeKeywords : List String :=
  ["INSERT", "UPDATE", "DELETE", "MERGE", "TRUNCATE", "DROP", "ALTER", "CREATE", "GRANT", "REVOKE"]

/-- The capital of a character for the comparison of words without regard to case: the long s and
the Kelvin sign are letters S and K. -/
def foldedCapital (c : Char) : Char :=
  if c = '\u017F' then 'S' else if c = '\u212A' then 'K' else c.toUpper

/-- Whether a word is a keyword that changes data, in any case. -/
def isWriteWord (word : List Char) : Bool :=
  writeKeywords.contains (String.ofList (word.map foldedCapital))

/-- Whether a text has a word that changes data, be it in a literal or a comment. -/
def hasWriteWord (s : List Char) : Bool :=
  (Text.words s).any isWriteWord

/-- Whether a statement only reads data. -/
def isReadOnly (sql : String) : Bool :=
  if firstKeyword sql = "WITH" then !hasWriteWord (body sql.toList)
  else readKeywords.contains (firstKeyword sql)

/-- The statement without blanks at its ends and then without the semicolons it ends with. -/
def withoutTerminator (sql : String) : String :=
  String.ofList (Text.dropEndWhile (· == ';') (Text.trim sql.toList))

end PgGateway.Sql

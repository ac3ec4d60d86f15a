set_option autoImplicit false

/-!
# Blank characters

The white space of this library is the Unicode property `White_Space`. Text is handled as a list
of characters where it is taken apart, and as a `String` at the borders.

## Main definitions

* `PgGateway.Text.isBlank` — the property `White_Space`.
* `PgGateway.Text.trim` — a text without its blank ends; `strip` is the same on strings.
-/

namespace PgGateway.Text

/-- The characters with the Unicode property `White_Space`. The zero-width space, the byte order
mark and the Mongolian vowel separator do not have it. -/
def isBlank (c : Char) : Bool :=
  let n := c.toNat
  (9 ≤ n && n ≤ 13) || n == 0x20 || n == 0x85 || n == 0xA0 || n == 0x1680 ||
    (0x2000 ≤ n && n ≤ 0x200A) || n == 0x2028 || n == 0x2029 || n == 0x202F || n == 0x205F ||
    n == 0x3000

/-- The text without the blanks it starts with. -/
def trimStart (s : List Char) : List Char :=
  s.dropWhile isBlank

/-- The text without those last characters that satisfy `p`. -/
def dropEndWhile (p : Char → Bool) (s : List Char) : List Char :=
  (s.reverse.dropWhile p).reverse

/-- The text without the blanks it ends with. -/
def trimEnd (s : List Char) : List Char :=
  dropEndWhile isBlank s

/-- The text without the blanks at its two ends. -/
def trim (s : List Char) : List Char :=
  trimEnd (trimStart s)

/-- `trim` on strings. -/
def strip (s : String) : String :=
  String.ofList (trim s.toList)

end PgGateway.Text

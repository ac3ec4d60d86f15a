import PgGateway.Text.Printable

set_option autoImplicit false

/-!
# Quoted text

How a text is shown inside a message: in double quotes, with a backslash before the characters
that would end it, short names for the common controls, and the code point in braces for whatever
else is not printable.

## Main definitions

* `PgGateway.Text.quoted` — the quoted form of a string.
-/

namespace PgGateway.Text

/-- The lower-case hexadecimal digits of a number, without leading zeros. -/
def hex (n : Nat) : List Char :=
  Nat.toDigits 16 n

/-- One character inside quotes. -/
def quotedChar (c : Char) : List Char :=
  if c = '\x00' then ['\\', '0']
  else if c = '\t' then ['\\', 't']
  else if c = '\r' then ['\\', 'r']
  else if c = '\n' then ['\\', 'n']
  else if c = '"' || c = '\\' then ['\\', c]
  else if isPrintable c then [c]
  else ['\\', 'u', '{'] ++ hex c.toNat ++ ['}']

/-- The text in double quotes. -/
def quoted (s : String) : String :=
  String.ofList ('"' :: s.toList.flatMap quotedChar ++ ['"'])

end PgGateway.Text

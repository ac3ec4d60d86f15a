set_option autoImplicit false

/-!
# Cutting text at separators

Every cut returns the pieces without the separator it was made at, and `none` where the separator
does not occur.

## Main definitions

* `PgGateway.Text.after?` — the rest after a given beginning.
* `PgGateway.Text.cutFirst`, `PgGateway.Text.cutLast` — the two sides of a separator.
* `PgGateway.Text.pieces` — all pieces between the occurrences of a character.
-/

namespace PgGateway.Text

/-- The rest of `s` after the beginning `start`, if `s` begins so. -/
def after? : (start s : List Char) → Option (List Char)
  | [], s => some s
  | _ :: _, [] => none
  | a :: start, c :: s => if a = c then after? start s else none

/-- Whether `s` begins with `start`. -/
def beginsWith (start s : List Char) : Bool :=
  (after? start s).isSome

/-- The part of `s` before the ending `tail`, if `s` ends so. -/
def before? (tail s : List Char) : Option (List Char) :=
  (after? tail.reverse s.reverse).map List.reverse

/-- The text before and after the first occurrence of `sep`. -/
def cutFirst (sep : List Char) : List Char → Option (List Char × List Char)
  | [] => (after? sep []).map ([], ·)
  | c :: s =>
    match after? sep (c :: s) with
    | some rest => some ([], rest)
    | none => (cutFirst sep s).map fun (left, right) => (c :: left, right)

/-- The text before and after the last occurrence of the character `sep`. -/
def cutLast (sep : Char) : List Char → Option (List Char × List Char)
  | [] => none
  | c :: s =>
    match cutLast sep s with
    | some (left, right) => some (c :: left, right)
    | none => if c = sep then some ([], s) else none

/-- The pieces of a text between the occurrences of `sep`; a text without one is its only piece. -/
def pieces (sep : Char) : List Char → List (List Char)
  | [] => [[]]
  | c :: s =>
    if c = sep then [] :: pieces sep s
    else
      match pieces sep s with
      | [] => [[c]]
      | first :: rest => (c :: first) :: rest

/-- The pieces put together with `glue` between them. -/
def joined (glue : List Char) : List (List Char) → List Char
  | [] => []
  | [piece] => piece
  | piece :: next :: rest => piece ++ glue ++ joined glue (next :: rest)

/-- The strings put together with `glue` between them. -/
def join (glue : String) (parts : List String) : String :=
  String.ofList (joined glue.toList (parts.map String.toList))

/-- The text with every occurrence of `c` replaced by `image`. -/
def substitute (c : Char) (image : List Char) (s : List Char) : List Char :=
  s.flatMap fun x => if x = c then image else [x]

end PgGateway.Text

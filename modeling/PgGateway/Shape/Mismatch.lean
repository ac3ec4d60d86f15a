import PgGateway.Json.Written
import PgGateway.Text.Quoted

set_option autoImplicit false

/-!
# Mismatches between a value and its expected shape

Why a JSON value could not be read as the data that was expected, and how that is said.

## Main definitions

* `PgGateway.Shape.Mismatch` — the causes; `Mismatch.message` is their wording.
-/

namespace PgGateway.Shape

/-- Why a value does not have the expected shape. -/
inductive Mismatch where
  /-- A value of another kind. -/
  | kind (found : Json) (expected : String)
  /-- An integer outside the range of its type. -/
  | range (found : Json) (expected : String)
  /-- A list of the wrong length. -/
  | length (found : Nat) (expected : String)
  /-- A field that must be given and is not. -/
  | missingField (name : String)
  /-- A field given twice, be it under two names. -/
  | duplicateField (name : String)
  /-- A field that the shape does not have. -/
  | unknownField (found : String) (expected : String)
  /-- A name that is none of the alternatives. -/
  | unknownVariant (found : String) (expected : String)
  /-- A value that fits none of the alternatives of a type. -/
  | noAlternative (type : String)
  /-- A length of time beyond the largest. -/
  | spanOverflow
  deriving Inhabited

/-- What a message calls a value. -/
def nameOf : Json → String
  | .null => "null"
  | .bool true => "boolean `true`"
  | .bool false => "boolean `false`"
  | .int n => "integer `" ++ String.ofList (Json.intChars n) ++ "`"
  | .float x => "floating point `" ++ String.ofList (Json.floatChars x) ++ "`"
  | .str s => "string " ++ Text.quoted s
  | .arr _ => "sequence"
  | .obj _ => "map"

/-- The wording of a mismatch. -/
def Mismatch.message : Mismatch → String
  | .kind found expected => "invalid type: " ++ nameOf found ++ ", expected " ++ expected
  | .range found expected => "invalid value: " ++ nameOf found ++ ", expected " ++ expected
  | .length found expected => "invalid length " ++ toString found ++ ", expected " ++ expected
  | .missingField name => "missing field `" ++ name ++ "`"
  | .duplicateField name => "duplicate field `" ++ name ++ "`"
  | .unknownField found expected => "unknown field `" ++ found ++ "`, expected " ++ expected
  | .unknownVariant found expected => "unknown variant `" ++ found ++ "`, expected " ++ expected
  | .noAlternative type => "data did not match any variant of untagged enum " ++ type
  | .spanOverflow => "overflow in Duration deserialization"

end PgGateway.Shape

import PgGateway.Proofs.Json.Valued
import PgGateway.Proofs.Postgres.Numeric

set_option autoImplicit false

/-!
# Values that become NULL

A cell that is NULL need not have been NULL in the database: a value that its type's reader cannot
represent gives one too, and so does every value of a type that has no reader.

## Main definitions

* `PgGateway.Wire.Value` — the values of the database that are not NULL, with their `type` and
  `bytes`.
* `PgGateway.Wire.Value.IsLost` — whether a value cannot be represented.

## Main results

* `PgGateway.Wire.Value.exists_type_eq` — there are values of every type.
* `PgGateway.Wire.Value.decode_bytes_eq_null_iff` — which values become NULL.
-/

namespace PgGateway.Wire

/-- The types whose values are texts. -/
def textTypes : List String := ["text", "varchar", "bpchar", "name", "unknown", "citext"]

/-- The types whose values are texts behind the version of their format. -/
def versionedTypes : List String := ["ltree", "lquery", "ltxtquery"]

/-- The types whose values are read. -/
def readTypes : List String :=
  ["int2", "int4", "int8", "oid", "float4", "float8", "numeric", "bool", "json", "jsonb",
    "timestamptz", "timestamp", "date"] ++ (textTypes ++ versionedTypes)

/-- A value of the database that is not NULL. -/
inductive Value where
  /-- An integer of two bytes. -/
  | int2 (n : Int16)
  /-- An integer of four bytes. -/
  | int4 (n : Int32)
  /-- An integer of eight bytes. -/
  | int8 (n : Int64)
  /-- The number of an object. -/
  | oid (n : UInt32)
  /-- A floating-point number of single precision, also an infinity or none at all. -/
  | float4 (bits : UInt32)
  /-- A floating-point number of double precision, also an infinity or none at all. -/
  | float8 (bits : UInt64)
  /-- An exact number. -/
  | numeric (number : Numeric)
  /-- What is exact and no number. -/
  | special (kind : Special) (scale : UInt16)
  /-- A truth value. -/
  | bool (b : Bool)
  /-- A JSON text, kept as it was written. -/
  | json (s : String)
  /-- A JSON text, written from a value. -/
  | jsonb (s : String)
  /-- A point in time, in microseconds from the start of the year 2000. -/
  | timestamp (zoned : Bool) (n : Int64)
  /-- A date, in days from the start of the year 2000. -/
  | date (n : Int32)
  /-- A text. -/
  | text (name : String) (h : name ∈ textTypes) (s : String)
  /-- A text behind the version of its format. -/
  | versioned (name : String) (h : name ∈ versionedTypes) (s : String)
  /-- A value of any other type. -/
  | other (name : String) (h : name ∉ readTypes) (bytes : Bytes)

namespace Value

/-- The name of a value's type. -/
def type : Value → String
  | .int2 _ => "int2"
  | .int4 _ => "int4"
  | .int8 _ => "int8"
  | .oid _ => "oid"
  | .float4 _ => "float4"
  | .float8 _ => "float8"
  | .numeric _ | .special _ _ => "numeric"
  | .bool _ => "bool"
  | .json _ => "json"
  | .jsonb _ => "jsonb"
  | .timestamp zoned _ => if zoned then "timestamptz" else "timestamp"
  | .date _ => "date"
  | .text name _ _ | .versioned name _ _ | .other name _ _ => name

/-- The bytes by which a value is sent. -/
def bytes : Value → Bytes
  | .int2 n => signedBytes 2 n.toInt
  | .int4 n => signedBytes 4 n.toInt
  | .int8 n => signedBytes 8 n.toInt
  | .oid n => bytesOf 4 n.toNat
  | .float4 bits => bytesOf 4 bits.toNat
  | .float8 bits => bytesOf 8 bits.toNat
  | .numeric number => number.bytes
  | .special kind scale => kind.bytes scale
  | .bool b => bytesOf 1 b.toNat
  | .json s => textBytes s
  | .jsonb s => 1 :: textBytes s
  | .timestamp _ n => signedBytes 8 n.toInt
  | .date n => signedBytes 4 n.toInt
  | .text _ _ s => textBytes s
  | .versioned _ _ s => 1 :: textBytes s
  | .other _ _ bytes => bytes

/-- The first day that can be represented, in days from the start of the year 2000. -/
def firstDay : Int := (Date.ofCivil (-262143) 1 1).day - Instant.epoch.day

/-- The last day that can be represented, in days from the start of the year 2000. -/
def lastDay : Int := (Date.ofCivil 262142 12 31).day - Instant.epoch.day

/-- The microseconds of a day. -/
def dayLength : Int := 86400000000

/-- Whether a value cannot be represented. -/
def IsLost : Value → Prop
  | .numeric number => (Decimal.coefficientBound : ℚ) - 1 / 2 ≤ number.magnitude
  | .special _ _ => True
  | .json s | .jsonb s => ¬ Json.IsReadable s
  | .timestamp _ n => n.toInt < firstDay * dayLength ∨ (lastDay + 1) * dayLength ≤ n.toInt
  | .date n => n.toInt < firstDay ∨ lastDay < n.toInt
  | .other _ _ _ => True
  | _ => False

/-- There are values of every type. -/
theorem exists_type_eq (name : String) : ∃ v : Value, v.type = name := by
  by_cases hread : name ∈ readTypes
  · simp only [readTypes, List.cons_append, List.nil_append, List.mem_cons, List.mem_append]
      at hread
    rcases hread with rfl | rfl | rfl | rfl | rfl | rfl | rfl | rfl | rfl | rfl | rfl | rfl | rfl |
      htext | hversioned
    · exact ⟨.int2 0, rfl⟩
    · exact ⟨.int4 0, rfl⟩
    · exact ⟨.int8 0, rfl⟩
    · exact ⟨.oid 0, rfl⟩
    · exact ⟨.float4 0, rfl⟩
    · exact ⟨.float8 0, rfl⟩
    · exact ⟨.special .notANumber 0, rfl⟩
    · exact ⟨.bool false, rfl⟩
    · exact ⟨.json "", rfl⟩
    · exact ⟨.jsonb "", rfl⟩
    · exact ⟨.timestamp true 0, rfl⟩
    · exact ⟨.timestamp false 0, rfl⟩
    · exact ⟨.date 0, rfl⟩
    · exact ⟨.text name htext "", rfl⟩
    · exact ⟨.versioned name hversioned "", rfl⟩
  · exact ⟨.other name hread [], rfl⟩

/-- No reader gives NULL. -/
lemma value?_ne_some_null (type : String) (bytes : Bytes) : value? type bytes ≠ some .null := by
  fun_cases value? type bytes <;> simp [Option.bind_eq_some_iff]

/-- A cell is NULL exactly if its reader fails. -/
lemma decode_eq_null_iff {type : String} {bytes : Bytes} :
    decode type (some bytes) = .null ↔ value? type bytes = none := by
  have hnull := value?_ne_some_null type bytes
  rw [decode]
  cases hvalue : value? type bytes with
  | none => simp
  | some cell =>
    rw [hvalue] at hnull
    simpa using hnull

/-- A date can be represented from the first day to the last. -/
lemma inRange_iff (n : Int) :
    (⟨Instant.epoch.day + n⟩ : Date).inRange ↔ firstDay ≤ n ∧ n ≤ lastDay := by
  simp only [Date.inRange, firstDay, lastDay, Bool.and_eq_true, decide_eq_true_iff]
  omega

/-- The microseconds of the days that can be represented are read as instants. -/
lemma ofMicroseconds?_eq_none_iff (n : Int) :
    Instant.ofMicroseconds? n = none ↔
      n < firstDay * dayLength ∨ (lastDay + 1) * dayLength ≤ n := by
  have hday := inRange_iff (n / 1000000 / 86400)
  have hnone : Instant.ofMicroseconds? n = none ↔
      ¬ (⟨Instant.epoch.day + n / 1000000 / 86400⟩ : Date).inRange := by
    rw [Instant.ofMicroseconds?, Instant.after, ite_eq_right_iff]
    simp
  rw [hnone, hday, dayLength]
  omega

/-- A type that is not listed has no reader. -/
lemma value?_eq_none {name : String} (h : name ∉ readTypes) (bytes : Bytes) :
    value? name bytes = none := by
  simp only [readTypes, textTypes, versionedTypes, List.cons_append, List.nil_append, List.mem_cons,
    List.not_mem_nil, or_false, not_or] at h
  unfold value?
  split <;> simp_all

/-- The types of texts have the same reader. -/
lemma value?_eq_map_text? {name : String} (h : name ∈ textTypes) (bytes : Bytes) :
    value? name bytes = (text? bytes).map .string := by
  simp only [textTypes, List.mem_cons, List.not_mem_nil, or_false] at h
  rcases h with rfl | rfl | rfl | rfl | rfl | rfl <;> rfl

/-- The types of texts behind a version have the same reader, too. -/
lemma value?_eq_map_versionedText? {name : String} (h : name ∈ versionedTypes) (bytes : Bytes) :
    value? name bytes = (versionedText? bytes).map .string := by
  simp only [versionedTypes, List.mem_cons, List.not_mem_nil, or_false] at h
  rcases h with rfl | rfl | rfl <;> rfl

/-- A JSON text is read from its bytes if it is a document with a value. -/
lemma json?_textBytes_eq_none_iff (s : String) :
    json? (textBytes s) = none ↔ ¬ Json.IsReadable s := by
  rw [json?, text?_textBytes, Option.bind_some, ← Json.isSome_read?_iff,
    Option.not_isSome_iff_eq_none]

/-- An integer of two bytes is read back. -/
@[simp] lemma signed?_int16 (n : Int16) : signed? 2 (signedBytes 2 n.toInt) = some n.toInt :=
  signed?_signedBytes (by simpa using n.le_toInt) (by simpa using n.toInt_lt)

/-- An integer of four bytes is read back. -/
@[simp] lemma signed?_int32 (n : Int32) : signed? 4 (signedBytes 4 n.toInt) = some n.toInt :=
  signed?_signedBytes (by simpa using n.le_toInt) (by simpa using n.toInt_lt)

/-- An integer of eight bytes is read back. -/
@[simp] lemma signed?_int64 (n : Int64) : signed? 8 (signedBytes 8 n.toInt) = some n.toInt :=
  signed?_signedBytes (by simpa using n.le_toInt) (by simpa using n.toInt_lt)

/-- A word of four bytes is read back. -/
@[simp] lemma exactly?_uint32 (n : UInt32) : exactly? 4 (bytesOf 4 n.toNat) = some n.toNat :=
  exactly?_bytesOf (by simpa using n.toNat_lt)

/-- A word of eight bytes is read back. -/
@[simp] lemma exactly?_uint64 (n : UInt64) : exactly? 8 (bytesOf 8 n.toNat) = some n.toNat :=
  exactly?_bytesOf (by simpa using n.toNat_lt)

/-- A truth value is read back. -/
@[simp] lemma exactly?_bool (b : Bool) : exactly? 1 (bytesOf 1 b.toNat) = some b.toNat :=
  exactly?_bytesOf (by cases b <;> decide)

/-- **Values that become NULL.** The cell of a value that is not NULL in the database is NULL
exactly if its type has no reader, or if the value is an exact number whose nearest integer has more
than 96 bits, what is exact and no number, a JSON text that is nested too deeply or holds a number
out of range, or a date or a point in time outside the years that can be represented.

**Proof sketch.** A reader never gives NULL itself, so it has to fail. Integers, floating-point
numbers, truth values and texts, also those behind a version, are read back from their bytes. Of the
other types, the bytes give back what the value is made of — groups of digits, a document, a number
of days — and whether this fits into the cell decides. -/
theorem decode_bytes_eq_null_iff (v : Value) : decode v.type (some v.bytes) = .null ↔ v.IsLost := by
  rw [decode_eq_null_iff]
  cases v with
  | int2 n | int4 n | int8 n | oid n | float4 n | float8 n | bool n =>
    simp [type, bytes, value?, IsLost]
  | numeric number => exact Option.map_eq_none_iff.trans number.decimal?_bytes_eq_none_iff
  | special kind scale =>
    exact Option.map_eq_none_iff.trans (iff_of_true (kind.decimal?_bytes scale) trivial)
  | json s | jsonb s => exact Option.map_eq_none_iff.trans (json?_textBytes_eq_none_iff s)
  | timestamp zoned n =>
    have hvalue : value? (Value.timestamp zoned n).type (signedBytes 8 n.toInt) =
        (Instant.ofMicroseconds? n.toInt).map .instant := by
      cases zoned <;> simp [type, value?]
    rw [bytes, hvalue, Option.map_eq_none_iff]
    exact ofMicroseconds?_eq_none_iff n.toInt
  | date n =>
    have hvalue : value? "date" (signedBytes 4 n.toInt) = none ↔
        ¬ (⟨Instant.epoch.day + n.toInt⟩ : Date).inRange := by
      simp [value?]
    rw [type, bytes, hvalue, inRange_iff, IsLost]
    omega
  | text name h s =>
    rw [type, bytes, value?_eq_map_text? h, text?_textBytes]
    exact iff_of_false (Option.some_ne_none _) id
  | versioned name h s =>
    rw [type, bytes, value?_eq_map_versionedText? h, versionedText?, text?_textBytes]
    exact iff_of_false (Option.some_ne_none _) id
  | other name h bytes => exact iff_of_true (value?_eq_none h bytes) trivial

/-- **A value that becomes NULL.** An XML value is not NULL, and its cell is. -/
theorem decode_xml_eq_null : decode "xml" (some (textBytes "<a/>")) = .null :=
  decode_eq_null_iff.mpr (value?_eq_none (by decide) _)

end Value

end PgGateway.Wire

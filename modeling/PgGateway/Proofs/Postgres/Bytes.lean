import PgGateway.Postgres.Wire
import Mathlib.Data.List.Basic
import Mathlib.Tactic.Common
import Mathlib.Tactic.Ring

set_option autoImplicit false

/-!
# Bytes of numbers and texts

What is written as bytes is read from them again: numbers to the base 256, integers in two's
complement, words, and texts.

## Main results

* `PgGateway.Wire.natural_bytesOf` — the number of the last digits of a number.
* `PgGateway.Wire.signed?_signedBytes` — integers in two's complement are read back.
* `PgGateway.Wire.words?_flatMap_bytesOf` — words are read back.
* `PgGateway.Wire.text?_textBytes` — texts are read back.
-/

namespace PgGateway.Wire

/-- A number has as many bytes as it is written with. -/
@[simp] lemma length_bytesOf (width n : Nat) : (bytesOf width n).length = width := by
  rw [bytesOf, List.length_map, List.length_range]

/-- The last byte of a number is its last digit, and those before are the number without it. -/
lemma bytesOf_succ (width n : Nat) :
    bytesOf (width + 1) n = bytesOf width (n / 256) ++ [UInt8.ofNat n] := by
  rw [bytesOf, bytesOf, List.range_succ, List.map_append, List.map_singleton]
  congr 1
  · refine List.map_congr_left fun i hi => ?_
    rw [List.mem_range] at hi
    have hpower : width + 1 - 1 - i = (width - 1 - i) + 1 := by omega
    rw [hpower, Nat.pow_eq, Nat.pow_eq, Nat.pow_succ', Nat.div_div_eq_div_mul]
  · simp

/-- A byte at the end is one more digit. -/
lemma natural_append_singleton (bytes : Bytes) (b : UInt8) :
    natural (bytes ++ [b]) = natural bytes * 256 + b.toNat := by
  rw [natural, List.foldl_append, natural]
  rfl

/-- The bytes of a number denote its last digits. -/
theorem natural_bytesOf (width n : Nat) : natural (bytesOf width n) = n % 256 ^ width := by
  induction width generalizing n with
  | zero => exact (Nat.mod_one n).symm
  | succ width ih =>
    have hdigit : (UInt8.ofNat n).toNat = n % 256 := UInt8.toNat_ofNat'
    rw [bytesOf_succ, natural_append_singleton, ih, hdigit, Nat.pow_succ', Nat.mod_mul]
    ring

/-- A number is read back from as many bytes as it fits into. -/
lemma exactly?_bytesOf {width n : Nat} (hn : n < 256 ^ width) :
    exactly? width (bytesOf width n) = some n := by
  rw [exactly?, if_pos (length_bytesOf width n), natural_bytesOf, Nat.mod_eq_of_lt hn]

/-- An integer is read back from as many bytes as it fits into. -/
theorem signed?_signedBytes {width : Nat} {n : Int} (hlow : -(256 ^ width / 2 : Nat) ≤ n)
    (hhigh : n < (256 ^ width / 2 : Nat)) : signed? width (signedBytes width n) = some n := by
  rw [signed?, signedBytes, Nat.pow_eq]
  generalize hp : 256 ^ width = p at hlow hhigh ⊢
  have hpositive : 0 < p := hp ▸ Nat.pow_pos (by omega)
  -- A number below zero is written as the one that it differs from by all that the bytes can hold.
  rcases Int.lt_or_le n 0 with hneg | hpos
  · have hmod : n % (p : Int) = n + p := by
      rw [← Int.add_emod_right]
      exact Int.emod_eq_of_lt (by omega) (by omega)
    rw [hmod, exactly?_bytesOf (by omega), Option.map_some, if_neg (by omega)]
    congr 1
    omega
  · have hmod : n % (p : Int) = n := Int.emod_eq_of_lt hpos (by omega)
    rw [hmod, exactly?_bytesOf (by omega), Option.map_some, if_pos (by omega)]
    congr 1
    omega

/-- The bytes of an array from a place on are those behind what was found before. -/
lemma toList_loop (bytes : ByteArray) (i : Nat) (found : List UInt8) :
    ByteArray.toList.loop bytes i found = found.reverse ++ bytes.data.toList.drop i := by
  rw [ByteArray.toList.loop]
  split
  · next hi =>
    have hlength : i < bytes.data.toList.length := hi
    have hbyte : bytes.get! i = bytes.data.toList[i] := by
      rw [ByteArray.get!, getElem!_pos bytes.data i hi, Array.getElem_toList]
    rw [toList_loop, List.reverse_cons, List.append_assoc, List.singleton_append, hbyte,
      List.getElem_cons_drop]
  · next hi =>
    have hlength : bytes.data.toList.length ≤ i := Nat.not_lt.mp hi
    rw [List.drop_eq_nil_of_le hlength, List.append_nil]
termination_by bytes.size - i

/-- A text is read back from its bytes. -/
theorem text?_textBytes (s : String) : text? (textBytes s) = some s := by
  have hbytes : (⟨(textBytes s).toArray⟩ : ByteArray) = s.toByteArray := by
    rw [textBytes, ByteArray.toList, toList_loop]
    rfl
  rw [text?, hbytes, String.fromUTF8?, dif_pos s.isValidUTF8]
  rfl

/-- The words at the beginning of bytes are those that the bytes are made of. -/
theorem words?_flatMap_bytesOf {words : List Nat} (hwords : ∀ w ∈ words, w < 2 ^ 16)
    (rest : Bytes) :
    words? words.length (words.flatMap (bytesOf 2) ++ rest) = some words := by
  induction words with
  | nil => rfl
  | cons w words ih =>
    obtain ⟨hw, hrest⟩ := List.forall_mem_cons.mp hwords
    obtain ⟨a, b, hab⟩ : ∃ a b, bytesOf 2 w = [a, b] := List.length_eq_two.mp (length_bytesOf 2 w)
    have hword : natural [a, b] = w := by
      rw [← hab, natural_bytesOf]
      exact Nat.mod_eq_of_lt hw
    rw [List.flatMap_cons, hab, List.length_cons]
    change (words? words.length (words.flatMap (bytesOf 2) ++ rest)).map (natural [a, b] :: ·) = _
    rw [ih hrest, hword]
    rfl

end PgGateway.Wire

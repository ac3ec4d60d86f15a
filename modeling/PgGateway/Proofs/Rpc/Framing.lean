import PgGateway.Rpc.Line
import Mathlib.Tactic.Common

set_option autoImplicit false

/-!
# Lines in bytes

Texts that are sent one after the other, each with a line feed behind it, are taken apart into just
these texts, as long as none of them has a line feed itself. In the bytes of a text only a line feed
has the byte of one.

## Main definitions

* `PgGateway.Rpc.framed` — the bytes of a line that is sent.

## Main results

* `PgGateway.Rpc.linesOf_flatMap_framed` — the lines of lines that are sent are these.
-/

namespace PgGateway.Rpc

/-- The bytes of a text. -/
def bytesOf (s : String) : List UInt8 :=
  s.toUTF8.data.toList

/-- The bytes of a line that is sent: those of its text, and a line feed. -/
def framed (s : String) : List UInt8 :=
  bytesOf s ++ [10]

/-- Only a line feed has the byte of one.

**Proof sketch.** Any other character of one byte is this byte, and the bytes of all longer
characters have their highest bit set. -/
lemma eq_newline_of_mem_utf8EncodeChar {c : Char} (h : 10 ∈ String.utf8EncodeChar c) :
    c = '\n' := by
  have hbyte : ∀ n : Nat, (10 : UInt8) = UInt8.ofNat n → n % 256 = 10 := by
    intro n hn
    have hnat := congrArg UInt8.toNat hn
    simpa using hnat.symm
  unfold String.utf8EncodeChar at h
  dsimp only at h
  split at h
  · have hc := hbyte _ (List.mem_singleton.mp h)
    have hten : c.toNat = 10 := by
      show c.val.toNat = 10
      omega
    exact Char.toNat_inj.mp hten
  · exfalso
    split at h
    · simp only [List.mem_cons, List.not_mem_nil, or_false] at h
      rcases h with h | h
      all_goals
        have hn := hbyte _ h
        omega
    · split at h
      · simp only [List.mem_cons, List.not_mem_nil, or_false] at h
        rcases h with h | h | h
        all_goals
          have hn := hbyte _ h
          omega
      · simp only [List.mem_cons, List.not_mem_nil, or_false] at h
        rcases h with h | h | h | h
        all_goals
          have hn := hbyte _ h
          omega

/-- The bytes of a text without line feeds do not have the byte of one. -/
lemma not_mem_bytesOf {s : String} (hs : '\n' ∉ s.toList) : 10 ∉ bytesOf s := by
  intro h
  have hbytes : bytesOf s = s.toList.flatMap String.utf8EncodeChar := by
    have hencoded : s.toUTF8 = s.toList.utf8Encode := by
      rw [← String.toByteArray_ofList, String.ofList_toList]
      rfl
    rw [bytesOf, hencoded, List.utf8Encode, List.data_toByteArray]
  rw [hbytes, List.mem_flatMap] at h
  obtain ⟨c, hc, hbyte⟩ := h
  exact hs (eq_newline_of_mem_utf8EncodeChar hbyte ▸ hc)

/-- Bytes without that of a line feed are split off before one. -/
lemma splitLines_append {bytes : List UInt8} (h : 10 ∉ bytes) (rest : List UInt8) :
    splitLines (bytes ++ 10 :: rest) = bytes :: splitLines rest := by
  induction bytes with
  | nil => rw [List.nil_append, splitLines, if_pos rfl]
  | cons b bytes ih =>
    rw [List.mem_cons, not_or] at h
    rw [List.cons_append, splitLines, if_neg (Ne.symm h.1), ih h.2]

/-- The bytes of a text are decoded as the text. -/
lemma decodeLines_bytesOf (s : String) (rest : List (List UInt8)) :
    decodeLines (bytesOf s :: rest) = s :: decodeLines rest := by
  have hdecode : String.fromUTF8? ⟨(bytesOf s).toArray⟩ = some s :=
    dif_pos s.isValidUTF8
  rw [decodeLines, hdecode]

/-- **Lines that are sent.** Texts without line feeds that are sent as lines are the lines of the
bytes. -/
theorem linesOf_flatMap_framed {lines : List String} (h : ∀ s ∈ lines, '\n' ∉ s.toList) :
    linesOf (lines.flatMap framed) = lines := by
  induction lines with
  | nil => rfl
  | cons s lines ih =>
    obtain ⟨hs, hlines⟩ := List.forall_mem_cons.mp h
    have hsplit : splitLines ((s :: lines).flatMap framed) =
        bytesOf s :: splitLines (lines.flatMap framed) := by
      rw [List.flatMap_cons, framed, List.append_assoc]
      exact splitLines_append (not_mem_bytesOf hs) _
    rw [linesOf, hsplit, decodeLines_bytesOf]
    exact congrArg (s :: ·) (ih hlines)

end PgGateway.Rpc

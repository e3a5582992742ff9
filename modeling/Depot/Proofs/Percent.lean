import Depot.Codec.Percent
import Depot.Proofs.Cutting

/-!
# Percent encoding and separators

A byte that is neither the percent sign nor a digit is no part of a triple, so
decoding a text that such a byte separates decodes its pieces.  A text without
escaped separators can therefore be cut before or after it is decoded.  Encoded
text is ASCII and has its own bytes, and decoding undoes encoding.
-/

namespace Depot

set_option autoImplicit false

namespace Percent

open Depot.Text

/-! ## Decoding around separators -/

theorem decode_sign_triple {high low h l : UInt8} (more : List UInt8) (first : digit? high = some h)
    (second : digit? low = some l) :
    decode (sign :: high :: low :: more) = (h * 16 + l) :: decode more := by
  rw [decode, if_pos rfl]
  simp only [first, second]

/-- A percent sign without two digits after it stands for itself. -/
theorem decode_sign_alone {rest : List UInt8}
    (alone : ∀ high low more h l, rest = high :: low :: more → digit? high = some h →
      digit? low = some l → False) : decode (sign :: rest) = sign :: decode rest := by
  rw [decode.eq_def]
  simp only [if_pos]
  split
  · next high low more =>
      split
      · next h l first second => exact (alone high low more h l rfl first second).elim
      · rfl
  · rfl

/-- A byte that is part of no triple separates what is decoded before it and after it. -/
theorem decode_append_mark {b : UInt8} (plain : digit? b = none) (differs : b ≠ sign)
    (xs ys : List UInt8) : decode (xs ++ b :: ys) = decode xs ++ b :: decode ys := by
  fun_induction decode xs with
  | case1 => exact decode_cons_of_ne ys differs
  | case2 high low more h l second first ih =>
      rw [List.cons_append, List.cons_append, List.cons_append,
        decode_sign_triple _ first second, ih, List.cons_append]
  | case3 high low more broken ih =>
      rw [List.cons_append, decode_sign_alone, ih, List.cons_append]
      intro high' low' more' h l same first second
      cases same
      exact broken h l first second
  | case4 short few ih =>
      rw [List.cons_append, decode_sign_alone, ih, List.cons_append]
      intro high low more h l same first second
      match short, few with
      | [], _ =>
          cases same
          cases plain.symm.trans first
      | [only], _ =>
          cases same
          cases plain.symm.trans second
      | high' :: low' :: more', few => exact few high' low' more' rfl
  | case5 a rest other ih =>
      rw [List.cons_append, decode_cons_of_ne _ other, ih, List.cons_append]

theorem decode_eq_nil_iff {list : List UInt8} : decode list = [] ↔ list = [] := by
  fun_induction decode list <;> simp

/-! ## Encoded text -/

theorem isUnreserved_ascii {b : UInt8} (kept : isUnreserved b) : b < 128 := by
  have every : ∀ n : Fin 256, isUnreserved (UInt8.ofFin n) → UInt8.ofFin n < 128 := by
    decide +kernel
  exact every b.toFin kept

theorem isPathByte_ascii {b : UInt8} (kept : isPathByte b) : b < 128 := by
  have every : ∀ n : Fin 256, isPathByte (UInt8.ofFin n) → UInt8.ofFin n < 128 := by
    decide +kernel
  exact every b.toFin kept

theorem triple_ascii (b : UInt8) : ∀ b', b' ∈ triple b → b' < 128 := by
  have every : ∀ n : Fin 256, (triple (UInt8.ofFin n)).all (· < 128) := by decide +kernel
  simpa using every b.toFin

/-- Encoded bytes are ASCII when only such bytes are kept. -/
theorem encode_ascii {keep : UInt8 → Bool} (ascii : ∀ b, keep b → b < 128) (list : List UInt8) :
    ∀ b, b ∈ encode keep list → b < 128 := by
  intro b member
  obtain ⟨b', _, part⟩ := List.mem_flatMap.mp member
  split at part
  · next kept =>
      rw [List.mem_singleton.mp part]
      exact ascii b' kept
  · exact triple_ascii b' b part

/-- **Encoded text decodes to the bytes that were encoded.** -/
theorem decodedBytes_encodedText {keep : UInt8 → Bool} (ascii : ∀ b, keep b → b < 128)
    (escapes : keep sign = false) (list : List UInt8) :
    decodedBytes (encodedText keep list) = list := by
  rw [decodedBytes, encodedText, bytes_ascii (encode_ascii ascii list), decode_encode escapes]

end Percent

end Depot

import Depot.Codec.Hex
import Depot.Text.Utf8

/-!
# Percent encoding

A byte outside a set of kept bytes is written as a percent sign and two capital
hexadecimal digits.  Decoding reads such triples and takes every other byte as
it is, a percent sign without two digits after it included.
`decode_encode` says that decoding undoes encoding whenever the percent sign is
not among the kept bytes.
-/

namespace Depot.Percent

set_option autoImplicit false

open Depot.Text

def sign : UInt8 := 37

def digit? (b : UInt8) : Option UInt8 := Hex.value? (Char.ofUInt8 b)

/-- The three bytes that stand for one. -/
def triple (b : UInt8) : List UInt8 :=
  [sign, (Hex.capital (b >>> 4)).toUInt8, (Hex.capital (b &&& 15)).toUInt8]

/-- The bytes with all triples read. -/
def decode : List UInt8 → List UInt8
  | [] => []
  | b :: rest =>
      if b = sign then
        match rest with
        | high :: low :: more =>
            match digit? high, digit? low with
            | some h, some l => (h * 16 + l) :: decode more
            | _, _ => b :: decode (high :: low :: more)
        | short => b :: decode short
      else b :: decode rest
termination_by structural bytes => bytes

/-- The bytes with every one that is not kept written as a triple. -/
def encode (keep : UInt8 → Bool) (list : List UInt8) : List UInt8 :=
  list.flatMap fun b => if keep b then [b] else triple b

theorem decode_cons_of_ne {b : UInt8} (rest : List UInt8) (h : b ≠ sign) :
    decode (b :: rest) = b :: decode rest := by
  rw [decode.eq_def]
  simp [h]

/-- The digits of a triple give back its byte. -/
theorem digit_triple (b : UInt8) :
    digit? (Hex.capital (b >>> 4)).toUInt8 = some (b >>> 4) ∧
      digit? (Hex.capital (b &&& 15)).toUInt8 = some (b &&& 15) ∧
      (b >>> 4) * 16 + (b &&& 15) = b := by
  have every : ∀ n : Fin 256,
      digit? (Hex.capital (UInt8.ofFin n >>> 4)).toUInt8 = some (UInt8.ofFin n >>> 4) ∧
        digit? (Hex.capital (UInt8.ofFin n &&& 15)).toUInt8 = some (UInt8.ofFin n &&& 15) ∧
        (UInt8.ofFin n >>> 4) * 16 + (UInt8.ofFin n &&& 15) = UInt8.ofFin n := by
    decide +kernel
  exact every b.toFin

theorem decode_triple (b : UInt8) (rest : List UInt8) :
    decode (triple b ++ rest) = b :: decode rest := by
  obtain ⟨high, low, whole⟩ := digit_triple b
  simp only [triple, List.cons_append, List.nil_append]
  rw [decode, if_pos rfl]
  simp only [high, low, whole]

/-- Decoding undoes encoding when the percent sign is not kept. -/
theorem decode_encode {keep : UInt8 → Bool} (h : keep sign = false) (list : List UInt8) :
    decode (encode keep list) = list := by
  induction list with
  | nil => simp [encode, decode]
  | cons b rest ih =>
      have step : encode keep (b :: rest) =
          (if keep b then [b] else triple b) ++ encode keep rest := rfl
      rw [step]
      by_cases k : keep b = true
      · have hb : b ≠ sign := by
          intro e
          rw [e, h] at k
          exact absurd k (by decide)
        rw [if_pos k, List.singleton_append, decode_cons_of_ne _ hb, ih]
      · rw [if_neg k, decode_triple, ih]

/-- The letters, digits and four marks that are never written as triples. -/
def isUnreserved (b : UInt8) : Bool :=
  let c := Char.ofUInt8 b
  c.isAlphanum || c == '-' || c == '_' || c == '.' || c == '~'

/-- What stands unencoded in a path: the unreserved bytes and the slash. -/
def isPathByte (b : UInt8) : Bool := isUnreserved b || b == 47

def decodedBytes (text : String) : List UInt8 := decode (bytes text)

/-- A text with all triples read, when that is text. -/
def decodedText? (text : String) : Option String := ofBytes? (decodedBytes text)

/-- Bytes as encoded text.  The result is ASCII when only ASCII bytes are kept. -/
def encodedText (keep : UInt8 → Bool) (list : List UInt8) : String :=
  String.ofList ((encode keep list).map Char.ofUInt8)

end Depot.Percent

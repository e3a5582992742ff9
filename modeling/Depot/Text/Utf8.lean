/-!
# Text and its bytes

The bytes of a text, the text of bytes that are well-formed UTF-8, and a
reading that takes any bytes: every longest run that begins a character but
does not finish it, and every byte that begins none, becomes U+FFFD.
-/

namespace Depot.Text

set_option autoImplicit false

def bytes (text : String) : List UInt8 := text.toUTF8.data.toList

def byteString (list : List UInt8) : ByteArray := ⟨list.toArray⟩

def ofBytes? (list : List UInt8) : Option String := String.fromUTF8? (byteString list)

/-- Reading the bytes of a string gives the string. -/
theorem ofBytes?_bytes (text : String) : ofBytes? (bytes text) = some text := by
  have whole : byteString (bytes text) = text.toUTF8 := by
    simp [byteString, bytes]
  have valid : text.toUTF8.IsValidUTF8 := text.isValidUTF8
  rw [ofBytes?, whole, String.fromUTF8?, dif_pos valid]
  rfl

/-- What stands for bytes that are no character. -/
def replacement : Char := '\uFFFD'

/-- The length of a longer character by its first byte, and the range of its second byte. -/
def leadShape? (b : UInt8) : Option (Nat × UInt8 × UInt8) :=
  if 0xC2 ≤ b ∧ b ≤ 0xDF then some (2, 0x80, 0xBF)
  else if b = 0xE0 then some (3, 0xA0, 0xBF)
  else if b = 0xED then some (3, 0x80, 0x9F)
  else if 0xE1 ≤ b ∧ b ≤ 0xEF then some (3, 0x80, 0xBF)
  else if b = 0xF0 then some (4, 0x90, 0xBF)
  else if 0xF1 ≤ b ∧ b ≤ 0xF3 then some (4, 0x80, 0xBF)
  else if b = 0xF4 then some (4, 0x80, 0x8F)
  else none

def isContinuation (b : UInt8) : Bool := 0x80 ≤ b && b ≤ 0xBF

/-- The six bits that a continuation adds. -/
def tailBits (b : UInt8) : Nat := (b &&& 0x3F).toNat

/-- Any bytes as characters. -/
def lossyChars : List UInt8 → List Char
  | [] => []
  | b :: rest =>
      if b < 0x80 then Char.ofNat b.toNat :: lossyChars rest
      else
        match leadShape? b, rest with
        | none, rest => replacement :: lossyChars rest
        | some _, [] => [replacement]
        | some (length, low, high), b1 :: rest1 =>
            if low ≤ b1 ∧ b1 ≤ high then
              if length = 2 then
                Char.ofNat ((b &&& 0x1F).toNat * 64 + tailBits b1) :: lossyChars rest1
              else
                match rest1 with
                | [] => [replacement]
                | b2 :: rest2 =>
                    if isContinuation b2 then
                      if length = 3 then
                        Char.ofNat (((b &&& 0x0F).toNat * 64 + tailBits b1) * 64 + tailBits b2) ::
                          lossyChars rest2
                      else
                        match rest2 with
                        | [] => [replacement]
                        | b3 :: rest3 =>
                            if isContinuation b3 then
                              Char.ofNat
                                  ((((b &&& 0x07).toNat * 64 + tailBits b1) * 64 +
                                    tailBits b2) * 64 + tailBits b3) ::
                                lossyChars rest3
                            else replacement :: lossyChars (b3 :: rest3)
                    else replacement :: lossyChars (b2 :: rest2)
            else replacement :: lossyChars (b1 :: rest1)
termination_by structural bytes => bytes

/-- Any bytes as text. -/
def lossy (list : List UInt8) : String := String.ofList (lossyChars list)

end Depot.Text

/-!
# Hexadecimal text

Bytes written as pairs of lower-case hexadecimal digits, and read back with the
digits in either case.  `decode_encode` says that reading undoes writing.
-/

namespace Depot.Hex

set_option autoImplicit false

/-- The lower-case hexadecimal digit of a value below sixteen. -/
def digit (n : UInt8) : Char :=
  if n < 10 then Char.ofUInt8 (48 + n) else Char.ofUInt8 (87 + n)

/-- The upper-case hexadecimal digit of a value below sixteen. -/
def capital (n : UInt8) : Char :=
  if n < 10 then Char.ofUInt8 (48 + n) else Char.ofUInt8 (55 + n)

/-- The value of a hexadecimal digit in either case. -/
def value? (c : Char) : Option UInt8 :=
  if '0' ≤ c ∧ c ≤ '9' then some (c.toUInt8 - 48)
  else if 'a' ≤ c ∧ c ≤ 'f' then some (c.toUInt8 - 87)
  else if 'A' ≤ c ∧ c ≤ 'F' then some (c.toUInt8 - 55)
  else none

def isDigit (c : Char) : Bool := (value? c).isSome

def pair (b : UInt8) : List Char := [digit (b >>> 4), digit (b &&& 15)]

def encodeList (bytes : List UInt8) : List Char := bytes.flatMap pair

def encode (bytes : ByteArray) : String := String.ofList (encodeList bytes.data.toList)

/-- The bytes of a list of digits; an odd number of digits or any other character is refused. -/
def decodeList : List Char → Option (List UInt8)
  | [] => some []
  | [_] => none
  | high :: low :: rest => do
      let h ← value? high
      let l ← value? low
      let more ← decodeList rest
      return (h * 16 + l) :: more

def decode (text : String) : Option ByteArray :=
  (decodeList text.toList).map fun bytes => ⟨bytes.toArray⟩

/-- The value of the two digits of a byte is the byte. -/
theorem value_pair (b : UInt8) :
    (value? (digit (b >>> 4)) = some (b >>> 4)) ∧ value? (digit (b &&& 15)) = some (b &&& 15) ∧
      (b >>> 4) * 16 + (b &&& 15) = b := by
  have every : ∀ n : Fin 256,
      (value? (digit (UInt8.ofFin n >>> 4)) = some (UInt8.ofFin n >>> 4)) ∧
        value? (digit (UInt8.ofFin n &&& 15)) = some (UInt8.ofFin n &&& 15) ∧
        (UInt8.ofFin n >>> 4) * 16 + (UInt8.ofFin n &&& 15) = UInt8.ofFin n := by
    decide +kernel
  exact every b.toFin

theorem decodeList_encodeList (bytes : List UInt8) :
    decodeList (encodeList bytes) = some bytes := by
  induction bytes with
  | nil => rfl
  | cons b rest ih =>
      obtain ⟨high, low, whole⟩ := value_pair b
      have step : encodeList (b :: rest) = digit (b >>> 4) :: digit (b &&& 15) :: encodeList rest :=
        rfl
      rw [step, decodeList]
      simp [high, low, ih, whole]

/-- Reading the digits of a byte string gives the byte string. -/
theorem decode_encode (bytes : ByteArray) : decode (encode bytes) = some bytes := by
  simp [decode, encode, decodeList_encodeList]

def ofNat (n : Nat) : String := String.ofList (Nat.toDigits 16 n)

/-- The shape of a SHA-256 digest in hexadecimal: sixty-four digits in either case. -/
def isDigest (text : String) : Bool :=
  text.toList.length == 64 && text.toList.all isDigit

end Depot.Hex

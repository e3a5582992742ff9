import Depot.Codec.Base64
import Depot.Proofs.Order
import Depot.Text.Decimal

/-!
# What is written can be read back

Reading undoes writing: numerals (`natural64?_decimal`), the bytes of a text
(`lossy_bytes`), and base 64 (`Base64.decodeText?_encodeText`).
-/

namespace Depot

set_option autoImplicit false

namespace Text

/-! ## Numerals -/

theorem digit?_of_isDigit {c : Char} (digit : c.isDigit) :
    digit? c = some (c.toNat - '0'.toNat) := by
  have range : '0' ≤ c ∧ c ≤ '9' := by
    simpa [Char.isDigit, Char.le_def] using digit
  rw [digit?, if_pos range]

theorem le_ofDigitChars (digits : List Char) (value : Nat) :
    value ≤ Nat.ofDigitChars 10 digits value := by
  induction digits generalizing value with
  | nil => exact Nat.le_refl value
  | cons c rest ih =>
      rw [Nat.ofDigitChars_cons]
      exact Nat.le_trans (by omega) (ih _)

/-- Digits are read as the number that they write, when that is not past the limit. -/
theorem digitsFrom_eq_ok {limit value : Nat} {digits : List Char}
    (all : ∀ c, c ∈ digits → c.isDigit) (within : Nat.ofDigitChars 10 digits value ≤ limit) :
    digitsFrom limit value digits = .ok (Nat.ofDigitChars 10 digits value) := by
  induction digits generalizing value with
  | nil => rfl
  | cons c rest ih =>
      have onward := ih (fun c' member => all c' (.tail _ member)) within
      have passes : 10 * value + (c.toNat - '0'.toNat) ≤ limit :=
        Nat.le_trans (le_ofDigitChars rest _) within
      rw [digitsFrom, digit?_of_isDigit (all c List.mem_cons_self)]
      dsimp only
      rw [if_pos passes, onward]
      rfl

/-- Digits that write a number past the limit are refused. -/
theorem digitsFrom_eq_error {limit value : Nat} {digits : List Char}
    (all : ∀ c, c ∈ digits → c.isDigit) (started : value ≤ limit)
    (past : limit < Nat.ofDigitChars 10 digits value) :
    digitsFrom limit value digits = .error .tooLarge := by
  induction digits generalizing value with
  | nil => exact absurd past (Nat.not_lt_of_le started)
  | cons c rest ih =>
      rw [digitsFrom, digit?_of_isDigit (all c List.mem_cons_self)]
      dsimp only
      split
      · next within => exact ih (fun c' member => all c' (.tail _ member)) within past
      · rfl

/-- The digits of a number to a base are those of the base. -/
theorem mem_toDigits {base n : Nat} {c : Char} (large : 1 < base)
    (member : c ∈ Nat.toDigits base n) : ∃ k, k < base ∧ c = k.digitChar := by
  induction n using Nat.strongRecOn with
  | ind n ih =>
      by_cases small : n < base
      · rw [Nat.toDigits_of_lt_base small, List.mem_singleton] at member
        exact ⟨n, small, member⟩
      · rw [Nat.toDigits_of_base_le large (Nat.le_of_not_lt small), List.mem_append,
          List.mem_singleton] at member
        rcases member with earlier | last
        · exact ih _ (Nat.div_lt_self (by omega) large) earlier
        · exact ⟨n % base, Nat.mod_lt n (by omega), last⟩

theorem digits_decimal (n : Nat) : ∀ c, c ∈ (decimal n).toList → c.isDigit := by
  intro c member
  rw [decimal, String.toList_ofList] at member
  exact Nat.isDigit_of_mem_toDigits (by decide) (by decide) member

/-- The digits of a number begin with one, and are read as the number. -/
theorem decimal_spec {limit n : Nat} (small : n ≤ limit) :
    ∃ c rest, (decimal n).toList = c :: rest ∧ c.isDigit ∧
      digitsFrom limit 0 (c :: rest) = .ok n := by
  have value : Nat.ofDigitChars 10 (Nat.toDigits 10 n) 0 = n :=
    Nat.ofDigitChars_toDigits (by decide) (by decide)
  have all := digits_decimal n
  rw [decimal, String.toList_ofList] at all ⊢
  have read : digitsFrom limit 0 (Nat.toDigits 10 n) = .ok n := by
    rw [digitsFrom_eq_ok all (by rw [value]; exact small), value]
  cases digits : Nat.toDigits 10 n with
  | nil => exact absurd digits Nat.toDigits_ne_nil
  | cons c rest =>
      rw [digits] at all read
      exact ⟨c, rest, rfl, all c List.mem_cons_self, read⟩

theorem ne_of_isDigit {c sign : Char} (digit : c.isDigit) (other : sign.isDigit = false) :
    c ≠ sign := by
  rintro rfl
  rw [other] at digit
  cases digit

/-- Digits without a sign are read from the first one on. -/
theorem natural_of_digits {limit : Nat} {digits : List Char} (some : digits ≠ [])
    (all : ∀ c, c ∈ digits → c.isDigit) : natural limit digits = digitsFrom limit 0 digits := by
  cases digits with
  | nil => exact absurd rfl some
  | cons c rest =>
      have plus : c ≠ '+' := ne_of_isDigit (all c List.mem_cons_self) (by decide)
      rw [natural]
      all_goals simp [plus]

/-- A numeral of 64 bits that was written is read back. -/
theorem natural64?_decimal {n : Nat} (small : n ≤ max64) : natural64? (decimal n) = some n := by
  obtain ⟨c, rest, digits, first, read⟩ := decimal_spec small
  have plus : c ≠ '+' := ne_of_isDigit first (by decide)
  rw [natural64?, digits, natural, read]
  · rfl
  all_goals simp [plus]

/-- A number that was written without sign is read back as a signed one. -/
theorem integer_decimal {limit n : Nat} (small : n ≤ limit) :
    integer limit (decimal n).toList = .ok (n : Int) := by
  obtain ⟨c, rest, digits, first, read⟩ := decimal_spec small
  have plus : c ≠ '+' := ne_of_isDigit first (by decide)
  have minus : c ≠ '-' := ne_of_isDigit first (by decide)
  rw [digits, integer, read]
  · rfl
  all_goals simp [plus, minus]

/-- A number within the limits is read back, whatever its sign. -/
theorem integer_signedDecimal {limit : Nat} {n : Int} (low : -(limit + 1 : Int) ≤ n)
    (high : n ≤ limit) : integer limit (signedDecimal n).toList = .ok n := by
  cases n with
  | ofNat n => exact integer_decimal (Int.ofNat_le.mp high)
  | negSucc n =>
      have small : n + 1 ≤ limit + 1 := by omega
      obtain ⟨c, rest, digits, -, read⟩ := decimal_spec small
      have written : (signedDecimal (.negSucc n)).toList = '-' :: c :: rest := by
        rw [signedDecimal, String.toList_append, digits]
        rfl
      rw [written, integer, read]
      · rfl
      all_goals simp

/-- Different numbers are written differently. -/
theorem decimal_injective : Function.Injective decimal := by
  intro n m same
  have read := integer_decimal (Nat.le_max_left n m)
  rw [same, integer_decimal (Nat.le_max_right n m)] at read
  exact Int.ofNat.inj (Except.ok.inj read).symm

/-! ## Bytes of a text -/

/-- The byte that continues a character has its six bits. -/
theorem tail_spec (k : Nat) :
    isContinuation (UInt8.ofNat (k % 64 + 128)) ∧
      tailBits (UInt8.ofNat (k % 64 + 128)) = k % 64 := by
  have every : ∀ k : Fin 64, isContinuation (UInt8.ofNat (k.val + 128)) ∧
      tailBits (UInt8.ofNat (k.val + 128)) = k.val := by decide
  exact every ⟨k % 64, Nat.mod_lt k (by decide)⟩

/-- The first byte of a character of two. -/
theorem lead_two {k : Nat} (low : 2 ≤ k) (high : k < 32) :
    ¬ UInt8.ofNat (k + 192) < 0x80 ∧ leadShape? (UInt8.ofNat (k + 192)) = some (2, 0x80, 0xBF) ∧
      (UInt8.ofNat (k + 192) &&& 0x1F).toNat = k := by
  have every : ∀ k : Fin 32, 2 ≤ k.val → ¬ UInt8.ofNat (k.val + 192) < 0x80 ∧
      leadShape? (UInt8.ofNat (k.val + 192)) = some (2, 0x80, 0xBF) ∧
      (UInt8.ofNat (k.val + 192) &&& 0x1F).toNat = k.val := by decide
  exact every ⟨k, high⟩ low

/-- The first byte of a character of three: the second one stays clear of short characters and of
surrogates. -/
theorem lead_three {k : Nat} (high : k < 16) :
    ¬ UInt8.ofNat (k + 224) < 0x80 ∧
      leadShape? (UInt8.ofNat (k + 224)) =
        some (3, if k = 0 then 0xA0 else 0x80, if k = 13 then 0x9F else 0xBF) ∧
      (UInt8.ofNat (k + 224) &&& 0x0F).toNat = k := by
  have every : ∀ k : Fin 16, ¬ UInt8.ofNat (k.val + 224) < 0x80 ∧
      leadShape? (UInt8.ofNat (k.val + 224)) =
        some (3, if k.val = 0 then 0xA0 else 0x80, if k.val = 13 then 0x9F else 0xBF) ∧
      (UInt8.ofNat (k.val + 224) &&& 0x0F).toNat = k.val := by decide
  exact every ⟨k, high⟩

/-- The first byte of a character of four: the second one stays clear of short characters and of
those past the last. -/
theorem lead_four {k : Nat} (high : k < 5) :
    ¬ UInt8.ofNat (k + 240) < 0x80 ∧
      leadShape? (UInt8.ofNat (k + 240)) =
        some (4, if k = 0 then 0x90 else 0x80, if k = 4 then 0x8F else 0xBF) ∧
      (UInt8.ofNat (k + 240) &&& 0x07).toNat = k := by
  have every : ∀ k : Fin 5, ¬ UInt8.ofNat (k.val + 240) < 0x80 ∧
      leadShape? (UInt8.ofNat (k.val + 240)) =
        some (4, if k.val = 0 then 0x90 else 0x80, if k.val = 4 then 0x8F else 0xBF) ∧
      (UInt8.ofNat (k.val + 240) &&& 0x07).toNat = k.val := by decide
  exact every ⟨k, high⟩

section

variable {b b1 b2 b3 low high : UInt8} (long : ¬ b < 0x80) (second : low ≤ b1 ∧ b1 ≤ high)
  (rest : List UInt8)

include long second

theorem lossyChars_two (shape : leadShape? b = some (2, low, high)) :
    lossyChars (b :: b1 :: rest) =
      Char.ofNat ((b &&& 0x1F).toNat * 64 + tailBits b1) :: lossyChars rest := by
  rw [lossyChars.eq_def]
  dsimp only
  rw [if_neg long, shape]
  dsimp only
  rw [if_pos second, if_pos rfl]

theorem lossyChars_three (shape : leadShape? b = some (3, low, high)) (third : isContinuation b2) :
    lossyChars (b :: b1 :: b2 :: rest) =
      Char.ofNat (((b &&& 0x0F).toNat * 64 + tailBits b1) * 64 + tailBits b2) ::
        lossyChars rest := by
  rw [lossyChars.eq_def]
  dsimp only
  rw [if_neg long, shape]
  dsimp only
  rw [if_pos second, if_neg (by decide), if_pos third, if_pos rfl]

theorem lossyChars_four (shape : leadShape? b = some (4, low, high)) (third : isContinuation b2)
    (fourth : isContinuation b3) :
    lossyChars (b :: b1 :: b2 :: b3 :: rest) =
      Char.ofNat ((((b &&& 0x07).toNat * 64 + tailBits b1) * 64 + tailBits b2) * 64 +
          tailBits b3) :: lossyChars rest := by
  rw [lossyChars.eq_def]
  dsimp only
  rw [if_neg long, shape]
  dsimp only
  rw [if_pos second, if_neg (by decide), if_pos third, if_neg (by decide), if_pos fourth]

end

theorem lossyChars_utf8EncodeChar (c : Char) (rest : List UInt8) :
    lossyChars (String.utf8EncodeChar c ++ rest) = c :: lossyChars rest := by
  have whole : Char.ofNat c.val.toNat = c := Char.ofNat_toNat c
  have valid : c.val.toNat < 55296 ∨ 57343 < c.val.toNat ∧ c.val.toNat < 1114112 := c.valid
  unfold String.utf8EncodeChar
  dsimp only
  generalize c.val.toNat = n at *
  have within {low high : UInt8} {k : Nat}
      (range : low.toNat ≤ k % 64 + 128 ∧ k % 64 + 128 ≤ high.toNat) :
      low ≤ UInt8.ofNat (k % 64 + 128) ∧ UInt8.ofNat (k % 64 + 128) ≤ high := by
    rw [UInt8.le_iff_toNat_le, UInt8.le_iff_toNat_le, UInt8.toNat_ofNat']
    omega
  split
  · have small : UInt8.ofNat n < 0x80 := by
      rw [UInt8.lt_iff_toNat_lt, UInt8.toNat_ofNat']
      show n % 256 < 128
      omega
    have back : (UInt8.ofNat n).toNat = n := by
      rw [UInt8.toNat_ofNat']
      omega
    rw [List.singleton_append, lossyChars.eq_def]
    dsimp only
    rw [if_pos small, back, whole]
  · split
    · obtain ⟨long, shape, bits⟩ := lead_two (show 2 ≤ n / 64 % 32 by omega) (by omega)
      refine (lossyChars_two long (within ?_) rest shape).trans ?_
      · show 128 ≤ _ ∧ _ ≤ 191
        omega
      · rw [bits, (tail_spec n).2, ← whole]
        congr 2
        omega
    · split
      · obtain ⟨long, shape, bits⟩ := lead_three (show n / 4096 % 16 < 16 by omega)
        refine (lossyChars_three long (within ?_) rest shape (tail_spec _).1).trans ?_
        · rw [apply_ite UInt8.toNat, apply_ite UInt8.toNat]
          show (if _ then 160 else 128) ≤ _ ∧ _ ≤ (if _ then 159 else 191)
          constructor <;> split <;> omega
        · rw [bits, (tail_spec _).2, (tail_spec _).2, ← whole]
          congr 2
          omega
      · obtain ⟨long, shape, bits⟩ := lead_four (show n / 262144 % 8 < 5 by omega)
        refine (lossyChars_four long (within ?_) rest shape (tail_spec _).1
          (tail_spec _).1).trans ?_
        · rw [apply_ite UInt8.toNat, apply_ite UInt8.toNat]
          show (if _ then 144 else 128) ≤ _ ∧ _ ≤ (if _ then 143 else 191)
          constructor <;> split <;> omega
        · rw [bits, (tail_spec _).2, (tail_spec _).2, (tail_spec _).2, ← whole]
          congr 2
          omega

/-- **Reading the bytes of a text gives the text.** -/
theorem lossy_bytes (text : String) : lossy (bytes text) = text := by
  have chars (list : List Char) :
      lossyChars (list.flatMap String.utf8EncodeChar) = list := by
    induction list with
    | nil => rfl
    | cons c rest ih => rw [List.flatMap_cons, lossyChars_utf8EncodeChar, ih]
  have whole := chars text.toList
  rw [← bytes_ofList, String.ofList_toList] at whole
  rw [lossy, whole, String.ofList_toList]

end Text

/-! ## Base 64 -/

namespace Base64

open Depot.Text

/-- A character of the alphabet has the value that it is written for, and is not the filling. -/
theorem symbol_spec {n : Nat} (small : n < 64) : value? (symbol n) = some n ∧ symbol n ≠ '=' := by
  have every : ∀ n : Fin 64, value? (symbol n) = some n.val ∧ symbol n ≠ '=' := by decide
  exact every ⟨n, small⟩

section

variable {a b c d : Char} {p q r s : Nat} (first : value? a = some p) (second : value? b = some q)

include first second

theorem decode?_one {byte : UInt8} (whole : p * 64 + q = byte.toNat * 16) :
    decode? [a, b, '=', '='] = some [byte] := by
  have back : byte.toNat * 16 / 16 = byte.toNat := by omega
  rw [decode?, first, second]
  simp only [Option.bind_eq_bind, Option.bind_some]
  rw [whole, if_pos (Nat.mul_mod_left _ _), back]
  simp

variable (third : value? c = some r)

include third

theorem decode?_two {byte byte' : UInt8} (full : c ≠ '=')
    (whole : (p * 64 + q) * 64 + r = (byte.toNat * 256 + byte'.toNat) * 4) :
    decode? [a, b, c, '='] = some [byte, byte'] := by
  have bound := byte'.toNat_lt
  have high : (byte.toNat * 256 + byte'.toNat) * 4 / 1024 = byte.toNat := by omega
  have low : (byte.toNat * 256 + byte'.toNat) * 4 / 4 % 256 = byte'.toNat := by omega
  rw [decode?, first, second, third]
  · simp only [Option.bind_eq_bind, Option.bind_some]
    rw [whole, if_pos (Nat.mul_mod_left _ _), high, low]
    simp
  · exact full

theorem decode?_three {byte byte' byte'' : UInt8} (fourth : value? d = some s) (full : d ≠ '=')
    (whole : ((p * 64 + q) * 64 + r) * 64 + s =
      (byte.toNat * 256 + byte'.toNat) * 256 + byte''.toNat) (rest : List Char) :
    decode? (a :: b :: c :: d :: rest) =
      (decode? rest).map fun more => byte :: byte' :: byte'' :: more := by
  have bound' := byte'.toNat_lt
  have bound'' := byte''.toNat_lt
  have high : ((byte.toNat * 256 + byte'.toNat) * 256 + byte''.toNat) / 65536 = byte.toNat := by
    omega
  have middle :
      ((byte.toNat * 256 + byte'.toNat) * 256 + byte''.toNat) / 256 % 256 = byte'.toNat := by
    omega
  have low : ((byte.toNat * 256 + byte'.toNat) * 256 + byte''.toNat) % 256 = byte''.toNat := by
    omega
  rw [decode?, first, second, third, fourth]
  · simp only [Option.bind_eq_bind, Option.bind_some]
    rw [whole, high, middle, low]
    cases decode? rest with
    | none => rfl
    | some more => simp
  · exact fun _ same _ => full same
  · exact fun same _ => full same

end

/-- Reading what was written gives the bytes. -/
theorem decode?_encode (list : List UInt8) : decode? (encode list) = some list := by
  fun_induction encode list with
  | case1 => rfl
  | case2 a n =>
      have bound : n < 256 := a.toNat_lt
      have first := symbol_spec (show n / 4 < 64 by omega)
      have second := symbol_spec (show n % 4 * 16 < 64 by omega)
      exact decode?_one first.1 second.1 (show _ = n * 16 by omega)
  | case3 a b n =>
      have bound : n < 65536 := by
        have high := a.toNat_lt
        have low := b.toNat_lt
        omega
      have first := symbol_spec (show n / 1024 < 64 by omega)
      have second := symbol_spec (show n / 16 % 64 < 64 by omega)
      have third := symbol_spec (show n % 16 * 4 < 64 by omega)
      exact decode?_two first.1 second.1 third.1 third.2 (show _ = n * 4 by omega)
  | case4 a b c rest n ih =>
      have bound : n < 16777216 := by
        have high := a.toNat_lt
        have middle := b.toNat_lt
        have low := c.toNat_lt
        omega
      have first := symbol_spec (show n / 262144 < 64 by omega)
      have second := symbol_spec (show n / 4096 % 64 < 64 by omega)
      have third := symbol_spec (show n / 64 % 64 < 64 by omega)
      have fourth := symbol_spec (show n % 64 < 64 by omega)
      rw [decode?_three first.1 second.1 third.1 fourth.1 fourth.2 (show _ = n by omega), ih]
      rfl

/-- **Reading what was written gives the text.** -/
theorem decodeText?_encodeText (text : String) : decodeText? (encodeText text) = some text := by
  rw [decodeText?, encodeText, String.toList_ofList, decode?_encode]
  exact ofBytes?_bytes text

end Base64

end Depot

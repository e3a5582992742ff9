import Depot.Http.Range
import Depot.Proofs.RoundTrips
import Mathlib.Data.List.TakeWhile

/-!
# Ranges as they are written

A range header names the bytes of an object by decimal numbers: the first and
the last one, the first alone, or how many there are at the end.  Such a number
has any number of digits, zeros before it and blanks around it.

The header asks for the bytes that are meant, as far as the object has them
(`ofText_written`), but for one case.  The number that closes a range is read up
to the largest one of 64 bits.  Up to it, a number past the object is cut off at
the end of the object; beyond it, the header asks for no byte at all.
-/

namespace Depot

set_option autoImplicit false

open Depot.Text

namespace Text

/-! ## Blanks around a text -/

section

variable {α : Type} {p : α → Bool}

/-- Nothing but what is trimmed stands after a trimmed text. -/
theorem exists_append_trimEnd (p : α → Bool) (text : List α) :
    ∃ tail, text = trimEnd p text ++ tail ∧ ∀ a, a ∈ tail → p a := by
  refine ⟨(text.reverse.takeWhile p).reverse, ?_, ?_⟩
  · unfold trimEnd
    rw [← List.reverse_append, List.takeWhile_append_dropWhile, List.reverse_reverse]
  · intro a member
    exact List.mem_takeWhile_imp (List.mem_reverse.mp member)

/-- What is trimmed may stand around a text or not. -/
theorem trim_padded {before after : List α} (ahead : ∀ a, a ∈ before → p a)
    (behind : ∀ a, a ∈ after → p a) (text : List α) :
    trim p (before ++ text ++ after) = trim p text := by
  have last (front : List α) : trimEnd p (front ++ after) = trimEnd p front := by
    unfold trimEnd
    rw [List.reverse_append, List.dropWhile_append_of_pos (by simpa using behind)]
  unfold trim trimStart
  rw [List.append_assoc, List.dropWhile_append_of_pos (by simpa using ahead),
    List.dropWhile_append]
  split
  · next all =>
      rw [List.isEmpty_iff.mp all, List.dropWhile_eq_nil_iff.mpr behind]
  · exact last _

/-- A text whose end has been trimmed is trimmed like the whole. -/
theorem trim_trimEnd (text : List α) : trim p (trimEnd p text) = trim p text := by
  obtain ⟨tail, whole, behind⟩ := exists_append_trimEnd p text
  have ahead : ∀ a, a ∈ ([] : List α) → p a := fun _ => nofun
  have padded := trim_padded ahead behind (trimEnd p text)
  rw [List.nil_append, ← whole] at padded
  exact padded.symm

/-- After an element that stays, trimming goes on at the end alone. -/
theorem trim_of_stays {first mark : α} (opens : p first = false) (stays : p mark = false)
    (middle rest : List α) :
    trim p (first :: (middle ++ mark :: rest)) = first :: (middle ++ mark :: trimEnd p rest) := by
  have halts (behind ahead : List α) :
      (behind ++ mark :: ahead).dropWhile p = behind.dropWhile p ++ mark :: ahead := by
    rw [List.dropWhile_append]
    split
    · next all => rw [List.isEmpty_iff.mp all, List.dropWhile_cons_of_neg (by simp [stays])]; rfl
    · rfl
  unfold trim trimStart trimEnd
  rw [List.dropWhile_cons_of_neg (by simp [opens]), List.reverse_cons, List.reverse_append,
    List.reverse_cons, List.append_assoc, List.append_assoc, List.singleton_append, halts]
  simp

end

end Text

namespace Http

/-! ## Written ranges -/

/-- Some blanks, or none. -/
structure Blanks where
  text : List Char
  blank : ∀ c, c ∈ text → isBlank c

/-- A number in a range, in decimal with zeros before it and blanks around it. -/
structure WrittenNumber where
  value : Nat
  zeros : Nat
  before : Blanks
  after : Blanks

def WrittenNumber.digits (n : WrittenNumber) : List Char :=
  List.replicate n.zeros '0' ++ Nat.toDigits 10 n.value

def WrittenNumber.text (n : WrittenNumber) : List Char :=
  n.before.text ++ n.digits ++ n.after.text

/-- A way of writing a range. -/
inductive WrittenRange where
  /-- The first and the last byte. -/
  | between (first last : WrittenNumber)
  /-- The first byte, up to the end. -/
  | onward (first : WrittenNumber) (after : Blanks)
  /-- The number of bytes at the end. -/
  | ending (before : Blanks) (count : WrittenNumber)

namespace WrittenRange

/-- What stands before the hyphen. -/
def front : WrittenRange → List Char
  | between first _ => first.text
  | onward first _ => first.text
  | ending before _ => before.text

/-- What stands after the hyphen. -/
def back : WrittenRange → List Char
  | between _ last => last.text
  | onward _ after => after.text
  | ending _ count => count.text

def text (range : WrittenRange) : String :=
  "bytes=" ++ String.ofList range.front ++ "-" ++ String.ofList range.back

/-- The bytes of an object of `size` that a range means. -/
def meant (size : Nat) : WrittenRange → RangeRequest
  | between first last =>
      if h : first.value ≤ last.value ∧ first.value < size then
        .part { first := first.value, last := min last.value (size - 1) }
      else .unsatisfiable
  | onward first _ =>
      if h : first.value < size then .part { first := first.value, last := size - 1 }
      else .unsatisfiable
  | ending _ count =>
      if h : 0 < count.value ∧ 0 < size then
        .part { first := size - min count.value size, last := size - 1 }
      else .unsatisfiable

/-- Whether the number that closes a range has at most 64 bits. -/
def fits : WrittenRange → Bool
  | between _ last => last.value ≤ max64
  | onward _ _ => true
  | ending _ count => count.value ≤ max64

end WrittenRange

/-! ## Numbers -/

namespace WrittenNumber

variable (n : WrittenNumber)

theorem isDigit_digits {c : Char} (member : c ∈ n.digits) : c.isDigit := by
  rcases List.mem_append.mp member with zero | digit
  · rw [List.eq_of_mem_replicate zero]
    decide
  · exact Nat.isDigit_of_mem_toDigits (by decide) (by decide) digit

theorem ofDigitChars_digits : Nat.ofDigitChars 10 n.digits 0 = n.value := by
  rw [digits, Nat.ofDigitChars_append, Nat.ofDigitChars_replicate_zero, Nat.mul_zero,
    Nat.ofDigitChars_toDigits (by decide) (by decide)]

theorem digits_ne_nil : n.digits ≠ [] := by
  intro none
  exact Nat.toDigits_ne_nil (List.append_eq_nil_iff.mp none).2

/-- The blanks around a number do not count. -/
theorem trimBlank_text : trimBlank n.text = n.digits := by
  have solid : ∀ c, c ∈ n.digits → isBlank c = false := by
    intro c member
    exact isBlank_of_isDigit (n.isDigit_digits member)
  unfold trimBlank text
  rw [trim_padded n.before.blank n.after.blank]
  exact trim_eq_self_of_forall solid

/-- A number is read when it is not past the limit. -/
theorem natural_digits (limit : Nat) :
    (natural limit n.digits).toOption = if n.value ≤ limit then some n.value else none := by
  have all : ∀ c, c ∈ n.digits → c.isDigit := fun c => n.isDigit_digits
  have value := n.ofDigitChars_digits
  rw [natural_of_digits n.digits_ne_nil all]
  split
  · next small =>
      rw [digitsFrom_eq_ok all (by rwa [value]), value]
      rfl
  · next large =>
      rw [digitsFrom_eq_error all (Nat.zero_le limit) (by rw [value]; omega)]
      rfl

/-- No mark of a range stands in a number. -/
theorem not_mem_text {mark : Char} (digit : mark.isDigit = false) (blank : isBlank mark = false) :
    mark ∉ n.text := by
  have apart {c : Char} (member : c ∈ n.text) : c.isDigit ∨ isBlank c := by
    rcases List.mem_append.mp member with earlier | behind
    · rcases List.mem_append.mp earlier with ahead | inside
      · exact .inr (n.before.blank c ahead)
      · exact .inl (n.isDigit_digits inside)
    · exact .inr (n.after.blank c behind)
  intro member
  rcases apart member with isDigit | isBlank
  · rw [digit] at isDigit
    cases isDigit
  · rw [blank] at isBlank
    cases isBlank

end WrittenNumber

theorem Blanks.not_mem (blanks : Blanks) {mark : Char} (blank : isBlank mark = false) :
    mark ∉ blanks.text := by
  intro member
  have isBlank := blanks.blank mark member
  rw [blank] at isBlank
  cases isBlank

theorem Blanks.trimBlank_text (blanks : Blanks) : trimBlank blanks.text = [] := by
  have behind : ∀ c, c ∈ ([] : List Char) → isBlank c := fun _ => nofun
  have padded := trim_padded blanks.blank behind []
  rwa [List.append_nil, List.append_nil] at padded

/-! ## Reading -/

/-- What is asked of an object by what stands before and after the hyphen, without blanks. -/
def asked (size : Nat) (first last : List Char) : RangeRequest :=
  if first.isEmpty then
    match (natural max64 last).toOption with
    | some count => rangeAtEnd size count
    | none => .unsatisfiable
  else
    match (natural max64 first).toOption with
    | none => .unsatisfiable
    | some first =>
        if last.isEmpty then rangeFrom size first none
        else
          match (natural max64 last).toOption with
          | some last => rangeFrom size first (some last)
          | none => .unsatisfiable

/-- A range is read by what stands before and after its hyphen. -/
theorem ofText_append {front back : List Char} (size : Nat) (hyphen : '-' ∉ front)
    (single : ',' ∉ front) (single' : ',' ∉ back) :
    RangeRequest.ofText ("bytes=" ++ String.ofList front ++ "-" ++ String.ofList back) size =
      asked size (trimBlank front) (trimBlank back) := by
  have trimmed :
      trimBlank ("bytes=" ++ String.ofList front ++ "-" ++ String.ofList back).toList =
        "bytes=".toList ++ (front ++ '-' :: trimEnd isBlank back) := by
    simp only [String.toList_append, String.toList_ofList, List.append_assoc]
    exact trim_of_stays (by decide) (by decide) ("ytes=".toList ++ front) back
  have listed : (front ++ '-' :: trimEnd isBlank back).contains ',' = false := by
    obtain ⟨tail, whole, -⟩ := exists_append_trimEnd isBlank back
    have kept : ',' ∉ trimEnd isBlank back := by
      intro member
      apply single'
      rw [whole]
      exact List.mem_append_left tail member
    simp [single, kept]
  have same : trimBlank (trimEnd isBlank back) = trimBlank back := trim_trimEnd back
  unfold RangeRequest.ofText
  rw [trimmed, afterLead?_append]
  dsimp only
  rw [if_neg (Bool.eq_false_iff.mp listed), cutAt_append hyphen]
  dsimp only
  unfold rangeNumber?
  rw [same]
  rfl

namespace WrittenRange

variable (range : WrittenRange)

theorem ofText_text (size : Nat) :
    RangeRequest.ofText range.text size =
      asked size (trimBlank range.front) (trimBlank range.back) := by
  have digit : '-'.isDigit = false ∧ ','.isDigit = false := by decide
  have blank : isBlank '-' = false ∧ isBlank ',' = false := by decide
  apply ofText_append
  · cases range with
    | between first last => exact first.not_mem_text digit.1 blank.1
    | onward first after => exact first.not_mem_text digit.1 blank.1
    | ending before count => exact before.not_mem blank.1
  · cases range with
    | between first last => exact first.not_mem_text digit.2 blank.2
    | onward first after => exact first.not_mem_text digit.2 blank.2
    | ending before count => exact before.not_mem blank.2
  · cases range with
    | between first last => exact last.not_mem_text digit.2 blank.2
    | onward first after => exact after.not_mem blank.2
    | ending before count => exact count.not_mem_text digit.2 blank.2

/-! ## What is meant -/

theorem rangeFrom_between (first last : WrittenNumber) (size : Nat) :
    rangeFrom size first.value (some last.value) = (between first last).meant size := by
  rw [rangeFrom, meant]
  dsimp only [Option.getD_some]
  by_cases within : first.value ≤ last.value ∧ first.value < size
  · rw [dif_pos within.symm, dif_pos within]
    split
    · next below =>
        have kept : min last.value (size - 1) = last.value := by omega
        simp only [kept]
    · next past =>
        have cut : min last.value (size - 1) = size - 1 := by omega
        simp only [cut]
  · rw [dif_neg fun swapped => within swapped.symm, dif_neg within]

theorem rangeFrom_onward (first : WrittenNumber) (after : Blanks) (size : Nat) :
    rangeFrom size first.value none = (onward first after).meant size := by
  rw [rangeFrom, meant]
  dsimp only [Option.getD_none]
  by_cases within : first.value < size
  · rw [dif_pos ⟨within, by omega⟩, dif_pos within, if_pos (by omega)]
  · rw [dif_neg fun both => within both.1, dif_neg within]

theorem rangeAtEnd_ending (before : Blanks) (count : WrittenNumber) (size : Nat) :
    rangeAtEnd size count.value = (ending before count).meant size := by
  rw [rangeAtEnd, meant]
  by_cases some : 0 < count.value ∧ 0 < size
  · have left : size - min count.value size = size - count.value := by omega
    rw [dif_pos some, dif_pos some]
    simp only [left]
  · rw [dif_neg some, dif_neg some]

/-- A range whose first byte is not one of the object means no byte. -/
theorem meant_of_first_past {first : WrittenNumber} {size : Nat} (past : size ≤ first.value) :
    (∀ last, (between first last).meant size = .unsatisfiable) ∧
      ∀ after, (onward first after).meant size = .unsatisfiable := by
  constructor
  · intro last
    exact dif_neg fun within => absurd within.2 (Nat.not_lt_of_le past)
  · intro after
    exact dif_neg (Nat.not_lt_of_le past)

/-- In an object whose size has at most 64 bits, a range is read as it is meant when the number that
closes it fits. -/
theorem ofText_eq_meant {size : Nat} (sized : size ≤ max64) :
    RangeRequest.ofText range.text size =
      if range.fits then range.meant size else .unsatisfiable := by
  have written (n : WrittenNumber) : n.digits.isEmpty = false := by simp [n.digits_ne_nil]
  rw [ofText_text]
  cases range with
  | between first last =>
      have fits : (between first last).fits = decide (last.value ≤ max64) := rfl
      rw [front, back, first.trimBlank_text, last.trimBlank_text, asked, written, written,
        first.natural_digits, last.natural_digits, fits]
      by_cases known : first.value ≤ max64
      · rw [if_pos known]
        by_cases small : last.value ≤ max64
        · rw [if_pos small, decide_eq_true small]
          exact rangeFrom_between first last size
        · rw [if_neg small, decide_eq_false small]
          rfl
      · rw [if_neg known, (meant_of_first_past (by omega)).1 last, ite_self]
        rfl
  | onward first after =>
      rw [front, back, first.trimBlank_text, after.trimBlank_text, asked, written,
        first.natural_digits]
      by_cases known : first.value ≤ max64
      · rw [if_pos known]
        exact rangeFrom_onward first after size
      · rw [if_neg known, (meant_of_first_past (by omega)).2 after, ite_self]
        rfl
  | ending before count =>
      have fits : (ending before count).fits = decide (count.value ≤ max64) := rfl
      rw [front, back, before.trimBlank_text, count.trimBlank_text, asked, count.natural_digits,
        fits]
      by_cases small : count.value ≤ max64
      · rw [if_pos small, decide_eq_true small]
        exact rangeAtEnd_ending before count size
      · rw [if_neg small, decide_eq_false small]
        rfl

end WrittenRange

/-- **A range that is written in numbers asks for the bytes that it means**, up to the end of the
object, whatever zeros and blanks stand around its numbers, when the number that closes it has at
most 64 bits.  Past them it asks for no byte.  So it asks for what it means just when that number
fits, or when no byte is meant. -/
theorem ofText_written (range : WrittenRange) (size : UInt64) :
    RangeRequest.ofText range.text size.toNat =
      (if range.fits then range.meant size.toNat else .unsatisfiable) ∧
    (RangeRequest.ofText range.text size.toNat = range.meant size.toNat ↔
      range.fits ∨ range.meant size.toNat = .unsatisfiable) := by
  have sized : size.toNat ≤ max64 := by
    have bound := size.toNat_lt
    unfold max64
    omega
  have read := range.ofText_eq_meant sized
  refine ⟨read, ?_⟩
  rw [read]
  by_cases fits : range.fits
  · simp [fits]
  · simp [fits, eq_comm]

/-- A last byte past the object is cut off, but not one past 64 bits. -/
example :
    RangeRequest.ofText "bytes=0-18446744073709551615" 10 = .part ⟨0, 9, by decide⟩ ∧
      RangeRequest.ofText "bytes=0-18446744073709551616" 10 = .unsatisfiable := by
  decide

end Http

end Depot

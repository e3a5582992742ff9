import Depot.Name.Bucket
import Depot.Proofs.Results
import Depot.Proofs.RoundTrips
import Mathlib.Data.List.Chain

/-!
# Names of buckets

The check of a bucket name looks at its length, at single characters, at both
ends and at neighbours.  What it lets through is a grammar of labels: one or more
of them with dots between, each made of small letters, digits and hyphens with a
letter or a digit at both ends (`wellMarked_iff_labelled`).  Four labels that are
numbers up to 255 are an address and no name.

`checkBucket_eq_ok_iff` says that a name passes just when it is of this grammar.
-/

namespace Depot.Name

set_option autoImplicit false

open Depot.Text

/-! ## The grammar -/

def IsPlain (c : Char) : Prop := c.isLower ∨ c.isDigit

/-- A label of a bucket name. -/
structure IsLabel (label : List Char) : Prop where
  filled : label ≠ []
  chars : ∀ c, c ∈ label → IsPlain c ∨ c = '-'
  opens : ∀ c, label.head? = some c → IsPlain c
  closes : ∀ c, label.getLast? = some c → IsPlain c

/-- One or more labels with dots between them. -/
inductive Labelled : List Char → Prop
  | single {label : List Char} (isLabel : IsLabel label) : Labelled label
  | dot {label rest : List Char} (isLabel : IsLabel label) (more : Labelled rest) :
      Labelled (label ++ '.' :: rest)

/-- A number up to 255 in one to three digits. -/
structure IsOctet (label : List Char) : Prop where
  filled : label ≠ []
  short : label.length ≤ 3
  digits : ∀ c, c ∈ label → c.isDigit
  small : Nat.ofDigitChars 10 label 0 ≤ 255

/-- Four such numbers with dots between them. -/
def IsAddress (text : List Char) : Prop :=
  ∃ labels : List (List Char), labels.length = 4 ∧ (∀ label, label ∈ labels → IsOctet label) ∧
    text = ['.'].intercalate labels

/-! ## Single characters -/

theorem isBucketChar_iff {c : Char} : isBucketChar c = true ↔ IsPlain c ∨ isMark c = true := by
  have letter : c.isLower = true ↔ 'a' ≤ c ∧ c ≤ 'z' :=
    Bool.and_eq_true_iff.trans (and_congr decide_eq_true_iff decide_eq_true_iff)
  have digit : c.isDigit = true ↔ '0' ≤ c ∧ c ≤ '9' := by
    simp [Char.isDigit, Char.le_def]
  simp only [isBucketChar, isMark, IsPlain, letter, digit, Bool.or_eq_true, Bool.and_eq_true,
    decide_eq_true_eq, beq_iff_eq, or_assoc]

theorem ascii_of_isBucketChar {c : Char} (known : isBucketChar c) : c.toNat < 128 := by
  simp only [isBucketChar, Bool.or_eq_true, Bool.and_eq_true, decide_eq_true_eq,
    beq_iff_eq] at known
  rcases known with ((letter | digit) | rfl) | rfl
  · exact ascii_of_le letter.2 (by decide)
  · exact ascii_of_le digit.2 (by decide)
  · decide
  · decide

theorem IsPlain.isMark_eq_false {c : Char} (plain : IsPlain c) : isMark c = false := by
  rw [isMark, Bool.or_eq_false_iff, beq_eq_false_iff_ne, beq_eq_false_iff_ne]
  constructor <;> (rintro rfl; revert plain; unfold IsPlain; decide)

theorem isMark_iff {c : Char} : isMark c = true ↔ c = '.' ∨ c = '-' := by
  simp [isMark]

/-! ## Neighbours -/

/-- Two neighbours that must not stand in a bucket name: a dot, and a dot or a hyphen beside it. -/
def MarkPair (a b : Char) : Prop :=
  a = '.' ∧ b = '.' ∨ a = '-' ∧ b = '.' ∨ a = '.' ∧ b = '-'

theorem hasMarkPair_eq_false_iff {text : List Char} :
    hasMarkPair text = false ↔ text.IsChain fun a b => ¬ MarkPair a b := by
  have occurs (a b : Char) : hasWord [a, b] text = false ↔
      ∀ before after, text ≠ before ++ a :: b :: after := by
    rw [Bool.eq_false_iff, ne_eq, hasWord_iff]
    simp
  rw [List.isChain_iff_forall_rel_of_append_cons_cons, hasMarkPair, Bool.or_eq_false_iff,
    Bool.or_eq_false_iff, occurs, occurs, occurs]
  constructor
  · rintro ⟨⟨dots, before⟩, after⟩ a b x y whole (⟨rfl, rfl⟩ | ⟨rfl, rfl⟩ | ⟨rfl, rfl⟩)
    · exact dots x y whole
    · exact before x y whole
    · exact after x y whole
  · intro apart
    refine ⟨⟨?_, ?_⟩, ?_⟩
    · exact fun x y whole => apart whole (.inl ⟨rfl, rfl⟩)
    · exact fun x y whole => apart whole (.inr (.inl ⟨rfl, rfl⟩))
    · exact fun x y whole => apart whole (.inr (.inr ⟨rfl, rfl⟩))

/-! ## Marks -/

/-- A text of letters, digits and marks whose marks stand as in a bucket name. -/
structure WellMarked (text : List Char) : Prop where
  filled : text ≠ []
  chars : ∀ c, c ∈ text → isBucketChar c
  opens : ∀ c, text.head? = some c → isMark c = false
  closes : ∀ c, text.getLast? = some c → isMark c = false
  apart : text.IsChain fun a b => ¬ MarkPair a b

variable {label rest text : List Char}

theorem IsLabel.clean (isLabel : IsLabel label) : '.' ∉ label := by
  intro member
  rcases isLabel.chars '.' member with plain | same
  · exact absurd plain.isMark_eq_false (by decide)
  · exact absurd same (by decide)

theorem isPlain_of_isBucketChar {c : Char} (known : isBucketChar c) (plain : isMark c = false) :
    IsPlain c := by
  rcases isBucketChar_iff.mp known with here | mark
  · exact here
  · rw [plain] at mark
    cases mark

/-- A text without dots is well marked just when it is a label: all marks that must not stand side
by side are pairs with a dot. -/
theorem wellMarked_iff_isLabel (clean : '.' ∉ text) : WellMarked text ↔ IsLabel text := by
  constructor
  · intro marked
    refine ⟨marked.filled, fun c member => ?_, fun c first => ?_, fun c last => ?_⟩
    · rcases isBucketChar_iff.mp (marked.chars c member) with plain | mark
      · exact .inl plain
      · rcases isMark_iff.mp mark with rfl | hyphen
        · exact absurd member clean
        · exact .inr hyphen
    · have known := marked.chars c (List.mem_of_head? first)
      exact isPlain_of_isBucketChar known (marked.opens c first)
    · have known := marked.chars c (List.mem_of_getLast? last)
      exact isPlain_of_isBucketChar known (marked.closes c last)
  · intro isLabel
    refine ⟨isLabel.filled, fun c member => ?_, fun c first => ?_, fun c last => ?_, ?_⟩
    · rw [isBucketChar_iff, isMark_iff]
      exact (isLabel.chars c member).imp id .inr
    · exact (isLabel.opens c first).isMark_eq_false
    · exact (isLabel.closes c last).isMark_eq_false
    · rw [List.isChain_iff_forall_rel_of_append_cons_cons]
      rintro a b before after rfl (⟨rfl, -⟩ | ⟨-, rfl⟩ | ⟨rfl, -⟩) <;> simp at clean

theorem markPair_dot_left {b : Char} : MarkPair '.' b ↔ isMark b = true := by
  simp [MarkPair, isMark_iff]

theorem markPair_dot_right {a : Char} : MarkPair a '.' ↔ isMark a = true := by
  simp [MarkPair, isMark_iff]

/-- A text that is put together begins as its first part and ends as its last. -/
theorem ends_append {before after : List Char} (filled : before ≠ []) (filled' : after ≠ []) :
    (before ++ '.' :: after).head? = before.head? ∧
      (before ++ '.' :: after).getLast? = after.getLast? := by
  constructor
  · exact List.head?_append_of_ne_nil before filled
  · rw [List.append_cons]
    exact List.getLast?_append_of_ne_nil _ filled'

/-- A dot may stand between well marked texts, and nowhere else. -/
theorem wellMarked_append {before after : List Char} :
    WellMarked (before ++ '.' :: after) ↔ WellMarked before ∧ WellMarked after := by
  constructor
  · intro marked
    have filled : before ≠ [] := by
      rintro rfl
      exact absurd (marked.opens '.' rfl) (by decide)
    have filled' : after ≠ [] := by
      rintro rfl
      exact absurd (marked.closes '.' List.getLast?_concat) (by decide)
    obtain ⟨first, last⟩ := ends_append filled filled'
    -- The neighbours of the dot are no marks, so both parts end and begin as they must.
    obtain ⟨front, back, joint⟩ := List.isChain_append.mp marked.apart
    obtain ⟨joint', back⟩ := List.isChain_cons.mp back
    constructor
    · refine ⟨filled, fun c member => marked.chars c (List.mem_append_left _ member),
        fun c here => marked.opens c (first.trans here), fun c here => ?_, front⟩
      exact Bool.eq_false_iff.mpr fun mark => joint c here '.' rfl (markPair_dot_right.mpr mark)
    · refine ⟨filled', fun c member => marked.chars c (List.mem_append_right _ (.tail _ member)),
        fun c here => ?_, fun c here => marked.closes c (last.trans here), back⟩
      exact Bool.eq_false_iff.mpr fun mark => joint' c here (markPair_dot_left.mpr mark)
  · rintro ⟨marked, marked'⟩
    obtain ⟨first, last⟩ := ends_append marked.filled marked'.filled
    refine ⟨by simp, fun c member => ?_, fun c here => marked.opens c (first.symm.trans here),
      fun c here => marked'.closes c (last.symm.trans here), ?_⟩
    · rcases List.mem_append.mp member with there | there
      · exact marked.chars c there
      · rcases List.mem_cons.mp there with rfl | there
        · decide
        · exact marked'.chars c there
    · refine List.isChain_append.mpr ⟨marked.apart, List.isChain_cons.mpr ⟨?_, marked'.apart⟩, ?_⟩
      · intro c here
        rw [markPair_dot_left, marked'.opens c here]
        exact Bool.false_ne_true
      · rintro c here _ ⟨⟩
        rw [markPair_dot_right, marked.closes c here]
        exact Bool.false_ne_true

/-- The first dot of a well marked text ends its first label. -/
theorem Labelled.of_wellMarked {text : List Char} (marked : WellMarked text) : Labelled text := by
  rcases clean_or_append '.' text with clean | ⟨label, rest, clean, whole⟩
  · exact .single ((wellMarked_iff_isLabel clean).mp marked)
  · have shorter : rest.length < text.length := by
      rw [whole, List.length_append, List.length_cons]
      omega
    rw [whole] at marked ⊢
    obtain ⟨first, more⟩ := wellMarked_append.mp marked
    exact .dot ((wellMarked_iff_isLabel clean).mp first) (.of_wellMarked more)
termination_by text.length

/-- **Marks stand as they may just when the text is made of labels.** -/
theorem wellMarked_iff_labelled : WellMarked text ↔ Labelled text := by
  refine ⟨.of_wellMarked, fun labelled => ?_⟩
  induction labelled with
  | single isLabel => exact (wellMarked_iff_isLabel isLabel.clean).mpr isLabel
  | dot isLabel _ ih =>
      exact wellMarked_append.mpr ⟨(wellMarked_iff_isLabel isLabel.clean).mpr isLabel, ih⟩

/-! ## Addresses -/

theorem isDigit_iff {c : Char} : Text.isDigit c = true ↔ c.isDigit = true := by
  rw [Text.isDigit, Text.digit?]
  split
  · next digit => simpa [Char.isDigit, Char.le_def] using digit
  · next other => simpa [Char.isDigit, Char.le_def] using other

theorem isOctet_iff : isOctet label = true ↔ IsOctet label := by
  have digits : label.all Text.isDigit = true ↔ ∀ c, c ∈ label → c.isDigit := by
    simp only [List.all_eq_true, isDigit_iff]
  simp only [isOctet, Bool.and_eq_true, Bool.not_eq_true', List.isEmpty_eq_false_iff,
    decide_eq_true_eq, digits]
  constructor
  · rintro ⟨⟨⟨filled, short⟩, all⟩, read⟩
    refine ⟨filled, short, all, Nat.le_of_not_lt fun past => ?_⟩
    rw [natural_of_digits filled all, digitsFrom_eq_error all (Nat.zero_le _) past] at read
    cases read
  · rintro ⟨filled, short, all, small⟩
    refine ⟨⟨⟨filled, short⟩, all⟩, ?_⟩
    rw [natural_of_digits filled all, digitsFrom_eq_ok all small]
    rfl

theorem IsOctet.clean (isOctet : IsOctet label) : '.' ∉ label := fun member =>
  absurd (isOctet.digits '.' member) (by decide)

theorem isAddress_iff : isAddress text = true ↔ IsAddress text := by
  simp only [isAddress, Bool.and_eq_true, beq_iff_eq, List.all_eq_true, isOctet_iff]
  constructor
  · rintro ⟨four, all⟩
    exact ⟨pieces '.' text, four, all, (intercalate_pieces '.' text).symm⟩
  · rintro ⟨labels, four, all, rfl⟩
    have some : labels ≠ [] := by
      rintro rfl
      cases four
    rw [pieces_intercalate some fun label member => (all label member).clean]
    exact ⟨four, all⟩

/-! ## Names -/

/-- A name passes when it keeps every rule. -/
theorem checkBucket_eq_ok_iff_rules {name : String} : checkBucket name = .ok () ↔
    (3 ≤ name.utf8ByteSize ∧ name.utf8ByteSize ≤ 63) ∧ WellMarked name.toList ∧
      isAddress name.toList = false := by
  have length : ¬ (name.utf8ByteSize < minBucketLength ∨ maxBucketLength < name.utf8ByteSize) ↔
      3 ≤ name.utf8ByteSize ∧ name.utf8ByteSize ≤ 63 := by
    unfold minBucketLength maxBucketLength
    omega
  have ends : (name.toList.head?.any isMark || name.toList.getLast?.any isMark) = false ↔
      (∀ c, name.toList.head? = some c → isMark c = false) ∧
        ∀ c, name.toList.getLast? = some c → isMark c = false := by
    rw [Bool.or_eq_false_iff, Option.any_eq_false, Option.any_eq_false]
  simp only [checkBucket, Results.guard_eq_ok_iff, and_true, length, Bool.not_eq_true, ends]
  constructor
  · rintro ⟨length, chars, ends, marks, address⟩
    have filled : name.toList ≠ [] := by
      intro none
      rw [String.toList_eq_nil_iff.mp none] at length
      exact absurd length.1 (by decide)
    refine ⟨length, ⟨filled, ?_, ends.1, ends.2, hasMarkPair_eq_false_iff.mp marks⟩, address⟩
    simpa using chars
  · rintro ⟨length, marked, address⟩
    refine ⟨length, ?_, ⟨marked.opens, marked.closes⟩, hasMarkPair_eq_false_iff.mpr marked.apart,
      address⟩
    simpa using marked.chars

theorem isBucketName_iff {bucket : String} :
    isBucketName bucket = true ↔ checkBucket bucket = .ok () := by
  unfold isBucketName
  cases checkBucket bucket with
  | ok _ => exact iff_of_true rfl rfl
  | error fault => exact iff_of_false nofun nofun

section

variable {bucket : String} (named : checkBucket bucket = .ok ())

include named

theorem of_checkBucket : 3 ≤ bucket.utf8ByteSize ∧ ∀ c, c ∈ bucket.toList → isBucketChar c := by
  obtain ⟨length, marked, -⟩ := checkBucket_eq_ok_iff_rules.mp named
  exact ⟨length.1, marked.chars⟩

theorem bucket_ne_empty : bucket ≠ "" := by
  rintro rfl
  exact absurd (of_checkBucket named).1 (by decide)

theorem slashless_bucket : '/' ∉ bucket.toList := fun member =>
  absurd ((of_checkBucket named).2 '/' member) (by decide)

/-- No control character stands in the name of a bucket. -/
theorem clean_bucket : bucket.toList.any isControl = false := by
  rw [List.any_eq_false]
  intro c member
  have known := (of_checkBucket named).2 c member
  have small := ascii_of_isBucketChar known
  rw [Bool.not_eq_true]
  revert known
  exact of_ascii (by decide) small

end

/-- **A bucket name is checked against its grammar.**  A text is let through just when it has
between 3 and 63 bytes, is made of labels with dots between them, and is no address. -/
theorem checkBucket_eq_ok_iff (name : String) : checkBucket name = .ok () ↔
    (3 ≤ name.utf8ByteSize ∧ name.utf8ByteSize ≤ 63) ∧ Labelled name.toList ∧
      ¬ IsAddress name.toList := by
  rw [checkBucket_eq_ok_iff_rules, wellMarked_iff_labelled, ← isAddress_iff, Bool.not_eq_true]

/-- Four numbers are an address only when none is above 255. -/
example : checkBucket "10.0.0.256" = .ok () ∧ checkBucket "10.0.0.255" = .error .address := by
  decide

end Depot.Name

import Depot.Proofs.Completions
import Mathlib.Data.List.Forall2

/-!
# Spellings of a request to complete an upload

One request to complete an upload can be written in many ways.  The root may have
attributes, the number and the digest of a part come in either order, there are
blanks between the elements, and each character of a digest stands for itself, has
an entity, or is written by its number.  All these documents ask for the same
parts, but that characters are not read from their numbers: a reference to a
number stays as it was written (`requestedParts?_spelled`).
-/

namespace Depot.Xml

set_option autoImplicit false

open Depot.Text

/-! ## Characters -/

/-- What is no digit to the base sixteen is not among the digits of a number, small or capital. -/
theorem not_mem_of_hexadecimal {digits : List Char} {zeros n : Nat}
    (number : digits.map Char.toLower = List.replicate zeros '0' ++ Nat.toDigits 16 n) {c : Char}
    (kept : c.toLower = c) (other : ∀ k : Fin 16, c ≠ k.val.digitChar) : c ∉ digits := by
  intro member
  have listed : c ∈ List.replicate zeros '0' ++ Nat.toDigits 16 n :=
    number ▸ List.mem_map.mpr ⟨c, member, kept⟩
  rcases List.mem_append.mp listed with zero | digit
  · exact other 0 (List.eq_of_mem_replicate zero)
  · obtain ⟨k, small, same⟩ := mem_toDigits (by decide) digit
    exact other ⟨k, small⟩ same

/-- A way of writing a character in a document. -/
inductive Spelling where
  /-- The character itself. -/
  | literal (c : Char) (opens : c ≠ '<') (refers : c ≠ '&')
  /-- One of the five entities. -/
  | entity (c : Char) (special : c ∈ ['&', '<', '>', '\x22', '\x27'])
  /-- The number of the character in decimal, with some zeros before it. -/
  | decimal (c : Char) (zeros : Nat)
  /-- The number in hexadecimal digits, small or capital, with some zeros before it. -/
  | hexadecimal (c : Char) (zeros : Nat) (digits : List Char)
      (number : digits.map Char.toLower = List.replicate zeros '0' ++ Nat.toDigits 16 c.toNat)

namespace Spelling

/-- The character that is written. -/
def char : Spelling → Char
  | literal c _ _ => c
  | entity c _ => c
  | decimal c _ => c
  | hexadecimal c _ _ _ => c

/-- What is written. -/
def text : Spelling → List Char
  | literal c _ _ => [c]
  | entity c _ => escapeChar c
  | decimal c zeros => "&#".toList ++ (List.replicate zeros '0' ++ Nat.toDigits 10 c.toNat) ++ [';']
  | hexadecimal _ _ digits _ => "&#x".toList ++ digits ++ [';']

/-- Whether the character is written by its number. -/
def isNumeric : Spelling → Bool
  | literal _ _ _ => false
  | entity _ _ => false
  | decimal _ _ => true
  | hexadecimal _ _ _ _ => true

/-- What is read: the character, or the reference to its number. -/
def read (spelling : Spelling) : List Char :=
  if spelling.isNumeric then spelling.text else [spelling.char]

/-- A reference to a number is written without any marks of tags and entities but its first. -/
theorem text_of_isNumeric {spelling : Spelling} (numeric : spelling.isNumeric) :
    ∃ inside, spelling.text = '&' :: ('#' :: inside ++ [';']) ∧ '&' ∉ inside ∧ '<' ∉ inside := by
  cases spelling with
  | literal c opens refers => cases numeric
  | entity c special => cases numeric
  | decimal c zeros => exact ⟨_, rfl, by simp [not_mem_toDigits], by simp [not_mem_toDigits]⟩
  | hexadecimal c zeros digits number =>
      have amp : '&' ∉ digits := not_mem_of_hexadecimal number (by decide) (by decide)
      have less : '<' ∉ digits := not_mem_of_hexadecimal number (by decide) (by decide)
      exact ⟨'x' :: digits, rfl, by simp [amp], by simp [less]⟩

/-- What is written of a character is no tag. -/
theorem clean_text (spelling : Spelling) : '<' ∉ spelling.text := by
  cases numeric : spelling.isNumeric with
  | true =>
      obtain ⟨inside, written, -, less⟩ := text_of_isNumeric numeric
      rw [written]
      simp [less]
  | false =>
      cases spelling with
      | literal c opens refers => simp [text, opens.symm]
      | entity c special => exact clean_escapeChar c
      | decimal c zeros => cases numeric
      | hexadecimal c zeros digits number => cases numeric

/-- **What is written of a character is read as the character, or as it was written.** -/
theorem unescapeChars_text (spelling : Spelling) (rest : List Char) :
    unescapeChars (spelling.text ++ rest) = spelling.read ++ unescapeChars rest := by
  cases numeric : spelling.isNumeric with
  | true =>
      obtain ⟨inside, written, amp, -⟩ := text_of_isNumeric numeric
      have mark (more : List Char) :
          unescapeChars ('&' :: '#' :: more) = '&' :: unescapeChars ('#' :: more) := rfl
      have bare : '&' ∉ '#' :: inside ++ [';'] := by simp [amp]
      rw [read, if_pos numeric, written, List.cons_append, List.cons_append, List.cons_append,
        mark, ← List.cons_append, ← List.cons_append, unescapeChars_append bare]
      rfl
  | false =>
      rw [read, if_neg (by simp [numeric])]
      cases spelling with
      | literal c opens refers => exact unescapeChars_cons rest refers
      | entity c special => exact unescapeChars_escapeChar c rest
      | decimal c zeros => cases numeric
      | hexadecimal c zeros digits number => cases numeric

end Spelling

/-! ## Digests -/

def spelledChars (digest : List Spelling) : List Char := digest.map Spelling.char

def spelledText (digest : List Spelling) : List Char := digest.flatMap Spelling.text

def readChars (digest : List Spelling) : List Char := digest.flatMap Spelling.read

theorem clean_spelledText (digest : List Spelling) : '<' ∉ spelledText digest := by
  intro member
  obtain ⟨spelling, -, inside⟩ := List.mem_flatMap.mp member
  exact spelling.clean_text inside

theorem unescapeChars_spelledText (digest : List Spelling) :
    unescapeChars (spelledText digest) = readChars digest := by
  induction digest with
  | nil => rfl
  | cons spelling rest ih =>
      rw [spelledText, List.flatMap_cons, spelling.unescapeChars_text]
      exact congrArg (spelling.read ++ ·) ih

/-- A reference to a number is longer than the character that it stands for. -/
theorem one_lt_length_read {spelling : Spelling} (numeric : spelling.isNumeric) :
    1 < spelling.read.length := by
  obtain ⟨inside, written, -⟩ := Spelling.text_of_isNumeric numeric
  rw [Spelling.read, if_pos numeric, written]
  simp

theorem read_of_not_isNumeric {spelling : Spelling} (plain : spelling.isNumeric = false) :
    spelling.read = [spelling.char] := by
  rw [Spelling.read, if_neg (by simp [plain])]

theorem length_le_readChars (digest : List Spelling) :
    digest.length ≤ (readChars digest).length := by
  induction digest with
  | nil => exact Nat.le_refl 0
  | cons spelling rest ih =>
      have least : 1 ≤ spelling.read.length := by
        cases numeric : spelling.isNumeric with
        | true => exact Nat.le_of_lt (one_lt_length_read numeric)
        | false => exact Nat.le_of_eq (by rw [read_of_not_isNumeric numeric]; rfl)
      rw [readChars, List.flatMap_cons, List.length_append, List.length_cons, Nat.add_comm]
      exact Nat.add_le_add least ih

/-- **A digest is read as its characters just when none of them is written by its number.** -/
theorem readChars_eq_iff {digest : List Spelling} :
    readChars digest = spelledChars digest ↔
      ∀ spelling, spelling ∈ digest → spelling.isNumeric = false := by
  induction digest with
  | nil => simp [readChars, spelledChars]
  | cons spelling rest ih =>
      have first : readChars (spelling :: rest) = spelling.read ++ readChars rest :=
        List.flatMap_cons
      have whole : spelledChars (spelling :: rest) = [spelling.char] ++ spelledChars rest := rfl
      rw [first, whole, List.forall_mem_cons]
      cases numeric : spelling.isNumeric with
      | true =>
          refine iff_of_false (fun same => ?_) (by simp)
          have lengths := congrArg List.length same
          have long := one_lt_length_read numeric
          have least := length_le_readChars rest
          rw [List.length_append, List.length_append, List.length_singleton, spelledChars,
            List.length_map] at lengths
          omega
      | false => rw [read_of_not_isNumeric numeric, List.append_right_inj, ih, and_iff_right rfl]

/-- What is written of a character that is no blank neither begins nor ends with one. -/
theorem Spelling.text_ends {spelling : Spelling} (solid : isBlank spelling.char = false) :
    (∃ c, spelling.text.head? = some c ∧ isBlank c = false) ∧
      ∃ c, spelling.text.getLast? = some c ∧ isBlank c = false := by
  cases numeric : spelling.isNumeric with
  | true =>
      obtain ⟨inside, written, -⟩ := text_of_isNumeric numeric
      rw [written, ← List.cons_append, List.getLast?_concat]
      exact ⟨⟨'&', rfl, by decide⟩, ';', rfl, by decide⟩
  | false =>
      cases spelling with
      | literal c opens refers => exact ⟨⟨c, rfl, solid⟩, c, rfl, solid⟩
      | entity c special =>
          have ends : (escapeChar c).head? = some '&' ∧ (escapeChar c).getLast? = some ';' := by
            simp only [List.mem_cons, List.not_mem_nil, or_false] at special
            rcases special with rfl | rfl | rfl | rfl | rfl <;> exact ⟨rfl, rfl⟩
          exact ⟨⟨'&', ends.1, by decide⟩, ';', ends.2, by decide⟩
      | decimal c zeros => cases numeric
      | hexadecimal c zeros digits number => cases numeric

/-- A digest without blanks at its ends has none in the document either. -/
theorem trimBlank_spelledText {digest : List Spelling}
    (opens : ∀ c, (spelledChars digest).head? = some c → isBlank c = false)
    (closes : ∀ c, (spelledChars digest).getLast? = some c → isBlank c = false) :
    trimBlank (spelledText digest) = spelledText digest := by
  refine trim_eq_self (fun c leads => ?_) fun c ends => ?_
  · cases digest with
    | nil => cases leads
    | cons spelling rest =>
        obtain ⟨⟨first, known, solid⟩, -⟩ := Spelling.text_ends (opens spelling.char rfl)
        rw [spelledText, List.flatMap_cons, List.head?_append, known] at leads
        exact Option.some.inj leads ▸ solid
  · rcases List.eq_nil_or_concat' digest with rfl | ⟨init, spelling, rfl⟩
    · cases ends
    · have final : (spelledChars (init ++ [spelling])).getLast? = some spelling.char := by
        simp [spelledChars]
      obtain ⟨-, last, known, solid⟩ := Spelling.text_ends (closes spelling.char final)
      rw [spelledText, List.flatMap_append, List.flatMap_singleton, List.getLast?_append,
        known] at ends
      exact Option.some.inj ends ▸ solid

/-! ## Documents -/

abbrev Gap := { text : String // '<' ∉ text.toList }

/-- A part that is spelled out: its number, and a digest without blanks at its ends. -/
structure SpelledPart where
  number : Int64
  digest : List Spelling
  opens : ∀ c, (spelledChars digest).head? = some c → isBlank c = false
  closes : ∀ c, (spelledChars digest).getLast? = some c → isBlank c = false
  /-- Whether the number comes first. -/
  numberFirst : Bool
  before : Gap
  between : Gap
  after : Gap

namespace SpelledPart

/-- The elements of the number and the digest in their order. -/
def elements (part : SpelledPart) : String :=
  let number := element "PartNumber" (signedDecimal part.number.toInt)
  let digest := element "ETag" (String.ofList (spelledText part.digest))
  if part.numberFirst then number ++ part.between.val ++ digest
  else digest ++ part.between.val ++ number

/-- What stands in the element of a part. -/
def text (part : SpelledPart) : String := part.before.val ++ part.elements ++ part.after.val

def meant (part : SpelledPart) : RequestedPart :=
  ⟨part.number.toInt, String.ofList (spelledChars part.digest)⟩

/-- The part that is asked for. -/
def asked (part : SpelledPart) : RequestedPart :=
  ⟨part.number.toInt, String.ofList (readChars part.digest)⟩

end SpelledPart

/-- A document that is spelled out.  No part begins before its root, and each part is followed by
a text. -/
structure SpelledDocument where
  lead : String
  first : Free (openTag "Part".toList) lead.toList
  attributes : String
  opens : '<' ∉ attributes.toList
  start : Gap
  parts : List (SpelledPart × Gap)
  tail : Gap

/-- What stands in the root. -/
def SpelledDocument.content (document : SpelledDocument) : String :=
  document.start.val ++
    String.join (document.parts.map fun part => element "Part" part.1.text ++ part.2.val)

/-- The text of a document. -/
def SpelledDocument.text (document : SpelledDocument) : String :=
  document.lead ++ ("<CompleteMultipartUpload" ++ document.attributes ++ ">" ++
    document.content ++ "</CompleteMultipartUpload>" ++ document.tail.val)

/-! ## Reading -/

theorem Gap.markup (gap : Gap) : Markup gap.val [] := .text gap.property

/-- A part is markup, with one number and one digest as they are written. -/
theorem SpelledPart.markup (part : SpelledPart) :
    ∃ parts, Markup part.text parts ∧ (∀ inner, inner ∈ parts → inner.1 ≠ "Part") ∧
      contentsOf "PartNumber" parts = [signedDecimal part.number.toInt] ∧
      contentsOf "ETag" parts = [String.ofList (spelledText part.digest)] := by
  have number : Markup (element "PartNumber" (signedDecimal part.number.toInt)) _ :=
    .plain (by decide) (not_mem_signedDecimal (by decide) (by decide) _)
  have digest : Markup (element "ETag" (String.ofList (spelledText part.digest))) _ :=
    .plain (by decide) (by rw [String.toList_ofList]; exact clean_spelledText _)
  unfold text elements
  dsimp only
  cases part.numberFirst with
  | true =>
      exact ⟨_, .append (.append part.before.markup
        (.append (.append number part.between.markup) digest)) part.after.markup,
        by simp, by simp, by simp⟩
  | false =>
      exact ⟨_, .append (.append part.before.markup
        (.append (.append digest part.between.markup) number)) part.after.markup,
        by simp, by simp, by simp⟩

/-- The entry of a part, as its elements hold it. -/
def SpelledPart.entry (part : SpelledPart) : String × String :=
  (signedDecimal part.number.toInt, String.ofList (spelledText part.digest))

theorem SpelledPart.names (part : SpelledPart) : NamesPart part.text part.entry := by
  obtain ⟨parts, markup, -, number, digest⟩ := part.markup
  exact ⟨parts, markup, number, digest⟩

theorem partAsked?_entry (part : SpelledPart) : partAsked? part.entry = some part.asked := by
  rw [SpelledPart.entry, partAsked?_toInt, String.toList_ofList,
    trimBlank_spelledText part.opens part.closes, unescapeChars_spelledText]
  rfl

/-- The content of a document is markup that shows its parts. -/
theorem SpelledDocument.markup (document : SpelledDocument) :
    ∃ parts, Markup document.content parts ∧
      contentsOf "Part" parts = document.parts.map fun part => part.1.text := by
  choose inner markup apart names using SpelledPart.markup
  have each (part : SpelledPart × Gap) :
      Markup (element "Part" part.1.text ++ part.2.val)
        (("Part", part.1.text) :: inner part.1 ++ []) :=
    .append (.element (by decide) (markup part.1) (apart part.1)) part.2.markup
  refine ⟨_, .append document.start.markup (Markup.join fun part _ => each part), ?_⟩
  have none (part : SpelledPart × Gap) : contentsOf "Part" (inner part.1) = [] :=
    contentsOf_eq_nil (apart part.1)
  simp [none, List.map_eq_flatMap]

/-- **A document asks for the parts that it spells out, with references to numbers left as they
are.**  So it asks for the parts that are meant just when no character of a digest is written by its
number. -/
theorem requestedParts?_spelled (document : SpelledDocument) :
    requestedParts? document.text = some (document.parts.map fun part => part.1.asked) ∧
    (requestedParts? document.text = some (document.parts.map fun part => part.1.meant) ↔
      ∀ part, part ∈ document.parts → ∀ spelling, spelling ∈ part.1.digest →
        spelling.isNumeric = false) := by
  have read : requestedParts? document.text =
      some (document.parts.map fun part => part.1.asked) := by
    obtain ⟨parts, markup, shown⟩ := document.markup
    obtain ⟨asks, elements⟩ := elements_of_root (show document.text = _ from rfl) document.first
      document.opens markup document.tail.property
    rw [shown] at elements
    have lists : List.Forall₂ NamesPart (document.parts.map fun part => part.1.text)
        (document.parts.map fun part => part.1.entry) := by
      rw [List.forall₂_map_left_iff, List.forall₂_map_right_iff, List.forall₂_same]
      exact fun part _ => part.1.names
    have each (part : SpelledPart × Gap) : partAsked? part.1.entry = some part.1.asked :=
      partAsked?_entry part.1
    rw [requestedParts?_of_elements asks elements lists]
    exact mapM_map_eq_some each document.parts
  refine ⟨read, ?_⟩
  rw [read, Option.some_inj, List.map_inj_left]
  refine forall₂_congr fun part _ => ?_
  rw [← readChars_eq_iff, SpelledPart.asked, SpelledPart.meant, RequestedPart.mk.injEq,
    and_iff_right rfl, String.ofList_inj]

namespace TwoParts

def nothing : Gap := ⟨"", by simp⟩

def lineBreak : Gap := ⟨"\n", by decide⟩

/-- The first quote of the digest is written by its number. -/
def first : SpelledPart where
  number := 1
  digest := [.decimal '\x22' 0, .literal 'a' (by decide) (by decide), .entity '\x22' (by decide)]
  opens := by
    rintro _ ⟨⟩
    decide
  closes := by
    rintro _ ⟨⟩
    decide
  numberFirst := false
  before := lineBreak
  between := lineBreak
  after := lineBreak

def second : SpelledPart where
  number := 2
  digest := [.literal 'b' (by decide) (by decide)]
  opens := by
    rintro _ ⟨⟩
    decide
  closes := by
    rintro _ ⟨⟩
    decide
  numberFirst := true
  before := nothing
  between := nothing
  after := nothing

def document : SpelledDocument where
  lead := declaration
  first := by
    have known : isName "Part" := by decide
    rw [toList_declaration]
    exact (free_document known known).1
  attributes := rootAttribute
  opens := clean_rootAttribute.1
  start := lineBreak
  parts := [(first, lineBreak), (second, nothing)]
  tail := nothing

end TwoParts

/-- A quote that is written by its number is no quote to the reader. -/
theorem spelled_by_number :
    TwoParts.document.text = declaration ++
      ("<CompleteMultipartUpload" ++ rootAttribute ++ ">" ++
        "\n<Part>\n<ETag>&#34;a&quot;</ETag>\n<PartNumber>1</PartNumber>\n</Part>\n" ++
        "<Part><PartNumber>2</PartNumber><ETag>b</ETag></Part>" ++
        "</CompleteMultipartUpload>") ∧
      requestedParts? TwoParts.document.text = some [⟨1, "&#34;a\x22"⟩, ⟨2, "b"⟩] ∧
      requestedParts? TwoParts.document.text ≠ some [⟨1, "\x22a\x22"⟩, ⟨2, "b"⟩] := by
  obtain ⟨read, meant⟩ := requestedParts?_spelled TwoParts.document
  refine ⟨by decide +kernel, read, fun same => ?_⟩
  have plain := meant.mp same (TwoParts.first, TwoParts.lineBreak) (.head _) (.decimal '\x22' 0)
    (.head _)
  cases plain

end Depot.Xml

import Depot.Proofs.Auth.Verification
import Depot.Proofs.Documents
import Depot.Proofs.RoundTrips

/-!
# Requests to complete an upload

A client completes an upload with a document that lists parts by their numbers
and digests.  The document is written by hand as often as by a program: there may
be a declaration, attributes on the root, blanks between the elements, the number
and the digest in either order, and elements that are not looked at.  Of all that
only the texts of the numbers and digests count (`requestedParts?_eq`).

The digest of a part reaches the client in three forms, each of which it may send
back: quoted in a header, with entities in a document, or quoted and escaped by
the client itself (`partAsked?_header`, `partAsked?_escaped`).
-/

namespace Depot.Xml

set_option autoImplicit false

open Depot.Auth
open Depot.Text

/-! ## Documents -/

/-- Inside the element of a part, its number and its digest, as their elements hold them. -/
def NamesPart (content : String) (entry : String × String) : Prop :=
  ∃ parts, Markup content parts ∧ contentsOf "PartNumber" parts = [entry.1] ∧
    contentsOf "ETag" parts = [entry.2]

/-- A document that asks to complete an upload, with the entries that it lists.  No part begins
before the root, whose tag may have attributes. -/
inductive CompletionText : String → List (String × String) → Prop where
  | intro {lead attributes content tail : String} {parts entries : List (String × String)}
      (first : Free (openTag "Part".toList) lead.toList)
      (opens : '<' ∉ attributes.toList) (closes : '>' ∉ attributes.toList)
      (markup : Markup content parts)
      (lists : List.Forall₂ NamesPart (contentsOf "Part" parts) entries)
      (last : '<' ∉ tail.toList) :
      CompletionText
        (lead ++ ("<CompleteMultipartUpload" ++ attributes ++ ">" ++ content ++
          "</CompleteMultipartUpload>" ++ tail)) entries

/-! ## Reading -/

/-- The part that an entry asks for. -/
def partAsked? (entry : String × String) : Option RequestedPart := do
  let number ← (integer maxSigned64 (trimBlank entry.1.toList)).toOption
  return ⟨number, String.ofList (unescapeChars (trimBlank entry.2.toList))⟩

theorem elementChars_of_elements {name text : String} {contents : List String}
    (shown : elements name text = contents) :
    elementChars name.toList text.toList = contents.map String.toList := by
  subst shown
  simp [elements, List.map_map]

theorem requestedPart?_of_names {content : String} {entry : String × String}
    (names : NamesPart content entry) : requestedPart? content.toList = partAsked? entry := by
  obtain ⟨parts, markup, number, etag⟩ := names
  have numbers := elementChars_of_elements
    ((markup.elements_eq (show isName "PartNumber" by decide)).trans number)
  have etags := elementChars_of_elements
    ((markup.elements_eq (show isName "ETag" by decide)).trans etag)
  unfold requestedPart?
  rw [numbers, etags]
  rfl

/-- A word occurs where it was written. -/
theorem hasWord_append {α : Type} [BEq α] [LawfulBEq α] (before word after : List α) :
    hasWord word (before ++ (word ++ after)) = true :=
  hasWord_iff.mpr ⟨before, after, (List.append_assoc ..).symm⟩

/-- A document shows the parts of its content, and that it asks for a completion, whatever
attributes its root has. -/
theorem elements_of_root {text lead attributes content tail : String}
    {parts : List (String × String)}
    (whole : text = lead ++ ("<CompleteMultipartUpload" ++ attributes ++ ">" ++ content ++
      "</CompleteMultipartUpload>" ++ tail))
    (first : Free (openTag "Part".toList) lead.toList) (opens : '<' ∉ attributes.toList)
    (markup : Markup content parts) (last : '<' ∉ tail.toList) :
    hasWord "<CompleteMultipartUpload".toList text.toList = true ∧
      elements "Part" text = contentsOf "Part" parts := by
  let root := "CompleteMultipartUpload"
  have known : isName "Part" := by decide
  have rooted : '<' ∉ root.toList := by decide
  have chars : text.toList =
      lead.toList ++ (openTag (root.toList ++ attributes.toList) ++ (content.toList ++
        (closeTag root.toList ++ tail.toList))) := by
    have opened : "<CompleteMultipartUpload".toList = '<' :: root.toList := by decide
    have closed : "</CompleteMultipartUpload>".toList = closeTag root.toList := by decide
    have greater : ">".toList = ['>'] := by decide
    simp only [whole, String.toList_append, opened, closed, greater]
    generalize root.toList = name
    generalize closeTag name = ending
    simp [openTag]
  constructor
  · have opened : openTag (root.toList ++ attributes.toList) =
        "<CompleteMultipartUpload".toList ++ (attributes.toList ++ ['>']) := by
      have word : "<CompleteMultipartUpload".toList = '<' :: root.toList := by decide
      simp [openTag, word]
    rw [chars, opened, List.append_assoc]
    exact hasWord_append _ _ _
  · have start : Free (openTag "Part".toList) (openTag (root.toList ++ attributes.toList)) := by
      have named : "Part".toList = 'P' :: "art".toList ∧
          root.toList = 'C' :: "ompleteMultipartUpload".toList := by decide
      rw [named.2] at rooted
      rw [named.1, named.2]
      refine free_openTag_of_head (by decide) ?_
      exact List.not_mem_append rooted opens
    have ending := (free_of_isName ('/' :: root.toList) (by decide) (by decide) known).1
      (by decide)
    have rest := elementChars_append (free_of_clean last "Part".toList) []
    rw [List.append_nil] at rest
    rw [elements, chars, elementChars_append first, elementChars_append start,
      markup.elementChars_append known,
      show closeTag root.toList = openTag ('/' :: root.toList) from rfl,
      elementChars_append ending, rest]
    simp [elementChars, elementsFrom, cutAtWord_nil, openTag]

theorem mapM_of_forall₂ {α β γ : Type} {f : α → Option γ} {g : β → Option γ}
    {related : α → β → Prop} (same : ∀ {a b}, related a b → f a = g b) {list : List α}
    {list' : List β} (each : List.Forall₂ related list list') : list.mapM f = list'.mapM g := by
  induction each with
  | nil => rfl
  | cons first _ ih => rw [List.mapM_cons, List.mapM_cons, same first, ih]

/-- Where the parts of a request are shown, only the texts of their numbers and digests count. -/
theorem requestedParts?_of_elements {text : String} {contents : List String}
    {entries : List (String × String)}
    (asks : hasWord "<CompleteMultipartUpload".toList text.toList = true)
    (shown : elements "Part" text = contents) (lists : List.Forall₂ NamesPart contents entries) :
    requestedParts? text = entries.mapM partAsked? := by
  have parts := elementChars_of_elements shown
  have read : contents.mapM (fun content => requestedPart? content.toList) =
      entries.mapM partAsked? := by
    refine mapM_of_forall₂ (fun {content entry} names => ?_) lists
    exact requestedPart?_of_names names
  unfold requestedParts?
  simp only [asks, if_true]
  rw [parts, List.mapM_map]
  exact read

/-- **Only the texts of the numbers and digests count.** -/
theorem requestedParts?_eq {text : String} {entries : List (String × String)}
    (document : CompletionText text entries) :
    requestedParts? text = entries.mapM partAsked? := by
  cases document with
  | intro first opens closes markup lists last =>
      obtain ⟨asks, shown⟩ := elements_of_root rfl first opens markup last
      exact requestedParts?_of_elements asks shown lists

/-! ## Uploads as they are announced -/

/-- The name of an upload is read from the document that announces it. -/
theorem textOf?_uploadDocument (bucket key upload : String) :
    textOf? "UploadId" (uploadDocument bucket key upload) = some upload := by
  have known : isName "UploadId" := by decide
  have markup := Markup.append (Markup.append
    (Markup.textElement (show isName "Bucket" by decide) bucket)
    (Markup.textElement (show isName "Key" by decide) key))
    (Markup.textElement known upload)
  have read : elements "UploadId" (uploadDocument bucket key upload) = [escape upload] :=
    (markup.elements_document (show isName "InitiateMultipartUploadResult" by decide) known).trans
      (by simp)
  rw [textOf?, read, List.head?_cons, Option.map_some, unescape_escape]

/-! ## Parts as they are listed -/

/-- What is written of a part. -/
def partText (part : ListedPart) : String :=
  element "PartNumber" (signedDecimal part.number) ++
    element "LastModified" part.stored.timestamp ++
    textElement "ETag" ("\x22" ++ part.etag ++ "\x22") ++ element "Size" (signedDecimal part.size)

/-- The elements of a part. -/
def partElements (part : ListedPart) : List (String × String) :=
  [("PartNumber", signedDecimal part.number)] ++ [("LastModified", part.stored.timestamp)] ++
    [("ETag", escape ("\x22" ++ part.etag ++ "\x22"))] ++ [("Size", signedDecimal part.size)]

theorem markup_partText (part : ListedPart) : Markup (partText part) (partElements part) := by
  unfold partText partElements
  iterate 3 refine .append ?_ ?_
  · exact .plain (by decide) (not_mem_signedDecimal (by decide) (by decide) _)
  · exact .plain (by decide) (clean_timestamp _)
  · exact .textElement (by decide) _
  · exact .plain (by decide) (not_mem_signedDecimal (by decide) (by decide) _)

/-- A listed part shows its number and its digest. -/
theorem elements_partText (part : ListedPart) :
    elements "PartNumber" (partText part) = [signedDecimal part.number] ∧
      elements "ETag" (partText part) = [escape ("\x22" ++ part.etag ++ "\x22")] := by
  rw [(markup_partText part).elements_eq (by decide),
    (markup_partText part).elements_eq (by decide)]
  simp [partElements]

/-- The parts of an upload are listed in their order. -/
theorem elements_partsDocument (bucket key upload : String) (parts : List ListedPart) :
    elements "Part" (partsDocument bucket key upload parts) = parts.map partText := by
  have entries := Markup.join fun (part : ListedPart) (_ : part ∈ parts) =>
    Markup.element (show isName "Part" by decide) (markup_partText part)
      (by simp [partElements])
  have markup := Markup.append (Markup.append (Markup.append (Markup.append
    (Markup.textElement (show isName "Bucket" by decide) bucket)
    (Markup.textElement (show isName "Key" by decide) key))
    (Markup.textElement (show isName "UploadId" by decide) upload))
    (Markup.plain (show isName "IsTruncated" by decide) (show '<' ∉ "false".toList by decide)))
    entries
  refine (markup.elements_document (show isName "ListPartsResult" by decide) (by decide)).trans ?_
  simp [partElements, List.map_eq_flatMap]

/-! ## Entries in the forms that clients know -/

/-- Text whose first and last characters are not blank has no blanks to trim. -/
theorem trimBlank_of_ends {first last : Char} {middle : List Char} (opens : isBlank first = false)
    (closes : isBlank last = false) :
    trimBlank (first :: (middle ++ [last])) = first :: (middle ++ [last]) := by
  refine trim_eq_self (fun c leads => ?_) fun c ends => ?_
  · cases leads
    exact opens
  · rw [← List.cons_append, List.getLast?_concat] at ends
    cases ends
    exact closes

/-- A number that was written has no blanks to trim. -/
theorem trimBlank_signedDecimal (n : Int) :
    trimBlank (signedDecimal n).toList = (signedDecimal n).toList := by
  have solid : ∀ c, c ∈ (signedDecimal n).toList → isBlank c = false := by
    intro c member
    cases n with
    | ofNat n => exact isBlank_of_isDigit (digits_decimal n c member)
    | negSucc n =>
        rw [signedDecimal, String.toList_append] at member
        rcases List.mem_append.mp member with sign | digit
        · rw [List.mem_singleton.mp sign]
          decide
        · exact isBlank_of_isDigit (digits_decimal _ c digit)
  exact trim_eq_self_of_forall solid

/-- A part is asked for by its number and by its digest, without the blanks at the ends. -/
theorem partAsked?_signedDecimal {n : Int} (low : -(maxSigned64 + 1 : Int) ≤ n)
    (high : n ≤ maxSigned64) (etag : String) :
    partAsked? (signedDecimal n, etag) =
      some ⟨n, String.ofList (unescapeChars (trimBlank etag.toList))⟩ := by
  rw [partAsked?, trimBlank_signedDecimal, integer_signedDecimal low high]
  rfl

theorem partAsked?_of_trimmed {n : Nat} (small : n ≤ maxSigned64) {etag : String}
    (trimmed : trimBlank etag.toList = etag.toList) :
    partAsked? (decimal n, etag) = some ⟨n, unescape etag⟩ := by
  have read := partAsked?_signedDecimal (n := n) (by omega) (Int.ofNat_le.mpr small) etag
  rw [trimmed] at read
  exact read

/-- Every number of 64 bits can be asked for. -/
theorem partAsked?_toInt (number : Int64) (etag : String) :
    partAsked? (signedDecimal number.toInt, etag) =
      some ⟨number.toInt, String.ofList (unescapeChars (trimBlank etag.toList))⟩ := by
  have low := number.le_toInt
  have high := number.toInt_lt
  exact partAsked?_signedDecimal (by unfold maxSigned64; omega) (by unfold maxSigned64; omega) etag

/-- Hexadecimal digits need neither trimming nor escaping. -/
theorem plain_of_hexDigit {c : Char} (digit : Hex.isDigit c) :
    isBlank c = false ∧ c ≠ '&' ∧ (c == '\x22') = false := by
  have ascii : c.toNat < 128 := Authorization.ascii_of_hexDigit digit
  revert digit
  exact of_ascii (by decide) ascii

/-- What stands between two quotes is trimmed of them, when it has none itself. -/
theorem trim_quoted {digits : List Char} (plain : ∀ c, c ∈ digits → (c == '\x22') = false) :
    trim (· == '\x22') ('\x22' :: (digits ++ ['\x22'])) = digits := by
  cases digits with
  | nil => rfl
  | cons c rest =>
      have start : trimStart (· == '\x22') ('\x22' :: ((c :: rest) ++ ['\x22'])) =
          (c :: rest) ++ ['\x22'] := by
        refine (List.dropWhile_cons_of_pos rfl).trans (dropWhile_eq_self fun a leads => ?_)
        cases leads
        exact plain c List.mem_cons_self
      have ends : (c :: rest).reverse.dropWhile (· == '\x22') = (c :: rest).reverse :=
        dropWhile_eq_self fun a leads => plain a (List.mem_reverse.mp (List.mem_of_head? leads))
      rw [trim, start, trimEnd, List.reverse_append]
      show (List.dropWhile _ ('\x22' :: (c :: rest).reverse)).reverse = _
      rw [List.dropWhile_cons_of_pos rfl, ends, List.reverse_reverse]

section

variable {digest : String}

theorem toList_quoted (digest : String) :
    ("\x22" ++ digest ++ "\x22").toList = '\x22' :: (digest.toList ++ ['\x22']) := by
  simp

/-- A digest in quotes that are escaped, as documents have it, is read without the entities. -/
theorem partAsked?_escaped {n : Nat} (small : n ≤ maxSigned64) (digest : String) :
    partAsked? (decimal n, escape ("\x22" ++ digest ++ "\x22")) =
      some ⟨n, "\x22" ++ digest ++ "\x22"⟩ := by
  have written : (escape ("\x22" ++ digest ++ "\x22")).toList =
      '&' :: ("quot;".toList ++ escapeChars digest.toList ++ "&quot".toList ++ [';']) := by
    rw [escape, String.toList_ofList, toList_quoted, escapeChars, List.flatMap_cons,
      List.flatMap_append]
    simp [escapeChars, escapeChar]
  have trimmed : trimBlank (escape ("\x22" ++ digest ++ "\x22")).toList =
      (escape ("\x22" ++ digest ++ "\x22")).toList := by
    rw [written]
    exact trimBlank_of_ends (by decide) (by decide)
  rw [partAsked?_of_trimmed small trimmed, unescape_escape]

/-- A digest in quotes, as headers have it, is read as it is. -/
theorem partAsked?_header {n : Nat} (small : n ≤ maxSigned64)
    (digits : ∀ c, c ∈ digest.toList → Hex.isDigit c) :
    partAsked? (decimal n, "\x22" ++ digest ++ "\x22") =
      some ⟨n, "\x22" ++ digest ++ "\x22"⟩ := by
  have trimmed : trimBlank ("\x22" ++ digest ++ "\x22").toList =
      ("\x22" ++ digest ++ "\x22").toList := by
    rw [toList_quoted]
    exact trimBlank_of_ends (by decide) (by decide)
  have bare : '&' ∉ ("\x22" ++ digest ++ "\x22").toList := by
    rw [toList_quoted]
    simpa using fun member => (plain_of_hexDigit (digits '&' member)).2.1 rfl
  rw [partAsked?_of_trimmed small trimmed, unescape_eq_self bare]

/-- Without its quotes a digest is what it was. -/
theorem plainEtag_quoted (digits : ∀ c, c ∈ digest.toList → Hex.isDigit c) :
    Store.plainEtag ("\x22" ++ digest ++ "\x22") = digest := by
  have trimmed : trimBlank ('\x22' :: (digest.toList ++ ['\x22'])) =
      '\x22' :: (digest.toList ++ ['\x22']) := trimBlank_of_ends (by decide) (by decide)
  rw [Store.plainEtag, toList_quoted, trimmed,
    trim_quoted fun c member => (plain_of_hexDigit (digits c member)).2.2, String.ofList_toList]

end

end Depot.Xml

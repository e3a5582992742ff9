import Depot.Proofs.Xml
import Depot.Xml.Documents

/-!
# Listings are read as they were written

A client takes from the document of a listing its number of keys, whether it is
cut off, the token of the next page, and the listed objects and common stems.
It finds exactly what was written (`ReadListing.ofText?_document`), whatever
characters the keys, stems and tokens have.  The same goes for the names of
buckets (`bucketNames?_document`).
-/

namespace Depot.Xml

set_option autoImplicit false

open Depot.Text
open Depot.Time

/-! ## Texts that need no escaping -/

theorem not_mem_toDigits {c : Char} (other : c.isDigit = false) (n : Nat) :
    c ∉ Nat.toDigits 10 n := by
  intro member
  have digit := Nat.isDigit_of_mem_toDigits (by decide) (by decide) member
  rw [other] at digit
  cases digit

theorem not_mem_signedDecimal {c : Char} (other : c.isDigit = false) (unsigned : c ≠ '-')
    (n : Int) : c ∉ (signedDecimal n).toList := by
  cases n with
  | ofNat n =>
      rw [signedDecimal, decimal, String.toList_ofList]
      exact not_mem_toDigits other n
  | negSucc n => simp [signedDecimal, decimal, not_mem_toDigits other, unsigned]

/-- What a moment is written with beside digits. -/
def momentMarks : List Char := ['+', '-', 'T', ':', '.', 'Z']

section

variable {c : Char} (other : c.isDigit = false)

include other

theorem not_mem_padded (width n : Nat) : c ∉ (padded width n).toList := by
  have zero : c ≠ '0' := fun same => by simp [same] at other
  simp [padded, not_mem_toDigits other, zero]

theorem not_mem_yearText (unmarked : c ∉ momentMarks) (year : Int) :
    c ∉ (yearText year).toList := by
  have signs : c ∉ "+".toList ∧ c ∉ "-".toList := by
    simp [momentMarks] at unmarked
    simp [unmarked]
  unfold yearText
  split
  · split
    · exact not_mem_padded other 4 _
    · simp only [String.toList_append, List.mem_append, signs, not_mem_padded other, or_self,
        not_false_eq_true]
  · simp only [String.toList_append, List.mem_append, signs, not_mem_padded other, or_self,
      not_false_eq_true]

theorem not_mem_timestamp (unmarked : c ∉ momentMarks) (t : Instant) :
    c ∉ t.timestamp.toList := by
  have marks : c ∉ "-".toList ∧ c ∉ "T".toList ∧ c ∉ ":".toList ∧ c ∉ ".".toList ∧
      c ∉ "Z".toList := by
    simp [momentMarks] at unmarked
    simp [unmarked]
  unfold Instant.timestamp Instant.clockText
  dsimp only
  generalize t.civil = moment
  simp only [String.toList_append, List.mem_append, not_mem_padded other,
    not_mem_yearText other unmarked, marks, or_self, not_false_eq_true]

end

theorem clean_timestamp (t : Instant) : '<' ∉ t.timestamp.toList :=
  not_mem_timestamp (by decide) (by decide) t

/-! ## The elements of a listing -/

section

variable {α : Type}

theorem Markup.join {texts : List α} {text : α → String} {parts : α → List (String × String)}
    (each : ∀ a, a ∈ texts → Markup (text a) (parts a)) :
    Markup (String.join (texts.map text)) (texts.flatMap parts) := by
  induction texts with
  | nil => exact .text (by simp)
  | cons first rest ih =>
      have onward := ih fun a member => each a (.tail _ member)
      have step : String.join ((first :: rest).map text) =
          text first ++ String.join (rest.map text) := by simp
      rw [step, List.flatMap_cons]
      exact .append (each first List.mem_cons_self) onward

end

/-- The element around a text that may be absent. -/
def optionalParts (name : String) (text? : Option String) : List (String × String) :=
  text?.toList.map fun text => (name, escape text)

@[simp] theorem contentsOf_optionalParts (name name' : String) (text? : Option String) :
    contentsOf name (optionalParts name' text?) =
      if name' = name then text?.toList.map escape else [] := by
  by_cases same : name' = name <;> cases text? <;> simp [contentsOf, optionalParts, same]

theorem Markup.optionalElement {name : String} (known : isName name) (text? : Option String) :
    Markup (optionalElement name text?) (optionalParts name text?) := by
  cases text? with
  | none => exact .text (show '<' ∉ "".toList by decide)
  | some text => exact .textElement known text

/-- What is written of a listed object. -/
def contentsText (key : String) (object : Object) : String :=
  textElement "Key" key ++ element "LastModified" object.modified.timestamp ++
    textElement "ETag" object.quotedEtag ++ element "Size" (signedDecimal object.size) ++
    element "StorageClass" "STANDARD"

/-- The elements of a listed object. -/
def contentsParts (key : String) (object : Object) : List (String × String) :=
  [("Key", escape key)] ++ [("LastModified", object.modified.timestamp)] ++
    [("ETag", escape object.quotedEtag)] ++ [("Size", signedDecimal object.size)] ++
    [("StorageClass", "STANDARD")]

theorem Markup.plain {name content : String} (known : isName name)
    (clean : '<' ∉ content.toList) : Markup (Xml.element name content) [(name, content)] :=
  .element known (.text clean) (by simp)

theorem markup_contentsText (key : String) (object : Object) :
    Markup (contentsText key object) (contentsParts key object) := by
  unfold contentsText contentsParts
  iterate 4 refine .append ?_ ?_
  · exact .textElement (by decide) key
  · exact .plain (by decide) (clean_timestamp _)
  · exact .textElement (by decide) _
  · exact .plain (by decide) (not_mem_signedDecimal (by decide) (by decide) _)
  · exact .plain (by decide) (by decide)

namespace Listing

variable (l : Listing)

/-- What is written of a listing. -/
def content : String :=
  textElement "Name" l.bucket ++ textElement "Prefix" l.stem ++
    element "MaxKeys" (decimal l.maxKeys) ++
    element "KeyCount" (decimal (l.contents.length + l.commonStems.length)) ++
    optionalElement "ContinuationToken" l.token? ++ optionalElement "StartAfter" l.startAfter? ++
    optionalElement "Delimiter" l.delimiter? ++
    element "IsTruncated" (if l.nextToken?.isSome then "true" else "false") ++
    optionalElement "NextContinuationToken" l.nextToken? ++
    String.join (l.contents.map fun (key, object) => contentsElement key object) ++
    String.join (l.commonStems.map fun stem => element "CommonPrefixes" (textElement "Prefix" stem))

/-- The elements of a listing. -/
def parts : List (String × String) :=
  [("Name", escape l.bucket)] ++ [("Prefix", escape l.stem)] ++
    [("MaxKeys", decimal l.maxKeys)] ++
    [("KeyCount", decimal (l.contents.length + l.commonStems.length))] ++
    optionalParts "ContinuationToken" l.token? ++ optionalParts "StartAfter" l.startAfter? ++
    optionalParts "Delimiter" l.delimiter? ++
    [("IsTruncated", if l.nextToken?.isSome then "true" else "false")] ++
    optionalParts "NextContinuationToken" l.nextToken? ++
    l.contents.flatMap (fun e => ("Contents", contentsText e.1 e.2) :: contentsParts e.1 e.2) ++
    l.commonStems.flatMap fun stem =>
      [("CommonPrefixes", textElement "Prefix" stem), ("Prefix", escape stem)]

theorem markup : Markup l.content l.parts := by
  unfold content parts
  iterate 10 refine .append ?_ ?_
  · exact .textElement (by decide) _
  · exact .textElement (by decide) _
  · exact .plain (by decide) (not_mem_signedDecimal (by decide) (by decide) (.ofNat _))
  · exact .plain (by decide) (not_mem_signedDecimal (by decide) (by decide) (.ofNat _))
  · exact .optionalElement (by decide) _
  · exact .optionalElement (by decide) _
  · exact .optionalElement (by decide) _
  · exact .plain (by decide) (by split <;> decide)
  · exact .optionalElement (by decide) _
  · refine .join fun e _ => .element (by decide) (markup_contentsText e.1 e.2) ?_
    simp [contentsParts]
  · exact .join fun stem _ => .element (by decide) (.textElement (by decide) stem) (by simp)

/-! ### The elements of each name -/

theorem contentsOf_keyCount :
    contentsOf "KeyCount" l.parts =
      [decimal (l.contents.length + l.commonStems.length)] := by
  simp [parts, contentsParts]

theorem contentsOf_isTruncated :
    contentsOf "IsTruncated" l.parts = [if l.nextToken?.isSome then "true" else "false"] := by
  simp [parts, contentsParts]

theorem contentsOf_nextToken :
    contentsOf "NextContinuationToken" l.parts = l.nextToken?.toList.map escape := by
  simp [parts, contentsParts]

theorem contentsOf_contents :
    contentsOf "Contents" l.parts = l.contents.map fun e => contentsText e.1 e.2 := by
  have none : l.commonStems.flatMap (fun _ => ([] : List String)) = [] := by simp
  simp [parts, contentsParts, none, List.map_eq_flatMap]

theorem contentsOf_commonStems :
    contentsOf "CommonPrefixes" l.parts = l.commonStems.map (textElement "Prefix") := by
  have none : l.contents.flatMap (fun _ => ([] : List String)) = [] := by simp
  simp [parts, contentsParts, none, List.map_eq_flatMap]

end Listing

/-! ## Reading a listing -/

/-- The text of the first element of a name. -/
def textOf? (name document : String) : Option String :=
  (elements name document).head?.map unescape

/-- A listed object as it is read. -/
structure ReadObject where
  key : String
  size : String
  etag : String
  deriving DecidableEq, Repr

def ReadObject.ofText? (text : String) : Option ReadObject := do
  return ⟨← textOf? "Key" text, ← textOf? "Size" text, ← textOf? "ETag" text⟩

/-- A listing as it is read. -/
structure ReadListing where
  keyCount : String
  isTruncated : String
  nextToken? : Option String
  contents : List ReadObject
  commonStems : List String
  deriving DecidableEq, Repr

/-- Reads a listing. -/
def ReadListing.ofText? (document : String) : Option ReadListing := do
  let keyCount ← textOf? "KeyCount" document
  let isTruncated ← textOf? "IsTruncated" document
  let contents ← (elements "Contents" document).mapM ReadObject.ofText?
  let commonStems ← (elements "CommonPrefixes" document).mapM (textOf? "Prefix")
  return ⟨keyCount, isTruncated, textOf? "NextContinuationToken" document, contents, commonStems⟩

/-- A listed object as it should be read. -/
def ReadObject.ofObject (key : String) (object : Object) : ReadObject :=
  ⟨key, signedDecimal object.size, object.quotedEtag⟩

/-- A text without the mark of an entity is read as it is. -/
theorem unescapeChars_append {text : List Char} (clean : '&' ∉ text) (rest : List Char) :
    unescapeChars (text ++ rest) = text ++ unescapeChars rest := by
  induction text with
  | nil => rfl
  | cons c text ih =>
      have other : c ≠ '&' := fun same => clean (same ▸ List.mem_cons_self)
      rw [List.cons_append, unescapeChars_cons _ other, ih fun member => clean (.tail _ member)]
      rfl

theorem unescape_eq_self {text : String} (clean : '&' ∉ text.toList) : unescape text = text := by
  have read := unescapeChars_append clean []
  rw [unescapeChars, List.append_nil] at read
  rw [unescape, read, String.ofList_toList]

theorem unescape_signedDecimal (n : Int) : unescape (signedDecimal n) = signedDecimal n :=
  unescape_eq_self (not_mem_signedDecimal (by decide) (by decide) n)

theorem mapM_map_eq_some {α β γ : Type} {f : β → Option γ} {g : α → β} {h : α → γ}
    (each : ∀ a, f (g a) = some (h a)) (list : List α) :
    (list.map g).mapM f = some (list.map h) := by
  induction list with
  | nil => rfl
  | cons a rest ih => simp [each, ih]

theorem ReadObject.ofText?_contentsText (key : String) (object : Object) :
    ofText? (contentsText key object) = some (ofObject key object) := by
  have read {name : String} (known : isName name) :
      elements name (contentsText key object) = contentsOf name (contentsParts key object) :=
    (markup_contentsText key object).elements_eq known
  unfold ofText? textOf?
  rw [read (by decide), read (by decide), read (by decide)]
  simp [contentsParts, ofObject, unescape_escape, unescape_signedDecimal]

theorem textOf?_commonStem (stem : String) :
    textOf? "Prefix" (textElement "Prefix" stem) = some stem := by
  have known : isName "Prefix" := by decide
  rw [textOf?, (Markup.textElement known stem).elements_eq known]
  simp [unescape_escape]

theorem head?_optionalParts (text? : Option String) :
    (text?.toList.map escape).head?.map unescape = text? := by
  cases text? with
  | none => rfl
  | some text => exact congrArg some (unescape_escape text)

/-- **A listing is read as it was written.** -/
theorem ReadListing.ofText?_document (l : Listing) :
    ofText? l.document =
      some
        { keyCount := decimal (l.contents.length + l.commonStems.length)
          isTruncated := if l.nextToken?.isSome then "true" else "false"
          nextToken? := l.nextToken?
          contents := l.contents.map fun e => .ofObject e.1 e.2
          commonStems := l.commonStems } := by
  have read {name : String} (known : isName name) :
      elements name l.document = contentsOf name l.parts :=
    l.markup.elements_document (show isName "ListBucketResult" by decide) known
  have object (e : String × Object) :
      ReadObject.ofText? (contentsText e.1 e.2) = some (.ofObject e.1 e.2) :=
    ReadObject.ofText?_contentsText e.1 e.2
  have objects := mapM_map_eq_some object l.contents
  have prefixes := mapM_map_eq_some (h := id) textOf?_commonStem l.commonStems
  have counted : unescape (decimal (l.contents.length + l.commonStems.length)) = _ :=
    unescape_signedDecimal (.ofNat _)
  have cut : unescape (if l.nextToken?.isSome then "true" else "false") =
      if l.nextToken?.isSome then "true" else "false" := by
    split <;> decide
  unfold ofText?
  rw [read (by decide), read (by decide), l.contentsOf_contents,
    l.contentsOf_commonStems, objects, prefixes]
  unfold textOf?
  rw [read (by decide), read (by decide), read (by decide), l.contentsOf_keyCount,
    l.contentsOf_isTruncated, l.contentsOf_nextToken, head?_optionalParts]
  simp [counted, cut]
  rfl

/-! ## The buckets of an owner -/

def bucketText (name : String) (created : Instant) : String :=
  textElement "Name" name ++ element "CreationDate" created.timestamp

/-- The elements of a bucket. -/
def bucketParts (name : String) (created : Instant) : List (String × String) :=
  [("Name", escape name)] ++ [("CreationDate", created.timestamp)]

theorem markup_bucketText (name : String) (created : Instant) :
    Markup (bucketText name created) (bucketParts name created) :=
  .append (.textElement (by decide) name) (.plain (by decide) (clean_timestamp created))

def bucketNames? (document : String) : Option (List String) :=
  (elements "Bucket" document).mapM (textOf? "Name")

theorem textOf?_bucketText (name : String) (created : Instant) :
    textOf? "Name" (bucketText name created) = some name := by
  rw [textOf?, (markup_bucketText name created).elements_eq (by decide)]
  simp [bucketParts, unescape_escape]

/-- What is written of the buckets of an owner. -/
def bucketsText (owner : String) (buckets : List (String × Instant)) : String :=
  element "Owner" (textElement "ID" owner ++ textElement "DisplayName" owner) ++
    element "Buckets"
      (String.join (buckets.map fun (name, created) => element "Bucket" (bucketText name created)))

theorem markup_bucketsText (owner : String) (buckets : List (String × Instant)) :
    ∃ parts, Markup (bucketsText owner buckets) parts ∧
      contentsOf "Bucket" parts = buckets.map fun e => bucketText e.1 e.2 := by
  have entries := Markup.join fun (e : String × Instant) (_ : e ∈ buckets) =>
    Markup.element (show isName "Bucket" by decide) (markup_bucketText e.1 e.2)
      (by simp [bucketParts])
  have apart : ∀ part, part ∈ buckets.flatMap (fun e =>
      ("Bucket", bucketText e.1 e.2) :: bucketParts e.1 e.2) → part.1 ≠ "Buckets" := by
    intro part member
    obtain ⟨e, -, among⟩ := List.mem_flatMap.mp member
    simp only [bucketParts, List.mem_cons, List.mem_append, List.not_mem_nil, or_false] at among
    rcases among with rfl | rfl | rfl <;> simp
  refine ⟨_, .append (.element (by decide) (.append (.textElement (by decide) owner)
    (.textElement (by decide) owner)) (by simp)) (.element (by decide) entries apart), ?_⟩
  simp [bucketParts, List.map_eq_flatMap]

/-- **The names of buckets are read as they were written.** -/
theorem bucketNames?_document (owner : String) (buckets : List (String × Instant)) :
    bucketNames? (bucketsDocument owner buckets) = some (buckets.map Prod.fst) := by
  obtain ⟨parts, markup, entries⟩ := markup_bucketsText owner buckets
  have read : elements "Bucket" (bucketsDocument owner buckets) = contentsOf "Bucket" parts :=
    markup.elements_document (show isName "ListAllMyBucketsResult" by decide) (by decide)
  have names (e : String × Instant) : textOf? "Name" (bucketText e.1 e.2) = some e.1 :=
    textOf?_bucketText e.1 e.2
  rw [bucketNames?, read, entries]
  exact mapM_map_eq_some names buckets

end Depot.Xml

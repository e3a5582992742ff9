import Depot.Proofs.Documents
import Depot.Server.Fault

/-!
# Documents cannot be forged

Every document of the S3 protocol is written from texts that nobody has checked:
keys, stems, delimiters, tokens, names of uploads, messages.  Whoever looks for
the elements of a name in it, and reads the entities in them, finds the texts
that were put into elements of that name, in order and no others, whatever
characters these texts have (`read_as_put`).

An element holds either a text or other elements.  Elements that hold others
have names of their own in each document (`Document.groups`).
-/

namespace Depot.Xml

set_option autoImplicit false

open Depot.Server
open Depot.Text
open Depot.Time

/-! ## Texts put into elements -/

/-- What is written when texts are put into elements: the text written, the texts put, each under
the name of its element, and the names of the elements that hold other elements. -/
inductive Written : String → List (String × String) → List String → Prop where
  | nothing : Written "" [] []
  /-- Any text is escaped. -/
  | text {name : String} (known : isName name) (text : String) :
      Written (textElement name text) [(name, text)] []
  /-- A text without anything to escape is written as it is. -/
  | plain {name text : String} (known : isName name) (clean : '<' ∉ text.toList)
      (bare : '&' ∉ text.toList) : Written (element name text) [(name, text)] []
  | append {first second : String} {put put' : List (String × String)}
      {groups groups' : List String} (here : Written first put groups)
      (there : Written second put' groups') :
      Written (first ++ second) (put ++ put') (groups ++ groups')
  | group {name content : String} {put : List (String × String)} {groups : List String}
      (known : isName name) (inside : Written content put groups)
      (apart : name ∉ groups ++ put.map Prod.fst) :
      Written (element name content) put (name :: groups)
  | wider {text : String} {put : List (String × String)} {groups groups' : List String}
      (inside : Written text put groups) (among : groups ⊆ groups') : Written text put groups'

namespace Written

variable {text : String} {put : List (String × String)} {groups : List String}

theorem join {α : Type} {list : List α} {text : α → String} {put : α → List (String × String)}
    (each : ∀ a, Written (text a) (put a) groups) :
    Written (String.join (list.map text)) (list.flatMap put) groups := by
  induction list with
  | nil => exact .wider .nothing (List.nil_subset _)
  | cons first rest ih =>
      have step : String.join ((first :: rest).map text) =
          text first ++ String.join (rest.map text) := by simp
      rw [step, List.flatMap_cons]
      exact .wider (.append (each first) ih) (by simp)

/-- A number needs no escaping. -/
theorem number {name : String} (known : isName name) (n : Int) :
    Written (element name (signedDecimal n)) [(name, signedDecimal n)] [] :=
  .plain known (not_mem_signedDecimal (by decide) (by decide) n)
    (not_mem_signedDecimal (by decide) (by decide) n)

/-- A moment needs no escaping. -/
theorem moment {name : String} (known : isName name) (t : Instant) :
    Written (element name t.timestamp) [(name, t.timestamp)] [] :=
  .plain known (clean_timestamp t) (not_mem_timestamp (by decide) (by decide) t)

theorem optional {name : String} (known : isName name) (text? : Option String) :
    Written (optionalElement name text?) (text?.toList.map fun text => (name, text)) [] := by
  cases text? with
  | none => exact .nothing
  | some text => exact .text known text

/-- What is written is markup.  Its elements are those that hold others and those that texts were
put into, and the latter hold the texts that were put into them. -/
theorem markup (written : Written text put groups) :
    ∃ parts, Markup text parts ∧
      (∀ part, part ∈ parts → part.1 ∈ groups ++ put.map Prod.fst) ∧
      ∀ name, name ∉ groups → (contentsOf name parts).map unescape = contentsOf name put := by
  induction written with
  | nothing => exact ⟨[], .text (by decide), by simp, fun name _ => rfl⟩
  | @text name known text =>
      refine ⟨[(name, escape text)], .textElement known text, by simp, fun other _ => ?_⟩
      by_cases same : name = other <;> simp [same, unescape_escape]
  | @plain name text known clean bare =>
      refine ⟨[(name, text)], .plain known clean, by simp, fun other _ => ?_⟩
      by_cases same : name = other <;> simp [same, unescape_eq_self bare]
  | append here there ih ih' =>
      obtain ⟨parts, first, named, read⟩ := ih
      obtain ⟨parts', second, named', read'⟩ := ih'
      refine ⟨parts ++ parts', .append first second, fun part member => ?_, fun name other => ?_⟩
      · rcases List.mem_append.mp member with member | member
        · have known := named part member
          simp only [List.mem_append, List.map_append] at known ⊢
          exact known.imp .inl .inl
        · have known := named' part member
          simp only [List.mem_append, List.map_append] at known ⊢
          exact known.imp .inr .inr
      · rw [List.mem_append, not_or] at other
        rw [contentsOf_append, contentsOf_append, List.map_append, read name other.1,
          read' name other.2]
  | @group name content put groups known inside apart ih =>
      obtain ⟨parts, within, named, read⟩ := ih
      refine ⟨(name, content) :: parts, .element known within ?_, ?_, fun other apart' => ?_⟩
      · exact fun part member same => apart (same ▸ named part member)
      · intro part member
        rcases List.mem_cons.mp member with rfl | member
        · exact List.mem_cons_self
        · exact List.mem_cons_of_mem _ (named part member)
      · rw [List.mem_cons, not_or] at apart'
        rw [contentsOf_cons, if_neg (Ne.symm apart'.1), read other apart'.2]
  | wider inside among ih =>
      obtain ⟨parts, within, named, read⟩ := ih
      refine ⟨parts, within, fun part member => ?_, fun name other => ?_⟩
      · exact (List.mem_append.mp (named part member)).elim
          (fun group => List.mem_append_left _ (among group)) (List.mem_append_right _)
      · exact read name fun group => other (among group)

end Written

/-! ## The documents -/

def isWord (text : String) : Bool := text.toList.all Char.isAlphanum

theorem not_mem_of_isWord {text : String} (word : isWord text) {c : Char}
    (other : c.isAlphanum = false) : c ∉ text.toList := by
  intro member
  have known := List.all_eq_true.mp word c member
  rw [other] at known
  cases known

theorem Written.word {name text : String} (known : isName name) (word : isWord text) :
    Written (element name text) [(name, text)] [] :=
  .plain known (not_mem_of_isWord word (by decide)) (not_mem_of_isWord word (by decide))

/-- A document of the S3 protocol with what it is written from.  The code of a fault and the name
of its request are words that the server has made. -/
inductive Document where
  | listing (listing : Listing)
  | buckets (owner : String) (buckets : List (String × Instant))
  | parts (bucket key upload : String) (parts : List ListedPart)
  | upload (bucket key upload : String)
  | completion (location bucket key : String) (object : Object)
  | copy (object : Object)
  | fault (fault : S3Fault) (coded : isWord fault.code) (request : String) (named : isWord request)

namespace Document

/-- A document as it is sent. -/
def text : Document → String
  | .listing l => l.document
  | .buckets owner held => bucketsDocument owner held
  | .parts bucket key name listed => partsDocument bucket key name listed
  | .upload bucket key name => uploadDocument bucket key name
  | .completion location bucket key object => completionDocument location bucket key object
  | .copy object => copyDocument object
  | .fault f _ request _ => faultDocument f.code f.message f.resource request

/-- The names of the elements of a document that hold other elements. -/
def groups : Document → List String
  | .listing _ => ["Contents", "CommonPrefixes"]
  | .buckets _ _ => ["Owner", "Buckets", "Bucket"]
  | .parts _ _ _ _ => ["Part"]
  | .upload _ _ _ => []
  | .completion _ _ _ _ => []
  | .copy _ => []
  | .fault _ _ _ _ => ["Error"]

/-- The text that may be put into an element. -/
def optionalText (name : String) (text? : Option String) : List (String × String) :=
  text?.toList.map fun text => (name, text)

/-- The texts that are put into the elements of a document, in order, each under the name of its
element. -/
def put : Document → List (String × String)
  | .listing l =>
      [("Name", l.bucket), ("Prefix", l.stem), ("MaxKeys", decimal l.maxKeys),
        ("KeyCount", decimal (l.contents.length + l.commonStems.length))] ++
      optionalText "ContinuationToken" l.token? ++ optionalText "StartAfter" l.startAfter? ++
      optionalText "Delimiter" l.delimiter? ++
      [("IsTruncated", if l.nextToken?.isSome then "true" else "false")] ++
      optionalText "NextContinuationToken" l.nextToken? ++
      l.contents.flatMap (fun (key, object) =>
        [("Key", key), ("LastModified", object.modified.timestamp),
          ("ETag", "\x22" ++ object.etag ++ "\x22"), ("Size", signedDecimal object.size),
          ("StorageClass", "STANDARD")]) ++
      l.commonStems.flatMap fun stem => [("Prefix", stem)]
  | .buckets owner held =>
      [("ID", owner), ("DisplayName", owner)] ++
      held.flatMap fun (name, created) => [("Name", name), ("CreationDate", created.timestamp)]
  | .parts bucket key name listed =>
      [("Bucket", bucket), ("Key", key), ("UploadId", name), ("IsTruncated", "false")] ++
      listed.flatMap fun part =>
        [("PartNumber", signedDecimal part.number), ("LastModified", part.stored.timestamp),
          ("ETag", "\x22" ++ part.etag ++ "\x22"), ("Size", signedDecimal part.size)]
  | .upload bucket key name => [("Bucket", bucket), ("Key", key), ("UploadId", name)]
  | .completion location bucket key object =>
      [("Location", location), ("Bucket", bucket), ("Key", key),
        ("ETag", "\x22" ++ object.etag ++ "\x22")]
  | .copy object =>
      [("LastModified", object.modified.timestamp), ("ETag", "\x22" ++ object.etag ++ "\x22")]
  | .fault f _ request _ =>
      [("Code", f.code), ("Message", f.message), ("Resource", f.resource),
        ("RequestId", request)]

end Document

/-! ### What each document is written from -/

theorem written_listing (l : Listing) :
    Written l.content (Document.listing l).put (Document.listing l).groups := by
  have entry (e : String × Object) : Written (contentsElement e.1 e.2)
      [("Key", e.1), ("LastModified", e.2.modified.timestamp),
        ("ETag", "\x22" ++ e.2.etag ++ "\x22"), ("Size", signedDecimal e.2.size),
        ("StorageClass", "STANDARD")] ["Contents"] := by
    refine .group (by decide) ?_ (by simp)
    exact .append (.append (.append (.append (.text (by decide) _) (.moment (by decide) _))
      (.text (by decide) _)) (.number (by decide) _))
      (.plain (by decide) (by decide) (by decide))
  have stem (text : String) : Written (element "CommonPrefixes" (textElement "Prefix" text))
      [("Prefix", text)] ["CommonPrefixes"] :=
    .group (by decide) (.text (by decide) text) (by simp)
  have cut : Written (element "IsTruncated" (if l.nextToken?.isSome then "true" else "false"))
      [("IsTruncated", if l.nextToken?.isSome then "true" else "false")] [] :=
    .plain (by decide) (by split <;> decide) (by split <;> decide)
  have entries : Written
      (String.join (l.contents.map fun (key, object) => contentsElement key object)) _ _ :=
    .join entry
  have stems : Written (String.join (l.commonStems.map fun stem =>
      element "CommonPrefixes" (textElement "Prefix" stem))) _ _ := .join stem
  have head : Written
      (textElement "Name" l.bucket ++ textElement "Prefix" l.stem ++
        element "MaxKeys" (decimal l.maxKeys) ++
        element "KeyCount" (decimal (l.contents.length + l.commonStems.length)))
      [("Name", l.bucket), ("Prefix", l.stem), ("MaxKeys", decimal l.maxKeys),
        ("KeyCount", decimal (l.contents.length + l.commonStems.length))] [] :=
    .append (.append (.append (.text (by decide) _) (.text (by decide) _))
      (.number (by decide) (.ofNat _))) (.number (by decide) (.ofNat _))
  exact .append (.append (.append (.append (.append (.append (.append head
    (.optional (by decide) _)) (.optional (by decide) _)) (.optional (by decide) _)) cut)
    (.optional (by decide) _)) entries) stems

theorem written_buckets (owner : String) (held : List (String × Instant)) :
    Written (bucketsText owner held) (Document.buckets owner held).put
      (Document.buckets owner held).groups := by
  have entry (e : String × Instant) : Written (element "Bucket" (bucketText e.1 e.2))
      [("Name", e.1), ("CreationDate", e.2.timestamp)] ["Bucket"] :=
    .group (by decide) (.append (.text (by decide) _) (.moment (by decide) _)) (by simp)
  have entries : Written (String.join (held.map fun (name, created) =>
      element "Bucket" (bucketText name created)))
      (held.flatMap fun (name, created) => [("Name", name), ("CreationDate", created.timestamp)])
      ["Bucket"] := .join entry
  have apart : "Buckets" ∉ ["Bucket"] ++ (held.flatMap fun (name, created) =>
      [("Name", name), ("CreationDate", created.timestamp)]).map Prod.fst := by
    simp
  exact .append (.group (by decide) (.append (.text (by decide) owner) (.text (by decide) owner))
    (by simp)) (.group (by decide) entries apart)

theorem written_parts (bucket key name : String) (listed : List ListedPart) :
    Written
      (textElement "Bucket" bucket ++ textElement "Key" key ++ textElement "UploadId" name ++
        element "IsTruncated" "false" ++ String.join (listed.map ListedPart.element))
      (Document.parts bucket key name listed).put
      (Document.parts bucket key name listed).groups := by
  have entry (part : ListedPart) : Written part.element
      [("PartNumber", signedDecimal part.number), ("LastModified", part.stored.timestamp),
        ("ETag", "\x22" ++ part.etag ++ "\x22"), ("Size", signedDecimal part.size)] ["Part"] := by
    refine .group (by decide) ?_ (by simp)
    exact .append (.append (.append (.number (by decide) _) (.moment (by decide) _))
      (.text (by decide) _)) (.number (by decide) _)
  exact .append (.append (.append (.append (.text (by decide) _) (.text (by decide) _))
    (.text (by decide) _)) (.plain (by decide) (by decide) (by decide))) (.join entry)

theorem written_fault (f : S3Fault) (coded : isWord f.code) (request : String)
    (named : isWord request) :
    Written
      (element "Error" (element "Code" f.code ++ textElement "Message" f.message ++
        textElement "Resource" f.resource ++ element "RequestId" request))
      (Document.fault f coded request named).put (Document.fault f coded request named).groups := by
  refine .group (by decide) ?_ (by simp [Document.put])
  exact .append (.append (.append (.word (by decide) coded) (.text (by decide) _))
    (.text (by decide) _)) (.word (by decide) named)

/-! ## Reading the documents -/

/-- The declaration shows no element. -/
theorem elements_declaration {name : String} (known : isName name) (text : String) :
    elements name (declaration ++ text) = elements name text := by
  have free := (free_document known known).1
  rw [elements, String.toList_append, toList_declaration, Xml.elementChars_append free, elements]

/-- **What is read of a document is what was put into it.**  The elements of a name hold the texts
that were put into elements of that name, in order and no others; the names of the elements that
hold other elements are set apart.  And reading the entities of a written text gives the text. -/
theorem read_as_put :
    (∀ (d : Document) (name : String), isName name → name ∉ d.groups →
      (elements name d.text).map unescape = contentsOf name d.put) ∧
    ∀ text, unescape (escape text) = text := by
  refine ⟨fun d name known other => ?_, unescape_escape⟩
  have inDocument {root content : String} (rooted : isName root)
      (written : Written content d.put d.groups) :
      (elements name (document root content)).map unescape = contentsOf name d.put := by
    obtain ⟨parts, markup, -, read⟩ := written.markup
    rw [markup.elements_document rooted known, read name other]
  cases d with
  | listing l => exact inDocument (by decide) (written_listing l)
  | buckets owner held => exact inDocument (by decide) (written_buckets owner held)
  | parts bucket key name listed => exact inDocument (by decide) (written_parts ..)
  | upload bucket key name =>
      exact inDocument (by decide)
        (.append (.append (.text (by decide) _) (.text (by decide) _)) (.text (by decide) _))
  | completion location bucket key object =>
      exact inDocument (by decide)
        (.append (.append (.append (.text (by decide) _) (.text (by decide) _))
          (.text (by decide) _)) (.text (by decide) _))
  | copy object =>
      exact inDocument (by decide) (.append (.moment (by decide) _) (.text (by decide) _))
  | fault f coded request named =>
      obtain ⟨parts, markup, -, read⟩ := (written_fault f coded request named).markup
      have sent : (Document.fault f coded request named).text = declaration ++ _ := rfl
      rw [sent, elements_declaration known, markup.elements_eq known, read name other]

/-- The codes of the faults of the store are words. -/
theorem isWord_ofStore (fault : StoreFault) (resource : String) :
    isWord (S3Fault.ofStore fault resource).code := by
  unfold S3Fault.ofStore
  split <;> simp only [S3Fault.digestMismatch, S3Fault.noSuchKey, S3Fault.invalidArgument,
    S3Fault.internal] <;> decide

/-- A key and a resource that contain elements. -/
theorem markup_in_texts :
    let key := "a</Key><ETag>&quot;b&quot;</ETag><Key>c"
    let fault := S3Fault.ofStore (.notFound key) ("/box/" ++ key)
    (elements "Key" (uploadDocument "box" key "u")).map unescape = [key] ∧
      (elements "ETag" (uploadDocument "box" key "u")).map unescape = [] ∧
      (elements "Resource" (faultDocument fault.code fault.message fault.resource "r1")).map
        unescape = ["/box/" ++ key] := by
  intro key fault
  have coded : isWord fault.code := isWord_ofStore _ _
  refine ⟨?_, ?_, ?_⟩
  · exact read_as_put.1 (.upload "box" key "u") "Key" (by decide) (by decide)
  · exact read_as_put.1 (.upload "box" key "u") "ETag" (by decide) (by decide)
  · exact read_as_put.1 (.fault fault coded "r1" (by decide)) "Resource" (by decide)
      (by simp [Document.groups])

end Depot.Xml

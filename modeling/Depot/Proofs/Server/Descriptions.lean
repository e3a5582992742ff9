import Depot.Proofs.Server.Listings
import Depot.Proofs.Tables
import Mathlib.Data.List.Induction

/-!
# What headers say of an object

The attributes of an object are read from header lines into a table, and written
from the table into header lines.  What comes out is what went in
(`carries_describe`): the first content type when it is text, and under every
name of metadata the last value that is text.  Names and values that are read
can always be written, because the table holds nothing but what came from header
lines.
-/

namespace Depot

set_option autoImplicit false

open Depot.Http
open Depot.Text

namespace Http

/-! ## Values that are text -/

/-- A value that is text is the text that it is read as. -/
theorem toUTF8_of_valueText? {value : FieldValue} {text : String}
    (read : valueText? value = some text) : text.toUTF8 = value := by
  unfold valueText? at read
  split at read
  · next shown =>
      cases read
      have ascii : ∀ b, b ∈ value.data.toList → b < 128 := by
        have every : ∀ n : Fin 256, isTextByte (UInt8.ofFin n) → UInt8.ofFin n < 128 := by
          decide +kernel
        exact fun b member => every b.toFin (List.all_eq_true.mp shown b member)
      have same : (String.ofList (value.data.toList.map Char.ofUInt8)).toUTF8.data.toList =
          value.data.toList := bytes_ascii ascii
      exact ByteArray.ext (Array.toList_inj.mp same)
  · cases read

/-- What is read from a value can be written. -/
theorem visible_of_valueText? {value : FieldValue} {text : String}
    (read : valueText? value = some text) : Visible text := by
  unfold valueText? at read
  split at read
  · next shown =>
      cases read
      intro c member
      rw [String.toList_ofList] at member
      obtain ⟨b, known, rfl⟩ := List.mem_map.mp member
      have every : ∀ n : Fin 256, isTextByte (UInt8.ofFin n) →
          isTextByte (Char.ofUInt8 (UInt8.ofFin n)).toUInt8 ∧
            Char.ofUInt8 (Char.ofUInt8 (UInt8.ofFin n)).toUInt8 =
              Char.ofUInt8 (UInt8.ofFin n) := by
        decide +kernel
      exact every b.toFin (List.all_eq_true.mp shown b known)
  · cases read

namespace Headers

variable (h : Headers) (name : String)

/-! ## All lines of a name -/

/-- All lines have header names in lower case. -/
def Named (h : Headers) : Prop := ∀ line, line ∈ h.lines → fieldName? line.1 = some line.1

theorem getAll_insert_self (value : FieldValue) : (h.insert name value).getAll name = [value] := by
  have absent : (h.lines.filter (·.1 != name)).filter (·.1 == name) = [] := by simp
  rw [getAll, insert, append, erase, List.filter_append, absent]
  simp

theorem getAll_insertText_self {text : String} (visible : Visible text) :
    (h.insertText name text).getAll name = [text.toUTF8] := by
  rw [insertText, visible.fieldValue?]
  exact h.getAll_insert_self name _

theorem getAll_insertText_of_ne {other : String} (differs : name ≠ other) (text : String) :
    (h.insertText name text).getAll other = h.getAll other := by
  unfold insertText
  split
  · exact h.getAll_insert_of_ne name differs _
  · rfl

/-- A line that is set under a new name stands at the end. -/
theorem lines_insertText_of_getAll {text : String} (visible : Visible text)
    (absent : h.getAll name = []) :
    (h.insertText name text).lines = h.lines ++ [(name, text.toUTF8)] := by
  have other : ∀ line, line ∈ h.lines → (line.1 != name) = true := by
    intro line member
    refine bne_iff_ne.mpr fun same => ?_
    have known : line.2 ∈ h.getAll name := (h.mem_getAll_iff name).mpr (same ▸ member)
    rw [absent] at known
    cases known
  rw [insertText, visible.fieldValue?]
  show h.lines.filter (·.1 != name) ++ _ = _
  rw [List.filter_eq_self.mpr other]

theorem has_of_getAll {value : FieldValue} (known : value ∈ h.getAll name) : h.has name :=
  List.any_eq_true.mpr ⟨(name, value), (h.mem_getAll_iff name).mp known, by simp⟩

end Headers

end Http

namespace Server

/-! ## Metadata that are read -/

/-- The last of some values that is text. -/
def lastText? (values : List FieldValue) : Option FieldValue :=
  (values.filter fun value => (valueText? value).isSome).getLast?

def isMetadataName (name : String) : Bool := beginsWith metadataLead name

theorem eq_of_isMetadataName {name : String} (known : isMetadataName name) :
    ∃ rest, name = metadataLead ++ rest :=
  beginsWith_iff_exists_append.mp known

theorem stringAfter?_metadataLead {name rest : String} :
    stringAfter? metadataLead name = some rest ↔ name = metadataLead ++ rest := by
  unfold stringAfter?
  rw [Option.map_eq_some_iff, ← String.toList_inj, String.toList_append]
  constructor
  · rintro ⟨after, found, rfl⟩
    rw [String.toList_ofList, afterLead?_eq_some_iff.mp found]
  · intro whole
    exact ⟨rest.toList, afterLead?_eq_some_iff.mpr whole, String.ofList_toList⟩

/-- One line of metadata more is read. -/
def noteMetadata (metadata : Metadata) (line : String × FieldValue) : Metadata :=
  match stringAfter? metadataLead line.1, valueText? line.2 with
  | some name, some text => metadata.insert name text
  | _, _ => metadata

theorem metadataOf_eq (headers : Headers) :
    metadataOf headers = headers.lines.foldl noteMetadata Table.empty := rfl

theorem find?_noteMetadata (metadata : Metadata) (line : String × FieldValue) (name : String) :
    (noteMetadata metadata line).find? name =
      if line.1 = metadataLead ++ name then (valueText? line.2).or (metadata.find? name)
      else metadata.find? name := by
  unfold noteMetadata
  split
  · next rest text own read =>
      rw [Table.find?_insert, read, stringAfter?_metadataLead.mp own]
      by_cases same : name = rest
      · rw [if_pos same, if_pos (same ▸ rfl), Option.some_or]
      · have other : metadataLead ++ rest ≠ metadataLead ++ name :=
          fun whole => same (String.append_right_inj _ |>.mp whole).symm
        rw [if_neg same, if_neg other]
  · next unread =>
      split
      · next own =>
          cases read : valueText? line.2 with
          | none => rfl
          | some text => exact absurd read (unread name text (stringAfter?_metadataLead.mpr own))
      · rfl

/-- Of two texts under one name the later counts. -/
theorem find?_foldl_noteMetadata (lines : List (String × FieldValue)) (metadata : Metadata)
    (name : String) :
    (lines.foldl noteMetadata metadata).find? name =
      ((lastText? ((Headers.mk lines).getAll (metadataLead ++ name))).bind valueText?).or
        (metadata.find? name) := by
  -- From the end: the last line under the name that is text decides.
  induction lines using List.reverseRecOn with
  | nil => rfl
  | append_singleton lines line ih =>
      have all : (Headers.mk (lines ++ [line])).getAll (metadataLead ++ name) =
          (Headers.mk lines).getAll (metadataLead ++ name) ++
            if line.1 = metadataLead ++ name then [line.2] else [] := by
        unfold Headers.getAll
        rw [List.filter_append, List.map_append]
        split
        · next own => simp [own]
        · next other => simp [other]
      rw [List.foldl_append, List.foldl_cons, List.foldl_nil, find?_noteMetadata, ih, all]
      unfold lastText?
      rw [List.filter_append]
      split
      · cases read : valueText? line.2 with
        | none => simp [read]
        | some text => simp [read]
      · simp

theorem find?_metadataOf (headers : Headers) (name : String) :
    (metadataOf headers).find? name =
      (lastText? (headers.getAll (metadataLead ++ name))).bind valueText? := by
  rw [metadataOf_eq, find?_foldl_noteMetadata]
  exact Option.or_none

/-- What is read last is text. -/
theorem exists_of_lastText? {values : List FieldValue} {value : FieldValue}
    (last : lastText? values = some value) :
    value ∈ values ∧ ∃ text, valueText? value = some text := by
  have member := List.mem_of_getLast? last
  rw [List.mem_filter, Option.isSome_iff_exists] at member
  exact member

/-- Metadata that were read can be sent. -/
theorem sendable_metadataOf {headers : Headers} (named : headers.Named) {name value : String}
    (known : (metadataOf headers).find? name = some value) :
    fieldName? (metadataLead ++ name) = some (metadataLead ++ name) ∧ Visible value := by
  rw [find?_metadataOf] at known
  obtain ⟨sent, last, read⟩ := Option.bind_eq_some_iff.mp known
  have line := (headers.mem_getAll_iff _).mp (exists_of_lastText? last).1
  exact ⟨named _ line, visible_of_valueText? read⟩

/-! ## Metadata that are written -/

/-- The metadata of an object are written under names that begin alike. -/
theorem getAll_insertMetadata_of_apart (headers : Headers) (name value : String) {other : String}
    (apart : other.toList.head? ≠ some 'x') :
    (insertMetadata headers name value).getAll other = headers.getAll other := by
  unfold insertMetadata
  split
  · next field known =>
      exact headers.getAll_insertText_of_ne field (ne_of_metadataName known apart) value
  · rfl

theorem getAll_insertMetadata_foldl_of_apart (entries : List (String × String))
    (headers : Headers) {other : String} (apart : other.toList.head? ≠ some 'x') :
    (entries.foldl (fun headers e => insertMetadata headers e.1 e.2) headers).getAll other =
      headers.getAll other := by
  induction entries generalizing headers with
  | nil => rfl
  | cons e rest ih => rw [List.foldl_cons, ih, getAll_insertMetadata_of_apart _ _ _ apart]

/-- Metadata with different names that can be sent are written as they are. -/
theorem getAll_insertMetadata_foldl {entries : List (String × String)}
    (distinct : (entries.map Prod.fst).Nodup)
    (sendable : ∀ e, e ∈ entries →
      fieldName? (metadataLead ++ e.1) = some (metadataLead ++ e.1) ∧ Visible e.2)
    (headers : Headers) (name : String) :
    (entries.foldl (fun headers e => insertMetadata headers e.1 e.2) headers).getAll
        (metadataLead ++ name) =
      match entries.lookup name with
      | some value => [value.toUTF8]
      | none => headers.getAll (metadataLead ++ name) := by
  induction entries generalizing headers with
  | nil => rfl
  | cons e rest ih =>
      obtain ⟨key, value⟩ := e
      obtain ⟨missing, restDistinct⟩ := List.nodup_cons.mp distinct
      obtain ⟨field, visible⟩ := sendable (key, value) List.mem_cons_self
      rw [List.foldl_cons, ih restDistinct fun e member => sendable e (.tail _ member),
        List.lookup_cons, insertMetadata, field]
      dsimp only
      by_cases same : name = key
      · have absent : rest.lookup name = none := by
          refine List.lookup_eq_none_iff.mpr fun e member => ?_
          have other : name ≠ e.1 := fun whole =>
            missing (List.mem_map.mpr ⟨e, member, whole.symm.trans same⟩)
          simpa using other
        rw [absent, same, beq_self_eq_true]
        exact headers.getAll_insertText_self _ visible
      · have other : metadataLead ++ key ≠ metadataLead ++ name :=
          fun whole => same (String.append_right_inj _ |>.mp whole).symm
        have differs : (name == key) = false := by simpa using same
        rw [differs, headers.getAll_insertText_of_ne _ other]

/-! ## Descriptions -/

section

variable (object : Object)

/-- The lines that describe an object apart from its metadata. -/
def basics : Headers :=
  let headers :=
    match fieldValue? object.contentType with
    | some value => Headers.empty.insert "content-type" value
    | none => Headers.empty.insertText "content-type" Object.defaultContentType
  let headers := headers.insertText "content-length" (decimal object.size.toNat)
  let headers := headers.insertText "etag" object.quotedEtag
  headers.insertText "last-modified" object.modified.httpDate

theorem describe_eq :
    describe Headers.empty object =
      object.attributes.metadata.entries.foldl
        (fun headers e => insertMetadata headers e.1 e.2) (basics object) := rfl

theorem getAll_describe_of_apart {name : String} (apart : name.toList.head? ≠ some 'x') :
    (describe Headers.empty object).getAll name = (basics object).getAll name := by
  rw [describe_eq, getAll_insertMetadata_foldl_of_apart _ _ apart]

/-- Only four names occur among the basics. -/
theorem getAll_basics {name : String}
    (other : name ∉ ["content-type", "content-length", "etag", "last-modified"]) :
    (basics object).getAll name = [] := by
  simp only [List.mem_cons, List.not_mem_nil, or_false, not_or] at other
  obtain ⟨type, length, etag, modified⟩ := other
  unfold basics
  dsimp only
  rw [Headers.getAll_insertText_of_ne _ _ (Ne.symm modified),
    Headers.getAll_insertText_of_ne _ _ (Ne.symm etag),
    Headers.getAll_insertText_of_ne _ _ (Ne.symm length)]
  split
  · rw [Headers.getAll_insert_of_ne _ _ (Ne.symm type)]
    rfl
  · rw [Headers.getAll_insertText_of_ne _ _ (Ne.symm type)]
    rfl

/-- An object is described with its length, once. -/
theorem getAll_describe_length :
    (describe Headers.empty object).getAll "content-length" =
      [(decimal object.size.toNat).toUTF8] := by
  rw [getAll_describe_of_apart _ (by decide), basics,
    Headers.getAll_insertText_of_ne _ "last-modified" (by decide),
    Headers.getAll_insertText_of_ne _ "etag" (by decide),
    Headers.getAll_insertText_self _ _ (visible_decimal _)]

theorem has_describe_length : (describe Headers.empty object).has "content-length" :=
  Headers.has_of_getAll _ _ (getAll_describe_length object ▸ List.mem_cons_self)

/-- A description does not say whether ranges can be asked for. -/
theorem getAll_describe_ranges :
    (describe Headers.empty object).getAll "accept-ranges" = [] := by
  rw [getAll_describe_of_apart _ (by decide), getAll_basics _ (by decide)]

end

/-! ## What is sent is described -/

/-- The type that some headers state: their first content type when it is text. -/
def typeSent (sent : Headers) : FieldValue :=
  match sent.get? "content-type" with
  | some value =>
      if (valueText? value).isSome then value else Object.defaultContentType.toUTF8
  | none => Object.defaultContentType.toUTF8

/-- Headers state the type and the metadata of other headers: one content type, and under each name
of metadata the last value that was text, or nothing. -/
structure Carries (sent answered : Headers) : Prop where
  contentType : answered.getAll "content-type" = [typeSent sent]
  metadata : ∀ name, isMetadataName name →
    answered.getAll name = (lastText? (sent.getAll name)).toList

/-- Lines under other names do not matter. -/
theorem Carries.insertText {sent answered : Headers} (carries : Carries sent answered)
    {name : String} (type : name ≠ "content-type") (apart : isMetadataName name = false)
    (text : String) : Carries sent (answered.insertText name text) where
  contentType := (answered.getAll_insertText_of_ne name type text).trans carries.contentType
  metadata other known := by
    have differs : name ≠ other := by
      rintro rfl
      rw [apart] at known
      cases known
    exact (answered.getAll_insertText_of_ne name differs text).trans (carries.metadata other known)

theorem getAll_describe_type {object : Object} {sent : Headers}
    (attributes : object.attributes = attributesOf sent) :
    (describe Headers.empty object).getAll "content-type" = [typeSent sent] := by
  have type : fieldValue? object.contentType = some (typeSent sent) := by
    have plain : fieldValue? Object.defaultContentType =
        some Object.defaultContentType.toUTF8 := by
      have visible : Visible Object.defaultContentType := by decide
      exact visible.fieldValue?
    unfold Object.contentType typeSent
    rw [attributes]
    show fieldValue? (Option.getD (sent.text? "content-type") _) = _
    rw [Headers.text?]
    cases sent.get? "content-type" with
    | none => exact plain
    | some value =>
        cases read : valueText? value with
        | none => simpa [read] using plain
        | some text =>
            simp only [Option.bind_some, read, Option.getD_some, Option.isSome_some, if_true]
            rw [(visible_of_valueText? read).fieldValue?, toUTF8_of_valueText? read]
  rw [getAll_describe_of_apart _ (by decide), basics, type,
    Headers.getAll_insertText_of_ne _ "last-modified" (by decide),
    Headers.getAll_insertText_of_ne _ "etag" (by decide),
    Headers.getAll_insertText_of_ne _ "content-length" (by decide),
    Headers.getAll_insert_self]

/-- **What was sent with an object describes it.** -/
theorem carries_describe {sent : Headers} (named : sent.Named) {object : Object}
    (attributes : object.attributes = attributesOf sent) :
    Carries sent (describe Headers.empty object) where
  contentType := getAll_describe_type attributes
  metadata name known := by
    obtain ⟨rest, rfl⟩ := eq_of_isMetadataName known
    have metadata : object.attributes.metadata = metadataOf sent := by rw [attributes]; rfl
    have sendable : ∀ e, e ∈ (metadataOf sent).entries →
        fieldName? (metadataLead ++ e.1) = some (metadataLead ++ e.1) ∧ Visible e.2 :=
      fun e member => sendable_metadataOf named (Table.mem_entries_iff.mp member)
    have other : metadataLead ++ rest ∉
        ["content-type", "content-length", "etag", "last-modified"] := by
      intro member
      have first : ∀ name, name ∈ ["content-type", "content-length", "etag", "last-modified"] →
          name.toList.head? ≠ some 'x' := by decide
      refine first _ member ?_
      simp [metadataLead]
    have look : (metadataOf sent).entries.lookup rest =
        (lastText? (sent.getAll (metadataLead ++ rest))).bind valueText? :=
      find?_metadataOf sent rest
    rw [describe_eq, metadata,
      getAll_insertMetadata_foldl (metadataOf sent).keys_nodup sendable, look,
      getAll_basics _ other]
    cases last : lastText? (sent.getAll (metadataLead ++ rest)) with
    | none => rfl
    | some value =>
        obtain ⟨text, read⟩ := (exists_of_lastText? last).2
        rw [Option.bind_some, read]
        exact congrArg (fun v => [v]) (toUTF8_of_valueText? read)

end Server

end Depot

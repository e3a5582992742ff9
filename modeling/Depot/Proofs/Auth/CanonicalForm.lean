import Depot.Proofs.Auth.CanonicalQuery
import Depot.Proofs.Auth.Signing
import Mathlib.Data.List.Forall2

/-!
# The canonical form tells requests apart

A signature covers the canonical form of a request and nothing else.  The form
depends on how a request is meant and not on how it is spelled: escapes in the
path and the query, the order of the parameters and the blanks in header values
do not matter to it.  And it can be read back: method, path, query and every
header line stand on a line of their own, an empty line ends the header lines,
and no part can hold a line feed but the last.

So two requests have one canonical form just when they mean the same
(`canonical_eq_iff`): no two requests that differ in what they mean can
share a signature.
-/

namespace Depot.Auth

set_option autoImplicit false

open Depot.Http
open Depot.Text

/-! ## What a request means -/

/-- The bytes that a path stands for.  An empty path stands for a slash. -/
def pathBytes (path : String) : List UInt8 :=
  if path.isEmpty then bytes "/" else Percent.decodedBytes path

def isBlankByte (b : UInt8) : Bool := b == 32 || b == 9

/-- A header value with its blanks collapsed: its words, with one space between each and the
next. -/
def collapsed (value : FieldValue) : List UInt8 :=
  [32].intercalate ((value.data.toList.splitOnP isBlankByte).filter (!·.isEmpty))

/-- What a header says: its values, collapsed, with commas between them.  A host that no line names
is that of the target. -/
def effectiveValue? (target : Target) (headers : Headers) (name : String) : Option (List UInt8) :=
  match headers.getAll (lower name) with
  | [] => if name = "host" then target.authority?.map bytes else none
  | first :: more => some ([44].intercalate ((first :: more).map collapsed))

/-- What a request with some signed headers means is the same as what another one does. -/
structure MeansSame (request request' : SignedRequest) (names names' : List String) : Prop where
  method : request.method = request'.method
  path : pathBytes request.target.path = pathBytes request'.target.path
  query : (decodedPairs (request.target.query?.getD "")).Perm
    (decodedPairs (request'.target.query?.getD ""))
  signed : names = names'
  values : ∀ name, name ∈ names →
    effectiveValue? request.target request.headers name =
      effectiveValue? request'.target request'.headers name
  payloadHash : request.payloadHash = request'.payloadHash

/-- A request as it is received: method and host stand on one line, and every header line has the
name of a header. -/
structure SignedRequest.Received (request : SignedRequest) : Prop where
  method : '\n' ∉ request.method.toList
  host : ∀ authority, request.target.authority? = some authority → '\n' ∉ authority.toList
  named : ∀ line, line ∈ request.headers.lines → fieldName? line.1 = some line.1

/-- The canonical form of a request with some signed headers. -/
def SignedRequest.canonical (request : SignedRequest) (names : List String) :
    Except AuthFault String :=
  canonicalRequest request.method request.target request.headers names request.payloadHash

/-! ## Paths -/

theorem canonicalPath_eq (path : String) :
    canonicalPath path = Percent.encodedText Percent.isPathByte (pathBytes path) := by
  unfold canonicalPath pathBytes
  split
  · decide
  · rfl

/-- **Paths have one canonical form just when they stand for the same bytes.** -/
theorem canonicalPath_eq_iff {path path' : String} :
    canonicalPath path = canonicalPath path' ↔ pathBytes path = pathBytes path' := by
  have read (path : String) : Percent.decodedBytes (canonicalPath path) = pathBytes path := by
    rw [canonicalPath_eq]
    exact Percent.decodedBytes_encodedText (fun _ => Percent.isPathByte_ascii) (by decide) _
  constructor
  · intro same
    rw [← read path, same, read]
  · intro same
    rw [canonicalPath_eq, same, ← canonicalPath_eq]

/-! ## Texts on one line -/

/-- A text with a line feed has its byte. -/
theorem oneLine_of_bytes {text : String} (clean : 10 ∉ bytes text) : '\n' ∉ text.toList := by
  intro member
  refine clean ?_
  rw [← String.ofList_toList (s := text), bytes_ofList]
  exact List.mem_flatMap.mpr ⟨'\n', member, by decide⟩

/-- Encoded text stands on one line when the line feed is not kept. -/
theorem oneLine_encodedText {keep : UInt8 → Bool} (ascii : ∀ b, keep b → b < 128)
    (escaped : keep 10 = false) (list : List UInt8) :
    '\n' ∉ (Percent.encodedText keep list).toList := by
  have triples : ∀ n : Fin 256, 10 ∉ Percent.triple (UInt8.ofFin n) := by decide +kernel
  refine oneLine_of_bytes ?_
  rw [Percent.encodedText, bytes_ascii (Percent.encode_ascii ascii list)]
  intro member
  obtain ⟨b, -, part⟩ := List.mem_flatMap.mp member
  split at part
  · next kept =>
      rw [← List.mem_singleton.mp part, escaped] at kept
      cases kept
  · exact triples b.toFin part

theorem oneLine_canonicalPath (path : String) : '\n' ∉ (canonicalPath path).toList := by
  rw [canonicalPath_eq]
  exact oneLine_encodedText (fun _ => Percent.isPathByte_ascii) (by decide) _

theorem oneLine_canonicalQuery (query? : Option String) :
    '\n' ∉ (canonicalQuery query?).toList := by
  intro member
  rw [canonicalQuery, canonicalPairs_eq] at member
  obtain same | ⟨text, known, inside⟩ := Authorization.mem_intercalate
    (Authorization.toList_joined '&' _ ▸ member)
  · exact absurd same (by decide)
  · obtain ⟨_, listed, rfl⟩ := List.mem_map.mp known
    obtain ⟨pair, sorted, rfl⟩ := List.mem_map.mp listed
    obtain ⟨decoded, -, rfl⟩ := List.mem_map.mp ((List.mergeSort_perm _ _).mem_iff.mp sorted)
    have clean (list : List UInt8) :=
      oneLine_encodedText (fun _ => Percent.isUnreserved_ascii) (by decide) list
    simp only [encodedPair, String.toList_append, List.mem_append] at inside
    rcases inside with (name | equals) | value
    · exact clean _ name
    · exact absurd equals (by decide)
    · exact clean _ value

/-! ## Header values -/

section

variable {list : List UInt8}

theorem mem_of_mem_splitOnP {α : Type} {p : α → Bool} {list word : List α} {a : α}
    (piece : word ∈ list.splitOnP p) (member : a ∈ word) : a ∈ list := by
  induction list generalizing word with
  | nil =>
      rw [List.splitOnP_nil, List.mem_singleton] at piece
      exact piece ▸ member
  | cons first rest ih =>
      rw [List.splitOnP_cons_eq_if_modifyHead] at piece
      split at piece
      · rcases List.mem_cons.mp piece with rfl | later
        · cases member
        · exact .tail _ (ih later member)
      · cases pieces : rest.splitOnP p with
        | nil => exact absurd pieces (List.splitOnP_ne_nil p rest)
        | cons word' more =>
            rw [pieces, List.modifyHead_cons, List.mem_cons] at piece
            rcases piece with rfl | later
            · rcases List.mem_cons.mp member with rfl | inside
              · exact List.mem_cons_self
              · exact .tail _ (ih (pieces ▸ List.mem_cons_self) inside)
            · exact .tail _ (ih (pieces ▸ .tail _ later) member)

/-- The words of a text of visible characters are those of its bytes. -/
theorem blankWords_ofBytes (visible : ∀ b, b ∈ list → isTextByte b) :
    blankWords (list.map Char.ofUInt8) =
      ((list.splitOnP isBlankByte).filter (!·.isEmpty)).map (·.map Char.ofUInt8) := by
  have blank (b : UInt8) (visible : isTextByte b) : isBlank (Char.ofUInt8 b) = isBlankByte b := by
    have every : ∀ n : Fin 256, isTextByte (UInt8.ofFin n) →
        isBlank (Char.ofUInt8 (UInt8.ofFin n)) = isBlankByte (UInt8.ofFin n) := by
      decide +kernel
    exact every b.toFin visible
  have filtered : ((list.splitOnP isBlankByte).map (·.map Char.ofUInt8)).filter (!·.isEmpty) =
      ((list.splitOnP isBlankByte).filter (!·.isEmpty)).map (·.map Char.ofUInt8) := by
    rw [List.filter_map]
    congr 2
    funext word
    cases word <;> rfl
  rw [← filtered]
  clear filtered
  unfold blankWords
  refine congrArg (List.filter fun word : List Char => !word.isEmpty) ?_
  -- The words are cut off one character after another, from the end.
  induction list with
  | nil => simp
  | cons first rest ih =>
      rw [List.map_cons, List.foldr_cons, ih fun b member => visible b (.tail _ member),
        blank first (visible first List.mem_cons_self), List.splitOnP_cons_eq_if_modifyHead]
      split
      · simp
      · cases pieces : rest.splitOnP isBlankByte with
        | nil => exact absurd pieces (List.splitOnP_ne_nil _ rest)
        | cons word more => simp

end

/-- The text of a value has the collapsed value as its bytes, which are visible. -/
theorem bytes_plainValue {name text : String} {value : FieldValue}
    (shown : plainValue name value = .ok text) :
    bytes text = collapsed value ∧ 10 ∉ collapsed value := by
  unfold plainValue valueText? at shown
  split at shown
  · next text' found =>
      split at found
      · next all =>
          obtain rfl := Option.some.inj found
          obtain rfl := Except.ok.inj shown
          have visible := List.all_eq_true.mp all
          have small : ∀ n : Fin 256, isTextByte (UInt8.ofFin n) → UInt8.ofFin n < 128 := by
            decide +kernel
          have inside {word : List UInt8}
              (piece : word ∈ (value.data.toList.splitOnP isBlankByte).filter (!·.isEmpty))
              {b : UInt8} (member : b ∈ word) : isTextByte b :=
            visible b (mem_of_mem_splitOnP (List.mem_filter.mp piece).1 member)
          constructor
          · rw [String.toList_ofList, blankWords_ofBytes visible, bytes_joined, List.map_map,
              List.map_map, collapsed]
            congr 1
            refine (List.map_congr_left fun word piece => ?_).trans (List.map_id _)
            exact bytes_ascii fun b member => small b.toFin (inside piece member)
          · intro member
            obtain same | ⟨word, piece, member⟩ := Authorization.mem_intercalate member
            · exact absurd same (by decide)
            · exact absurd (inside piece member) (by decide)
      · cases found
  · cases shown

theorem forall₂_of_mapM {ε α β : Type} {f : α → Except ε β} {list : List α} {results : List β}
    (read : list.mapM f = .ok results) : List.Forall₂ (fun a b => f a = .ok b) list results := by
  induction list generalizing results with
  | nil =>
      cases read
      exact .nil
  | cons a rest ih =>
      rw [List.mapM_cons] at read
      obtain ⟨b, first, read⟩ := Results.bind_eq_ok_iff.mp read
      obtain ⟨more, onward, read⟩ := Results.bind_eq_ok_iff.mp read
      cases read
      exact .cons first (ih onward)

/-- The values of a name that are all text, joined, say what their header says. -/
theorem bytes_joined_values {name : String} {values : List FieldValue} {texts : List String}
    (read : values.mapM (plainValue name) = .ok texts) :
    bytes (joined "," texts) = [44].intercalate (values.map collapsed) ∧
      '\n' ∉ (joined "," texts).toList := by
  have each := (forall₂_of_mapM read).imp fun _ _ shown => (bytes_plainValue shown).symm
  obtain ⟨clean, each⟩ := (List.forall₂_and_left _ _).mp each
  have own : texts.map bytes = values.map collapsed := by
    rw [← List.forall₂_eq_eq_eq, List.forall₂_map_left_iff, List.forall₂_map_right_iff]
    exact each.flip
  have whole : bytes (joined "," texts) = [44].intercalate (values.map collapsed) := by
    rw [bytes_joined, own]
    rfl
  refine ⟨whole, oneLine_of_bytes ?_⟩
  rw [whole]
  intro member
  obtain same | ⟨_, known, inside⟩ := Authorization.mem_intercalate member
  · exact absurd same (by decide)
  · obtain ⟨value, listed, rfl⟩ := List.mem_map.mp known
    exact clean value listed inside

/-! ## Header lines -/

/-- The line of a signed header with its value, without its end. -/
def headerLine (field : String × String) : List Char := field.1.toList ++ ':' :: field.2.toList

/-- A signed header with its value can be read from its line: there is no colon in the name, and
the line ends where it should. -/
structure Legible (field : String × String) : Prop where
  colon : ':' ∉ field.1.toList
  name : '\n' ∉ field.1.toList
  value : '\n' ∉ field.2.toList

namespace SignedRequest.Received

variable {request : SignedRequest} (received : request.Received)

include received

/-- A header that occurs under a name, in whatever letters, has a name that can be read. -/
theorem legible_name {name : String} {value : FieldValue}
    (occurs : value ∈ request.headers.getAll (lower name)) :
    ':' ∉ name.toList ∧ '\n' ∉ name.toList := by
  have known := received.named _ ((Headers.mem_getAll_iff _ _).mp occurs)
  have named := (of_fieldName? known).2.2
  have lowered {c : Char} (member : c ∈ name.toList) : isNameChar c.toLower := by
    refine named _ ?_
    rw [lower, String.toList_ofList]
    exact List.mem_map_of_mem member
  constructor
  · exact fun member => absurd (lowered member) (by decide)
  · exact fun member => absurd (lowered member) (by decide)

/-- A signed header says what its value is, and can be read from its line. -/
theorem signedValue_says {name value : String}
    (shown : signedValue request.target request.headers name = .ok value) :
    effectiveValue? request.target request.headers name = some (bytes value) ∧
      Legible (name, value) := by
  unfold signedValue at shown
  obtain ⟨texts, read, shown⟩ := Results.bind_eq_ok_iff.mp shown
  unfold effectiveValue?
  cases lines : request.headers.getAll (lower name) with
  | nil =>
      rw [lines] at read
      cases read
      by_cases host : name = "host"
      · subst host
        cases known : request.target.authority? with
        | none =>
            rw [if_pos rfl, known] at shown
            cases shown
        | some authority =>
            rw [if_pos rfl, known] at shown
            cases shown
            exact ⟨rfl, show ':' ∉ "host".toList by decide, show '\n' ∉ "host".toList by decide,
              received.host _ known⟩
      · rw [if_neg host] at shown
        cases shown
  | cons first more =>
      obtain ⟨colon, oneLine⟩ := received.legible_name (lines ▸ List.mem_cons_self)
      rw [lines] at read
      have filled : texts.isEmpty = false := by
        obtain ⟨_, _, -, -, rfl⟩ := List.forall₂_cons_left_iff.mp (forall₂_of_mapM read)
        rfl
      rw [filled] at shown
      cases shown
      obtain ⟨whole, clean⟩ := bytes_joined_values read
      exact ⟨congrArg some whole.symm, colon, oneLine, clean⟩

end SignedRequest.Received

/-! ## Reading a form back -/

/-- What separates two texts is found again where it does not occur in the first. -/
theorem append_sep_inj {sep : Char} {text text' rest rest' : List Char} (clean : sep ∉ text)
    (clean' : sep ∉ text') (same : text ++ sep :: rest = text' ++ sep :: rest') :
    text = text' ∧ rest = rest' := by
  have cut := cutAt_append clean rest
  rw [same, cutAt_append clean' rest'] at cut
  cases cut
  exact ⟨rfl, rfl⟩

/-- The lines of some signed headers, and the empty line that ends them. -/
def headerBlock (fields : List (String × String)) : List Char :=
  fields.flatMap (fun field => headerLine field ++ ['\n']) ++ ['\n']

theorem Legible.oneLine {field : String × String} (legible : Legible field) :
    '\n' ∉ headerLine field := by
  simp [headerLine, legible.name, legible.value]

theorem Legible.eq_of_line {field field' : String × String} (legible : Legible field)
    (legible' : Legible field') (same : headerLine field = headerLine field') : field = field' := by
  obtain ⟨name, value⟩ := append_sep_inj legible.colon legible'.colon same
  exact Prod.ext (String.toList_inj.mp name) (String.toList_inj.mp value)

/-- A block of legible headers can be read off the front of a text, and ends where it does. -/
theorem headerBlock_append_inj {fields fields' : List (String × String)} {rest rest' : List Char}
    (legible : ∀ field, field ∈ fields → Legible field)
    (legible' : ∀ field, field ∈ fields' → Legible field)
    (same : headerBlock fields ++ rest = headerBlock fields' ++ rest') :
    fields = fields' ∧ rest = rest' := by
  have cons (field : String × String) (more : List (String × String)) (rest : List Char) :
      headerBlock (field :: more) ++ rest =
        headerLine field ++ '\n' :: (headerBlock more ++ rest) := by
    simp [headerBlock]
  have filled (field : String × String) : [] ≠ headerLine field := by simp [headerLine]
  induction fields generalizing fields' with
  | nil =>
      cases fields' with
      | nil => exact ⟨rfl, by simpa [headerBlock] using same⟩
      | cons field more =>
          rw [cons] at same
          have none := append_sep_inj List.not_mem_nil (legible' _ List.mem_cons_self).oneLine same
          exact absurd none.1 (filled field)
  | cons field more ih =>
      have here := legible _ List.mem_cons_self
      rw [cons] at same
      cases fields' with
      | nil =>
          have none := append_sep_inj here.oneLine List.not_mem_nil same
          exact absurd none.1.symm (filled field)
      | cons field' more' =>
          have here' := legible' _ List.mem_cons_self
          rw [cons] at same
          obtain ⟨first, onward⟩ := append_sep_inj here.oneLine here'.oneLine same
          obtain ⟨rfl, rfl⟩ := ih (fun f member => legible f (.tail _ member))
            (fun f member => legible' f (.tail _ member)) onward
          exact ⟨by rw [here.eq_of_line here' first], rfl⟩

/-- The lines of some signed headers are those of their names with their values. -/
theorem fields_of_lines {target : Target} {headers : Headers} {names lines : List String}
    (each : List.Forall₂ (fun name line => signedLine target headers name = .ok line) names lines) :
    ∃ fields : List (String × String), names = fields.map Prod.fst ∧
      (∀ field, field ∈ fields → signedValue target headers field.1 = .ok field.2) ∧
      (String.join lines).toList = fields.flatMap fun field => headerLine field ++ ['\n'] := by
  induction each with
  | nil => exact ⟨[], rfl, by simp, rfl⟩
  | @cons name line names lines first _ ih =>
      obtain ⟨fields, rfl, shown, whole⟩ := ih
      obtain ⟨value, here, made⟩ := Results.bind_eq_ok_iff.mp first
      cases made
      refine ⟨(name, value) :: fields, rfl, ?_, ?_⟩
      · simpa using ⟨here, fun a b member => shown (a, b) member⟩
      · have step : String.join ((name ++ ":" ++ value ++ "\n") :: lines) =
            name ++ ":" ++ value ++ "\n" ++ String.join lines := by simp
        rw [step, String.toList_append, whole]
        simp [headerLine]

/-- A canonical form is made of lines: one each for the method, the path and the query, those of
the signed headers, and one for their names; what follows is the digest. -/
theorem toList_canonical {request : SignedRequest} {names : List String} {text : String}
    (form : request.canonical names = .ok text) :
    ∃ fields : List (String × String), names = fields.map Prod.fst ∧
      (∀ field, field ∈ fields →
        signedValue request.target request.headers field.1 = .ok field.2) ∧
      text.toList = request.method.toList ++ '\n' :: ((canonicalPath request.target.path).toList ++
        '\n' :: ((canonicalQuery request.target.query?).toList ++ '\n' :: (headerBlock fields ++
          ((joined ";" names).toList ++ '\n' :: request.payloadHash.toList)))) := by
  unfold SignedRequest.canonical canonicalRequest at form
  obtain ⟨lines, read, form⟩ := Results.bind_eq_ok_iff.mp form
  obtain ⟨fields, named, shown, whole⟩ := fields_of_lines (forall₂_of_mapM read)
  refine ⟨fields, named, shown, ?_⟩
  cases form
  simp only [String.toList_append, whole]
  simp [headerBlock]

/-- Fields with the same names in order are the same when each name has one value. -/
theorem fields_eq {fields fields' : List (String × String)}
    (names : fields.map Prod.fst = fields'.map Prod.fst)
    (values : ∀ field, field ∈ fields → ∀ field', field' ∈ fields' → field.1 = field'.1 →
      field.2 = field'.2) : fields = fields' := by
  induction fields generalizing fields' with
  | nil => exact (List.map_eq_nil_iff.mp names.symm).symm
  | cons field more ih =>
      cases fields' with
      | nil => cases names
      | cons field' more' =>
          obtain ⟨name, names⟩ := List.cons.inj names
          have value := values field List.mem_cons_self field' List.mem_cons_self name
          rw [Prod.ext name value, ih names fun f member f' member' =>
            values f (.tail _ member) f' (.tail _ member')]

/-! ## The main statement -/

/-- **Two requests have one canonical form just when they mean the same.** -/
theorem canonical_eq_iff {request request' : SignedRequest} (received : request.Received)
    (received' : request'.Received) {names names' : List String} {text text' : String}
    (form : request.canonical names = .ok text) (form' : request'.canonical names' = .ok text') :
    text = text' ↔ MeansSame request request' names names' := by
  obtain ⟨fields, named, shown, whole⟩ := toList_canonical form
  obtain ⟨fields', named', shown', whole'⟩ := toList_canonical form'
  constructor
  · rintro rfl
    rw [whole] at whole'
    obtain ⟨method, whole'⟩ := append_sep_inj received.method received'.method whole'
    obtain ⟨path, whole'⟩ :=
      append_sep_inj (oneLine_canonicalPath _) (oneLine_canonicalPath _) whole'
    obtain ⟨query, whole'⟩ :=
      append_sep_inj (oneLine_canonicalQuery _) (oneLine_canonicalQuery _) whole'
    obtain ⟨rfl, whole'⟩ := headerBlock_append_inj
      (fun field member => (received.signedValue_says (shown field member)).2)
      (fun field member => (received'.signedValue_says (shown' field member)).2) whole'
    have signed : names = names' := named.trans named'.symm
    subst signed
    have digest := (List.cons.inj
      (List.append_cancel_left (List.append_cancel_left whole'))).2
    exact
      { method := String.toList_inj.mp method
        path := canonicalPath_eq_iff.mp (String.toList_inj.mp path)
        query := canonicalQuery_eq_iff.mp (String.toList_inj.mp query)
        signed := rfl
        values := by
          intro name member
          rw [named] at member
          obtain ⟨field, listed, rfl⟩ := List.mem_map.mp member
          rw [(received.signedValue_says (shown field listed)).1,
            (received'.signedValue_says (shown' field listed)).1]
        payloadHash := String.toList_inj.mp digest }
  · rintro ⟨method, path, query, rfl, values, payloadHash⟩
    have alike : fields = fields' := by
      refine fields_eq (named.symm.trans named') fun field listed field' listed' same => ?_
      have spoken := (received.signedValue_says (shown field listed)).1
      have spoken' := (received'.signedValue_says (shown' field' listed')).1
      rw [values _ (named ▸ List.mem_map_of_mem listed), same, spoken'] at spoken
      exact (bytes_inj (Option.some.inj spoken)).symm
    rw [← String.toList_inj, whole, whole', method, canonicalPath_eq_iff.mpr path,
      canonicalQuery_eq_iff.mpr query, alike, payloadHash]

/-- A request with readable signed headers has a canonical form. -/
theorem exists_canonical (request : SignedRequest) {names : List String}
    (each : ∀ name, name ∈ names →
      ∃ value, signedValue request.target request.headers name = .ok value) :
    ∃ text, request.canonical names = .ok text := by
  have line (name : String) (member : name ∈ names) :
      ∃ line, signedLine request.target request.headers name = .ok line := by
    obtain ⟨value, shown⟩ := each name member
    exact ⟨_, by rw [signedLine, shown]; rfl⟩
  obtain ⟨lines, read, -⟩ := exists_mapM_ok line
  unfold SignedRequest.canonical canonicalRequest
  rw [read]
  exact ⟨_, rfl⟩

/-- A request in two spellings has one canonical form, and one with a plus sign in the place of a
space has another. -/
theorem spelled_otherwise :
    let names := ["host", "x-note"]
    let request : SignedRequest :=
      ⟨"PUT", ⟨none, "/box/a%2Db", some "b=c%20d&a"⟩,
        ⟨[("host", "  depot:80 ".toUTF8), ("x-note", " a \t b".toUTF8), ("x-note", "c".toUTF8)]⟩,
        unsignedPayload⟩
    let respelled : SignedRequest :=
      ⟨"PUT", ⟨some "depot:80", "/box/%61-b", some "&a=&%62=c%20d"⟩,
        ⟨[("x-note", "a b,c".toUTF8)]⟩, unsignedPayload⟩
    let other : SignedRequest :=
      { respelled with target := { respelled.target with query? := some "a&b=c+d" } }
    ∃ text text', request.canonical names = .ok text ∧ respelled.canonical names = .ok text ∧
      other.canonical names = .ok text' ∧ text ≠ text' := by
  intro names request respelled other
  have received : request.Received ∧ respelled.Received ∧ other.Received := by
    refine ⟨⟨by decide, ?_, ?_⟩, ⟨by decide, ?_, ?_⟩, by decide, ?_, ?_⟩
    · rintro _ ⟨⟩
    · decide
    · rintro _ ⟨⟩
      decide
    · decide
    · rintro _ ⟨⟩
      decide
    · decide
  obtain ⟨plain, spelled, plus⟩ := received
  have shown : ∀ name, name ∈ names →
      (signedValue request.target request.headers name).isOk ∧
        (signedValue respelled.target respelled.headers name).isOk := by
    decide
  have isOk {result : Except AuthFault String} (ok : result.isOk) :
      ∃ value, result = .ok value := by
    cases result with
    | ok value => exact ⟨value, rfl⟩
    | error fault => cases ok
  obtain ⟨text, form⟩ := exists_canonical request fun name member => isOk (shown name member).1
  obtain ⟨text', form'⟩ := exists_canonical respelled fun name member => isOk (shown name member).2
  obtain ⟨text'', form''⟩ := exists_canonical other fun name member => isOk (shown name member).2
  have same : text = text' := by
    refine (canonical_eq_iff plain spelled form form').mpr
      ⟨rfl, by decide, by decide, rfl, by decide, rfl⟩
  have differs : text ≠ text'' := fun same =>
    absurd ((canonical_eq_iff plain plus form form'').mp same).query (by decide)
  exact ⟨text, text'', form, same ▸ form', form'', differs⟩

end Depot.Auth

import Depot.Proofs.Server.Ranges
import Depot.Proofs.Server.Uploads
import Mathlib.Data.List.Forall2

/-!
# Uploads from begin to end

A client begins an upload, brings its parts in any order and as often as it
likes, lists some of them in a document and asks for the object.  What it needs
to know it finds in the responses: the name of the upload in the first, the
digest of a part in the header of the response to it and in the list of the
parts.  The object is then the bytes last brought for the listed numbers, one
after another (`uploads_assembled`).

The pieces of the session carry the argument: they are a fold over the parts
that were brought (`serve_parts`), in which the last part of a number wins
(`find?_piecesAfter`), and a listed number and digest is read as that of its
piece whichever form it has (`Quotes.read`).
-/

namespace Depot.Server

set_option autoImplicit false

open Depot.Auth
open Depot.Http
open Depot.Text
open Depot.Time

/-! ## Requests one after another -/

/-- A request that arrives on an occasion. -/
structure Arrival where
  occasion : Occasion
  request : Request

/-- Requests are answered one after another. -/
def serve (settings : Settings) : List Arrival → StateM Store (List Response)
  | [] => return []
  | arrival :: rest => do
      let response ← respond settings arrival.occasion arrival.request
      let responses ← serve settings rest
      return response :: responses

/-- The responses to a first request and to others, in the states that each finds. -/
theorem run_cons {α : Type} (first : StateM Store α) (others : StateM Store (List α)) (s : Store) :
    StateT.run (do
        let a ← first
        let rest ← others
        return a :: rest) s =
      ((first.run s).1 :: (others.run (first.run s).2).1, (others.run (first.run s).2).2) := rfl

theorem serve_cons (settings : Settings) (arrival : Arrival) (rest : List Arrival) (s : Store) :
    (serve settings (arrival :: rest)).run s =
      let done := (respond settings arrival.occasion arrival.request).run s
      let others := (serve settings rest).run done.2
      (done.1 :: others.1, others.2) := by
  rw [serve]
  exact run_cons _ _ s

/-! ## Parts that are brought -/

def quotedMd5 (bytes : ByteArray) : String :=
  "\x22" ++ Hex.encode (Digest.Md5.digest bytes) ++ "\x22"

/-- A part that a client brings. -/
structure BroughtPart extends Arrival where
  number : Nat
  bytes : ByteArray

namespace BroughtPart

def piece (part : BroughtPart) : Piece := ⟨part.bytes, part.occasion.now⟩

/-- The response to a part. -/
def answer (bucket key : String) (part : BroughtPart) : Response :=
  finish part.request.method (.endpoint (.putObject bucket key))
    (S3.etagResponse (Hex.encode (Digest.Md5.digest part.bytes)))

end BroughtPart

/-- The pieces of a session after some parts were brought. -/
def piecesAfter (parts : List BroughtPart) (pieces : Table Nat Piece) : Table Nat Piece :=
  parts.foldl (fun pieces part => pieces.insert part.number part.piece) pieces

/-- The part that was brought last under a number, with the response to it. -/
def latest? (brought : List (BroughtPart × Response)) (number : Nat) :
    Option (BroughtPart × Response) :=
  brought.reverse.find? fun e => e.1.number == number

/-- Under a number there is the piece that was brought last. -/
theorem find?_piecesAfter (parts : List BroughtPart) (pieces : Table Nat Piece) (number : Nat) :
    (piecesAfter parts pieces).find? number =
      ((parts.reverse.find? fun part => part.number == number).map BroughtPart.piece).or
        (pieces.find? number) := by
  induction parts generalizing pieces with
  | nil => rfl
  | cons part rest ih =>
      have first : (pieces.insert part.number part.piece).find? number =
          (([part].find? fun part => part.number == number).map BroughtPart.piece).or
            (pieces.find? number) := by
        rw [Table.find?_insert]
        by_cases same : part.number = number
        · simp [same]
        · simp [same, Ne.symm same]
      rw [List.reverse_cons, List.find?_append, Option.map_or, Option.or_assoc, ← first]
      exact ih _

/-- The last part of a number, with its response, is what the pieces have under the number. -/
theorem find?_of_latest? {bucket key : String} {parts : List BroughtPart}
    {e : BroughtPart × Response} {number : Nat}
    (last : latest? (parts.zip (parts.map (BroughtPart.answer bucket key))) number = some e) :
    e.1.number = number ∧ e.2 = e.1.answer bucket key ∧
      (piecesAfter parts Table.empty).find? number = some e.1.piece := by
  have paired : parts.zip (parts.map (BroughtPart.answer bucket key)) =
      parts.map fun part => (part, part.answer bucket key) := by
    rw [List.zip_map_right]
    simp [List.zip_eq_zipWith]
  rw [latest?, paired, ← List.map_reverse, List.find?_map] at last
  obtain ⟨part, found, rfl⟩ := Option.map_eq_some_iff.mp last
  have own : part.number = number := by simpa using List.find?_some found
  have found : (parts.reverse.find? fun part => part.number == number) = some part := found
  refine ⟨own, rfl, ?_⟩
  rw [find?_piecesAfter, found]
  rfl

/-! ## Digests in responses -/

theorem visible_quotedMd5 (bytes : ByteArray) : Visible (quotedMd5 bytes) := by
  have mark : Visible "\x22" := by
    intro c member
    obtain rfl : c = '\x22' := by simpa using member
    decide
  exact (mark.append (visible_encode _)).append mark

/-- The digest of a part stands in the response to it. -/
theorem BroughtPart.text?_answer (bucket key : String) (part : BroughtPart) :
    (part.answer bucket key).headers.text? "etag" = some (quotedMd5 part.bytes) := by
  have stated : (S3.etagResponse (Hex.encode (Digest.Md5.digest part.bytes))).headers.text? "etag" =
      some (quotedMd5 part.bytes) := by
    rw [S3.etagResponse, Response.withHeader]
    exact Headers.text?_insertText_self _ _ (visible_quotedMd5 part.bytes)
  rw [answer, headers_finish_eq, Response.withLength]
  split
  · exact stated
  · exact (Headers.text?_insertText_of_ne _ "content-length" (by decide) _).trans stated

/-! ## Entries for parts -/

/-- An entry of a document quotes a part that was brought: as the list of the parts shows it, or
with its number and the digest from the response to it, escaped or not. -/
inductive Quotes (listed : String) (brought : BroughtPart × Response) : String × String → Prop where
  | listed {content number etag : String} (among : content ∈ Xml.elements "Part" listed)
      (numbered : Xml.elements "PartNumber" content = [number])
      (digest : Xml.elements "ETag" content = [etag])
      (own : number = decimal brought.1.number) : Quotes listed brought (number, etag)
  | header {etag : String} (sent : brought.2.headers.text? "etag" = some etag) :
      Quotes listed brought (decimal brought.1.number, etag)
  | escaped {etag : String} (sent : brought.2.headers.text? "etag" = some etag) :
      Quotes listed brought (decimal brought.1.number, Xml.escape etag)

/-- The document in which the pieces of a session are listed. -/
def listOf (bucket key upload : String) (pieces : Table Nat Piece) : String :=
  Xml.partsDocument bucket key upload
    (pieces.entries.map fun e => Xml.ListedPart.ofPart e.1 e.2.part)

/-- A part that is listed shows the digest of the piece under its number. -/
theorem etag_of_listed {bucket key upload : String} {pieces : Table Nat Piece} {content : String}
    (among : content ∈ Xml.elements "Part" (listOf bucket key upload pieces)) {number : Nat}
    (numbered : Xml.elements "PartNumber" content = [decimal number]) {piece : Piece}
    (found : pieces.find? number = some piece) :
    Xml.elements "ETag" content = [Xml.escape (quotedMd5 piece.bytes)] := by
  rw [listOf, Xml.elements_partsDocument, List.map_map] at among
  obtain ⟨e, member, rfl⟩ := List.mem_map.mp among
  obtain ⟨shown, etag⟩ := Xml.elements_partText (Xml.ListedPart.ofPart e.1 e.2.part)
  have same : decimal e.1 = decimal number := List.singleton_inj.mp (shown.symm.trans numbered)
  have own : pieces.find? number = some e.2 := by
    rw [← decimal_injective same]
    exact Table.mem_entries_iff.mp member
  rw [found] at own
  obtain rfl := Option.some.inj own
  exact etag

/-- Whichever form an entry has, it is read as the number and the digest of its part. -/
theorem Quotes.read {bucket key upload : String} {pieces : Table Nat Piece}
    {brought : BroughtPart × Response} {entry : String × String}
    (quotes : Quotes (listOf bucket key upload pieces) brought entry)
    (answered : brought.2 = brought.1.answer bucket key)
    (found : pieces.find? brought.1.number = some brought.1.piece)
    (small : brought.1.number ≤ maxSigned64) :
    Xml.partAsked? entry =
      some ⟨brought.1.number, quotedMd5 brought.1.bytes⟩ := by
  have sent := brought.1.text?_answer bucket key
  rw [← answered] at sent
  cases quotes with
  | listed among numbered digest own =>
      subst own
      have shown := etag_of_listed among numbered found
      obtain rfl := List.singleton_inj.mp (digest.symm.trans shown)
      exact Xml.partAsked?_escaped small _
  | header known =>
      obtain rfl := Option.some.inj (known.symm.trans sent)
      exact Xml.partAsked?_header small (digits_encode _)
  | escaped known =>
      obtain rfl := Option.some.inj (known.symm.trans sent)
      exact Xml.partAsked?_escaped small _

/-! ## Parts one after another -/

section

variable {settings : Settings} {user : User} {bucket key upload : String}
  (named : Name.checkBucket bucket = .ok ())

include named

/-- Each part is answered with its digest, and all of them are in the session. -/
theorem serve_parts {parts : List BroughtPart}
    (brings : ∀ part, part ∈ parts →
      BringsPart settings part.occasion part.request user bucket key upload part.number part.bytes)
    {s : Store} (sound : s.Sound) {session : Session}
    (found : s.shelf.sessions.find? upload = some session)
    (own : session.identifier = Name.identifier user.userId bucket key) :
    ∃ t, t.Sound ∧
      t.shelf.sessions.find? upload =
        some { session with pieces := piecesAfter parts session.pieces } ∧
      (serve settings (parts.map BroughtPart.toArrival)).run s =
        (parts.map (BroughtPart.answer bucket key), t) := by
  induction parts generalizing s session with
  | nil => exact ⟨s, sound, found, rfl⟩
  | cons part rest ih =>
      obtain ⟨t, tSound, tFound, responds⟩ :=
        respond_uploadPart named sound (brings part List.mem_cons_self) found own
      obtain ⟨u, uSound, uFound, others⟩ :=
        ih (fun part member => brings part (.tail _ member)) tSound tFound own
      refine ⟨u, uSound, uFound, ?_⟩
      rw [List.map_cons, serve_cons, responds]
      dsimp only
      rw [others]
      rfl

end

/-! ## The object -/

def bytesTogether (chosen : List (BroughtPart × Response)) : ByteArray :=
  (chosen.map fun e => e.1.bytes).foldl (· ++ ·) ByteArray.empty

/-- What a client asks for when its document lists parts that it has brought. -/
def requestedOf (chosen : List (BroughtPart × Response)) : List RequestedPart :=
  chosen.map fun e => ⟨e.1.number, quotedMd5 e.1.bytes⟩

section

variable {pieces : Table Nat Piece} {chosen : List (BroughtPart × Response)}
  (found : ∀ e, e ∈ chosen → pieces.find? e.1.number = some e.1.piece)

include found

/-- Parts that are there, in the order of their numbers, can be chosen. -/
theorem selects_requestedOf (some : chosen ≠ [])
    (ascending : (chosen.map fun e => e.1.number).Pairwise (· < ·))
    (positive : ∀ e, e ∈ chosen → 1 ≤ e.1.number) :
    Shelf.Selects pieces (requestedOf chosen) := by
  have asked : requestedOf chosen ≠ [] := by simpa [requestedOf] using some
  rw [Shelf.Selects, if_neg asked]
  refine ⟨?_, ?_, ?_⟩
  · rw [List.pairwise_map] at ascending
    rw [requestedOf, List.map_map, List.pairwise_map]
    exact ascending.imp fun below => Int.ofNat_lt.mpr below
  · intro part member
    obtain ⟨e, among, rfl⟩ := List.mem_map.mp member
    have above := positive e among
    show (0 : Int) < (e.1.number : Int)
    omega
  · intro part member
    obtain ⟨e, among, rfl⟩ := List.mem_map.mp member
    exact ⟨e.1.piece, found e among, Xml.plainEtag_quoted (digits_encode _)⟩

/-- The object of the chosen parts is their bytes. -/
theorem joined_requestedOf (some : chosen ≠ []) :
    Shelf.joined pieces (requestedOf chosen) = bytesTogether chosen := by
  have asked : requestedOf chosen ≠ [] := by simpa [requestedOf] using some
  have picked : Shelf.selected pieces (requestedOf chosen) = chosen.map fun e => e.1.piece := by
    rw [Shelf.selected, if_neg asked, requestedOf, List.filterMap_map]
    refine (List.filterMap_congr fun e member => ?_).trans
      (congrFun (List.filterMap_eq_map (f := fun e => e.1.piece)) chosen)
    exact found e member
  rw [Shelf.joined, picked, List.map_map]
  rfl

end

/-- A request for the whole of an object. -/
structure AsksWhole (settings : Settings) (occasion : Occasion) (request : Request) (user : User)
    (bucket key : String) : Prop where
  asks : AsksFor settings occasion request user (.getObject bucket key)
  about : AboutObject request
  unranged : request.headers.get? "range" = none

/-- An object that is there is answered with its bytes and their digest. -/
theorem respond_getWhole {settings : Settings} {occasion : Occasion} {request : Request}
    {user : User} {bucket key : String} {s : Store} (sound : s.Sound)
    (named : Name.checkBucket bucket = .ok ())
    (whole : AsksWhole settings occasion request user bucket key) {record : Record}
    (known : s.shelf.objects.find? (Name.identifier user.userId bucket key) = some record) :
    let response := ((respond settings occasion request).run s).1
    response.status = 200 ∧ response.body = record.bytes ∧
      response.headers.text? "etag" = some (quotedMd5 record.bytes) := by
  intro response
  rw [Store.find?_shelf_objects, Option.map_eq_some_iff] at known
  obtain ⟨row, found, rfl⟩ := known
  have unranged : request.headers.text? "range" = none := by
    rw [Headers.text?, whole.unranged]
    rfl
  have answered : response = finish "GET" (.endpoint (.getObject bucket key))
      (S3.objectResponse 200 (s.contentAt (Name.identifier user.userId bucket key) row).object
        (s.contentAt (Name.identifier user.userId bucket key) row).bytes) := by
    show ((respond settings occasion request).run s).1 = _
    rw [respond_getObject sound whole.asks whole.about, S3.answerAsked_unranged unranged,
      S3.found_of_named named, sound.contentUnder_of_found found]
    rfl
  obtain ⟨-, size, digest⟩ := sound.held_object found
  let object := Store.objectAt (Name.identifier user.userId bucket key) row
  have described : (describe Headers.empty object).text? "etag" = some object.quotedEtag :=
    (text?_describe size digest Headers.empty).2
  have quoted : object.quotedEtag = quotedMd5 (s.recordOf row).bytes :=
    congrArg (fun digest => "\x22" ++ digest ++ "\x22") digest
  rw [answered]
  refine ⟨finish_status .., body_finish (by decide) .., ?_⟩
  rw [headers_finish _ _ (S3.has_objectResponse ..), ← quoted]
  exact (Headers.text?_insertText_of_ne _ "accept-ranges" (by decide) "bytes").trans described

/-! ## From begin to end -/

/-- A document lists parts by their numbers: some, in ascending order, each as it was brought
last. -/
structure ListsChosen (listed : String) (brought chosen : List (BroughtPart × Response))
    (document : String) : Prop where
  any : chosen ≠ []
  latest : ∀ e, e ∈ chosen → latest? brought e.1.number = some e
  ascending : (chosen.map fun e => e.1.number).Pairwise (· < ·)
  written : ∃ entries, List.Forall₂ (Quotes listed) chosen entries ∧
    Xml.CompletionText document entries
  small : document.utf8ByteSize ≤ S3.completionLimit

section

variable {settings : Settings} {user : User} {bucket key upload : String}
  {parts : List BroughtPart} {chosen : List (BroughtPart × Response)} {document : String}
  (brings : ∀ part, part ∈ parts →
    BringsPart settings part.occasion part.request user bucket key upload part.number part.bytes)
  (lists : ListsChosen (listOf bucket key upload (piecesAfter parts Table.empty))
    (parts.zip (parts.map (BroughtPart.answer bucket key))) chosen document)

include brings lists

/-- What is chosen was brought, with a number in range. -/
theorem inRange_of_chosen {e : BroughtPart × Response} (member : e ∈ chosen) :
    1 ≤ e.1.number ∧ e.1.number ≤ Store.maxPartNumber := by
  have among := List.mem_of_find?_eq_some (lists.latest e member)
  rw [List.mem_reverse] at among
  exact (brings e.1 (List.of_mem_zip among).1).inRange

/-- A document that lists parts is read as a request for them. -/
theorem requestedParts?_of_chosen : Xml.requestedParts? document = some (requestedOf chosen) := by
  obtain ⟨entries, quotes, text⟩ := lists.written
  have every : ∀ e, e ∈ chosen → ∀ entry,
      Quotes (listOf bucket key upload (piecesAfter parts Table.empty)) e entry →
      Xml.partAsked? entry =
        some ⟨e.1.number, quotedMd5 e.1.bytes⟩ := by
    intro e member entry quoted
    obtain ⟨-, answered, found⟩ := find?_of_latest? (lists.latest e member)
    have small : Store.maxPartNumber ≤ maxSigned64 := by decide
    exact quoted.read answered found
      (Nat.le_trans (inRange_of_chosen brings lists member).2 small)
  rw [Xml.requestedParts?_eq text]
  clear text lists
  induction quotes with
  | nil => rfl
  | cons first _ ih =>
      have others := ih fun e member => every e (.tail _ member)
      rw [List.mapM_cons, every _ List.mem_cons_self _ first, others]
      rfl

variable (named : Name.checkBucket bucket = .ok ())

include named

/-- A document that lists parts completes the upload with their bytes. -/
theorem respond_completeChosen {s : Store} (sound : s.Sound) {session : Session}
    (found : s.shelf.sessions.find? upload = some session)
    (own : session.identifier = Name.identifier user.userId bucket key)
    (pieces : session.pieces = piecesAfter parts Table.empty) {occasion : Occasion}
    {request : Request}
    (completes : CompletesUpload settings occasion request user bucket key upload document) :
    ∃ t, t.Sound ∧
      (∃ record, t.shelf.objects.find? (Name.identifier user.userId bucket key) = some record ∧
        record.bytes = bytesTogether chosen) ∧
      ((respond settings occasion request).run s).1.status = 200 ∧
      ((respond settings occasion request).run s).2 = t := by
  have there (e : BroughtPart × Response) (member : e ∈ chosen) :
      session.pieces.find? e.1.number = some e.1.piece := by
    rw [pieces]
    exact (find?_of_latest? (lists.latest e member)).2.2
  have selects := selects_requestedOf there lists.any lists.ascending fun e member =>
    (inRange_of_chosen brings lists member).1
  obtain ⟨t, tSound, tFound, status, after⟩ := respond_completeUpload named sound completes
    lists.small (requestedParts?_of_chosen brings lists) found own selects
  exact ⟨t, tSound, ⟨_, tFound, joined_requestedOf there lists.any⟩, status, after⟩

end

/-- **Uploads work from begin to end.**  In every state that a server comes to, a client begins an
upload for a key and reads its name in the response.  It brings parts, in any order and any of them
again, and each is answered with its digest.  Whoever asks for the list of the parts then sees the
same one.  A document that lists some of the parts in ascending order, with numbers and digests as
this list or the responses show them, is accepted, and the object under the key is then the latest
bytes of the listed parts, one after another, with the digest of the whole. -/
theorem uploads_assembled {settings : Settings} {s : Store} (reached : Reached settings s)
    {user : User} {bucket key : String} (named : Name.checkBucket bucket = .ok ())
    (valid : Name.checkIdentifier (Name.identifier user.userId bucket key) = .ok ())
    {first : Arrival}
    (begins : BeginsUpload settings first.occasion first.request user bucket key) :
    let begun := (respond settings first.occasion first.request).run s
    ∃ announced upload, documentIn? begun.1 = some announced ∧
      Xml.textOf? "UploadId" announced = some upload ∧
      ∀ parts : List BroughtPart,
        (∀ part, part ∈ parts → BringsPart settings part.occasion part.request user bucket key
          upload part.number part.bytes) →
        let brought := (serve settings (parts.map BroughtPart.toArrival)).run begun.2
        List.Forall₂ (fun part response => response.status = 200 ∧
          response.headers.text? "etag" = some (quotedMd5 part.bytes))
          parts brought.1 ∧
        ∃ listed,
          (∀ look : Arrival,
            ListsParts settings look.occasion look.request user bucket key upload →
            let seen := (respond settings look.occasion look.request).run brought.2
            documentIn? seen.1 = some listed ∧ seen.2 = brought.2) ∧
          ∀ chosen document, ListsChosen listed (parts.zip brought.1) chosen document →
            ∀ last : Arrival,
              CompletesUpload settings last.occasion last.request user bucket key upload
                document →
              let completed := (respond settings last.occasion last.request).run brought.2
              completed.1.status = 200 ∧
              ∀ get : Arrival, AsksWhole settings get.occasion get.request user bucket key →
                let got := ((respond settings get.occasion get.request).run completed.2).1
                got.status = 200 ∧ got.body = bytesTogether chosen ∧
                  got.headers.text? "etag" =
                    some (quotedMd5 (bytesTogether chosen)) := by
  obtain ⟨t, tSound, ⟨session, tFound, own, fresh⟩, responds⟩ :=
    respond_beginUpload named reached.sound begins valid
  have posted : first.request.method ≠ "HEAD" := by
    rw [Route.method_of_endpoint begins.asks.leads rfl]
    decide
  rw [responds]
  refine ⟨_, _, ?_, Xml.textOf?_uploadDocument bucket key (Store.uploadName s.nextUpload), ?_⟩
  · dsimp only
    rw [documentIn?_finish posted, documentIn?_xml]
  intro parts brings
  obtain ⟨u, uSound, uFound, served⟩ := serve_parts named brings tSound tFound own
  rw [fresh] at uFound
  dsimp only
  rw [served]
  let upload := Store.uploadName s.nextUpload
  refine ⟨?_, listOf bucket key upload (piecesAfter parts Table.empty), ?_, ?_⟩
  · rw [List.forall₂_map_right_iff, List.forall₂_same]
    intro part _
    exact ⟨finish_status _ (.endpoint (.putObject bucket key)) _, part.text?_answer bucket key⟩
  · intro look looks
    dsimp only
    rw [respond_listParts named uSound looks uFound own]
    refine ⟨?_, rfl⟩
    rw [documentIn?_finish (by decide), documentIn?_xml]
    rfl
  intro chosen document lists last completes
  obtain ⟨v, vSound, ⟨record, known, bytes⟩, status, after⟩ :=
    respond_completeChosen brings lists named uSound uFound own rfl completes
  dsimp only
  refine ⟨status, ?_⟩
  intro get whole
  rw [after, ← bytes]
  exact respond_getWhole vSound named whole known

/-- A document as programs write it, for one part with the digest in quotes. -/
def documentFor (number : Nat) (etag : String) : String :=
  Xml.declaration ++ ("<CompleteMultipartUpload" ++ Xml.rootAttribute ++ ">" ++
    Xml.element "Part" (Xml.element "PartNumber" (decimal number) ++ Xml.element "ETag" etag) ++
    "</CompleteMultipartUpload>" ++ "\n")

theorem completionText_documentFor (number : Nat) {etag : String} (clean : '<' ∉ etag.toList) :
    Xml.CompletionText (documentFor number etag) [(decimal number, etag)] := by
  have digits : '<' ∉ (decimal number).toList := by
    intro member
    cases digits_decimal number '<' member
  have known : Xml.isName "Part" := by decide
  have declared : Xml.Free (Xml.openTag "Part".toList) Xml.declaration.toList := by
    rw [Xml.toList_declaration]
    exact (Xml.free_document known known).1
  have inner := Xml.Markup.append
    (Xml.Markup.plain (show Xml.isName "PartNumber" by decide) digits)
    (Xml.Markup.plain (show Xml.isName "ETag" by decide) clean)
  have outer := Xml.Markup.element known inner (by simp)
  obtain ⟨less, greater, -⟩ := Xml.clean_rootAttribute
  refine .intro declared less greater outer ?_ (by simp)
  have names : Xml.NamesPart
      (Xml.element "PartNumber" (decimal number) ++ Xml.element "ETag" etag)
      (decimal number, etag) := ⟨_, inner, by simp, by simp⟩
  simpa [Xml.contentsOf] using names

namespace SignedClient


/-- A request of the client for a key, with parameters. -/
def boxed (method : String) (params : List Parameter) (body : Body) : Request :=
  request method ⟨none, "/s3/box/k", some (queryOf params)⟩ [] body

/-- It arrives on the only occasion that the client signs for. -/
def arrival (method : String) (params : List Parameter) (body : Body) : Arrival :=
  ⟨occasion, boxed method params body⟩

variable {method : String} (params : List Parameter)

theorem ofPath?_box : Place.ofPath? "/s3/box/k" = some (.object "box" "k") := rfl

theorem asksFor_boxed {endpoint : Endpoint}
    (leads : Route.atPlace method (.object "box" "k") = .endpoint endpoint) (body : Body) :
    AsksFor settings occasion (boxed method params body) credential.user endpoint := by
  have route : Route.of method "/s3/box/k" = .endpoint endpoint := by
    rw [Route.of, ofPath?_box]
    exact leads
  have closed : Protocol.ofPath "/s3/box/k" ≠ .probe := by decide +kernel
  have other : (Headers.mk []).getAll dateHeader = [] := rfl
  exact @asksFor method ⟨none, "/s3/box/k", some (queryOf params)⟩ endpoint route closed [] other
    body

theorem parametersOf_boxed (body : Body) : parametersOf (boxed method params body) = params :=
  parameters_queryOf params

theorem readable_boxed (bytes : ByteArray) :
    readable (boxed method params (Body.ofBytes bytes)) = .ok bytes := by
  refine (readable_request method _ [] _).trans ?_
  simp [Body.ofBytes, Body.contents, Body.readOnto]

def begins : Arrival := arrival "POST" [⟨"uploads", ""⟩] []

/-- The client brings the only part of an upload. -/
def brings (upload text : String) : BroughtPart :=
  ⟨arrival "PUT" [⟨"uploadId", upload⟩, ⟨"partNumber", "1"⟩] (Body.ofBytes text.toUTF8), 1,
    text.toUTF8⟩

def completes (upload document : String) : Arrival :=
  arrival "POST" [⟨"uploadId", upload⟩] (Body.ofBytes document.toUTF8)

def gets : Arrival := arrival "GET" [] []

theorem beginsUpload :
    BeginsUpload settings begins.occasion begins.request credential.user "box" "k" where
  asks := asksFor_boxed _ (by decide) _
  once := congrArg (repeatedName? S3.objectParameters) (parametersOf_boxed _ _)
  begins := congrArg (fun params => (valueOf? params "uploads").isSome) (parametersOf_boxed _ _)

theorem bringsPart (upload text : String) :
    BringsPart settings (brings upload text).occasion (brings upload text).request
      credential.user "box" "k" upload (brings upload text).number
      (brings upload text).bytes where
  asks := asksFor_boxed _ (by decide) _
  once := congrArg (repeatedName? S3.objectParameters) (parametersOf_boxed _ _)
  named := congrArg (valueOf? · "uploadId") (parametersOf_boxed _ _)
  numbered := ⟨"1", congrArg (valueOf? · "partNumber") (parametersOf_boxed _ _),
    show integer64? "1" = some ((1 : Nat) : Int) by decide⟩
  inRange := show 1 ≤ 1 ∧ 1 ≤ Store.maxPartNumber by decide
  content := readable_boxed _ _

theorem completesUpload (upload document : String) :
    CompletesUpload settings (completes upload document).occasion
      (completes upload document).request credential.user "box" "k" upload document where
  asks := asksFor_boxed _ (by decide) _
  once := congrArg (repeatedName? S3.objectParameters) (parametersOf_boxed _ _)
  completes := congrArg (valueOf? · "uploads") (parametersOf_boxed _ _)
  named := congrArg (valueOf? · "uploadId") (parametersOf_boxed _ _)
  content := readable_boxed _ _

theorem asksWhole : AsksWhole settings gets.occasion gets.request credential.user "box" "k" where
  asks := asksFor_boxed _ (by decide) _
  about := by
    constructor
    · exact congrArg (repeatedName? S3.objectParameters) (parametersOf_boxed [] [])
    · exact congrArg (valueOf? · "uploadId") (parametersOf_boxed [] [])
  unranged := get?_request "GET" _ [] [] (by decide)

end SignedClient

open SignedClient in
/-- A client that brings its only part twice, and gets the later bytes. -/
theorem part_brought_twice :
    let begun := (respond SignedClient.settings begins.occasion begins.request).run Store.empty
    let etag := "\x229dd4e461268c8034f5c8564e155c67a6\x22"
    ∃ upload,
      let brought := (serve SignedClient.settings
        ([brings upload "w", brings upload "x"].map BroughtPart.toArrival)).run begun.2
      let last := completes upload (documentFor 1 etag)
      let completed := (respond SignedClient.settings last.occasion last.request).run brought.2
      let got := ((respond SignedClient.settings gets.occasion gets.request).run completed.2).1
      completed.1.status = 200 ∧ got.status = 200 ∧ got.body = "x".toUTF8 ∧
        got.headers.text? "etag" = some etag := by
  have named : Name.checkBucket "box" = .ok () := rfl
  have known : quotedMd5 "x".toUTF8 = "\x229dd4e461268c8034f5c8564e155c67a6\x22" := by
    decide +kernel
  obtain ⟨-, upload, -, -, assembled⟩ := uploads_assembled .start named rfl beginsUpload
  refine ⟨upload, ?_⟩
  obtain ⟨answers, listed, -, completion⟩ :=
    assembled [brings upload "w", brings upload "x"] (by simp [bringsPart])
  obtain ⟨early, _, -, more, shown⟩ := List.forall₂_cons_left_iff.mp answers
  obtain ⟨late, _, ⟨-, digest⟩, none, rfl⟩ := List.forall₂_cons_left_iff.mp more
  rw [show (brings upload "x").bytes = "x".toUTF8 from rfl, known] at digest
  obtain rfl := List.forall₂_nil_left_iff.mp none
  have lists : ListsChosen listed [(brings upload "w", early), (brings upload "x", late)]
      [(brings upload "x", late)]
      (documentFor 1 "\x229dd4e461268c8034f5c8564e155c67a6\x22") :=
    { any := by simp
      latest := by
        intro e member
        obtain rfl := List.mem_singleton.mp member
        rfl
      ascending := by simp
      written := ⟨_, .cons (.header digest) .nil,
        completionText_documentFor 1 (by decide +kernel)⟩
      small := by decide +kernel }
  obtain ⟨status, read⟩ :=
    completion _ _ (by rw [shown]; exact lists) _ (completesUpload upload _)
  have got := read gets asksWhole
  have single : bytesTogether [(brings upload "x", late)] = "x".toUTF8 := ByteArray.empty_append
  rw [single, known] at got
  dsimp only at status got ⊢
  exact ⟨status, got⟩

end Depot.Server

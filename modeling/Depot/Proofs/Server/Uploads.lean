import Depot.Proofs.Completions
import Depot.Proofs.Server.Agreement
import Depot.Proofs.Store.SessionTable

/-!
# Requests about uploads

What the four requests of an upload are answered in a sound store, each by what
it does to the session of the upload: one begins a session, one sets a piece of
it, one lists its pieces, and one ends it with an object.  Nothing later opens an
endpoint or a session for that.
-/

namespace Depot.Server

set_option autoImplicit false

open Depot.Auth
open Depot.Http
open Depot.Text
open Depot.Time

/-! ## What the requests ask -/

/-- A request that begins an upload for a key of a bucket. -/
structure BeginsUpload (settings : Settings) (occasion : Occasion) (request : Request)
    (user : User) (bucket key : String) : Prop where
  asks : AsksFor settings occasion request user (.postObject bucket key)
  once : repeatedName? S3.objectParameters (parametersOf request) = none
  begins : (valueOf? (parametersOf request) "uploads").isSome

/-- A request that brings the bytes of a part. -/
structure BringsPart (settings : Settings) (occasion : Occasion) (request : Request)
    (user : User) (bucket key upload : String) (number : Nat) (bytes : ByteArray) : Prop where
  asks : AsksFor settings occasion request user (.putObject bucket key)
  once : repeatedName? S3.objectParameters (parametersOf request) = none
  named : valueOf? (parametersOf request) "uploadId" = some upload
  numbered : ∃ text, valueOf? (parametersOf request) "partNumber" = some text ∧
    integer64? text = some (number : Int)
  inRange : 1 ≤ number ∧ number ≤ Store.maxPartNumber
  content : readable request = .ok bytes

/-- A request for the parts of an upload. -/
structure ListsParts (settings : Settings) (occasion : Occasion) (request : Request)
    (user : User) (bucket key upload : String) : Prop where
  asks : AsksFor settings occasion request user (.getObject bucket key)
  once : repeatedName? S3.objectParameters (parametersOf request) = none
  named : valueOf? (parametersOf request) "uploadId" = some upload

/-- A request that completes an upload with a document. -/
structure CompletesUpload (settings : Settings) (occasion : Occasion) (request : Request)
    (user : User) (bucket key upload document : String) : Prop where
  asks : AsksFor settings occasion request user (.postObject bucket key)
  once : repeatedName? S3.objectParameters (parametersOf request) = none
  completes : valueOf? (parametersOf request) "uploads" = none
  named : valueOf? (parametersOf request) "uploadId" = some upload
  content : readable request = .ok document.toUTF8

/-! ## Where the requests lead -/

namespace S3

variable {user : User} {bucket key : String} {params : List Parameter} {headers : Headers}
  {body : Body} {now : Instant}

def addressOf (user : User) (bucket key : String) : Address := ⟨user.userId, bucket, key⟩

variable (named : Name.checkBucket bucket = .ok ())

include named

theorem postObject_of_uploads (begins : (valueOf? params "uploads").isSome) :
    postObject user bucket key params headers body now =
      beginUpload (addressOf user bucket key) headers now := by
  rw [postObject, Address.of_named named]
  exact if_pos begins

theorem postObject_of_upload {upload : String} (completes : valueOf? params "uploads" = none)
    (known : valueOf? params "uploadId" = some upload) :
    postObject user bucket key params headers body now =
      completeUpload (addressOf user bucket key) upload body now := by
  rw [postObject, Address.of_named named, completes, known]
  rfl

theorem putObject_of_part {upload number : String}
    (known : valueOf? params "uploadId" = some upload)
    (numbered : valueOf? params "partNumber" = some number) :
    putObject user bucket key params headers body now =
      uploadPart (addressOf user bucket key) upload number body now := by
  rw [putObject, Address.of_named named, known, numbered]
  rfl

theorem getObject_of_upload {upload : String} (known : valueOf? params "uploadId" = some upload) :
    getObject user bucket key params headers = listParts (addressOf user bucket key) upload := by
  rw [getObject, Address.of_named named, known]
  rfl

end S3

/-! ## Answers that show what an operation finds -/

section

variable {settings : Settings} {occasion : Occasion} {request : Request} {user : User}
  {bucket key : String} {s : Store}

/-- A request whose endpoint shows the answer of an operation is answered as it is specified, and
leaves the specified shelf. -/
theorem respond_shown {α β : Type} {view : α → β} {target : S3.Address}
    {action : Body → Store.Action α} {answer : α → Response} {endpoint : Endpoint} {b : β}
    {after : Shelf} (asks : AsksFor settings occasion request user endpoint)
    (answers : ∀ body, body.contents = readable request →
      answerUser settings occasion request body user endpoint =
        answerS3 occasion (do return answer (← target.fromStore (action body))))
    (follows : ∀ body, body.contents = readable request →
      Store.Follows (fun _ => False) view s (outcome (action body) s) (.ok (b, after))) :
    ∃ a t, view a = b ∧ t.Sound ∧ t.shelf = after ∧
      (respond settings occasion request).run s =
        (finish request.method (.endpoint endpoint) (answer a), t) := by
  obtain ⟨body, admitted, responds⟩ := respond_run asks.authenticated asks.leads
  have content := contents_of_admission admitted
  have specified := follows body content
  obtain ⟨a, done, seen, shelf⟩ := specified.of_ok
  refine ⟨a, (outcome (action body) s).2, seen, specified.sound, shelf, ?_⟩
  rw [responds, answers body content, answerS3, Discreet.run_answering, S3.Address.outcome_shown,
    done]
  rfl

variable (named : Name.checkBucket bucket = .ok ()) (sound : s.Sound)

include named sound

/-- An upload is begun with a session that has no pieces, and its name is in the answer. -/
theorem respond_beginUpload (begins : BeginsUpload settings occasion request user bucket key)
    (valid : Name.checkIdentifier (Name.identifier user.userId bucket key) = .ok ()) :
    ∃ t, t.Sound ∧
      (∃ session, t.shelf.sessions.find? (Store.uploadName s.nextUpload) = some session ∧
        session.identifier = Name.identifier user.userId bucket key ∧
        session.pieces = Table.empty) ∧
      (respond settings occasion request).run s =
        (finish request.method (.endpoint (.postObject bucket key))
          (.xml 200 (Xml.uploadDocument bucket key (Store.uploadName s.nextUpload))), t) := by
  let identifier := Name.identifier user.userId bucket key
  let attributes := attributesOf request.headers
  have answers (body : Body) :
      answerUser settings occasion request body user (.postObject bucket key) =
        answerS3 occasion (do
          let begun ← (S3.addressOf user bucket key).fromStore
            (Store.beginUpload identifier attributes occasion.now)
          return .xml 200 (Xml.uploadDocument bucket key begun.1)) := by
    have leads := withQuery_of_once begins.once fun params =>
      answerS3 occasion (S3.postObject user bucket key params request.headers body occasion.now)
    refine leads.trans (congrArg (answerS3 occasion) ?_)
    rw [S3.postObject_of_uploads named begins.begins]
    rfl
  have started := Shelf.start_eq_ok_iff.mpr
    ⟨Name.checkIdentifier_eq_ok_iff.mp valid, rfl, (rfl : _ = ({ s.shelf with
        sessions := s.shelf.sessions.insert (Store.uploadName s.shelf.nextUpload)
          ⟨identifier, attributes, occasion.now, Table.empty⟩
        nextUpload := s.shelf.nextUpload + 1 } : Shelf))⟩
  obtain ⟨begun, t, seen, tSound, shelf, responds⟩ := respond_shown begins.asks
    (fun body _ => answers body)
    (fun _ _ => started ▸ sound.follows_beginUpload not_false attributes occasion.now)
  refine ⟨t, tSound, ⟨⟨identifier, attributes, occasion.now, Table.empty⟩, ?_, rfl, rfl⟩, ?_⟩
  · rw [shelf]
    exact Table.find?_insert_self _ _ _
  · have name : begun.1 = Store.uploadName s.nextUpload := congrArg Prod.fst seen
    rw [responds, name]

/-- The bytes of a part are the piece of its number, whatever that was before. -/
theorem respond_uploadPart {upload : String} {number : Nat} {bytes : ByteArray}
    (brings : BringsPart settings occasion request user bucket key upload number bytes)
    {session : Session} (found : s.shelf.sessions.find? upload = some session)
    (own : session.identifier = Name.identifier user.userId bucket key) :
    ∃ t, t.Sound ∧
      t.shelf.sessions.find? upload =
        some { session with pieces := session.pieces.insert number ⟨bytes, occasion.now⟩ } ∧
      (respond settings occasion request).run s =
        (finish request.method (.endpoint (.putObject bucket key))
          (S3.etagResponse (Hex.encode (Digest.Md5.digest bytes))), t) := by
  let identifier := Name.identifier user.userId bucket key
  obtain ⟨text, numbered, read⟩ := brings.numbered
  have inRange := brings.inRange
  have readNumber : S3.readPartNumber (S3.addressOf user bucket key) text = .ok number := by
    rw [S3.readPartNumber, read]
    exact if_pos (by omega)
  have answers (body : Body) :
      answerUser settings occasion request body user (.putObject bucket key) =
        answerS3 occasion (do
          let part ← (S3.addressOf user bucket key).fromStore
            (Store.uploadPart upload identifier number body occasion.now)
          return S3.etagResponse part.etag) := by
    have leads := withQuery_of_once brings.once fun params =>
      answerS3 occasion (S3.putObject user bucket key params request.headers body occasion.now)
    refine leads.trans (congrArg (answerS3 occasion) ?_)
    rw [S3.putObject_of_part named brings.named numbered, S3.uploadPart, readNumber]
    rfl
  let after : Shelf :=
    { s.shelf with
      sessions := s.shelf.sessions.insert upload
        { session with pieces := session.pieces.insert number ⟨bytes, occasion.now⟩ } }
  have whole (body : Body) (content : body.contents = readable request) :
      Ledger.whole body = .ok bytes := by
    rw [Ledger.whole_eq, content, brings.content]
    rfl
  have supplied (body : Body) (content : body.contents = readable request) :
      s.shelf.uploadPart upload identifier number body occasion.now =
        .ok (Piece.part ⟨bytes, occasion.now⟩, after) :=
    Shelf.uploadPart_eq_ok_iff.mpr ⟨session, ⟨found, own⟩, by omega, bytes, whole body content,
      rfl, rfl⟩
  obtain ⟨part, t, seen, tSound, shelf, responds⟩ := respond_shown brings.asks
    (fun body _ => answers body)
    (fun body content => supplied body content ▸
      sound.follows_uploadPart upload not_false number body occasion.now)
  refine ⟨t, tSound, ?_, ?_⟩
  · rw [shelf]
    exact Table.find?_insert_self _ _ _
  · have digest : part.etag = Hex.encode (Digest.Md5.digest bytes) := congrArg Part.etag seen
    rw [responds, digest]

/-- The pieces of a session are listed in the order of their numbers. -/
theorem respond_listParts {upload : String}
    (lists : ListsParts settings occasion request user bucket key upload)
    {session : Session} (found : s.shelf.sessions.find? upload = some session)
    (own : session.identifier = Name.identifier user.userId bucket key) :
    (respond settings occasion request).run s =
      (finish "GET" (.endpoint (.getObject bucket key))
        (.xml 200 (Xml.partsDocument bucket key upload
          (session.pieces.entries.map fun e => Xml.ListedPart.ofPart e.1 e.2.part))), s) := by
  let identifier := Name.identifier user.userId bucket key
  have answers (body : Body) :
      answerUser settings occasion request body user (.getObject bucket key) =
        answerS3 occasion (do
          let parts ← (S3.addressOf user bucket key).fromStore (Store.listParts upload identifier)
          return .xml 200 (Xml.partsDocument bucket key upload
            (parts.map fun e => Xml.ListedPart.ofPart e.1 e.2))) := by
    have leads := withQuery_of_once lists.once fun params =>
      answerS3 occasion (S3.getObject user bucket key params request.headers)
    refine leads.trans (congrArg (answerS3 occasion) ?_)
    rw [S3.getObject_of_upload named lists.named]
    rfl
  have listed : s.shelf.listParts upload identifier =
      .ok (session.pieces.entries.map fun e => (e.1, e.2.part)) := by
    rw [Shelf.listParts, Shelf.sessionFor_eq_ok_iff.mpr ⟨found, own⟩]
    rfl
  have follows := @Store.Sound.follows_listParts (fun _ => False) s sound upload identifier
  rw [listed] at follows
  obtain ⟨body, -, looks⟩ := respond_run lists.asks.authenticated lists.asks.leads
  obtain ⟨parts, done, seen, -⟩ := follows.of_ok
  have kept : (outcome (Store.listParts upload identifier) s).2 = s := by
    rw [Store.outcome_listParts]
  have shown : (parts.map fun e => Xml.ListedPart.ofPart e.1 e.2) =
      session.pieces.entries.map fun e => Xml.ListedPart.ofPart e.1 e.2.part := by
    have unnumbered := congrArg (List.map fun e => Xml.ListedPart.ofPart e.1 e.2) seen
    rwa [List.map_map, List.map_map] at unnumbered
  rw [looks, answers, answerS3, Discreet.run_answering, S3.Address.outcome_shown, done, kept,
    Route.method_of_endpoint lists.asks.leads rfl, ← shown]
  rfl

omit named sound in
/-- The parts that a document asks for are read when it is not too large. -/
theorem readCompletion_of_requested {target : S3.Address} {body : Body} {document : String}
    {requested : List RequestedPart} (content : body.contents = .ok document.toUTF8)
    (small : document.utf8ByteSize ≤ S3.completionLimit)
    (asked : Xml.requestedParts? document = some requested) :
    S3.readCompletion target body = .ok requested := by
  have within := Body.contentsWithin_of_contents content small
  have text : String.fromUTF8? document.toUTF8 = some document := documentIn?_xml document
  rw [S3.readCompletion, within]
  dsimp only
  rw [text, Option.bind_some, asked]

/-- A completion for parts that are there sets the object to their bytes. -/
theorem respond_completeUpload {upload document : String} {requested : List RequestedPart}
    (completes : CompletesUpload settings occasion request user bucket key upload document)
    (small : document.utf8ByteSize ≤ S3.completionLimit)
    (asked : Xml.requestedParts? document = some requested) {session : Session}
    (found : s.shelf.sessions.find? upload = some session)
    (own : session.identifier = Name.identifier user.userId bucket key)
    (selects : Shelf.Selects session.pieces requested) :
    ∃ t, t.Sound ∧
      t.shelf.objects.find? (Name.identifier user.userId bucket key) =
        some ⟨Shelf.joined session.pieces requested, session.attributes, occasion.now⟩ ∧
      ((respond settings occasion request).run s).1.status = 200 ∧
      ((respond settings occasion request).run s).2 = t := by
  let identifier := Name.identifier user.userId bucket key
  have answers (body : Body) (content : body.contents = readable request) :
      answerUser settings occasion request body user (.postObject bucket key) =
        answerS3 occasion (do
          let object ← (S3.addressOf user bucket key).fromStore
            (Store.complete upload identifier requested occasion.now)
          return .xml 200 (Xml.completionDocument (S3.addressOf user bucket key).resource bucket key
            object)) := by
    have leads := withQuery_of_once completes.once fun params =>
      answerS3 occasion (S3.postObject user bucket key params request.headers body occasion.now)
    refine leads.trans (congrArg (answerS3 occasion) ?_)
    rw [S3.postObject_of_upload named completes.completes completes.named, S3.completeUpload,
      readCompletion_of_requested (content.trans completes.content) small asked]
    rfl
  let record : Record :=
    ⟨Shelf.joined session.pieces requested, session.attributes, occasion.now⟩
  let after : Shelf :=
    { s.shelf with
      objects := s.shelf.objects.insert identifier record
      sessions := s.shelf.sessions.erase upload }
  have completed : s.shelf.complete upload identifier requested occasion.now =
      .ok (record.object identifier, after) :=
    Shelf.complete_eq_ok_iff.mpr ⟨session, ⟨found, own⟩, selects, rfl, rfl⟩
  obtain ⟨object, t, -, tSound, shelf, responds⟩ := respond_shown completes.asks answers
    (fun _ _ => completed ▸ sound.follows_complete upload not_false requested occasion.now)
  refine ⟨t, tSound, ?_, ?_, ?_⟩
  · rw [shelf]
    exact Table.find?_insert_self _ _ _
  · rw [responds]
    exact finish_status ..
  · rw [responds]

end

end Depot.Server

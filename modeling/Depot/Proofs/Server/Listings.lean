import Depot.Proofs.BucketNames
import Depot.Proofs.Documents
import Depot.Proofs.Headers
import Depot.Proofs.Queries
import Depot.Proofs.Server.DeclaredDigest
import Depot.Proofs.Store.Pages

/-!
# A page of a listing as it is answered

What a client asks of a bucket, and what the server answers: the document of the
page that shows what remains of the listing (`answer_listing`), read back by the
client.  What a listing says of an object is what the object is described with
when its headers are asked for (`answer_head`).
-/

namespace Depot

set_option autoImplicit false

open Depot.Auth
open Depot.Http
open Depot.Text
open Depot.Time

/-! ## Buckets in paths -/

namespace Name

/-- The characters of a bucket name stand for themselves in a path. -/
theorem isBucketChar_spec {c : Char} (known : isBucketChar c) :
    (isTextByte c.toUInt8 ∧ Char.ofUInt8 c.toUInt8 = c) ∧ c.toUInt8 ≠ Percent.sign := by
  have small := ascii_of_isBucketChar known
  revert known
  exact of_ascii (by decide) small

end Name

theorem Percent.decode_eq_self {list : List UInt8} (clean : Percent.sign ∉ list) :
    Percent.decode list = list := by
  induction list with
  | nil => rfl
  | cons b rest ih =>
      have other : b ≠ Percent.sign := fun same => clean (same ▸ List.mem_cons_self)
      rw [Percent.decode_cons_of_ne rest other, ih fun member => clean (.tail _ member)]

namespace Server

section

variable {bucket : String} (named : Name.checkBucket bucket = .ok ())

include named

theorem decodedText?_bucket : Percent.decodedText? bucket = some bucket := by
  have chars := (Name.of_checkBucket named).2
  have visible : Visible bucket := fun c member => (Name.isBucketChar_spec (chars c member)).1
  have clean : Percent.sign ∉ bytes bucket := by
    rw [visible.bytes_eq]
    intro member
    obtain ⟨c, known, same⟩ := List.mem_map.mp member
    exact (Name.isBucketChar_spec (chars c known)).2 same
  rw [Percent.decodedText?, Percent.decodedBytes, Percent.decode_eq_self clean, ofBytes?_bytes]

theorem Place.ofS3_bucket : ofS3 bucket.toList = .bucket bucket := by
  have filled : bucket.toList.isEmpty = false := by simpa using Name.bucket_ne_empty named
  rw [ofS3, cutAt_eq_none (Name.slashless_bucket named)]
  dsimp only
  rw [filled, String.ofList_toList]
  rfl

theorem Route.withBucket_bucket (next : String → Endpoint) :
    withBucket bucket next = .endpoint (next bucket) := by
  rw [withBucket, withText, decodedText?_bucket named]

/-- The path of a bucket leads to its listing, unless it is that of a probe. -/
theorem Route.of_bucket (closed : bucket ∉ openPaths) :
    Route.of "GET" ("/" ++ bucket) = .endpoint (.listObjects bucket) := by
  have differs {word : String} (other : bucket ≠ word) : bucket.toList ≠ word.toList :=
    fun same => other (String.toList_inj.mp same)
  have notLive : bucket ≠ "healthz" := fun same => closed (same ▸ by decide)
  have notReady : bucket ≠ "readyz" := fun same => closed (same ▸ by decide)
  have notS3 : bucket ≠ "s3" := by
    rintro rfl
    exact absurd (Name.of_checkBucket named).1 (by decide)
  have place : Place.ofPath? ("/" ++ bucket) = some (.bucket bucket) := by
    have path : ("/" ++ bucket).toList = '/' :: bucket.toList := by simp
    rw [Place.ofPath?, path]
    show some (Place.ofRest bucket.toList) = _
    rw [Place.ofRest, if_neg (differs notLive), if_neg (differs notReady),
      if_neg (differs notS3), cutAt_eq_none (Name.slashless_bucket named)]
    dsimp only
    rw [Place.ofS3_bucket named]
  rw [Route.of, place]
  exact Route.withBucket_bucket named .listObjects

/-- Under the path of the protocol, every bucket can be named. -/
theorem Route.of_s3_bucket :
    Route.of "GET" ("/s3/" ++ bucket) = .endpoint (.listObjects bucket) ∧
      Route.of "HEAD" ("/s3/" ++ bucket) = .endpoint (.headBucket bucket) ∧
      Route.of "DELETE" ("/s3/" ++ bucket) = .endpoint (.deleteBucket bucket) := by
  have place : Place.ofPath? ("/s3/" ++ bucket) = some (.bucket bucket) := by
    have path : ("/s3/" ++ bucket).toList = '/' :: ("s3".toList ++ '/' :: bucket.toList) := by simp
    have some : bucket.toList ≠ [] := by simpa using Name.bucket_ne_empty named
    rw [Place.ofPath?, path]
    show Option.some (Place.ofRest ("s3".toList ++ '/' :: bucket.toList)) = _
    rw [Place.ofRest, if_neg (by simp), if_neg (by simp), if_neg (by simp),
      cutAt_append (by decide)]
    dsimp only
    rw [if_pos ⟨rfl, some⟩, Place.ofS3_bucket named]
  refine ⟨?_, ?_, ?_⟩ <;> rw [Route.of, place]
  · exact Route.withBucket_bucket named .listObjects
  · exact Route.withBucket_bucket named .headBucket
  · exact Route.withBucket_bucket named .deleteBucket

end

/-! ## What is asked of a bucket -/

/-- The parameters of a listing ask for a page with some room, after a resume point. -/
structure AsksForPage (params : List Parameter) (room : Nat) (after? : Option String) : Prop where
  location : valueOf? params "location" = none
  listType : ∀ text, valueOf? params "list-type" = some text → text = "2"
  room : ∀ resource, S3.readMaxKeys resource (valueOf? params "max-keys") = .ok room
  resumes : ∀ resource, S3.readResume resource params = .ok after?

/-- What a client asks of a bucket. -/
structure ListingQuery where
  bucket : String
  /-- What the keys should begin with, when that is said. -/
  stem? : Option String
  delimiter? : Option String
  maxKeys : Nat

namespace ListingQuery

variable (q : ListingQuery)

def stem : String := q.stem?.getD ""

/-- What the keys are rolled up at; an empty delimiter is none. -/
def mark? : Option String := q.delimiter?.filter (!·.isEmpty)

/-- The most entries on a page. -/
def room : Nat := min q.maxKeys S3.pageKeys

/-- The parameters that ask for a page, given the token of the page before. -/
def parameters (token? : Option String) : List Parameter :=
  [⟨"list-type", "2"⟩, ⟨"max-keys", decimal q.maxKeys⟩] ++ q.stem?.toList.map (⟨"prefix", ·⟩) ++
    q.delimiter?.toList.map (⟨"delimiter", ·⟩) ++ token?.toList.map (⟨"continuation-token", ·⟩)

/-- A request asks for a page, with its parameters in any order. -/
structure Asks (token? : Option String) (request : Request) : Prop where
  method : request.method = "GET"
  path : request.target.path = "/" ++ q.bucket
  query : ∃ params, params.Perm (q.parameters token?) ∧
    request.target.query? = some (queryOf params)

/-- The page that is looked for, given what the page before showed last. -/
def pageRequest (user : User) (after? : Option String) : Store.PageRequest :=
  ⟨Name.bucketScope user.userId q.bucket, q.stem, q.mark?, after?⟩

theorem room_ne_zero (positive : 1 ≤ q.maxKeys) : q.room ≠ 0 := by
  unfold room S3.pageKeys
  omega

theorem names_nodup (token? : Option String) :
    ((q.parameters token?).map Parameter.name).Nodup := by
  unfold parameters
  cases q.stem? <;> cases q.delimiter? <;> cases token? <;> simp

theorem valueOf?_parameters {token? : Option String} {params : List Parameter}
    (perm : params.Perm (q.parameters token?)) (name : String) :
    valueOf? params name = valueOf? (q.parameters token?) name := by
  have once := q.names_nodup token?
  have once' : (params.map Parameter.name).Nodup := (perm.map _).nodup_iff.mpr once
  refine Option.ext fun value => ?_
  rw [valueOf?_eq_some_iff once, valueOf?_eq_some_iff once', perm.mem_iff]

/-- What the parameters say. -/
theorem values {token? : Option String} {params : List Parameter}
    (perm : params.Perm (q.parameters token?)) :
    valueOf? params "location" = none ∧ valueOf? params "list-type" = some "2" ∧
      valueOf? params "max-keys" = some (decimal q.maxKeys) ∧
      valueOf? params "prefix" = q.stem? ∧ valueOf? params "delimiter" = q.delimiter? ∧
      valueOf? params "continuation-token" = token? ∧ valueOf? params "start-after" = none ∧
      valueOf? params "marker" = none := by
  simp only [q.valueOf?_parameters perm]
  unfold parameters
  cases q.stem? <;> cases q.delimiter? <;> cases token? <;> simp [valueOf?]

theorem asksForPage (small : q.maxKeys ≤ max64) {after? : Option String}
    {params : List Parameter}
    (perm : params.Perm (q.parameters (after?.map Base64.encodeText))) :
    AsksForPage params q.room after? := by
  obtain ⟨location, listType, maxKeys, -, -, token, startAfter, marker⟩ := q.values perm
  refine ⟨location, fun text known => ?_, fun resource => ?_, fun resource => ?_⟩
  · exact (Option.some.inj (listType.symm.trans known)).symm
  · rw [maxKeys, S3.readMaxKeys, natural64?_decimal small]
    rfl
  · rw [S3.readResume, token]
    cases after? with
    | none =>
        rw [startAfter, marker]
        rfl
    | some after =>
        rw [Option.map_some]
        dsimp only
        rw [Base64.decodeText?_encodeText]

end ListingQuery

/-! ## The answer -/

/-- The listed object of an entry. -/
def listed? : Store.PageEntry → Option (String × Object)
  | .object key object => some (key, object)
  | .commonStem _ => none

/-- The common stem of an entry. -/
def commonStem? : Store.PageEntry → Option String
  | .object _ _ => none
  | .commonStem stem => some stem

/-- The page as a client reads it. -/
def readPage (page : Store.Page) : Xml.ReadListing :=
  { keyCount := decimal page.entries.length
    isTruncated := if page.next?.isSome then "true" else "false"
    nextToken? := page.next?.map Base64.encodeText
    contents := (page.entries.filterMap listed?).map fun e => .ofObject e.1 e.2
    commonStems := page.entries.filterMap commonStem? }

/-- Every entry is listed, as an object or as a common stem. -/
theorem length_entries (entries : List Store.PageEntry) :
    (entries.filterMap listed?).length + (entries.filterMap commonStem?).length =
      entries.length := by
  induction entries with
  | nil => rfl
  | cons entry rest ih =>
      cases entry <;> simp [List.filterMap_cons, listed?, commonStem?] <;> omega

/-- A listing is read as the page that it shows. -/
theorem ofText?_listingOf (bucket : String) (params : List Parameter) (stem : String)
    (delimiter? : Option String) (maxKeys : Nat) (page : Store.Page) :
    Xml.ReadListing.ofText?
        (S3.listingOf bucket params stem delimiter? maxKeys page).document =
      some (readPage page) := by
  have contents : (S3.listingOf bucket params stem delimiter? maxKeys page).contents =
      page.entries.filterMap listed? := by
    refine congrArg (List.filterMap · page.entries) (funext fun entry => ?_)
    cases entry <;> rfl
  have stems : (S3.listingOf bucket params stem delimiter? maxKeys page).commonStems =
      page.entries.filterMap commonStem? := by
    refine congrArg (List.filterMap · page.entries) (funext fun entry => ?_)
    cases entry <;> rfl
  have next : (S3.listingOf bucket params stem delimiter? maxKeys page).nextToken? =
      page.next?.map Base64.encodeText := rfl
  rw [Xml.ReadListing.ofText?_document, contents, stems, next, length_entries, Option.isSome_map]
  rfl

/-- The document in a response, when it is a success. -/
def documentIn? (response : Response) : Option String :=
  if response.status = 200 then String.fromUTF8? response.body else none

/-- The listing in a response, when it is one. -/
def listingIn? (response : Response) : Option Xml.ReadListing :=
  if response.status = 200 then
    (String.fromUTF8? response.body).bind Xml.ReadListing.ofText?
  else none

theorem listingIn?_eq (response : Response) :
    listingIn? response = (documentIn? response).bind Xml.ReadListing.ofText? := by
  unfold listingIn? documentIn?
  split <;> rfl

theorem body_withLength (response : Response) : response.withLength.body = response.body := by
  unfold Response.withLength
  split <;> rfl

/-- The body is sent to whoever does not only ask for the headers. -/
theorem body_finish {method : String} (asked : method ≠ "HEAD") (endpoint : Endpoint)
    (response : Response) :
    (finish method (.endpoint endpoint) response).body = response.body := by
  unfold finish
  dsimp only [Route.allowed?]
  rw [if_neg asked]
  exact body_withLength response

theorem documentIn?_finish {method : String} (asked : method ≠ "HEAD") (endpoint : Endpoint)
    (response : Response) :
    documentIn? (finish method (.endpoint endpoint) response) = documentIn? response := by
  rw [documentIn?, finish_status, body_finish asked, documentIn?]

theorem documentIn?_xml (document : String) : documentIn? (.xml 200 document) = some document := by
  have read := ofBytes?_bytes document
  have whole : byteString (bytes document) = document.toUTF8 := by simp [byteString, bytes]
  rw [ofBytes?, whole] at read
  exact read

section

variable {settings : Settings} {s : Store} {occasion : Occasion} {request : Request} {user : User}
  {q : ListingQuery}

theorem outcome_listObjects (user : User) (sound : s.Sound) {bucket : String}
    (named : Name.checkBucket bucket = .ok ()) {params : List Parameter} {room : Nat}
    (some : room ≠ 0) {after? : Option String} (asks : AsksForPage params room after?)
    (region : String) :
    let stem := (valueOf? params "prefix").getD ""
    let delimiter? := (valueOf? params "delimiter").filter (!·.isEmpty)
    outcome (S3.listObjects user bucket params region) s =
      (.ok (.xml 200
        (S3.listingOf bucket params stem delimiter? room
          (Store.pageOf
            (s.remaining ⟨Name.bucketScope user.userId bucket, stem, delimiter?, after?⟩)
            room)).document), s) := by
  intro stem delimiter?
  have requires : S3.requireBucket bucket = .ok () := by rw [S3.requireBucket, named]
  have shows : outcome
      (S3.fromStore (S3.bucketResource bucket)
        (Store.collectPage ⟨Name.bucketScope user.userId bucket, stem, delimiter?, after?⟩ room))
      s = (.ok (Store.pageOf
        (s.remaining ⟨Name.bucketScope user.userId bucket, stem, delimiter?, after?⟩) room),
        s) := by
    rw [S3.fromStore, outcome_adapt, sound.listable.outcome_collectPage_eq _ some]
    rfl
  unfold S3.listObjects
  rw [requires, asks.location, outcome_bind, outcome_liftExcept]
  dsimp only
  rw [if_neg (by simp)]
  cases listType : valueOf? params "list-type"
  on_goal 2 =>
    dsimp only
    rw [if_neg (not_not.mpr (asks.listType _ listType))]
  all_goals
    rw [asks.room, outcome_bind, outcome_liftExcept]
    dsimp only
    rw [asks.resumes, outcome_bind, outcome_liftExcept]
    dsimp only
    rw [outcome_bind, shows]
    rfl

/-- A request that gives no known parameter twice goes on with its parameters. -/
theorem withQuery_of_once {known : List String}
    (once : repeatedName? known (parametersOf request) = none)
    (next : List Parameter → StateM Store Response) :
    withQuery request.target known next = next (parametersOf request) := by
  unfold parametersOf at once ⊢
  unfold withQuery
  dsimp only
  rw [once]

/-- A page of a bucket, whatever the parameters that ask for it look like. -/
theorem answer_page (sound : s.Sound) {bucket : String}
    (named : Name.checkBucket bucket = .ok ())
    (authenticated : authenticatedAs settings occasion request = some user)
    (leads : Route.of request.method request.target.path = .endpoint (.listObjects bucket))
    (method : request.method = "GET")
    (once : repeatedName? S3.listingParameters (parametersOf request) = none) {room : Nat}
    (some : room ≠ 0) {after? : Option String}
    (asks : AsksForPage (parametersOf request) room after?) :
    let stem := (valueOf? (parametersOf request) "prefix").getD ""
    let delimiter? := (valueOf? (parametersOf request) "delimiter").filter (!·.isEmpty)
    let done := (respond settings occasion request).run s
    listingIn? done.1 = .some (readPage (Store.pageOf
        (s.remaining ⟨Name.bucketScope user.userId bucket, stem, delimiter?, after?⟩) room)) ∧
      done.2 = s := by
  intro stem delimiter? done
  obtain ⟨body, -, responds⟩ := respond_run authenticated leads
  have lists :=
    outcome_listObjects user sound named some asks settings.verifier.region
  have answers : (answerUser settings occasion request body user (.listObjects bucket)).run s =
      (.xml 200
        (S3.listingOf bucket (parametersOf request) stem delimiter? room
          (Store.pageOf
            (s.remaining ⟨Name.bucketScope user.userId bucket, stem, delimiter?, after?⟩)
            room)).document, s) := by
    unfold answerUser
    dsimp only
    rw [withQuery_of_once once, answerS3, Discreet.run_answering, lists]
    rfl
  rw [show done = _ from responds s]
  dsimp only
  rw [answers, method, listingIn?_eq, documentIn?_finish (by decide), documentIn?_xml,
    Option.bind_some]
  exact ⟨ofText?_listingOf .., rfl⟩

/-- **A page of a bucket shows what remains of its listing**, as far as it has room, and asking for
it changes nothing. -/
theorem answer_listing (sound : s.Sound) (named : Name.checkBucket q.bucket = .ok ())
    (closed : q.bucket ∉ openPaths) (positive : 1 ≤ q.maxKeys) (small : q.maxKeys ≤ max64)
    {after? : Option String} (asks : q.Asks (after?.map Base64.encodeText) request)
    (authenticated : authenticatedAs settings occasion request = some user) :
    let done := (respond settings occasion request).run s
    listingIn? done.1 =
        some (readPage (Store.pageOf (s.remaining (q.pageRequest user after?)) q.room)) ∧
      done.2 = s := by
  obtain ⟨params, perm, query⟩ := asks.query
  have leads : Route.of request.method request.target.path = .endpoint (.listObjects q.bucket) := by
    rw [asks.method, asks.path]
    exact Route.of_bucket named closed
  have known : parametersOf request = params := by
    rw [parametersOf, query, Option.getD_some, parameters_queryOf]
  have once : repeatedName? S3.listingParameters params = none :=
    repeatedName?_eq_none ((perm.map _).nodup_iff.mpr (q.names_nodup _)) _
  obtain ⟨-, -, -, stem, delimiter, -, -, -⟩ := q.values perm
  have page := answer_page sound named authenticated leads asks.method (known ▸ once)
    (q.room_ne_zero positive) (known ▸ q.asksForPage small perm)
  rwa [known, stem, delimiter] at page

end

/-! ## Objects in headers -/

theorem visible_decimal (n : Nat) : Visible (decimal n) := by
  refine .of_digits fun c member => ?_
  rw [decimal, String.toList_ofList] at member
  exact Nat.isDigit_of_mem_toDigits (by decide) (by decide) member

/-- A name that begins otherwise is not one of metadata. -/
theorem ne_of_metadataName {name field other : String}
    (known : fieldName? (metadataLead ++ name) = some field)
    (apart : other.toList.head? ≠ some 'x') : field ≠ other := by
  rintro rfl
  refine apart ?_
  unfold fieldName? at known
  split at known
  · cases known
    simp [lower, metadataLead]
  · cases known

/-- The metadata of an object does not stand under the names of other headers. -/
theorem text?_insertMetadata (headers : Headers) (name value : String) {other : String}
    (apart : other.toList.head? ≠ some 'x') :
    (insertMetadata headers name value).text? other = headers.text? other := by
  unfold insertMetadata
  split
  · next field known =>
      exact headers.text?_insertText_of_ne field (ne_of_metadataName known apart) value
  · rfl

/-- An object is described by its size and its digest, whatever its metadata say. -/
theorem text?_describe {object : Object} {bytes : ByteArray} (size : object.size = bytes.size)
    (etag : object.etag = Hex.encode (Digest.Md5.digest bytes)) (headers : Headers) :
    (describe headers object).text? "content-length" = some (signedDecimal object.size) ∧
      (describe headers object).text? "etag" = some object.quotedEtag := by
  have metadata (entries : List (String × String)) (headers : Headers) {other : String}
      (apart : other.toList.head? ≠ some 'x') :
      (entries.foldl (fun headers e => insertMetadata headers e.1 e.2) headers).text? other =
        headers.text? other := by
    induction entries generalizing headers with
    | nil => rfl
    | cons e rest ih => rw [List.foldl_cons, ih, text?_insertMetadata _ _ _ apart]
  have quoted : Visible object.quotedEtag := by
    have mark : Visible "\x22" := by
      intro c member
      obtain rfl : c = '\x22' := by simpa using member
      decide
    rw [Object.quotedEtag, etag]
    exact (mark.append (visible_encode _)).append mark
  have length : decimal object.size.toNat = signedDecimal object.size := by rw [size]; rfl
  unfold describe
  dsimp only
  rw [metadata _ _ (by decide), metadata _ _ (by decide),
    Headers.text?_insertText_of_ne _ "last-modified" (by decide),
    Headers.text?_insertText_of_ne _ "etag" (by decide),
    Headers.text?_insertText_self _ "content-length" (visible_decimal _), length,
    Headers.text?_insertText_of_ne _ "last-modified" (by decide),
    Headers.text?_insertText_self _ "etag" quoted]
  exact ⟨rfl, rfl⟩

/-- Headers that state a length are sent as they are. -/
theorem headers_finish (method : String) (endpoint : Endpoint) {response : Response}
    (states : response.headers.has "content-length") :
    (finish method (.endpoint endpoint) response).headers = response.headers := by
  have same : response.withLength = response := by
    rw [Response.withLength, if_pos states]
  unfold finish
  dsimp only [Route.allowed?]
  rw [same]
  split <;> rfl

/-- An object that is there is answered with its headers, and the store stays as it is. -/
theorem answerUser_headObject {s : Store} {user : User} {bucket key : String} {row : Row}
    (sound : s.Sound) (named : Name.checkBucket bucket = .ok ())
    (found : s.objects.find? (Name.identifier user.userId bucket key) = some row)
    (settings : Settings) (occasion : Occasion) (request : Request) (body : Body) :
    (answerUser settings occasion request body user (.headObject bucket key)).run s =
      (S3.objectResponse 200 (Store.objectAt (Name.identifier user.userId bucket key) row)
        ByteArray.empty, s) := by
  have target : S3.Address.of user.userId bucket key = .ok ⟨user.userId, bucket, key⟩ := by
    rw [S3.Address.of, named]
  have valid := (sound.rows _ _ found).1
  have looks (address : S3.Address)
      (known : address.identifier = Name.identifier user.userId bucket key) :
      outcome (address.fromStore (Store.head address.identifier)) s =
        (.ok (Store.objectAt (Name.identifier user.userId bucket key) row), s) := by
    rw [S3.Address.fromStore, S3.fromStore, outcome_adapt, known, Store.outcome_head, valid]
    dsimp only
    rw [sound.fetched, found]
    rfl
  unfold answerUser
  dsimp only
  rw [answerS3, Discreet.run_answering, S3.headObject, target, outcome_bind, outcome_liftExcept]
  dsimp only
  rw [outcome_bind, looks ⟨user.userId, bucket, key⟩ rfl]
  rfl

/-- **What the headers of an object say of it**, when they are asked for: its size and its digest,
as its row has them. -/
theorem answer_head {settings : Settings} {s : Store} {occasion : Occasion} {request : Request}
    {user : User} {bucket key : String} {row : Row} (sound : s.Sound)
    (named : Name.checkBucket bucket = .ok ())
    (found : s.objects.find? (Name.identifier user.userId bucket key) = some row)
    (leads : Route.of request.method request.target.path = .endpoint (.headObject bucket key))
    (authenticated : authenticatedAs settings occasion request = some user) :
    let response := ((respond settings occasion request).run s).1
    response.status = 200 ∧
      response.headers.text? "content-length" = some (signedDecimal row.size) ∧
      response.headers.text? "etag" = some ("\x22" ++ row.etag ++ "\x22") := by
  obtain ⟨body, -, responds⟩ := respond_run authenticated leads
  obtain ⟨bytes, -, size, etag⟩ := sound.tidy.held _ _ (Store.holding_object found)
  let object := Store.objectAt (Name.identifier user.userId bucket key) row
  obtain ⟨describesLength, describesEtag⟩ :=
    text?_describe (show object.size = bytes.size from size) etag Headers.empty
  have answers := answerUser_headObject sound named found settings occasion request body
  have length : (S3.objectResponse 200 object ByteArray.empty).headers.text? "content-length" =
      some (signedDecimal row.size) :=
    (Headers.text?_insertText_of_ne _ "accept-ranges" (by decide) "bytes").trans describesLength
  have digest : (S3.objectResponse 200 object ByteArray.empty).headers.text? "etag" =
      some ("\x22" ++ row.etag ++ "\x22") :=
    (Headers.text?_insertText_of_ne _ "accept-ranges" (by decide) "bytes").trans describesEtag
  intro response
  rw [show response = _ from congrArg Prod.fst (responds s)]
  dsimp only
  rw [answers, headers_finish _ _ (Headers.has_of_text? _ _ length), finish_status]
  exact ⟨rfl, length, digest⟩

end Server

end Depot

import Depot.Proofs.Server.Ranges

/-!
# The protocols agree on one store

An object that is put, asked for or deleted in one protocol is put, asked for or
deleted in the other (`protocols_agree`).  Both make the same identifier of user,
bucket and key, read the same attributes from the header lines, and answer the
same faults of the store with the same status.

Three differences are left, and each is one of what the protocols are for.  A
deleted key is reported in one and not in the other; a key that cannot be stored
is refused by both, each in its own format; and what a request declares of its
body counts when it is signed, which the native protocol does not ask for
(`answered_apart`).
-/

namespace Depot.Server

set_option autoImplicit false

open Depot.Auth
open Depot.Http
open Depot.Text
open Depot.Time

/-! ## The body of a request -/

/-- What can be read of the body of a request that is let in: with a signature, the body as far as
it has the digest that is declared for it, and the body as it is without. -/
def readable (request : Request) : Except BodyFault ByteArray :=
  match request.headers.has "authorization", request.headers.text? digestHeader with
  | true, some declared =>
      if Hex.isDigest declared then (request.body.verified declared).contents
      else request.body.contents
  | _, _ => request.body.contents

theorem readable_of_declared {request : Request} {declared : String}
    (signed : request.headers.has "authorization" = true)
    (declares : request.headers.text? digestHeader = some declared)
    (digest : Hex.isDigest declared) :
    readable request = (request.body.verified declared).contents := by
  unfold readable
  rw [signed, declares]
  exact if_pos digest

theorem contents_of_signedBody {headers : Headers} {maxBuffered : Nat} {request body : Body}
    {payload : String} (signed : signedBody headers maxBuffered request = .ok (payload, body)) :
    body.contents =
      match headers.text? digestHeader with
      | some declared =>
          if Hex.isDigest declared then (request.verified declared).contents else request.contents
      | none => request.contents := by
  unfold signedBody at signed
  cases declares : headers.text? digestHeader with
  | some declared =>
      rw [declares] at signed
      dsimp only at signed ⊢
      split at signed
      · cases signed
      · split at signed
        · next unsigned =>
            subst unsigned
            cases signed
            rw [if_neg (by decide)]
        · split at signed
          · next digest =>
              cases signed
              rw [if_pos digest]
          · cases signed
  | none =>
      rw [declares] at signed
      dsimp only at signed ⊢
      split at signed
      · next bytes within =>
          cases signed
          rw [Body.contents_of_within within]
          exact congrArg Except.ok ByteArray.empty_append
      · cases signed
      · cases signed

/-- What an endpoint reads is what can be read. -/
theorem contents_of_admission {verifier : Verifier} {maxBuffered : Nat} {now : Instant}
    {protocol : Protocol} {request : Request} {user : User} {body : Body}
    (admitted : admission verifier maxBuffered now protocol request = .ok (user, body)) :
    body.contents = readable request := by
  unfold admission at admitted
  unfold readable
  cases signed : request.headers.has "authorization" with
  | true =>
      rw [if_pos signed] at admitted
      obtain ⟨⟨payload, checked⟩, read, admitted⟩ := Results.bind_eq_ok_iff.mp admitted
      obtain ⟨known, -, same⟩ := Results.bind_eq_ok_iff.mp admitted
      cases same
      rw [contents_of_signedBody read]
      cases request.headers.text? digestHeader <;> rfl
  | false =>
      rw [if_neg (by simp [signed])] at admitted
      split at admitted
      · obtain ⟨known, -, same⟩ := Results.bind_eq_ok_iff.mp admitted
        cases same
        rfl
      · cases admitted

/-! ## Header lines -/

/-- The names of the lines that say who asks, for which bucket, and what was signed. -/
def ownNames : List String :=
  ["authorization", "user", "x-access-key", "bucket", "host", "date", dateHeader, digestHeader]

/-- Two requests have the same header lines, apart from those that say who asks. -/
def SameLines (h h' : Headers) : Prop :=
  h.lines.filter (!ownNames.contains ·.1) = h'.lines.filter (!ownNames.contains ·.1)

theorem SameLines.getAll {h h' : Headers} (same : SameLines h h') {name : String}
    (other : name ∉ ownNames) : h.getAll name = h'.getAll name := by
  have kept (lines : List (String × FieldValue)) :
      (lines.filter (!ownNames.contains ·.1)).filter (·.1 == name) =
        lines.filter (·.1 == name) := by
    rw [List.filter_filter]
    congr 1
    funext line
    by_cases own : line.1 = name <;> simp [own, other]
  unfold Headers.getAll
  rw [← kept h.lines, ← kept h'.lines, same]

theorem get?_eq_head?_getAll (h : Headers) (name : String) :
    h.get? name = (h.getAll name).head? := by
  rw [Headers.get?, Headers.getAll, List.head?_map, List.head?_filter]

/-- The attributes of an object are not read from the lines that say who asks. -/
theorem SameLines.attributesOf {h h' : Headers} (same : SameLines h h') :
    attributesOf h = attributesOf h' := by
  have type : h.text? "content-type" = h'.text? "content-type" := by
    rw [Headers.text?, Headers.text?, get?_eq_head?_getAll, get?_eq_head?_getAll,
      same.getAll (by decide)]
  have metadata : metadataOf h = metadataOf h' := by
    refine Table.ext_find? fun name => ?_
    have other : metadataLead ++ name ∉ ownNames := by
      intro member
      have none : ∀ name, name ∈ ownNames → isMetadataName name = false := by decide
      have own : isMetadataName (metadataLead ++ name) := beginsWith_append _ _
      rw [none _ member] at own
      cases own
    rw [find?_metadataOf, find?_metadataOf, same.getAll other]
  rw [Server.attributesOf, Server.attributesOf, type, metadata]

/-- Header lines name a bucket, or leave it at the default one. -/
def NamesBucket (headers : Headers) (bucket : String) : Prop :=
  headers.text? "bucket" = some bucket ∨
    headers.get? "bucket" = none ∧ bucket = Name.defaultBucket

theorem bucketOf_of_namesBucket {headers : Headers} {bucket : String}
    (names : NamesBucket headers bucket) : Native.bucketOf headers = .ok bucket := by
  unfold Native.bucketOf
  rcases names with sent | ⟨absent, rfl⟩
  · obtain ⟨value, sent, shown⟩ := Option.bind_eq_some_iff.mp sent
    rw [sent]
    dsimp only
    rw [shown]
  · rw [absent]

theorem identifierOf_of_namesBucket {headers : Headers} {bucket : String}
    (names : NamesBucket headers bucket) (named : Name.checkBucket bucket = .ok ()) (user : User)
    (key : String) :
    Native.identifierOf user headers key = .ok (Name.identifier user.userId bucket key) := by
  unfold Native.identifierOf
  rw [bucketOf_of_namesBucket names]
  simp only [bind, Except.bind]
  rw [named]
  rfl

/-! ## Responses to requests for an object -/

section

variable {settings : Settings} {s : Store} {occasion : Occasion} {request : Request} {user : User}
  {bucket key : String}

/-- A native request is answered with what its operation on the identifier comes to. -/
theorem respond_on_identifier {α : Type} {endpoint : Endpoint} (key : String)
    (act : String → Body → Store.Action α) (answer : α → Response)
    (asks : AsksFor settings occasion request user endpoint)
    (names : NamesBucket request.headers bucket) (named : Name.checkBucket bucket = .ok ())
    (acts : ∀ body, answerUser settings occasion request body user endpoint =
      answerNative (do
        let identifier ← Native.identifierOf user request.headers key
        return answer (← Native.fromStore (act identifier body)))) :
    ∃ body : Body, body.contents = readable request ∧
      ∀ s, (respond settings occasion request).run s =
        let done := outcome (act (Name.identifier user.userId bucket key) body) s
        (finish request.method (.endpoint endpoint)
          (Discreet.rendered NativeFault.response
            ((done.1.mapError NativeFault.ofStore).map answer)), done.2) := by
  obtain ⟨body, admitted, responds⟩ := respond_run asks.authenticated asks.leads
  refine ⟨body, contents_of_admission admitted, fun s => ?_⟩
  have known := identifierOf_of_namesBucket names named user key
  rw [responds, acts, answerNative, Discreet.run_answering,
    Native.outcome_on_identifier known (act · body) answer]

theorem not_isError_of_status {status : Nat} (same : status = 200) : ¬ IsError status := by
  rw [same, IsError]
  decide

/-- A put succeeds when the key can be stored and the body can be read. -/
theorem status_put (sound : s.Sound) (asks : AsksFor settings occasion request user (.put key))
    (names : NamesBucket request.headers bucket) (named : Name.checkBucket bucket = .ok ())
    (valid : Name.checkIdentifier (Name.identifier user.userId bucket key) = .ok ())
    {bytes : ByteArray} (content : readable request = .ok bytes) :
    ((respond settings occasion request).run s).1.status = 200 := by
  obtain ⟨body, read, responds⟩ := respond_on_identifier key
    (fun identifier body => Store.put identifier (attributesOf request.headers) body occasion.now)
    Native.report asks names named fun _ => rfl
  rw [responds]
  dsimp only
  rw [sound.outcome_put_eq, valid, read, content, finish_status]
  rfl

/-- Where the body is read to its end, and cannot be, the answer is an error. -/
theorem isError_of_unreadable {endpoint : Endpoint}
    (asks : AsksFor settings occasion request user endpoint)
    (reads : endpoint.ReadsBody request.headers (parametersOf request))
    (noForm : ∀ key, endpoint ≠ .putBinary key) {fault : BodyFault}
    (content : readable request = .error fault) :
    IsError ((respond settings occasion request).run s).1.status := by
  obtain ⟨body, admitted, responds⟩ := respond_run asks.authenticated asks.leads
  have failing := (contents_of_admission admitted).trans content
  rw [responds, finish_status]
  exact (answerUser_turnsDown failing reads (fun key form => absurd form (noForm key)) s).1

/-- What a native request asks for is what is found. -/
theorem respond_get (sound : s.Sound) (asks : AsksFor settings occasion request user (.get key))
    (names : NamesBucket request.headers bucket) (named : Name.checkBucket bucket = .ok ()) :
    (respond settings occasion request).run s =
      (finish request.method (.endpoint (.get key))
        (Discreet.rendered NativeFault.response
          (((s.contentUnder (Name.identifier user.userId bucket key)).mapError
              NativeFault.ofStore).map fun content =>
            ⟨200, describe Headers.empty content.object, content.bytes⟩)), s) := by
  obtain ⟨-, -, responds⟩ := respond_on_identifier key (fun identifier _ => Store.read identifier)
    (fun content => ⟨200, describe Headers.empty content.object, content.bytes⟩)
    asks names named fun _ => rfl
  rw [responds]
  dsimp only
  rw [sound.outcome_read_eq]

/-- An operation on an address whose answer is only shown. -/
theorem S3.Address.outcome_shown {α : Type} (target : S3.Address) (action : Store.Action α)
    (answer : α → Response) (s : Store) :
    outcome (do return answer (← target.fromStore action) : S3.Action Response) s =
      (((outcome action s).1.mapError (S3Fault.ofStore · target.resource)).map answer,
        (outcome action s).2) := by
  rw [outcome_bind, S3.Address.fromStore, S3.fromStore, outcome_adapt]
  obtain ⟨_ | _, t⟩ := outcome action s <;> rfl

/-- An object is put as the operation on its identifier comes out. -/
theorem respond_putObject (asks : AsksFor settings occasion request user (.putObject bucket key))
    (about : AboutObject request) (own : request.headers.get? "x-amz-copy-source" = none)
    (named : Name.checkBucket bucket = .ok ()) :
    ∃ body : Body, body.contents = readable request ∧
      ∀ s, (respond settings occasion request).run s =
        let done := outcome (Store.put (Name.identifier user.userId bucket key)
          (attributesOf request.headers) body occasion.now) s
        (finish request.method (.endpoint (.putObject bucket key))
          (Discreet.rendered (S3Fault.response · occasion.requestId)
            ((done.1.mapError (S3Fault.ofStore · ("/" ++ bucket ++ "/" ++ key))).map
              fun object => S3.etagResponse object.etag)), done.2) := by
  obtain ⟨body, admitted, responds⟩ := respond_run asks.authenticated asks.leads
  refine ⟨body, contents_of_admission admitted, fun s => ?_⟩
  have answers : answerUser settings occasion request body user (.putObject bucket key) =
      answerS3 occasion (S3.putObject user bucket key (parametersOf request) request.headers body
        occasion.now) :=
    withQuery_of_once about.once fun params =>
      answerS3 occasion (S3.putObject user bucket key params request.headers body occasion.now)
  rw [responds, answers, answerS3, Discreet.run_answering, S3.putObject, S3.Address.of_named named,
    outcome_bind, outcome_liftExcept]
  dsimp only
  rw [about.own]
  dsimp only
  rw [own]
  dsimp only
  rw [S3.Address.outcome_shown _ _ fun object : Object => S3.etagResponse object.etag]
  rfl

theorem respond_deleteObject
    (asks : AsksFor settings occasion request user (.deleteObject bucket key))
    (about : AboutObject request) (named : Name.checkBucket bucket = .ok ()) :
    (respond settings occasion request).run s =
      let done := outcome (S3.removeIfThere (Name.identifier user.userId bucket key)) s
      (finish request.method (.endpoint (.deleteObject bucket key))
        (Discreet.rendered (S3Fault.response · occasion.requestId)
          ((done.1.mapError (S3Fault.ofStore · ("/" ++ bucket ++ "/" ++ key))).map
            fun _ => .ofStatus 204)), done.2) := by
  obtain ⟨body, -, responds⟩ := respond_run asks.authenticated asks.leads
  have answers : answerUser settings occasion request body user (.deleteObject bucket key) =
      answerS3 occasion (S3.deleteObject user bucket key (parametersOf request)) :=
    withQuery_of_once about.once fun params =>
      answerS3 occasion (S3.deleteObject user bucket key params)
  rw [responds, answers, answerS3, Discreet.run_answering, S3.deleteObject,
    S3.Address.of_named named, outcome_bind, outcome_liftExcept]
  dsimp only
  rw [about.own]
  dsimp only
  rw [S3.Address.outcome_shown _ _ fun _ : Unit => Response.ofStatus 204]
  rfl

end

/-- No fault is written alike in both protocols. -/
theorem body_native_ne_s3 (fault : NativeFault) (fault' : S3Fault) (requestId : String) :
    fault.response.body ≠ (fault'.response requestId).body := by
  intro same
  let fields := [("error", Json.quote fault.message), ("status", decimal fault.status)]
  have texts : Json.objectText fields =
      Xml.faultDocument fault'.code fault'.message fault'.resource requestId :=
    String.toByteArray_inj.mp same
  have brace : "\x7b".toList.head? = some '\x7b' := by decide
  have angle : Xml.declaration.toList.head? = some '<' := by decide
  have object : (Json.objectText fields).toList.head? = some '\x7b' := by
    rw [Json.objectText, String.append_assoc, String.toList_append, List.head?_append, brace,
      Option.some_or]
  rw [texts, Xml.faultDocument, String.toList_append, List.head?_append, angle,
    Option.some_or] at object
  exact absurd object (by decide)

/-! ## What it is to agree -/

def said (record : Record) : ByteArray × Attributes := (record.bytes, record.attributes)

/-- Two stores hold the same objects and uploads, whatever the numbers of the blobs and the moments
of the last changes. -/
structure SameHoldings (s t : Store) : Prop where
  objects : ∀ identifier, (s.shelf.objects.find? identifier).map said =
    (t.shelf.objects.find? identifier).map said
  sessions : s.shelf.sessions = t.shelf.sessions

/-- Putting an object comes to the same in both protocols, given what can be read of its body: it is
stored, when it can be, or nothing changes. -/
structure PutsAgree (s : Store) (identifier : String) (content : Except BodyFault ByteArray)
    (native s3 : Response × Store) : Prop where
  status : s3.1.status = native.1.status
  succeeds : ¬ IsError native.1.status ↔
    Name.checkIdentifier identifier = .ok () ∧ ∃ bytes, content = .ok bytes
  stored : ¬ IsError native.1.status → SameHoldings native.2 s3.2 ∧
    ∃ record, native.2.shelf.objects.find? identifier = some record ∧ content = .ok record.bytes
  failed : IsError native.1.status → native.2 = s ∧ s3.2 = s

/-- Asking for an object comes to the same in both protocols. -/
structure GetsAgree (s : Store) (identifier : String) (native s3 : Response × Store) : Prop where
  kept : native.2 = s ∧ s3.2 = s
  status : s3.1.status = native.1.status
  found : ∀ record, s.shelf.objects.find? identifier = some record →
    native.1.status = 200 ∧ native.1.body = record.bytes
  /-- What is found is shown alike, but for the one line that speaks of ranges. -/
  shown : native.1.status = 200 → s3.1.body = native.1.body ∧
    s3.1.headers.lines = native.1.headers.lines ++ [("accept-ranges", "bytes".toUTF8)]
  missing : native.1.status = 404 ↔
    Name.checkIdentifier identifier = .ok () ∧ s.shelf.objects.find? identifier = none
  refused : native.1.status = 400 ↔ ∃ fault, Name.checkIdentifier identifier = .error fault

/-- Deleting an object comes to the same in both protocols, up to the answers to who deletes what is
there and what is not. -/
structure DeletesAgree (s : Store) (identifier : String) (native s3 : Response × Store) :
    Prop where
  stores : s3.2 = native.2
  removed : native.2.shelf = { s.shelf with objects := s.shelf.objects.erase identifier }
  found : (s.shelf.objects.find? identifier).isSome →
    native.1.status = 200 ∧ s3.1.status = 204
  missing : Name.checkIdentifier identifier = .ok () →
    s.shelf.objects.find? identifier = none → native.1.status = 404 ∧ s3.1.status = 204
  refused : ∀ fault, Name.checkIdentifier identifier = .error fault →
    native.1.status = 400 ∧ s3.1.status = 400

/-! ## Outcomes in both protocols -/

/-- Nothing goes when there is nothing. -/
theorem shelf_erase_of_absent {s : Store} {identifier : String}
    (absent : s.objects.find? identifier = none) :
    s.shelf = { s.shelf with objects := s.shelf.objects.erase identifier } := by
  have same : s.shelf.objects.erase identifier = s.shelf.objects := by
    refine Table.ext_find? fun other => ?_
    rw [Table.find?_erase]
    split
    · next here => rw [here, Store.find?_shelf_objects, absent, Option.map_none]
    · rfl
  rw [same]

section

variable (method : String) (endpoint : Endpoint)

theorem status_native (fault : StoreFault) :
    (finish method (.endpoint endpoint) (NativeFault.ofStore fault).response).status =
      fault.kind.status :=
  (finish_status ..).trans rfl

theorem status_s3 (fault : StoreFault) (resource requestId : String) :
    (finish method (.endpoint endpoint)
      ((S3Fault.ofStore fault resource).response requestId)).status = fault.kind.status :=
  (finish_status ..).trans
    ((S3.status_response _ requestId).trans (status_ofStore fault resource))

end

section

variable {s : Store} {identifier : String} (resource requestId : String)
  (method method' : String) (endpoint endpoint' : Endpoint) (fault : StoreFault)

/-- One fault of the store is answered in both protocols. -/
theorem putsAgree_failed {content : Except BodyFault ByteArray}
    (other : ¬ (Name.checkIdentifier identifier = .ok () ∧ ∃ bytes, content = .ok bytes)) :
    PutsAgree s identifier content
      (finish method (.endpoint endpoint) (NativeFault.ofStore fault).response, s)
      (finish method' (.endpoint endpoint')
        ((S3Fault.ofStore fault resource).response requestId), s) := by
  have error : IsError (finish method (.endpoint endpoint)
      (NativeFault.ofStore fault).response).status := by
    rw [status_native]
    exact isError_status fault.kind
  have status := status_s3 method' endpoint' fault resource requestId
  exact ⟨status.trans (status_native method endpoint fault).symm,
    iff_of_false (not_not_intro error) other, fun well => absurd error well, fun _ => ⟨rfl, rfl⟩⟩

theorem getsAgree_failed (code : Nat) (kind : fault.kind.status = code) (other : code ≠ 200)
    (nothing : s.objects.find? identifier = none)
    (missing : code = 404 ↔ Name.checkIdentifier identifier = .ok ())
    (refused : code = 400 ↔ ∃ fault, Name.checkIdentifier identifier = .error fault) :
    GetsAgree s identifier
      (finish method (.endpoint endpoint) (NativeFault.ofStore fault).response, s)
      (finish method' (.endpoint endpoint')
        ((S3Fault.ofStore fault resource).response requestId), s) := by
  have status := (status_native method endpoint fault).trans kind
  have status' := (status_s3 method' endpoint' fault resource requestId).trans kind
  have absent : s.shelf.objects.find? identifier = none := by
    rw [Store.find?_shelf_objects, nothing]
    rfl
  refine
    { kept := ⟨rfl, rfl⟩
      status := status'.trans status.symm
      found := fun record found => by cases absent.symm.trans found
      shown := fun same => absurd (status.symm.trans same) other
      missing := ?_
      refused := ?_ }
  · dsimp only
    rw [status, missing, and_iff_left absent]
  · dsimp only
    rw [status, refused]

end

section

variable {s : Store} (sound : s.Sound) (identifier resource requestId : String)
  (method method' : String) (endpoint endpoint' : Endpoint)

include sound

/-- New content makes the same of a store, whenever it comes. -/
theorem sameHoldings_stored (attributes : Attributes) (bytes : ByteArray) (now now' : Instant) :
    SameHoldings (s.stored identifier attributes bytes now)
      (s.stored identifier attributes bytes now') where
  objects other := by
    rw [sound.shelf_stored, sound.shelf_stored, Table.find?_insert, Table.find?_insert]
    split <;> rfl
  sessions := by rw [sound.shelf_stored, sound.shelf_stored]

theorem putsAgree_outcome (attributes : Attributes) {body body' : Body}
    (same : body'.contents = body.contents) (now now' : Instant) :
    let native := outcome (Store.put identifier attributes body now) s
    let s3 := outcome (Store.put identifier attributes body' now') s
    PutsAgree s identifier body.contents
      (finish method (.endpoint endpoint)
        (Discreet.rendered NativeFault.response
          ((native.1.mapError NativeFault.ofStore).map Native.report)), native.2)
      (finish method' (.endpoint endpoint')
        (Discreet.rendered (S3Fault.response · requestId)
          ((s3.1.mapError (S3Fault.ofStore · resource)).map
            fun object => S3.etagResponse object.etag)), s3.2) := by
  intro native s3
  unfold native s3
  rw [sound.outcome_put_eq, sound.outcome_put_eq, same]
  cases valid : Name.checkIdentifier identifier with
  | error fault =>
      refine putsAgree_failed _ _ _ _ _ _ (.ofIdentifier identifier fault) ?_
      rintro ⟨other, -⟩
      cases valid.symm.trans other
  | ok _ =>
      cases body.contents with
      | error fault =>
          refine putsAgree_failed _ _ _ _ _ _ (.body fault) ?_
          rintro ⟨-, bytes, whole⟩
          cases whole
      | ok bytes =>
          let object := Store.objectOf identifier (s.draft bytes) attributes now
          let object' := Store.objectOf identifier (s.draft bytes) attributes now'
          have status : (finish method (.endpoint endpoint) (Native.report object)).status = 200 :=
            finish_status ..
          have status' : (finish method' (.endpoint endpoint')
              (S3.etagResponse object'.etag)).status = 200 := finish_status ..
          have well := not_isError_of_status status
          have holds : (s.stored identifier attributes bytes now).shelf.objects.find? identifier =
              some ⟨bytes, attributes, now⟩ := by
            rw [sound.shelf_stored]
            exact Table.find?_insert_self ..
          exact ⟨status'.trans status.symm, iff_of_true well ⟨valid, bytes, rfl⟩,
            fun _ =>
              ⟨sameHoldings_stored sound identifier attributes bytes now now', _, holds, rfl⟩,
            fun error => absurd error well⟩

/-- An object that is there is shown alike, but for the line that says that ranges can be asked
for. -/
theorem getsAgree_found (asked : method ≠ "HEAD") {row : Row}
    (known : s.objects.find? identifier = some row) :
    let content := s.contentAt identifier row
    GetsAgree s identifier
      (finish method (.endpoint endpoint)
        ⟨200, describe Headers.empty content.object, content.bytes⟩, s)
      (finish "GET" (.endpoint endpoint')
        (S3.objectResponse 200 content.object content.bytes), s) := by
  intro content
  have valid := (sound.rows identifier row known).1
  have held : s.shelf.objects.find? identifier = some (s.recordOf row) := by
    rw [Store.find?_shelf_objects, known]
    rfl
  let native : Response := ⟨200, describe Headers.empty content.object, content.bytes⟩
  let s3 := S3.objectResponse 200 content.object content.bytes
  have status : (finish method (.endpoint endpoint) native).status = 200 := finish_status ..
  have status' : (finish "GET" (.endpoint endpoint') s3).status = 200 := finish_status ..
  have body : (finish method (.endpoint endpoint) native).body = content.bytes :=
    body_finish asked endpoint native
  have body' : (finish "GET" (.endpoint endpoint') s3).body = content.bytes :=
    body_finish (by decide) endpoint' s3
  have lines : (finish method (.endpoint endpoint) native).headers =
      describe Headers.empty content.object :=
    headers_finish method endpoint (has_describe_length content.object)
  have lines' : (finish "GET" (.endpoint endpoint') s3).headers =
      (describe Headers.empty content.object).insertText "accept-ranges" "bytes" :=
    headers_finish "GET" endpoint' (S3.has_objectResponse 200 content.object content.bytes)
  refine
    { kept := ⟨rfl, rfl⟩
      status := status'.trans status.symm
      found := fun record found => ⟨status, ?_⟩
      shown := fun _ => ⟨body'.trans body.symm, ?_⟩
      missing := iff_of_false (fun same => ?_) fun both => ?_
      refused := iff_of_false (fun same => ?_) ?_ }
  · obtain rfl := Option.some.inj (held.symm.trans found)
    exact body
  · show (finish "GET" (.endpoint endpoint') s3).headers.lines =
      (finish method (.endpoint endpoint) native).headers.lines ++ _
    rw [lines, lines', Headers.lines_insertText_of_getAll _ _ (by decide)
      (getAll_describe_ranges content.object)]
  · exact absurd (status.symm.trans same) (by decide)
  · cases held.symm.trans both.2
  · exact absurd (status.symm.trans same) (by decide)
  · rintro ⟨fault, invalid⟩
    cases valid.symm.trans invalid

theorem getsAgree_outcome (asked : method ≠ "HEAD") :
    GetsAgree s identifier
      (finish method (.endpoint endpoint)
        (Discreet.rendered NativeFault.response
          (((s.contentUnder identifier).mapError NativeFault.ofStore).map fun content =>
            ⟨200, describe Headers.empty content.object, content.bytes⟩)), s)
      (finish "GET" (.endpoint endpoint')
        (Discreet.rendered (S3Fault.response · requestId)
          (((s.contentUnder identifier).mapError (S3Fault.ofStore · resource)).map fun content =>
            S3.objectResponse 200 content.object content.bytes)), s) := by
  cases known : s.objects.find? identifier with
  | some row =>
      rw [sound.contentUnder_of_found known]
      exact getsAgree_found sound identifier method endpoint endpoint' asked known
  | none =>
      cases valid : Name.checkIdentifier identifier with
      | error fault =>
          have refused : s.contentUnder identifier = .error (.ofIdentifier identifier fault) := by
            rw [Store.contentUnder, valid]
          rw [refused]
          refine getsAgree_failed _ _ _ _ _ _ (.ofIdentifier identifier fault) 400 rfl (by decide)
            known ?_ ?_
          · exact iff_of_false (by decide) fun other => by cases valid.symm.trans other
          · exact iff_of_true rfl ⟨fault, valid⟩
      | ok _ =>
          rw [sound.contentUnder_of_absent valid known]
          refine getsAgree_failed _ _ _ _ _ _ (.notFound identifier) 404 rfl (by decide)
            known ?_ ?_
          · exact iff_of_true rfl valid
          · refine iff_of_false (by decide) ?_
            rintro ⟨fault, other⟩
            cases valid.symm.trans other

theorem deletesAgree_outcome {report : Response} (reports : report.status = 200) :
    let native := outcome (Store.delete identifier) s
    let s3 := outcome (S3.removeIfThere identifier) s
    DeletesAgree s identifier
      (finish method (.endpoint endpoint)
        (Discreet.rendered NativeFault.response
          ((native.1.mapError NativeFault.ofStore).map fun _ => report)), native.2)
      (finish method' (.endpoint endpoint')
        (Discreet.rendered (S3Fault.response · requestId)
          ((s3.1.mapError (S3Fault.ofStore · resource)).map fun _ => .ofStatus 204)), s3.2) := by
  intro native s3
  have gone : (finish method' (.endpoint endpoint') (.ofStatus 204)).status = 204 :=
    finish_status ..
  unfold native s3
  rw [sound.outcome_delete_eq, S3.outcome_removeIfThere sound]
  cases known : s.objects.find? identifier with
  | some row =>
      have valid := (sound.rows identifier row known).1
      rw [sound.contentUnder_of_found known]
      exact
        { stores := rfl
          removed := sound.shelf_removed identifier
          found := fun _ => ⟨(finish_status ..).trans reports, gone⟩
          missing := fun _ absent => by
            rw [Store.find?_shelf_objects, known] at absent
            cases absent
          refused := fun fault invalid => by cases valid.symm.trans invalid }
  | none =>
      have removed := shelf_erase_of_absent known
      have found (held : (s.shelf.objects.find? identifier).isSome) : False := by
        rw [Store.find?_shelf_objects, known] at held
        cases held
      cases valid : Name.checkIdentifier identifier with
      | error fault =>
          have refused : s.contentUnder identifier = .error (.ofIdentifier identifier fault) := by
            rw [Store.contentUnder, valid]
          rw [refused]
          exact
            { stores := rfl
              removed := removed
              found := fun held => (found held).elim
              missing := fun other => by cases valid.symm.trans other
              refused := fun _ _ => ⟨status_native method endpoint _,
                status_s3 method' endpoint' _ resource requestId⟩ }
      | ok _ =>
          rw [sound.contentUnder_of_absent valid known]
          exact
            { stores := rfl
              removed := removed
              found := fun held => (found held).elim
              missing := fun _ _ => ⟨status_native method endpoint _, gone⟩
              refused := fun fault other => by cases valid.symm.trans other }

end

/-! ## Requests in both protocols -/

section

variable {settings : Settings} {s : Store} (sound : s.Sound) {user : User} {bucket key : String}
  (named : Name.checkBucket bucket = .ok ()) {occasion occasion' : Occasion}
  {native s3 : Request} (names : NamesBucket native.headers bucket) (about : AboutObject s3)

include sound named names about

theorem puts_agree (asks : AsksFor settings occasion native user (.put key))
    (asks' : AsksFor settings occasion' s3 user (.putObject bucket key))
    (lines : SameLines native.headers s3.headers) (content : readable native = readable s3)
    (own : s3.headers.get? "x-amz-copy-source" = none) :
    PutsAgree s (Name.identifier user.userId bucket key) (readable native)
      ((respond settings occasion native).run s) ((respond settings occasion' s3).run s) := by
  obtain ⟨body, read, responds⟩ := respond_on_identifier key
    (fun identifier body => Store.put identifier (attributesOf native.headers) body occasion.now)
    Native.report asks names named fun _ => rfl
  obtain ⟨body', read', responds'⟩ := respond_putObject asks' about own named
  have agree := putsAgree_outcome sound (Name.identifier user.userId bucket key)
    ("/" ++ bucket ++ "/" ++ key) occasion'.requestId native.method s3.method (.put key)
    (.putObject bucket key) (attributesOf native.headers)
    (read'.trans (content.symm.trans read.symm)) occasion.now occasion'.now
  rw [responds, responds', ← lines.attributesOf, ← read]
  exact agree

theorem gets_agree (asks : AsksFor settings occasion native user (.get key))
    (asks' : AsksFor settings occasion' s3 user (.getObject bucket key))
    (got : native.method ≠ "HEAD") (whole : s3.headers.get? "range" = none) :
    GetsAgree s (Name.identifier user.userId bucket key)
      ((respond settings occasion native).run s) ((respond settings occasion' s3).run s) := by
  have unranged : s3.headers.text? "range" = none := by
    rw [Headers.text?, whole]
    rfl
  have agree := getsAgree_outcome sound (Name.identifier user.userId bucket key)
    ("/" ++ bucket ++ "/" ++ key) occasion'.requestId native.method (.get key)
    (.getObject bucket key) got
  rw [respond_get sound asks names named, respond_getObject sound asks' about,
    S3.answerAsked_unranged unranged, S3.found_of_named named]
  exact agree

/-- What cannot be stored is refused with other documents. -/
theorem refused_apart {fault : Name.IdentifierFault}
    (invalid : Name.checkIdentifier (Name.identifier user.userId bucket key) = .error fault)
    (asks : AsksFor settings occasion native user (.get key))
    (asks' : AsksFor settings occasion' s3 user (.getObject bucket key))
    (got : native.method ≠ "HEAD") :
    ((respond settings occasion native).run s).1.body ≠
      ((respond settings occasion' s3).run s).1.body := by
  have refused : s.contentUnder (Name.identifier user.userId bucket key) =
      .error (.ofIdentifier (Name.identifier user.userId bucket key) fault) := by
    rw [Store.contentUnder, invalid]
  rw [respond_get sound asks names named, respond_getObject sound asks' about,
    S3.found_of_named named, refused, body_finish got, body_finish (by decide)]
  exact body_native_ne_s3 _ _ _

theorem deletes_agree (asks : AsksFor settings occasion native user (.delete key))
    (asks' : AsksFor settings occasion' s3 user (.deleteObject bucket key)) :
    DeletesAgree s (Name.identifier user.userId bucket key)
      ((respond settings occasion native).run s) ((respond settings occasion' s3).run s) := by
  obtain ⟨-, -, responds⟩ := respond_on_identifier key (fun identifier _ => Store.delete identifier)
    (fun _ => .json 200 (Json.objectText [("deleted", Json.quote key)]))
    asks names named fun _ => rfl
  rw [responds, respond_deleteObject asks' about named]
  exact deletesAgree_outcome sound (Name.identifier user.userId bucket key)
    ("/" ++ bucket ++ "/" ++ key) occasion'.requestId native.method s3.method (.delete key)
    (.deleteObject bucket key) rfl

end

/-- **The protocols agree on one store.**  In every state that a server comes to, let a user be let
in with two requests about one key of a bucket with a valid name, one in each protocol.  Putting
comes to the same objects, or fails and changes nothing, when both requests say the same about the
object and their bodies are read alike; asking for the whole object is answered alike; and deleting
comes to the same store. -/
theorem protocols_agree {settings : Settings} {s : Store} (reached : Reached settings s)
    {user : User} {bucket key : String} (named : Name.checkBucket bucket = .ok ())
    {occasion occasion' : Occasion} {native s3 : Request}
    (names : NamesBucket native.headers bucket) (about : AboutObject s3) :
    let identifier := Name.identifier user.userId bucket key
    let done := (respond settings occasion native).run s
    let done' := (respond settings occasion' s3).run s
    (AsksFor settings occasion native user (.put key) →
      AsksFor settings occasion' s3 user (.putObject bucket key) →
      SameLines native.headers s3.headers → readable native = readable s3 →
      s3.headers.get? "x-amz-copy-source" = none →
      PutsAgree s identifier (readable native) done done') ∧
    (AsksFor settings occasion native user (.get key) →
      AsksFor settings occasion' s3 user (.getObject bucket key) →
      native.method = "GET" → s3.headers.get? "range" = none →
      GetsAgree s identifier done done') ∧
    (AsksFor settings occasion native user (.delete key) →
      AsksFor settings occasion' s3 user (.deleteObject bucket key) →
      DeletesAgree s identifier done done') := by
  have sound := reached.sound
  refine ⟨?_, ?_, ?_⟩
  · intro asks asks' lines content own
    exact puts_agree sound named names about asks asks' lines content own
  · intro asks asks' got whole
    exact gets_agree sound named names about asks asks' (got ▸ by decide) whole
  · intro asks asks'
    exact deletes_agree sound named names about asks asks'

namespace KeyClient

/-- A native request of the user, who sends more header lines than those of a key. -/
def request (method path : String) (more : List (String × FieldValue)) (body : Body) : Request :=
  ⟨method, ⟨none, path, none⟩, ⟨headers.lines ++ more⟩, body⟩

theorem asksFor {method path : String} {endpoint : Endpoint}
    (native : Protocol.ofPath path = .native) (leads : Route.of method path = .endpoint endpoint)
    {more : List (String × FieldValue)} (unsigned : (Headers.mk more).has "authorization" = false)
    (body : Body) :
    AsksFor settings occasion (request method path more body) credential.user endpoint :=
  ⟨authenticatedAs_named native unsigned rfl, leads⟩

theorem namesBucket (method path : String) (more : List (String × FieldValue)) (body : Body) :
    NamesBucket (request method path more body).headers "put" := by
  have shown : valueText? "put".toUTF8 = some "put" := by decide
  exact .inl shown

/-- A put of the user into another bucket, with a digest that no known text has. -/
def declaring (body : Body) : Request :=
  ⟨"POST", ⟨none, "/put/k", none⟩,
    ⟨[("user", "ann".toUTF8), ("x-access-key", "key".toUTF8), ("bucket", "box".toUTF8),
      (digestHeader, zeros.toUTF8)]⟩, body⟩

theorem asksFor_declaring (body : Body) :
    AsksFor settings occasion (declaring body) credential.user (.put "k") where
  authenticated :=
    authenticatedAs_named (by decide : Protocol.ofPath "/put/k" = .native) rfl rfl
  leads := by
    show Route.of "POST" "/put/k" = _
    decide +kernel

theorem namesBox (body : Body) : NamesBucket (declaring body).headers "box" := by
  have shown : valueText? "box".toUTF8 = some "box" := by decide
  exact .inl shown

end KeyClient

/-- The client that signs does not sign for a body. -/
theorem SignedClient.readable_request (method : String) (target : Target)
    (more : List (String × FieldValue)) (body : Body) :
    readable (request method target more body) = body.contents := by
  have signed : (request method target more body).headers.has "authorization" = true := rfl
  have declared : (request method target more body).headers.text? digestHeader =
      some unsignedPayload := by
    show valueText? unsignedPayload.toUTF8 = _
    decide
  unfold readable
  rw [signed, declared]
  exact if_neg (by decide)

/-- A key in both protocols: put into an empty store, asked for and deleted. -/
theorem agree_on_a_key :
    let native (method path : String) (body : Body) := KeyClient.request method path [] body
    let s3 (method : String) (body : Body) :=
      SignedClient.request method ⟨none, "/s3/put/k", none⟩ [] body
    let answer (request : Request) (s : Store) :=
      (respond KeyClient.settings KeyClient.occasion request).run s
    let body := Body.ofBytes "x".toUTF8
    let identifier := Name.identifier KeyClient.credential.user.userId "put" "k"
    PutsAgree Store.empty identifier body.contents
        (answer (native "POST" "/put/k" body) .empty) (answer (s3 "PUT" body) .empty) ∧
      GetsAgree KeyClient.stored identifier
        (answer (native "GET" "/get/k" []) KeyClient.stored)
        (answer (s3 "GET" []) KeyClient.stored) ∧
      DeletesAgree KeyClient.stored identifier
        (answer (native "DELETE" "/delete/k" []) KeyClient.stored)
        (answer (s3 "DELETE" []) KeyClient.stored) := by
  intro native s3 answer body identifier
  have reached : Reached KeyClient.settings KeyClient.stored :=
    .request .start KeyClient.occasion KeyClient.put
  have names (method path : String) (body : Body) :
      NamesBucket (native method path body).headers "put" :=
    KeyClient.namesBucket method path [] body
  have about (method : String) (body : Body) : AboutObject (s3 method body) := .of_no_query rfl
  have asks {method path : String} {endpoint : Endpoint}
      (known : Protocol.ofPath path = .native) (leads : Route.of method path = .endpoint endpoint)
      (body : Body) : AsksFor KeyClient.settings KeyClient.occasion (native method path body)
        KeyClient.credential.user endpoint := KeyClient.asksFor known leads rfl body
  have asks' {method : String} {endpoint : Endpoint}
      (leads : Route.of method "/s3/put/k" = .endpoint endpoint) (body : Body) :
      AsksFor KeyClient.settings KeyClient.occasion (s3 method body) KeyClient.credential.user
        endpoint := SignedClient.asksFor leads (by decide) rfl body
  have plain (method : String) {name : String}
      (other : name ∉ ["authorization", digestHeader, dateHeader]) (body : Body) :
      (s3 method body).headers.get? name = none :=
    SignedClient.get?_request method ⟨none, "/s3/put/k", none⟩ [] body other
  have named : Name.checkBucket "put" = .ok () := rfl
  have readable_native : readable (native "POST" "/put/k" body) = body.contents := rfl
  have readable_s3 : readable (s3 "PUT" body) = body.contents :=
    SignedClient.readable_request "PUT" ⟨none, "/s3/put/k", none⟩ [] body
  have lines : SameLines (native "POST" "/put/k" body).headers (s3 "PUT" body).headers := rfl
  have started : Reached KeyClient.settings Store.empty := .start
  refine ⟨?_, ?_, ?_⟩
  · rw [← readable_native]
    exact (protocols_agree started named (names "POST" "/put/k" body) (about "PUT" body)).1
      (asks (by decide) (by decide +kernel) body) (asks' (by decide +kernel) body) lines
      (readable_native.trans readable_s3.symm) (plain "PUT" (by decide) body)
  · exact (protocols_agree reached named (names "GET" "/get/k" []) (about "GET" [])).2.1
      (asks (by decide) (by decide +kernel) []) (asks' (by decide +kernel) []) rfl
      (plain "GET" (by decide) [])
  · exact (protocols_agree reached named (names "DELETE" "/delete/k" []) (about "DELETE" [])).2.2
      (asks (by decide) (by decide +kernel) []) (asks' (by decide +kernel) [])

/-- Where both protocols declare the digest of a body, only the one that signs holds to it. -/
theorem declared_apart :
    ¬ IsError ((respond KeyClient.settings KeyClient.occasion
        (KeyClient.declaring SignedPut.body)).run Store.empty).1.status ∧
      IsError ((respond KeyClient.settings KeyClient.occasion
        (SignedPut.request zeros SignedPut.body)).run Store.empty).1.status := by
  have started : Store.empty.Sound := Reached.sound (.start : Reached KeyClient.settings _)
  have box : Name.checkBucket "box" = .ok () := rfl
  have valid : Name.checkIdentifier (Name.identifier KeyClient.credential.user.userId "box" "k") =
      .ok () := rfl
  refine ⟨?_, ?_⟩
  · have content : readable (KeyClient.declaring SignedPut.body) = .ok "x".toUTF8 := rfl
    exact not_isError_of_status (status_put started (KeyClient.asksFor_declaring SignedPut.body)
      (KeyClient.namesBox SignedPut.body) box valid content)
  · let s3 := SignedPut.request zeros SignedPut.body
    have asks : AsksFor KeyClient.settings KeyClient.occasion s3 KeyClient.credential.user
        (.putObject "box" "k") :=
      ⟨SignedPut.authenticated isDigest_zeros valueText?_zeros SignedPut.body, SignedPut.leads _ _⟩
    have signed : s3.headers.has "authorization" := SignedClient.has_authorization ..
    have declares : s3.headers.text? digestHeader = some zeros :=
      SignedClient.declares _ _ _ _ valueText?_zeros
    have mismatch : readable s3 = .error .digestMismatch :=
      (readable_of_declared signed declares isDigest_zeros).trans
        (Body.contents_verified_of_ne rfl (by decide +kernel))
    exact isError_of_unreadable asks (SignedPut.reads _ _) (fun _ form => by cases form) mismatch

/-- A key that is there is deleted with other answers; a key that cannot be stored is refused in
each protocol with its own document; and a body of another digest than its header declares is
stored for who does not sign. -/
theorem answered_apart :
    let native (method path : String) := KeyClient.request method path [] []
    let s3 (method path : String) := SignedClient.request method ⟨none, path, none⟩ [] []
    (((respond KeyClient.settings KeyClient.occasion (native "DELETE" "/delete/k")).run
          KeyClient.stored).1.status = 200 ∧
      ((respond KeyClient.settings KeyClient.occasion (s3 "DELETE" "/s3/put/k")).run
          KeyClient.stored).1.status = 204) ∧
    ((respond KeyClient.settings KeyClient.occasion (native "GET" "/get/%01")).run
          KeyClient.stored).1.body ≠
      ((respond KeyClient.settings KeyClient.occasion (s3 "GET" "/s3/put/%01")).run
          KeyClient.stored).1.body ∧
    ¬ IsError ((respond KeyClient.settings KeyClient.occasion
        (KeyClient.declaring SignedPut.body)).run Store.empty).1.status ∧
      IsError ((respond KeyClient.settings KeyClient.occasion
        (SignedPut.request zeros SignedPut.body)).run Store.empty).1.status := by
  intro native s3
  have reached : Reached KeyClient.settings KeyClient.stored :=
    .request .start KeyClient.occasion KeyClient.put
  have sound : KeyClient.stored.Sound := reached.sound
  have named : Name.checkBucket "put" = .ok () := rfl
  have names (method path : String) : NamesBucket (native method path).headers "put" :=
    KeyClient.namesBucket method path [] []
  have about (method path : String) : AboutObject (s3 method path) := .of_no_query rfl
  refine ⟨?_, ?_, declared_apart⟩
  · have held : (KeyClient.stored.shelf.objects.find?
        (Name.identifier KeyClient.credential.user.userId "put" "k")).isSome := by decide +kernel
    have asks : AsksFor KeyClient.settings KeyClient.occasion (native "DELETE" "/delete/k")
        KeyClient.credential.user (.delete "k") :=
      KeyClient.asksFor (by decide) (by decide +kernel) rfl []
    have asks' : AsksFor KeyClient.settings KeyClient.occasion (s3 "DELETE" "/s3/put/k")
        KeyClient.credential.user (.deleteObject "put" "k") :=
      SignedClient.asksFor (by decide +kernel) (by decide) rfl []
    have agree := deletes_agree sound named (names "DELETE" "/delete/k")
      (about "DELETE" "/s3/put/k") asks asks'
    exact agree.found held
  · have invalid : Name.checkIdentifier (Name.identifier KeyClient.credential.user.userId "put"
        "\x01") = .error .control := by decide
    have asks : AsksFor KeyClient.settings KeyClient.occasion (native "GET" "/get/%01")
        KeyClient.credential.user (.get "\x01") :=
      KeyClient.asksFor (by decide) (by decide +kernel) rfl []
    have asks' : AsksFor KeyClient.settings KeyClient.occasion (s3 "GET" "/s3/put/%01")
        KeyClient.credential.user (.getObject "put" "\x01") :=
      SignedClient.asksFor (by decide +kernel) (by decide) rfl []
    exact refused_apart sound named (names "GET" "/get/%01") (about "GET" "/s3/put/%01") invalid
      asks asks' (by decide : "GET" ≠ "HEAD")

end Depot.Server

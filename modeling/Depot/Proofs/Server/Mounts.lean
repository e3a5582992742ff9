import Depot.Proofs.Server.Agreement

/-!
# The two mounts of the S3 protocol

The S3 protocol is served at the root and once more under `/s3`.  A bucket, with
or without a slash or a key after it, leads to the same place under both
(`mounts_agree`): the endpoint reads what the path names after the mount, and
nothing that it does depends on how the request was signed.

The root of the mount is the bare `/s3`.  With a slash after it the path leads
to a bucket of the name `s3`, which no bucket has.
-/

namespace Depot.Server

set_option autoImplicit false

open Depot.Auth
open Depot.Http
open Depot.Text
open Depot.Time

/-! ## Paths -/

/-- A path of the S3 protocol at the root: all buckets, or a bucket whose name has no meaning of
its own there, with or without a slash and a key after it.  The name may be missing before a
slash. -/
inductive RootPath : String → Prop where
  | service : RootPath "/"
  | bucket {name : String} (clean : '/' ∉ name.toList) (filled : name ≠ "")
      (free : name ∉ reserved) : RootPath ("/" ++ name)
  | below {name : String} (clean : '/' ∉ name.toList) (free : name ∉ reserved) (key : String) :
      RootPath ("/" ++ name ++ "/" ++ key)

/-- A path of the root under the mount, whose own root has no slash at its end. -/
def underMount (path : String) : String := if path = "/" then "/s3" else "/s3" ++ path

/-- A path whose first segment is neither of the native protocol nor a probe is of the S3
protocol. -/
theorem Protocol.ofPath_other {first tail : List Char} (clean : '/' ∉ first) (filled : first ≠ [])
    (leads : segment (first ++ tail) = first)
    (other : String.ofList first ∉ openPaths ++ nativeVerbs) :
    Protocol.ofPath (String.ofList ('/' :: (first ++ tail))) = .s3 := by
  rw [List.mem_append, not_or] at other
  unfold segment at leads
  unfold Protocol.ofPath
  simp only [String.toList_ofList, trimStart_segment clean filled, leads, List.contains_iff_mem]
  rw [if_neg other.2, if_neg]
  exact fun both => other.1 (List.contains_iff_mem.mp (Bool.and_eq_true_iff.mp both).1)

/-- What follows the mount is read as a path of the S3 protocol. -/
theorem Place.ofRest_mount {rest : List Char} (filled : rest ≠ []) :
    Place.ofRest ("s3".toList ++ '/' :: rest) = Place.ofS3 rest := by
  have divided {word : List Char} (single : '/' ∉ word) : "s3".toList ++ '/' :: rest ≠ word :=
    fun same => single (same ▸ List.mem_append_cons_self)
  have clean : '/' ∉ "s3".toList := by decide
  unfold Place.ofRest
  rw [if_neg (divided (by decide)), if_neg (divided (by decide)), if_neg (divided (by decide)),
    cutAt_append clean]
  exact if_pos ⟨rfl, filled⟩

/-- The bucket that a place names, as it was sent. -/
def Place.bucket? : Place → Option String
  | .bucket name | .object name _ => some name
  | _ => none

/-- A path leads to a place of the S3 protocol, and to the same place under the mount.  The path is
of that protocol itself, unless its bucket has no name: the slashes before a first segment count
for the place, but not for the protocol. -/
structure Mounted (path : String) (place : Place) : Prop where
  leads : Place.ofPath? path = some place
  own : place.protocol = .s3
  protocol : Protocol.ofPath path = .s3 ∨ place.bucket? = some ""
  mount : Place.ofPath? (underMount path) = some place
  protocol_mount : Protocol.ofPath (underMount path) = .s3

/-- A path is mounted when it leads to the place that is read off it as a path of the S3
protocol. -/
theorem Mounted.of_rest {rest : List Char} (filled : rest ≠ [])
    (protocol : Protocol.ofPath (String.ofList ('/' :: rest)) = .s3 ∨
      (Place.ofS3 rest).bucket? = some "")
    (root : Place.ofRest rest = Place.ofS3 rest) :
    Mounted (String.ofList ('/' :: rest)) (Place.ofS3 rest) := by
  have path : Place.ofPath? (String.ofList ('/' :: rest)) = some (Place.ofS3 rest) := by
    rw [← root, Place.ofPath?, String.toList_ofList]
    rfl
  have below : underMount (String.ofList ('/' :: rest)) =
      String.ofList ('/' :: ("s3".toList ++ '/' :: rest)) := by
    have other : String.ofList ('/' :: rest) ≠ "/" := fun same =>
      filled (List.cons_inj_right '/' |>.mp (String.ofList_inj.mp same))
    have mount : "/s3" = String.ofList ('/' :: "s3".toList) := by decide
    rw [underMount, if_neg other, mount, ← String.ofList_append, List.cons_append]
  have clean : '/' ∉ "s3".toList := by decide
  refine ⟨path, Place.protocol_ofS3 rest, protocol, ?_, ?_⟩
  · rw [below, Place.ofPath?, String.toList_ofList]
    exact congrArg some (Place.ofRest_mount filled)
  · rw [below]
    exact Protocol.ofPath_other clean (by decide) (segment_append clean rest) (by decide)

/-- The paths of the S3 protocol are mounted. -/
theorem RootPath.mounted {path : String} (root : RootPath path) : ∃ place, Mounted path place := by
  have spelled {name : String} (free : name ∉ reserved) :
      (∀ word, word ∈ reserved → name.toList ≠ word.toList) ∧
        String.ofList name.toList ∉ openPaths ++ nativeVerbs := by
    rw [String.ofList_toList]
    exact ⟨fun word known same => free (String.toList_inj.mp same ▸ known),
      fun known => free (List.mem_cons_of_mem _ known)⟩
  cases root with
  | service =>
      exact ⟨.buckets, by decide, rfl, .inl (by decide), by decide,
        by decide⟩
  | @bucket name clean filled free =>
      have ⟨other, unknown⟩ := spelled free
      have given : name.toList ≠ [] := fun none => filled (String.toList_eq_nil_iff.mp none)
      have protocol := @Protocol.ofPath_other name.toList [] clean given
        (by rw [List.append_nil, segment_of_clean clean]) unknown
      rw [List.append_nil] at protocol
      rw [spelled_probe]
      refine ⟨_, .of_rest given (.inl protocol) ?_⟩
      unfold Place.ofRest
      rw [if_neg (other _ (by decide)), if_neg (other _ (by decide)), if_neg (other _ (by decide)),
        cutAt_eq_none clean]
  | @below name clean free key =>
      have ⟨other, unknown⟩ := spelled free
      have place : Place.ofS3 (name.toList ++ '/' :: key.toList) =
          if key.toList = [] then .bucket (String.ofList name.toList)
          else .object (String.ofList name.toList) (String.ofList key.toList) := by
        rw [Place.ofS3, cutAt_append clean]
        simp only [List.isEmpty_iff]
      have protocol : Protocol.ofPath (String.ofList ('/' :: (name.toList ++ '/' :: key.toList))) =
          .s3 ∨ (Place.ofS3 (name.toList ++ '/' :: key.toList)).bucket? = some "" := by
        by_cases given : name.toList = []
        · right
          rw [place, given]
          split <;> rfl
        · exact .inl (Protocol.ofPath_other clean given (segment_append clean key.toList) unknown)
      have path := spelled_verb name key.toList
      rw [String.ofList_toList] at path
      rw [path]
      refine ⟨_, .of_rest (by simp) protocol ?_⟩
      rw [place, Place.ofRest_append clean (other _ (by decide))
        fun verb known => other verb (by simp [reserved, known])]

/-! ## What endpoints read of a request -/

/-- Two requests differ in their path, and in the lines that say who asks. -/
structure Alongside (request request' : Request) : Prop where
  method : request'.method = request.method
  query : request'.target.query? = request.target.query?
  body : request'.body = request.body
  lines : SameLines request.headers request'.headers
  digest : request'.headers.get? digestHeader = request.headers.get? digestHeader

/-- A request that is let in as one of the S3 protocol is read as its signature allows. -/
theorem signedBody_of_admission {verifier : Verifier} {maxBuffered : Nat} {now : Instant}
    {request : Request} {user : User} {body : Body}
    (admitted : admission verifier maxBuffered now .s3 request = .ok (user, body)) :
    ∃ payload, signedBody request.headers maxBuffered request.body = .ok (payload, body) := by
  unfold admission at admitted
  split at admitted
  · obtain ⟨⟨payload, checked⟩, read, admitted⟩ := Results.bind_eq_ok_iff.mp admitted
    obtain ⟨known, -, same⟩ := Results.bind_eq_ok_iff.mp admitted
    cases same
    exact ⟨payload, read⟩
  · cases admitted

namespace Alongside

variable {request request' : Request} (along : Alongside request request') (user : User)
  (bucket key : String) (params : List Parameter) (body : Body) (now : Instant)

include along

theorem get? (name : String) (other : name ∉ ownNames) :
    request'.headers.get? name = request.headers.get? name := by
  rw [get?_eq_head?_getAll, get?_eq_head?_getAll, along.lines.getAll other]

theorem withQuery (known : List String) (next : List Parameter → StateM Store Response) :
    withQuery request'.target known next = withQuery request.target known next := by
  rw [Server.withQuery, Server.withQuery, along.query]

/-- The body as it may be read depends on what is declared of it, and not on who signs. -/
theorem body_of_admission {verifier : Verifier} {maxBuffered : Nat} {body' : Body}
    (admitted : admission verifier maxBuffered now .s3 request = .ok (user, body))
    (admitted' : admission verifier maxBuffered now .s3 request' = .ok (user, body')) :
    body' = body := by
  obtain ⟨payload, read⟩ := signedBody_of_admission admitted
  obtain ⟨payload', read'⟩ := signedBody_of_admission admitted'
  have same : signedBody request'.headers maxBuffered request'.body =
      signedBody request.headers maxBuffered request.body := by
    rw [signedBody, signedBody, Headers.text?, Headers.text?, along.digest, along.body]
  rw [same, read] at read'
  cases read'
  rfl

theorem putObject : S3.putObject user bucket key params request'.headers body now =
    S3.putObject user bucket key params request.headers body now := by
  have source := along.get? "x-amz-copy-source" (by decide)
  have directive := along.get? "x-amz-metadata-directive" (by decide)
  have attributes := along.lines.attributesOf
  simp only [S3.putObject, S3.copyObject, S3.copyAttributes, source, directive, attributes]

theorem getObject : S3.getObject user bucket key params request'.headers =
    S3.getObject user bucket key params request.headers := by
  have range := along.get? "range" (by decide)
  simp only [S3.getObject, Headers.text?, range]

theorem postObject : S3.postObject user bucket key params request'.headers body now =
    S3.postObject user bucket key params request.headers body now := by
  have attributes := along.lines.attributesOf
  simp only [S3.postObject, S3.beginUpload, attributes]

/-- An endpoint of the S3 protocol answers a user alike, whatever was signed. -/
theorem answerUser {endpoint : Endpoint} (own : endpoint.protocol = .s3) (settings : Settings)
    (occasion : Occasion) :
    answerUser settings occasion request' body user endpoint =
      answerUser settings occasion request body user endpoint := by
  unfold Server.answerUser
  cases endpoint with
  | listBuckets => rfl
  | listObjects bucket => exact along.withQuery ..
  | headBucket bucket => rfl
  | createBucket bucket => rfl
  | deleteBucket bucket => rfl
  | putObject bucket key => simp only [along.withQuery, along.putObject]
  | getObject bucket key => simp only [along.withQuery, along.getObject]
  | headObject bucket key => rfl
  | postObject bucket key => simp only [along.withQuery, along.postObject]
  | deleteObject bucket key => exact along.withQuery ..
  | _ => cases own

theorem answer {route : Route} (own : route.Leads (·.protocol = .s3)) (settings : Settings)
    (occasion : Occasion) :
    answer settings occasion request' body (some user) route =
      answer settings occasion request body (some user) route := by
  cases route with
  | endpoint endpoint => exact along.answerUser user body (own endpoint rfl) settings occasion
  | _ => rfl

end Alongside

/-! ## A bucket that cannot be -/

/-- A route whose endpoints read nothing of the body answers alike for any body. -/
theorem answer_unread {settings : Settings} {occasion : Occasion} {request : Request}
    {route : Route} {user : User} {body body' : Body}
    (unread : route.Leads fun endpoint =>
      answerUser settings occasion request body' user endpoint =
        answerUser settings occasion request body user endpoint) :
    answer settings occasion request body' (some user) route =
      answer settings occasion request body (some user) route := by
  cases route with
  | endpoint endpoint => exact unread endpoint rfl
  | _ => rfl

/-- Nothing is read of the body of a request for a bucket without name. -/
theorem leads_nameless {settings : Settings} {occasion : Occasion} {request : Request}
    (method : String) {place : Place} (nameless : place.bucket? = some "") (user : User)
    (body body' : Body) :
    (Route.atPlace method place).Leads fun endpoint =>
      answerUser settings occasion request body' user endpoint =
        answerUser settings occasion request body user endpoint := by
  unfold Route.atPlace
  refine .ite (fun _ _ leads => by cases leads) ?_
  cases place with
  | bucket name =>
      cases nameless
      have every (next : String → Endpoint)
          (unread : ∀ bucket, answerUser settings occasion request body' user (next bucket) =
            answerUser settings occasion request body user (next bucket)) :
          (Route.withBucket "" next).Leads fun endpoint =>
            answerUser settings occasion request body' user endpoint =
              answerUser settings occasion request body user endpoint :=
        .withText fun bucket => .endpoint (unread bucket)
      refine .ite (fun _ => every _ fun _ => rfl) ?_
      refine .ite (fun _ => every _ fun _ => rfl) ?_
      exact .ite (fun _ => every _ fun _ => rfl) (every _ fun _ => rfl)
  | object name key =>
      cases nameless
      have every (next : String → String → Endpoint)
          (unread : ∀ key, answerUser settings occasion request body' user (next "" key) =
            answerUser settings occasion request body user (next "" key)) :
          (Route.withObject "" key next).Leads fun endpoint =>
            answerUser settings occasion request body' user endpoint =
              answerUser settings occasion request body user endpoint := by
        have plain : Percent.decodedText? "" = some "" := by decide
        unfold Route.withObject
        rw [Route.withText, plain]
        exact .withText fun key => .endpoint (unread key)
      -- Before anything is read, the address turns out to have no bucket.
      have put (key : String) (params : List Parameter) :
          S3.putObject user "" key params request.headers body' occasion.now =
            S3.putObject user "" key params request.headers body occasion.now := rfl
      have post (key : String) (params : List Parameter) :
          S3.postObject user "" key params request.headers body' occasion.now =
            S3.postObject user "" key params request.headers body occasion.now := rfl
      refine .ite (fun _ => every _ fun key => by simp only [answerUser, put]) ?_
      refine .ite (fun _ => every _ fun _ => rfl) ?_
      refine .ite (fun _ => every _ fun _ => rfl) ?_
      refine .ite (fun _ => every _ fun key => by simp only [answerUser, post]) ?_
      exact every _ fun _ => rfl
  | _ => cases nameless

/-- A bucket that cannot have its name is refused by every endpoint. -/
theorem answer_unnamed {settings : Settings} {occasion : Occasion} {request : Request}
    {bucket : String} {fault : S3Fault} (unnamed : S3.requireBucket bucket = .error fault)
    (serious : fault.IsError) {sent : String} (named : Percent.decodedText? sent = some bucket)
    (body : Body) (user : User) :
    TurnsDown (answer settings occasion request body (some user)
      (Route.atPlace request.method (.bucket sent))) := by
  have refused (next : Unit → S3.Action Response) :
      TurnsDown (answerS3 occasion (liftM (S3.requireBucket bucket) >>= next)) := by
    rw [unnamed]
    exact .answering (fun _ error => error) (Refuses.throw serious)
  have leads (next : String → Endpoint) : Route.withBucket sent next = .endpoint (next bucket) := by
    rw [Route.withBucket, Route.withText, named]
  have listObjects : TurnsDown
      (answerUser settings occasion request body user (.listObjects bucket)) :=
    .withQuery (refused _)
  have headBucket : TurnsDown
      (answerUser settings occasion request body user (.headBucket bucket)) := refused _
  have createBucket : TurnsDown
      (answerUser settings occasion request body user (.createBucket bucket)) := by
    have failed : S3.createBucket bucket = .error fault := by
      rw [S3.createBucket, unnamed]
      rfl
    show TurnsDown (answerS3 occasion (liftM (S3.createBucket bucket)))
    rw [failed]
    exact .answering (fun _ error => error) (Refuses.throw serious)
  have deleteBucket : TurnsDown
      (answerUser settings occasion request body user (.deleteBucket bucket)) := refused _
  unfold Route.atPlace
  dsimp only
  simp only [leads]
  split
  · exact fun s => ⟨Nat.le_of_ble_eq_true rfl, .refl s⟩
  split
  · exact listObjects
  split
  · exact headBucket
  split
  · exact createBucket
  · exact deleteBucket

/-! ## The mounts agree -/

/-- **A request under the mount is answered as it is at the root.**  It is answered to the same
user with the same response, and leaves the same store.  The root of the mount is `/s3` alone:
what `/s3/` leads to is a bucket that cannot be, so that every request for it fails and changes
nothing. -/
theorem mounts_agree (settings : Settings) (occasion : Occasion) (user : User) (s : Store) :
    (∀ request request', RootPath request.target.path →
      request'.target.path = underMount request.target.path → Alongside request request' →
      authenticatedAs settings occasion request = some user →
      authenticatedAs settings occasion request' = some user →
      (respond settings occasion request').run s = (respond settings occasion request).run s) ∧
    (∀ request, request.target.path = "/s3/" →
      authenticatedAs settings occasion request = some user →
      IsError ((respond settings occasion request).run s).1.status ∧
        Store.SameContents s ((respond settings occasion request).run s).2) := by
  refine ⟨fun request request' root mount along known known' => ?_, fun request path known => ?_⟩
  · obtain ⟨place, mounted⟩ := root.mounted
    obtain ⟨body, admitted, responds⟩ := respond_run_user known
    obtain ⟨body', admitted', responds'⟩ := respond_run_user known'
    rw [mount, mounted.protocol_mount] at admitted'
    have route : Route.of request.method request.target.path =
        Route.atPlace request.method place := by
      rw [Route.of, mounted.leads]
    have route' : Route.of request'.method request'.target.path =
        Route.atPlace request.method place := by
      rw [mount, along.method, Route.of, mounted.mount]
    have own : (Route.atPlace request.method place).Leads (·.protocol = .s3) :=
      fun endpoint leads =>
        (Route.leads_atPlace request.method place endpoint leads).protocol.trans mounted.own
    have answers : answer settings occasion request' body' (some user)
        (Route.atPlace request.method place) =
        answer settings occasion request body (some user)
          (Route.atPlace request.method place) := by
      rw [along.answer user body' own settings occasion]
      rcases mounted.protocol with protocol | nameless
      · rw [protocol] at admitted
        rw [along.body_of_admission user body occasion.now admitted admitted']
      · exact answer_unread (leads_nameless _ nameless user body body')
    rw [responds, responds', route, route', along.method]
    dsimp only
    rw [answers]
  · have place : Place.ofPath? "/s3/" = some (.bucket "s3") := by decide
    have plain : Percent.decodedText? "s3" = some "s3" := by decide
    obtain ⟨body, -, responds⟩ := respond_run_user known
    rw [responds, path, Route.of, place]
    dsimp only
    rw [finish_status]
    have unnamed : ∃ fault, S3.requireBucket "s3" = .error fault ∧ fault.IsError :=
      ⟨_, rfl, Nat.le_refl 400⟩
    obtain ⟨fault, unnamed, serious⟩ := unnamed
    exact answer_unnamed unnamed serious plain body user s

/-- A key in a bucket is asked for under both mounts, and so are all buckets. -/
theorem key_under_both_mounts :
    let ask (path : String) := SignedClient.request "GET" ⟨none, path, none⟩ [] []
    let answer (path : String) (s : Store) :=
      (respond SignedClient.settings SignedClient.occasion (ask path)).run s
    answer "/s3/box/k" .empty = answer "/box/k" .empty ∧
      answer "/s3" .empty = answer "/" .empty ∧
      IsError ((respond SignedClient.settings SignedClient.occasion
        (ask "/s3/")).run .empty).1.status := by
  intro ask answer
  have known (path : String) (endpoint : Endpoint)
      (leads : Route.of "GET" path = .endpoint endpoint) (closed : Protocol.ofPath path ≠ .probe) :
      authenticatedAs SignedClient.settings SignedClient.occasion (ask path) =
        some SignedClient.credential.user :=
    (@SignedClient.asksFor "GET" ⟨none, path, none⟩ endpoint leads closed [] rfl []).authenticated
  have lines (path : String) :
      (ask path).headers.lines.filter (!ownNames.contains ·.1) = [] := rfl
  have digest (path : String) :
      (ask path).headers.get? digestHeader = some unsignedPayload.toUTF8 := rfl
  have along (path path' : String) : Alongside (ask path) (ask path') :=
    ⟨rfl, rfl, rfl, (lines path).trans (lines path').symm, (digest path').trans (digest path).symm⟩
  have agree :=
    mounts_agree SignedClient.settings SignedClient.occasion SignedClient.credential.user .empty
  have box : RootPath "/box/k" := @RootPath.below "box" (by decide) (by decide) "k"
  have asks := known "/box/k" (.getObject "box" "k") (by decide) (by decide)
  have asks' := known "/s3/box/k" (.getObject "box" "k") (by decide +kernel) (by decide)
  have all := known "/" .listBuckets (by decide) (by decide)
  have all' := known "/s3" .listBuckets (by decide) (by decide)
  have none := known "/s3/" (.listObjects "s3") (by decide) (by decide)
  refine ⟨?_, ?_, ?_⟩
  · exact agree.1 (ask "/box/k") (ask "/s3/box/k") box (by decide) (along ..) asks asks'
  · exact agree.1 (ask "/") (ask "/s3") .service (by decide) (along ..) all all'
  · obtain ⟨failed, -⟩ := agree.2 (ask "/s3/") rfl none
    exact failed

end Depot.Server

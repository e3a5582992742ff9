import Depot.Proofs.Server.Assembly
import Depot.Proofs.Server.BlindEndpoints

/-!
# Users under other ids

The id of a user stands before every identifier that is stored for them.  It
does not show: a run of signed requests from one user is answered in the same
way, request by request, when the user has another id, but for the list of the
buckets, which names its owner (`user_id_unseen`).  No other response, no
message and no header has a trace of the id, and no limit and no order of a
listing depends on it.

One step carries the argument.  Given the paths that are stored, a request comes
to one response for all ids, and leaves the same paths (`respond_unseen`).
-/

namespace Depot

set_option autoImplicit false

open Depot.Auth
open Depot.Http
open Depot.Name
open Depot.Text
open Depot.Time

/-! ## Other ids in the credentials -/

namespace Auth

variable (old new : String)

def User.renamed (user : User) : User :=
  if user.userId = old then { user with userId := new } else user

def Credential.renamed (credential : Credential) : Credential :=
  if credential.userId = old then { credential with userId := new } else credential

/-- The credentials of one user under another id. -/
def Verifier.renamed (v : Verifier) : Verifier :=
  { v with credentials := v.credentials.mapValues fun _ credential => credential.renamed old new }

theorem Credential.user_renamed (credential : Credential) :
    (credential.renamed old new).user = credential.user.renamed old new := by
  unfold Credential.renamed User.renamed Credential.user
  dsimp only
  split <;> rfl

theorem Credential.secretKey_renamed (credential : Credential) :
    (credential.renamed old new).secretKey = credential.secretKey := by
  unfold Credential.renamed
  split <;> rfl

theorem Verifier.renamed_self (v : Verifier) (userId : String) : v.renamed userId userId = v := by
  have each (credential : Credential) : credential.renamed userId userId = credential := by
    unfold Credential.renamed
    split
    · next same => rw [← same]
    · rfl
  have same : (v.credentials.mapValues fun _ credential => credential.renamed userId userId) =
      v.credentials := by
    refine Table.ext_find? fun accessKey => ?_
    simp [each]
  rw [Verifier.renamed, same]

/-- **A signature is verified alike under another id.** -/
theorem Verifier.verify_renamed (v : Verifier) (request : SignedRequest) (now : Instant) :
    (v.renamed old new).verify request now =
      (v.verify request now).map (User.renamed old new) := by
  have known (accessKey : String) : (v.renamed old new).credentials.find? accessKey =
      (v.credentials.find? accessKey).map (Credential.renamed old new) :=
    Table.find?_mapValues _ _ _
  -- The checks in their order: each fails alike, and only the last step names the user.
  unfold Verifier.verify
  cases request.headers.get? "authorization" with
  | none => rfl
  | some value =>
  dsimp only
  cases valueText? value with
  | none => rfl
  | some text =>
  dsimp only [bind, Except.bind]
  cases Authorization.ofText text with
  | error fault => rfl
  | ok a =>
  dsimp only
  rw [known]
  cases v.credentials.find? a.scope.accessKey with
  | none => rfl
  | some credential =>
  dsimp only [Option.map_some]
  rw [credential.secretKey_renamed, credential.user_renamed]
  split
  · rfl
  · show (if a.scope.region ≠ v.region then _ else _) = _
    split
    · rfl
    · cases requestTime request.headers with
      | error fault => rfl
      | ok moment =>
          dsimp only
          split
          · rfl
          · show (if v.maxSkew < now.secondsApart moment then _ else _) = _
            split
            · rfl
            · cases canonicalRequest request.method request.target request.headers
                  a.signedHeaders request.payloadHash with
              | error fault => rfl
              | ok canonical =>
                  dsimp only
                  split <;> rfl

end Auth

/-- The store with the next upload at a number that was drawn, or at its own when that has been
passed. -/
def Store.drawn (s : Store) (draw : Nat) : Store :=
  { s with nextUpload := max s.nextUpload draw }

theorem Store.drawn_owned (bare : Store) (owner : String) (draw : Nat) :
    (bare.owned owner).drawn draw = (bare.drawn draw).owned owner := rfl

namespace Server

/-! ## Other ids in the settings -/

def Settings.renamed (settings : Settings) (old new : String) : Settings :=
  { settings with verifier := settings.verifier.renamed old new }

theorem Settings.renamed_self (settings : Settings) (userId : String) :
    settings.renamed userId userId = settings := by
  rw [renamed, Verifier.renamed_self]

/-- A signed request is let in under another id as it is, or rejected as it is. -/
theorem admission_renamed {request : Request} (signed : request.headers.has "authorization")
    (verifier : Verifier) (old new : String) (maxBuffered : Nat) (now : Instant)
    (protocol : Protocol) :
    admission (verifier.renamed old new) maxBuffered now protocol request =
      (admission verifier maxBuffered now protocol request).map
        (Prod.map (User.renamed old new) id) := by
  unfold admission
  simp only [if_pos signed, bind, Except.bind]
  cases signedBody request.headers maxBuffered request.body with
  | error rejection => rfl
  | ok found =>
      obtain ⟨payloadHash, body⟩ := found
      dsimp only
      rw [Verifier.verify_renamed]
      cases verifier.verify ⟨request.method, request.target, request.headers, payloadHash⟩ now <;>
        rfl

/-! ## Responses to every owner -/

/-- What every owner is answered: one response for all, or to each the list of their buckets. -/
inductive Shown where
  | toAll (response : Response)
  | bucketsOf (buckets : List (String × Instant))

/-- What is shown to an owner. -/
def Shown.to (owner : String) : Shown → Response
  | .toAll response => response
  | .bucketsOf buckets => .xml 200 (Xml.bucketsDocument owner buckets)

/-- A family of programs, one for each owner, does not see its owner: in the stores of the same
paths it comes to the same response, or to the list of the buckets of its owner where that may be,
and leaves the stores of the same paths. -/
def Unseen (lists : Prop) (program : String → StateM Store Response) : Prop :=
  ∀ bare : Store, ∃ (shown : Shown) (next : Store),
    ((∃ response, shown = .toAll response) ∨ lists) ∧
    ∀ owner, IsOwner owner →
      (program owner).run (bare.owned owner) = (shown.to owner, next.owned owner)

namespace Unseen

variable {lists : Prop}

theorem pure (response : Response) : Unseen lists fun _ => pure response := by
  intro bare
  exact ⟨.toAll response, bare, .inl ⟨response, rfl⟩, fun _ _ => rfl⟩

/-- The devices are the same for every owner. -/
theorem ready : Unseen lists fun _ => do return readyResponse (← get).health := by
  intro bare
  exact ⟨.toAll (readyResponse bare.health), bare, .inl ⟨_, rfl⟩, fun _ _ => rfl⟩

/-- An operation that is blind to its owner, with its fault rendered, does not show the owner. -/
theorem answering {ε : Type} {action : String → ExceptT ε (StateM Store) Response}
    (blind : Blind asIs asIs action) (render : ε → Response) :
    Unseen lists fun owner => answering render (action owner) := by
  intro bare
  obtain ⟨result, next, done⟩ := blind bare
  refine ⟨.toAll (Discreet.rendered render result), next, .inl ⟨_, rfl⟩, fun owner isOwner => ?_⟩
  rw [Discreet.run_answering, done owner isOwner]
  cases result <;> rfl

theorem answering_listBuckets (accessKey : String) (render : S3Fault → Response) :
    Unseen True fun owner =>
      Server.answering render (S3.listBuckets ⟨owner, accessKey⟩) := by
  intro bare
  obtain ⟨result, next, done⟩ := S3.listBuckets_blind accessKey bare
  cases result with
  | error fault =>
      refine ⟨.toAll (render fault), next, .inr trivial, fun owner isOwner => ?_⟩
      rw [Discreet.run_answering, done owner isOwner]
      rfl
  | ok buckets =>
      refine ⟨.bucketsOf buckets, next, .inr trivial, fun owner isOwner => ?_⟩
      rw [Discreet.run_answering, done owner isOwner]
      rfl

theorem withQuery {target : Target} {known : List String}
    {next : String → List Parameter → StateM Store Response}
    (rest : ∀ params, Unseen lists fun owner => next owner params) :
    Unseen lists fun owner => withQuery target known (next owner) := by
  unfold Server.withQuery
  dsimp only
  split
  · exact .pure _
  · exact rest _

theorem mono {lists' : Prop} {program : String → StateM Store Response}
    (unseen : Unseen lists program) (weaker : lists → lists') : Unseen lists' program := by
  intro bare
  obtain ⟨shown, next, kind, done⟩ := unseen bare
  exact ⟨shown, next, kind.imp_right weaker, done⟩

end Unseen

/-- No endpoint but the list of the buckets shows the id of its user. -/
theorem answerUser_unseen (settings : Settings) (occasion : Occasion) (request : Request)
    (body : Body) (accessKey : String) (endpoint : Endpoint) :
    Unseen (endpoint = .listBuckets) fun owner =>
      answerUser settings occasion request body ⟨owner, accessKey⟩ endpoint := by
  cases endpoint with
  | live => exact .pure _
  | ready => exact .ready
  | put key => exact .answering (Native.put_blind accessKey key _ body _) _
  | putBinary key =>
      unfold answerUser
      dsimp only
      split
      · exact .pure _
      · exact .answering (Native.putForm_blind accessKey settings.forms key _ _ _ body _) _
  | get key => exact .answering (Native.get_blind accessKey key _) _
  | update key => exact .answering (Native.update_blind accessKey key _ body _) _
  | append key => exact .answering (Native.append_blind accessKey key _ body _) _
  | rename old new => exact .answering (Native.rename_blind accessKey old new _ _) _
  | delete key => exact .answering (Native.delete_blind accessKey key _) _
  | listBuckets => exact (Unseen.answering_listBuckets accessKey _).mono fun _ => rfl
  | listObjects bucket =>
      exact .withQuery fun params =>
        .answering (S3.listObjects_blind accessKey bucket params _) _
  | headBucket bucket => exact .answering (S3.headBucket_blind accessKey bucket) _
  | createBucket bucket => exact .answering (.check (S3.createBucket bucket)) _
  | deleteBucket bucket => exact .answering (S3.deleteBucket_blind accessKey bucket) _
  | putObject bucket key =>
      exact .withQuery fun params =>
        .answering (S3.putObject_blind accessKey bucket key params _ body _) _
  | getObject bucket key =>
      exact .withQuery fun params =>
        .answering (S3.getObject_blind accessKey bucket key params _) _
  | headObject bucket key => exact .answering (S3.headObject_blind accessKey bucket key) _
  | postObject bucket key =>
      exact .withQuery fun params =>
        .answering (S3.postObject_blind accessKey bucket key params _ body _) _
  | deleteObject bucket key =>
      exact .withQuery fun params =>
        .answering (S3.deleteObject_blind accessKey bucket key params) _

/-- What nobody is answered is the same for every owner. -/
theorem answerNobody_unseen (occasion : Occasion) (endpoint : Endpoint) :
    Unseen False fun _ => answerNobody occasion endpoint := by
  cases endpoint with
  | ready => exact .ready
  | createBucket bucket => exact .answering (.check (S3.createBucket bucket)) _
  | _ => exact .pure _

/-! ## One request -/

section

variable {settings : Settings} {userId : String} {occasion : Occasion} {request : Request}

/-- A request that is signed, and that is let in as one user if at all. -/
structure IsSignedBy (settings : Settings) (userId : String) (occasion : Occasion)
    (request : Request) : Prop where
  signed : request.headers.has "authorization"
  own : ∀ user, authenticatedAs settings occasion request = some user → user.userId = userId

/-- What is answered to somebody of the settings, with the ids that they have now. -/
theorem answerUser_renamed (settings : Settings) (old new : String) (occasion : Occasion)
    (request : Request) (body : Body) (user : User) (endpoint : Endpoint) :
    answerUser (settings.renamed old new) occasion request body user endpoint =
      answerUser settings occasion request body user endpoint := by
  cases endpoint <;> rfl

/-- Somebody is answered alike under every id, at every route. -/
theorem answer_unseen (settings : Settings) (old : String) (occasion : Occasion)
    (request : Request) (body : Body) (accessKey : String) (route : Route) :
    Unseen (route = .endpoint .listBuckets) fun owner =>
      answer (settings.renamed old owner) occasion request body (some ⟨owner, accessKey⟩)
        route := by
  cases route with
  | endpoint endpoint =>
      simp only [answer, answerUser_renamed]
      exact (answerUser_unseen settings occasion request body accessKey endpoint).mono
        fun same => congrArg Route.endpoint same
  | nowhere => exact .pure _
  | wrongMethod allowed => exact .pure _
  | badText parameter => exact .pure _

theorem answer_nobody_unseen (settings : Settings) (old : String) (occasion : Occasion)
    (request : Request) (body : Body) (route : Route) :
    Unseen False fun owner =>
      answer (settings.renamed old owner) occasion request body none route := by
  cases route with
  | endpoint endpoint => exact answerNobody_unseen occasion endpoint
  | nowhere => exact .pure _
  | wrongMethod allowed => exact .pure _
  | badText parameter => exact .pure _

/-- A request that is let in as somebody is let in as them under any other id. -/
theorem authenticatedAs_renamed (signed : request.headers.has "authorization") (new : String) :
    authenticatedAs (settings.renamed userId new) occasion request =
      (authenticatedAs settings occasion request).map (User.renamed userId new) := by
  unfold authenticatedAs
  dsimp only
  split
  · rfl
  · dsimp only [Settings.renamed]
    rw [admission_renamed signed]
    cases admission settings.verifier settings.maxBufferedBytes occasion.now
      (Protocol.ofPath request.target.path) request <;> rfl

/-- A request that is rejected is rejected as it is under any other id. -/
theorem rejected_renamed (signed : request.headers.has "authorization") {protocol : Protocol}
    {rejection : Rejection}
    (rejected : admission settings.verifier settings.maxBufferedBytes occasion.now protocol
      request = .error rejection) (new : String) :
    admission (settings.renamed userId new).verifier
      (settings.renamed userId new).maxBufferedBytes occasion.now protocol request =
        .error rejection := by
  have same := admission_renamed signed settings.verifier userId new settings.maxBufferedBytes
    occasion.now protocol
  rw [rejected] at same
  exact same

/-- The body that may be read of a request is the same under any other id. -/
theorem body_renamed (signed : request.headers.has "authorization") {protocol : Protocol}
    {user user' : User} {body body' : Body} {new : String}
    (admitted : admission settings.verifier settings.maxBufferedBytes occasion.now protocol
      request = .ok (user, body))
    (admitted' : admission (settings.renamed userId new).verifier
      (settings.renamed userId new).maxBufferedBytes occasion.now protocol request =
        .ok (user', body')) : body' = body := by
  have both := admission_renamed signed settings.verifier userId new settings.maxBufferedBytes
    occasion.now protocol
  rw [admitted] at both
  exact congrArg Prod.snd (Except.ok.inj (admitted'.symm.trans both))

/-- **A signed request is answered alike under every id of its user**, but for the list of the
buckets, and leaves the same paths. -/
theorem respond_unseen (comes : IsSignedBy settings userId occasion request) (bare : Store) :
    ∃ (shown : Shown) (next : Store),
      ((∃ response, shown = .toAll response) ∨
        Route.of request.method request.target.path = .endpoint .listBuckets) ∧
      ∀ owner, IsOwner owner →
        (respond (settings.renamed userId owner) occasion request).run (bare.owned owner) =
          (finish request.method (Route.of request.method request.target.path) (shown.to owner),
            next.owned owner) := by
  cases known : authenticatedAs settings occasion request with
  | none =>
      rcases authenticatedAs_eq_none_iff.mp known with probed | ⟨addressed, rejection, rejected⟩
      · obtain ⟨shown, next, kind, answered⟩ := answer_nobody_unseen settings userId occasion
          request request.body (Route.of request.method request.target.path) bare
        refine ⟨shown, next, kind.imp_right False.elim, fun owner isOwner => ?_⟩
        have answered := answered owner isOwner
        rw [respond_run_probe probed]
        dsimp only at answered ⊢
        rw [answered]
      · refine ⟨.toAll (rejection.response (Protocol.ofPath request.target.path)
          request.target.path occasion.requestId), bare, .inl ⟨_, rfl⟩, fun owner _ => ?_⟩
        rw [respond_run_rejected addressed (rejected_renamed comes.signed rejected owner)]
        rfl
  | some user =>
      obtain ⟨body, admitted, -⟩ := respond_run_user known
      obtain ⟨shown, next, kind, answered⟩ := answer_unseen settings userId occasion request body
        user.accessKey (Route.of request.method request.target.path) bare
      refine ⟨shown, next, kind, fun owner isOwner => ?_⟩
      have own : user.renamed userId owner = ⟨owner, user.accessKey⟩ :=
        if_pos (comes.own user known)
      have known' : authenticatedAs (settings.renamed userId owner) occasion request =
          some ⟨owner, user.accessKey⟩ := by
        rw [authenticatedAs_renamed comes.signed, known, Option.map_some, own]
      obtain ⟨body', admitted', responds⟩ := respond_run_user known'
      have answered := answered owner isOwner
      rw [responds, body_renamed comes.signed admitted admitted']
      dsimp only at answered ⊢
      rw [answered]

end

/-! ## Runs -/

/-- A request that arrives after the number of the next upload was drawn. -/
structure Visit extends Arrival where
  draw : Nat

/-- A visit is answered. -/
def receive (settings : Settings) (visit : Visit) : StateM Store Response := do
  modify fun s => s.drawn visit.draw
  respond settings visit.occasion visit.request

/-- Visits are answered one after another. -/
def attend (settings : Settings) : List Visit → StateM Store (List Response)
  | [] => return []
  | visit :: rest => do
      let response ← receive settings visit
      let responses ← attend settings rest
      return response :: responses

theorem run_after_modify {α : Type} (change : Store → Store) (program : StateM Store α)
    (s : Store) : StateT.run (do modify change; program) s = program.run (change s) := rfl

theorem receive_run (settings : Settings) (visit : Visit) (s : Store) :
    (receive settings visit).run s =
      (respond settings visit.occasion visit.request).run (s.drawn visit.draw) := by
  rw [receive]
  exact run_after_modify _ _ s

theorem attend_cons (settings : Settings) (visit : Visit) (rest : List Visit) (s : Store) :
    (attend settings (visit :: rest)).run s =
      let done := (receive settings visit).run s
      let others := (attend settings rest).run done.2
      (done.1 :: others.1, others.2) := by
  rw [attend]
  exact run_cons _ _ s

/-- Two responses to one request tell two owners apart at most by the list of their buckets, and
then by nothing but the owner that it names and its length. -/
structure SameButOwner (request : Request) (owner owner' : String)
    (response response' : Response) : Prop where
  status : response.status = response'.status
  headers : response.headers.erase "content-length" = response'.headers.erase "content-length"
  others : Route.of request.method request.target.path ≠ .endpoint .listBuckets →
    response = response'
  buckets : response = response' ∨
    ∃ buckets,
      response = finish request.method (.endpoint .listBuckets)
        (.xml 200 (Xml.bucketsDocument owner buckets)) ∧
      response' = finish request.method (.endpoint .listBuckets)
        (.xml 200 (Xml.bucketsDocument owner' buckets))

theorem SameButOwner.refl (request : Request) (owner owner' : String) (response : Response) :
    SameButOwner request owner owner' response response :=
  ⟨rfl, rfl, fun _ => rfl, .inl rfl⟩

theorem erase_insertText (h : Headers) (name text : String) :
    (h.insertText name text).erase name = h.erase name := by
  unfold Headers.insertText
  split
  · simp [Headers.insert, Headers.append, Headers.erase, List.filter_append]
  · rfl

theorem headers_withLength_erase (response : Response) :
    response.withLength.headers.erase "content-length" =
      response.headers.erase "content-length" := by
  unfold Response.withLength
  split
  · rfl
  · exact erase_insertText _ _ _

/-- The lists of buckets of two owners differ in the owner only. -/
theorem SameButOwner.of_buckets {request : Request}
    (leads : Route.of request.method request.target.path = .endpoint .listBuckets)
    (owner owner' : String) (buckets : List (String × Instant)) :
    SameButOwner request owner owner'
      (finish request.method (.endpoint .listBuckets)
        (.xml 200 (Xml.bucketsDocument owner buckets)))
      (finish request.method (.endpoint .listBuckets)
        (.xml 200 (Xml.bucketsDocument owner' buckets))) where
  status := by
    have status (document : String) : (Response.xml 200 document).status = 200 := rfl
    rw [finish_status, finish_status, status, status]
  headers := by
    have headers (document : String) : (Response.xml 200 document).headers =
        Headers.empty.insertText "content-type" "application/xml" := rfl
    rw [headers_finish_eq, headers_finish_eq, headers_withLength_erase, headers_withLength_erase,
      headers, headers]
  others := fun other => absurd leads other
  buckets := .inr ⟨buckets, rfl, rfl⟩

/-- What is shown to two owners is the same but for the owner. -/
theorem Shown.sameButOwner {request : Request} {shown : Shown}
    (kind : (∃ response, shown = .toAll response) ∨
      Route.of request.method request.target.path = .endpoint .listBuckets)
    (owner owner' : String) :
    let route := Route.of request.method request.target.path
    SameButOwner request owner owner' (finish request.method route (shown.to owner))
      (finish request.method route (shown.to owner')) := by
  cases shown with
  | toAll response => exact .refl request owner owner' _
  | bucketsOf buckets =>
      rcases kind with ⟨_, ⟨⟩⟩ | leads
      intro route
      have same : route = .endpoint .listBuckets := leads
      rw [same]
      exact .of_buckets leads owner owner' buckets

theorem isOwner_of_isUserId {userId : String} (known : Config.Surroundings.isUserId userId) :
    IsOwner userId := by
  have parts := Bool.and_eq_true_iff.mp known
  exact ⟨by simpa using parts.1, by simpa using parts.2⟩

/-- Two owners of the same paths are answered alike, visit by visit. -/
theorem attend_unseen {settings : Settings} {userId : String} {visits : List Visit}
    (come : ∀ visit, visit ∈ visits →
      IsSignedBy settings userId visit.occasion visit.request)
    {owner owner' : String} (isOwner : IsOwner owner) (isOwner' : IsOwner owner')
    (bare : Store) :
    List.Forall₂
      (fun visit answers => SameButOwner visit.request owner owner' answers.1 answers.2) visits
      (((attend (settings.renamed userId owner) visits).run (bare.owned owner)).1.zip
        ((attend (settings.renamed userId owner') visits).run (bare.owned owner')).1) := by
  induction visits generalizing bare with
  | nil => exact .nil
  | cons visit rest ih =>
      obtain ⟨shown, next, kind, responds⟩ :=
        respond_unseen (come visit List.mem_cons_self) (bare.drawn visit.draw)
      have others := ih (fun visit member => come visit (.tail _ member)) next
      rw [attend_cons, attend_cons, receive_run, receive_run, Store.drawn_owned,
        Store.drawn_owned, responds owner isOwner, responds owner' isOwner']
      exact .cons (shown.sameButOwner kind owner owner') others

/-- **The id of a user does not show.**  Take any run of signed requests from the empty store, all
of one user, with the names of the uploads drawn as they may be.  When the user has another id, of
any length, every request of the run is answered with the same status, the same headers and the same
body, whether it succeeds or fails.  Only the list of the buckets names the user, and has the length
that it has with this name. -/
theorem user_id_unseen {settings : Settings} {userId other : String}
    (known : Config.Surroundings.isUserId userId) (known' : Config.Surroundings.isUserId other)
    {visits : List Visit}
    (come : ∀ visit, visit ∈ visits →
      IsSignedBy settings userId visit.occasion visit.request) :
    let responses := ((attend settings visits).run Store.empty).1
    let responses' := ((attend (settings.renamed userId other) visits).run Store.empty).1
    List.Forall₂
      (fun visit answers => SameButOwner visit.request userId other answers.1 answers.2) visits
      (responses.zip responses') := by
  have unseen := attend_unseen come (isOwner_of_isUserId known) (isOwner_of_isUserId known')
    Store.empty
  rw [settings.renamed_self, Store.owned_empty, Store.owned_empty] at unseen
  exact unseen

namespace SignedClient


def puts : Visit := ⟨arrival "PUT" [] (Body.ofBytes "x".toUTF8), 0⟩

def listsBuckets : Visit := ⟨⟨occasion, request "GET" ⟨none, "/s3", none⟩ [] []⟩, 0⟩

theorem isSignedBy {method : String} {target : Target} {endpoint : Endpoint}
    {more : List (String × FieldValue)} {body : Body}
    (asks : AsksFor settings occasion (request method target more body) credential.user
      endpoint) :
    IsSignedBy settings "ann" occasion (request method target more body) where
  signed := rfl
  own user known := by
    rw [asks.authenticated] at known
    cases known
    rfl

theorem atPlace_puts :
    Route.atPlace "PUT" (.object "box" "k") = .endpoint (.putObject "box" "k") := by
  decide

theorem leads_puts : Route.of "PUT" "/s3/box/k" = .endpoint (.putObject "box" "k") := by
  rw [Route.of, ofPath?_box]
  exact atPlace_puts

theorem isSignedBy_puts : IsSignedBy settings "ann" puts.occasion puts.request :=
  isSignedBy (asksFor_boxed [] atPlace_puts _)

theorem isSignedBy_listsBuckets :
    IsSignedBy settings "ann" listsBuckets.occasion listsBuckets.request := by
  have leads : Route.of "GET" "/s3" = .endpoint .listBuckets := by decide
  have closed : Protocol.ofPath "/s3" ≠ .probe := by decide
  have other : (Headers.mk []).getAll dateHeader = [] := rfl
  exact isSignedBy (@asksFor "GET" ⟨none, "/s3", none⟩ _ leads closed [] other [])

end SignedClient

open SignedClient in
/-- Ann puts an object and lists her buckets, and so does Bob, who is Ann under another id. -/
theorem put_and_listed_alike :
    let visits := [puts, listsBuckets]
    let responses := ((attend SignedClient.settings visits).run Store.empty).1
    let responses' :=
      ((attend (SignedClient.settings.renamed "ann" "bob") visits).run Store.empty).1
    ∃ put listed listed', responses = [put, listed] ∧ responses' = [put, listed'] ∧
      listed.status = listed'.status := by
  intro visits responses responses'
  have come : ∀ visit, visit ∈ visits →
      IsSignedBy SignedClient.settings "ann" visit.occasion visit.request := by
    intro visit member
    rcases List.mem_cons.mp member with rfl | member
    · exact isSignedBy_puts
    · obtain rfl := List.mem_singleton.mp member
      exact isSignedBy_listsBuckets
  have unseen := user_id_unseen (by decide : Config.Surroundings.isUserId "ann")
    (by decide : Config.Surroundings.isUserId "bob") come
  have two (settings : Settings) :
      ∃ first second, ((attend settings visits).run Store.empty).1 = [first, second] := by
    rw [attend_cons]
    dsimp only
    rw [attend_cons]
    exact ⟨_, _, rfl⟩
  obtain ⟨put, listed, run⟩ := two SignedClient.settings
  obtain ⟨put', listed', run'⟩ := two (SignedClient.settings.renamed "ann" "bob")
  dsimp only at unseen
  rw [run, run'] at unseen
  obtain ⟨_, _, first, more, same⟩ := List.forall₂_cons_left_iff.mp unseen
  cases same
  obtain ⟨_, _, second, -, same⟩ := List.forall₂_cons_left_iff.mp more
  cases same
  have puts_leads : Route.of puts.request.method puts.request.target.path ≠
      .endpoint .listBuckets := by
    rw [show Route.of puts.request.method puts.request.target.path = _ from leads_puts]
    decide
  refine ⟨put, listed, listed', run, ?_, second.status⟩
  have together : put = put' := first.others puts_leads
  rw [together]
  exact run'

end Server

end Depot

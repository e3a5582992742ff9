import Depot.Server.Admission
import Depot.Server.Native
import Depot.Server.Object
import Depot.Server.Probe
import Depot.Server.Route

/-!
# Responding

A request is let in or not, goes where its method and path lead, and is
answered by the endpoint there.  What an endpoint needs is taken from the
request in a fixed order: the user, what the path names, the query, the boundary
of a form.  The first that is missing decides the answer.
-/

namespace Depot.Server

set_option autoImplicit false

open Depot.Auth
open Depot.Http
open Depot.Text
open Depot.Time

/-- What a server is set up with. -/
structure Settings where
  verifier : Verifier
  /-- The largest body of a form. -/
  maxBodyBytes : Nat
  /-- The largest body that is read to find the digest that its sender did not declare. -/
  maxBufferedBytes : Nat
  /-- How forms are read.  What is shown of servers holds for every reader. -/
  forms : Form.Reader := Form.ofBody

/-- When a request is answered, and under which name. -/
structure Occasion where
  now : Instant
  requestId : String

/-! ## Requests that lack something -/

/-- The answer to a request that needs a user and was let in without one. -/
def userMissing : Response :=
  .plain 500
    ("Missing request extension: Extension of type " ++
      "`ciaos::models::credential::AuthenticatedUser` was not found. " ++
      "Perhaps you forgot to add it? See `axum::Extension`.")

def badPath (parameter : String) : Response :=
  .plain 400 ("Invalid URL: Invalid UTF-8 in `" ++ parameter ++ "`")

def repeatedParameter (name : String) : Response :=
  .plain 400 ("Failed to deserialize query string: duplicate field `" ++ name ++ "`")

def boundaryMissing : Response :=
  .plain 400 "Invalid `boundary` for `multipart/form-data` request"

/-! ## Endpoints -/

/-- An operation whose faults are answered. -/
def answering {ε : Type} (render : ε → Response) (action : ExceptT ε (StateM Store) Response) :
    StateM Store Response := do
  match ← action.run with
  | .ok response => return response
  | .error fault => return render fault

def answerNative (action : Native.Action Response) : StateM Store Response :=
  answering NativeFault.response action

def answerS3 (occasion : Occasion) (action : S3.Action Response) : StateM Store Response :=
  answering (S3Fault.response · occasion.requestId) action

/-- Goes on with the parameters of the query, none of the known ones given twice. -/
def withQuery (target : Target) (known : List String)
    (next : List Parameter → StateM Store Response) : StateM Store Response :=
  let params := parameters (target.query?.getD "")
  match repeatedName? known params with
  | some name => return repeatedParameter name
  | none => next params

/-- The answer of an endpoint to a user, given the request and its body as it may be read. -/
def answerUser (settings : Settings) (occasion : Occasion) (request : Request) (body : Body)
    (user : User) (endpoint : Endpoint) : StateM Store Response := do
  let headers := request.headers
  let now := occasion.now
  let withBucketQuery := withQuery request.target S3.listingParameters
  let withObjectQuery := withQuery request.target S3.objectParameters
  match endpoint with
  | .live => return liveResponse
  | .ready => return readyResponse (← get).health
  | .put key => answerNative (Native.put user key headers body now)
  | .putBinary key =>
      match (headers.text? "content-type").bind MediaType.formBoundary? with
      | none => return boundaryMissing
      | some boundary =>
          let limit := settings.maxBodyBytes
          answerNative (Native.putForm settings.forms user key headers boundary limit body now)
  | .get key => answerNative (Native.get user key headers)
  | .update key => answerNative (Native.update user key headers body now)
  | .append key => answerNative (Native.append user key headers body now)
  | .rename old new => answerNative (Native.rename user old new headers now)
  | .delete key => answerNative (Native.delete user key headers)
  | .listBuckets => answerS3 occasion (S3.listBuckets user)
  | .listObjects bucket =>
      withBucketQuery fun params =>
        answerS3 occasion (S3.listObjects user bucket params settings.verifier.region)
  | .headBucket bucket => answerS3 occasion (S3.headBucket user bucket)
  | .createBucket bucket => answerS3 occasion (liftM (S3.createBucket bucket))
  | .deleteBucket bucket => answerS3 occasion (S3.deleteBucket user bucket)
  | .putObject bucket key =>
      withObjectQuery fun params =>
        answerS3 occasion (S3.putObject user bucket key params headers body now)
  | .getObject bucket key =>
      withObjectQuery fun params =>
        answerS3 occasion (S3.getObject user bucket key params headers)
  | .headObject bucket key => answerS3 occasion (S3.headObject user bucket key)
  | .postObject bucket key =>
      withObjectQuery fun params =>
        answerS3 occasion (S3.postObject user bucket key params headers body now)
  | .deleteObject bucket key =>
      withObjectQuery fun params => answerS3 occasion (S3.deleteObject user bucket key params)

/-- The answer of an endpoint to nobody.  Only the probes and the creation of a bucket do without a
user. -/
def answerNobody (occasion : Occasion) (endpoint : Endpoint) : StateM Store Response := do
  match endpoint with
  | .live => return liveResponse
  | .ready => return readyResponse (← get).health
  | .createBucket bucket => answerS3 occasion (liftM (S3.createBucket bucket))
  | _ => return userMissing

/-! ## Requests -/

/-- The answer to a request that has been let in. -/
def answer (settings : Settings) (occasion : Occasion) (request : Request) (body : Body)
    (user? : Option User) : Route → StateM Store Response
  | .nowhere => return .ofStatus 404
  | .wrongMethod _ => return .ofStatus 405
  | .badText parameter => return badPath parameter
  | .endpoint endpoint =>
      match user? with
      | some user => answerUser settings occasion request body user endpoint
      | none => answerNobody occasion endpoint

/-- The response as it is sent: with the methods of the place when the method is not one of them,
with its length, and without body when only the headers are asked for. -/
def finish (method : String) (route : Route) (response : Response) : Response :=
  let response :=
    match route.allowed? with
    | some allowed => response.withHeader "allow" (joined "," allowed)
    | none => response
  let response := response.withLength
  if method = "HEAD" then response.withoutBody else response

/-- The response to a request. -/
def respond (settings : Settings) (occasion : Occasion) (request : Request) :
    StateM Store Response := do
  let path := request.target.path
  let route := Route.of request.method path
  let protocol := Protocol.ofPath path
  let response ←
    if protocol = .probe then answer settings occasion request request.body none route
    else
      match admission settings.verifier settings.maxBufferedBytes occasion.now protocol request with
      | .ok (user, body) => answer settings occasion request body (some user) route
      | .error rejection => pure (rejection.response protocol path occasion.requestId)
  return finish request.method route response

end Depot.Server

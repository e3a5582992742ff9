import Depot.Proofs.Server.Tenants

/-!
# Requests from nobody

A request that is not authenticated is either one to a probe, which goes on
without a user, or is rejected.  It changes nothing, and what it is answered
depends on nothing that is stored: only the probe that reports on the devices
looks at the store, and it looks at whether the rows can be reached and the place
of the blobs exists (`nobody_learns`).

What is wrong with the credentials of a rejected request cannot be told from its
answer either.
-/

namespace Depot.Server

set_option autoImplicit false

open Depot.Auth
open Depot.Http
open Depot.Text
open Depot.Time

/-! ## Two ways to be nobody -/

/-- A request to a probe goes on without a user. -/
theorem respond_run_probe {request : Request}
    (probed : Protocol.ofPath request.target.path = .probe) (settings : Settings)
    (occasion : Occasion) (s : Store) :
    (respond settings occasion request).run s =
      let route := Route.of request.method request.target.path
      let done := (answer settings occasion request request.body none route).run s
      (finish request.method route done.1, done.2) := by
  unfold respond
  dsimp only
  rw [if_pos probed]
  rfl

/-- A request that is not let in is answered with its rejection. -/
theorem respond_run_rejected {settings : Settings} {occasion : Occasion} {request : Request}
    {rejection : Rejection} (addressed : Protocol.ofPath request.target.path ≠ .probe)
    (rejected : admission settings.verifier settings.maxBufferedBytes occasion.now
      (Protocol.ofPath request.target.path) request = .error rejection) (s : Store) :
    (respond settings occasion request).run s =
      (finish request.method (Route.of request.method request.target.path)
        (rejection.response (Protocol.ofPath request.target.path) request.target.path
          occasion.requestId), s) := by
  unfold respond
  dsimp only
  rw [if_neg addressed, rejected]
  rfl

/-- A request is from nobody when it is one to a probe or is not let in. -/
theorem authenticatedAs_eq_none_iff {settings : Settings} {occasion : Occasion}
    {request : Request} :
    authenticatedAs settings occasion request = none ↔
      Protocol.ofPath request.target.path = .probe ∨
      Protocol.ofPath request.target.path ≠ .probe ∧
        ∃ rejection, admission settings.verifier settings.maxBufferedBytes occasion.now
          (Protocol.ofPath request.target.path) request = .error rejection := by
  unfold authenticatedAs
  dsimp only
  by_cases probed : Protocol.ofPath request.target.path = .probe
  · rw [if_pos probed]
    exact iff_of_true rfl (.inl probed)
  · rw [if_neg probed]
    cases admission settings.verifier settings.maxBufferedBytes occasion.now
        (Protocol.ofPath request.target.path) request with
    | error rejection => exact iff_of_true rfl (.inr ⟨probed, rejection, rfl⟩)
    | ok admitted => simp [probed]

/-! ## The answers of the probes -/

/-- The devices of two stores look alike to the probe that reports on them. -/
structure SameDevices (s s' : Store) : Prop where
  databaseOpen : s.health.databaseOpen = s'.health.databaseOpen
  blobPlace : s.health.blobPlace = s'.health.blobPlace

theorem readyResponse_eq {s s' : Store} (alike : SameDevices s s') :
    readyResponse s.health = readyResponse s'.health := by
  unfold readyResponse diskFault? databaseFault?
  rw [alike.databaseOpen, alike.blobPlace]

/-- An operation that is answered by itself, without the store. -/
theorem answerS3_lift (occasion : Occasion) (result : Except S3Fault Response) (s : Store) :
    (answerS3 occasion (liftM result)).run s =
      (Discreet.rendered (S3Fault.response · occasion.requestId) result, s) := by
  rw [answerS3, Discreet.run_answering, outcome_liftExcept]

/-- What nobody is answered leaves the store as it was, and only the report on the devices depends
on it. -/
theorem answer_nobody (settings settings' : Settings) {occasion occasion' : Occasion}
    (named : occasion.requestId = occasion'.requestId) (request : Request) (route : Route)
    {s s' : Store} (alike : route = .endpoint .ready → SameDevices s s') :
    (answer settings occasion request request.body none route).run s =
      (((answer settings' occasion' request request.body none route).run s').1, s) := by
  cases route with
  | nowhere => rfl
  | wrongMethod allowed => rfl
  | badText parameter => rfl
  | endpoint endpoint =>
      cases endpoint with
      | ready =>
          show (readyResponse s.health, s) = (readyResponse s'.health, s)
          rw [readyResponse_eq (alike rfl)]
      | createBucket bucket =>
          show (answerS3 occasion (liftM (S3.createBucket bucket))).run s =
            (((answerS3 occasion' (liftM (S3.createBucket bucket))).run s').1, s)
          rw [answerS3_lift, answerS3_lift, named]
      | _ => rfl

/-! ## Rejections -/

/-- Whether a verdict is a rejection for the credentials. -/
def isAuthFault {α : Type} : Except Rejection α → Bool
  | .error (.auth _) => true
  | _ => false

/-- A request is rejected because it fails its authentication. -/
def FailsAuth (settings : Settings) (occasion : Occasion) (request : Request) : Prop :=
  let protocol := Protocol.ofPath request.target.path
  protocol ≠ .probe ∧
    isAuthFault (admission settings.verifier settings.maxBufferedBytes occasion.now protocol
      request) = true

instance (settings : Settings) (occasion : Occasion) (request : Request) :
    Decidable (FailsAuth settings occasion request) :=
  inferInstanceAs (Decidable (_ ∧ _))

theorem isAuthFault_iff {α : Type} {verdict : Except Rejection α} :
    isAuthFault verdict = true ↔ ∃ fault, verdict = .error (.auth fault) := by
  unfold isAuthFault
  split
  · next fault => exact iff_of_true rfl ⟨fault, rfl⟩
  · next other => exact iff_of_false (by decide) fun ⟨fault, same⟩ => other fault same

/-- Which check of the credentials failed is not answered. -/
theorem Rejection.response_auth (fault fault' : AuthFault) (protocol : Protocol)
    (path requestId : String) :
    (Rejection.auth fault).response protocol path requestId =
      (Rejection.auth fault').response protocol path requestId := by
  cases protocol <;> rfl

/-- A request that carries a signature is rejected for its body, or it is let in or rejected as its
signature is verified. -/
theorem admission_cases {request : Request} (signed : request.headers.has "authorization")
    (verifier : Verifier) (maxBuffered : Nat) (protocol : Protocol) :
    (∃ rejection, signedBody request.headers maxBuffered request.body = .error rejection ∧
      ∀ now, admission verifier maxBuffered now protocol request = .error rejection) ∨
    ∃ payloadHash body,
      signedBody request.headers maxBuffered request.body = .ok (payloadHash, body) ∧
      ∀ now,
        let verdict := verifier.verify
          ⟨request.method, request.target, request.headers, payloadHash⟩ now
        (∃ user, verdict = .ok user ∧
          admission verifier maxBuffered now protocol request = .ok (user, body)) ∨
        ∃ fault, verdict = .error fault ∧
          admission verifier maxBuffered now protocol request = .error (.auth fault) := by
  unfold admission
  simp only [if_pos signed, bind, Except.bind]
  cases signedBody request.headers maxBuffered request.body with
  | error rejection => exact .inl ⟨rejection, rfl, fun _ => rfl⟩
  | ok found =>
      obtain ⟨payloadHash, body⟩ := found
      refine .inr ⟨payloadHash, body, rfl, fun now => ?_⟩
      dsimp only
      cases verifier.verify ⟨request.method, request.target, request.headers, payloadHash⟩ now with
      | ok user => exact .inl ⟨user, rfl, rfl⟩
      | error fault => exact .inr ⟨fault, rfl, rfl⟩

/-- Only the check of the credentials looks at the time. -/
theorem admission_later {verifier : Verifier} {maxBuffered : Nat} {now now' : Instant}
    {protocol : Protocol} {request : Request} {rejection rejection' : Rejection}
    (rejected : admission verifier maxBuffered now protocol request = .error rejection)
    (rejected' : admission verifier maxBuffered now' protocol request = .error rejection') :
    rejection = rejection' ∨
      ∃ fault fault', rejection = .auth fault ∧ rejection' = .auth fault' := by
  by_cases signed : request.headers.has "authorization"
  · rcases admission_cases signed verifier maxBuffered protocol with
      ⟨fault, -, refused⟩ | ⟨payloadHash, body, -, verdict⟩
    · rw [refused] at rejected rejected'
      cases rejected
      cases rejected'
      exact .inl rfl
    · have failed {moment : Instant} {why : Rejection}
          (refused : admission verifier maxBuffered moment protocol request = .error why) :
          ∃ fault, why = .auth fault := by
        obtain ⟨user, -, admitted⟩ | ⟨fault, -, refused'⟩ := verdict moment
        · rw [admitted] at refused
          cases refused
        · rw [refused'] at refused
          cases refused
          exact ⟨fault, rfl⟩
      obtain ⟨fault, why⟩ := failed rejected
      obtain ⟨fault', why'⟩ := failed rejected'
      exact .inr ⟨fault, fault', why, why'⟩
  · unfold admission at rejected rejected'
    rw [if_neg signed] at rejected rejected'
    rw [rejected] at rejected'
    cases rejected'
    exact .inl rfl

/-- A request that is from nobody at two moments is answered alike in two stores, whose devices look
alike when it asks for the report on them. -/
theorem respond_nobody {settings : Settings} {occasion occasion' : Occasion} {request : Request}
    (nobody : authenticatedAs settings occasion request = none)
    (nobody' : authenticatedAs settings occasion' request = none)
    (named : occasion.requestId = occasion'.requestId) {s s' : Store}
    (alike : Route.of request.method request.target.path = .endpoint .ready →
      SameDevices s s') :
    (respond settings occasion request).run s =
      (((respond settings occasion' request).run s').1, s) := by
  rcases authenticatedAs_eq_none_iff.mp nobody with probed | ⟨addressed, rejection, rejected⟩
  · rw [respond_run_probe probed, respond_run_probe probed]
    dsimp only
    rw [answer_nobody settings settings named request _ alike]
  · obtain probed | ⟨-, rejection', rejected'⟩ := authenticatedAs_eq_none_iff.mp nobody'
    · exact absurd probed addressed
    rw [respond_run_rejected addressed rejected, respond_run_rejected addressed rejected', named]
    rcases admission_later rejected rejected' with rfl | ⟨fault, fault', rfl, rfl⟩
    · rfl
    · rw [Rejection.response_auth fault fault']

/-- **Nobody changes or learns anything.**  A request that is not authenticated leaves the store as
it was.  In any two stores, at any two moments under one request id, it is answered alike; only the
probe that reports on the devices is answered with the state of the devices.  And any two requests
with the same method and path that fail their authentication are answered alike under one request
id, whatever else they hold, whatever check they fail, and whatever is stored. -/
theorem nobody_learns :
    (∀ {settings : Settings} {occasion occasion' : Occasion} {request : Request},
      authenticatedAs settings occasion request = none →
      authenticatedAs settings occasion' request = none →
      occasion.requestId = occasion'.requestId →
      ∀ s s' : Store,
        (Route.of request.method request.target.path = .endpoint .ready →
          SameDevices s s') →
        ((respond settings occasion request).run s).2 = s ∧
          ((respond settings occasion request).run s).1 =
            ((respond settings occasion' request).run s').1) ∧
    (∀ {settings settings' : Settings} {occasion occasion' : Occasion}
      {request request' : Request},
      FailsAuth settings occasion request → FailsAuth settings' occasion' request' →
      request.method = request'.method → request.target.path = request'.target.path →
      occasion.requestId = occasion'.requestId →
      ∀ s s' : Store,
        ((respond settings occasion request).run s).1 =
          ((respond settings' occasion' request').run s').1) := by
  constructor
  · intro settings occasion occasion' request nobody nobody' named s s' alike
    have same := respond_nobody nobody nobody' named alike
    exact ⟨by rw [same], by rw [same]⟩
  · intro settings settings' occasion occasion' request request' fails fails' method path named s s'
    obtain ⟨addressed, failed⟩ := fails
    obtain ⟨addressed', failed'⟩ := fails'
    obtain ⟨fault, rejected⟩ := isAuthFault_iff.mp failed
    obtain ⟨fault', rejected'⟩ := isAuthFault_iff.mp failed'
    rw [respond_run_rejected addressed rejected, respond_run_rejected addressed' rejected', method,
      path, named, Rejection.response_auth fault fault']

/-- A request without credentials for an object that is stored leaves it there and is answered as if
it were not.  One with credentials that cannot be read is answered alike, also after a device has
failed. -/
theorem malformed_answered_like_missing :
    let credential : Credential := ⟨"ann", "key", "secret"⟩
    let settings : Settings :=
      { verifier := ⟨.ofList [credential], "us-east-1", 900⟩
        maxBodyBytes := 1024
        maxBufferedBytes := 1024 }
    let occasion : Occasion := ⟨⟨0, 0⟩, "r"⟩
    let put : Request :=
      ⟨"POST", ⟨none, "/put/k", none⟩,
        ⟨[("user", "ann".toUTF8), ("x-access-key", "key".toUTF8)]⟩, Body.ofBytes "x".toUTF8⟩
    let stored := ((respond settings occasion put).run Store.empty).2
    let closed : Store := { stored with health := { databaseOpen := false } }
    let request : Request := ⟨"GET", ⟨none, "/get/k", none⟩, ⟨[]⟩, Body.ofBytes ByteArray.empty⟩
    let malformed : Request := { request with headers := ⟨[("authorization", "AWS4".toUTF8)]⟩ }
    stored.objects.size = 1 ∧ FailsAuth settings occasion request ∧
      FailsAuth settings occasion malformed ∧
      ((respond settings occasion request).run stored).2 = stored ∧
      ((respond settings occasion request).run stored).1 =
        ((respond settings occasion request).run Store.empty).1 ∧
      ((respond settings occasion request).run stored).1 =
        ((respond settings occasion malformed).run closed).1 := by
  intro credential settings occasion put stored closed request malformed
  have fails : FailsAuth settings occasion request := by decide
  have fails' : FailsAuth settings occasion malformed := by decide
  have nobody : authenticatedAs settings occasion request = none := by decide
  have elsewhere : Route.of request.method request.target.path ≠ .endpoint .ready := by
    decide +kernel
  obtain ⟨kept, alike⟩ := nobody_learns.1 nobody nobody rfl stored Store.empty
    fun ready => absurd ready elsewhere
  have hidden := nobody_learns.2 fails fails' rfl rfl rfl stored closed
  exact ⟨by decide +kernel, fails, fails', kept, alike, hidden⟩

/-- The devices are the one thing that nobody is told about. -/
theorem devices_seen_by_nobody :
    let settings : Settings :=
      { verifier := ⟨.ofList [], "us-east-1", 900⟩, maxBodyBytes := 1024, maxBufferedBytes := 1024 }
    let occasion : Occasion := ⟨⟨0, 0⟩, "r"⟩
    let request : Request := ⟨"GET", ⟨none, "/readyz", none⟩, ⟨[]⟩, Body.ofBytes ByteArray.empty⟩
    let closed : Store := { Store.empty with health := { databaseOpen := false } }
    authenticatedAs settings occasion request = none ∧
      ((respond settings occasion request).run Store.empty).1.status = 200 ∧
      ((respond settings occasion request).run closed).1.status = 503 := by
  decide

end Depot.Server

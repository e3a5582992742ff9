import Depot.Proofs.Auth.Signing
import Depot.Proofs.Server.Browsing
import Depot.Proofs.Server.Classification

/-!
# Objects as they are found

What a request for one object comes to in a sound store, in either protocol.
All of them look the object up first, and what they find there is one thing:
the content under an identifier, or why there is none (`Store.contentUnder`).
Reading, describing, replacing and removing an object are given here by what is
found, so that nothing later opens an endpoint.

A fault of the store has the same status in both protocols
(`status_ofStore`).
-/

namespace Depot

set_option autoImplicit false

open Depot.Auth
open Depot.Http
open Depot.Text
open Depot.Time

namespace Store

/-! ## What is found under an identifier -/

/-- The object under an identifier with its content, or why there is none. -/
def contentUnder (s : Store) (identifier : String) : Except StoreFault Content :=
  match Name.checkIdentifier identifier with
  | .error fault => .error (.ofIdentifier identifier fault)
  | .ok () => s.peeked identifier

theorem outcome_peek_eq (identifier : String) (s : Store) :
    outcome (peek identifier) s = (s.contentUnder identifier, s) := by
  rw [outcome_peek, contentUnder]
  cases Name.checkIdentifier identifier <;> rfl

/-- What a row describes, with its bytes. -/
def contentAt (s : Store) (identifier : String) (row : Row) : Content :=
  ⟨objectAt identifier row, (s.recordOf row).bytes⟩

namespace Sound

variable {s : Store} (sound : s.Sound)

include sound

theorem contentUnder_of_found {identifier : String} {row : Row}
    (found : s.objects.find? identifier = some row) :
    s.contentUnder identifier = .ok (s.contentAt identifier row) := by
  rw [contentUnder, (sound.rows identifier row found).1]
  dsimp only
  rw [sound.peeked, found]
  rfl

theorem contentUnder_of_absent {identifier : String}
    (valid : Name.checkIdentifier identifier = .ok ())
    (absent : s.objects.find? identifier = none) :
    s.contentUnder identifier = .error (.notFound identifier) := by
  rw [contentUnder, valid]
  dsimp only
  rw [sound.peeked, absent]

/-- Content is found where there is a row. -/
theorem contentUnder_eq_ok_iff {identifier : String} {content : Content} :
    s.contentUnder identifier = .ok content ↔
      ∃ row, s.objects.find? identifier = some row ∧ content = s.contentAt identifier row := by
  cases found : s.objects.find? identifier with
  | some row =>
      rw [sound.contentUnder_of_found found]
      simp [eq_comm]
  | none =>
      cases valid : Name.checkIdentifier identifier with
      | error fault => simp [contentUnder, valid]
      | ok _ => simp [sound.contentUnder_of_absent valid found]

/-- The size of an object is the number of its bytes. -/
theorem size_contentAt {identifier : String} {row : Row}
    (found : s.objects.find? identifier = some row) :
    (s.contentAt identifier row).object.size = (s.contentAt identifier row).bytes.size :=
  (sound.held_object found).2.1

/-! ## Operations on what is found -/

theorem outcome_read_eq (identifier : String) :
    outcome (read identifier) s = (s.contentUnder identifier, s) :=
  (sound.read_eq_peek identifier).trans (outcome_peek_eq identifier s)

theorem outcome_head_eq (identifier : String) :
    outcome (head identifier) s = ((s.contentUnder identifier).map Content.object, s) := by
  rw [outcome_head, contentUnder]
  cases Name.checkIdentifier identifier with
  | error fault => rfl
  | ok _ =>
      dsimp only
      rw [sound.peeked, sound.fetched]
      cases s.objects.find? identifier <;> rfl

theorem outcome_delete_eq (identifier : String) :
    outcome (delete identifier) s =
      match s.contentUnder identifier with
      | .ok content => (.ok content.object, s.removed identifier)
      | .error fault => (.error fault, s) := by
  rw [outcome_delete, sound.health, contentUnder]
  cases Name.checkIdentifier identifier with
  | error fault => rfl
  | ok _ =>
      dsimp only
      rw [sound.peeked]
      cases found : s.objects.find? identifier with
      | none => rfl
      | some row =>
          dsimp only
          rw [sound.readRow found]
          refine congrArg (Prod.mk (Except.ok (objectAt identifier row))) ?_
          show (s.unlisted identifier).without row.blob = s.removed identifier
          rw [Store.removed, spent_object, found]
          rfl

theorem outcome_put_eq (identifier : String) (attributes : Attributes) (body : Body)
    (now : Instant) :
    outcome (put identifier attributes body now) s =
      match Name.checkIdentifier identifier, body.contents with
      | .error fault, _ => (.error (.ofIdentifier identifier fault), s)
      | .ok (), .error fault => (.error (.body fault), s)
      | .ok (), .ok bytes =>
          (.ok (objectOf identifier (s.draft bytes) attributes now),
            s.stored identifier attributes bytes now) := by
  rw [outcome_put, sound.placed]
  cases Name.checkIdentifier identifier with
  | error fault => rfl
  | ok _ =>
      cases body.contents with
      | error fault => rfl
      | ok bytes =>
          dsimp only
          rw [sound.lookup]
          exact sound.outcome_commit identifier attributes bytes now

end Sound

end Store

namespace Server

/-! ## Requests for an endpoint -/

/-- A request of a user leads to an endpoint. -/
structure AsksFor (settings : Settings) (occasion : Occasion) (request : Request) (user : User)
    (endpoint : Endpoint) : Prop where
  authenticated : authenticatedAs settings occasion request = some user
  leads : Route.of request.method request.target.path = .endpoint endpoint

/-- The method that leads to an endpoint, where it matters for the answer. -/
def Endpoint.method? : Endpoint → Option String
  | .listObjects _ | .getObject _ _ => some "GET"
  | .headBucket _ | .headObject _ _ => some "HEAD"
  | .postObject _ _ => some "POST"
  | _ => none

theorem Route.method_of_endpoint {method path : String} {endpoint : Endpoint}
    (leads : Route.of method path = .endpoint endpoint) {expected : String}
    (fixed : endpoint.method? = some expected) : method = expected := by
  have text {parameter sent : String} {next : String → Route}
      (rest : ∀ text, (next text).Leads fun e => ∀ m, e.method? = some m → method = m) :
      (withText parameter sent next).Leads fun e => ∀ m, e.method? = some m → method = m :=
    .withText rest
  have free {endpoint : Endpoint} (none : endpoint.method? = none) :
      (Route.endpoint endpoint).Leads fun e => ∀ m, e.method? = some m → method = m :=
    .endpoint fun m known => absurd (none.symm.trans known) nofun
  have own {endpoint : Endpoint} (same : endpoint.method? = some method) :
      (Route.endpoint endpoint).Leads fun e => ∀ m, e.method? = some m → method = m :=
    .endpoint fun m known => Option.some.inj (same.symm.trans known)
  have places (place : Place) :
      (atPlace method place).Leads fun e => ∀ m, e.method? = some m → method = m := by
    unfold atPlace
    refine .ite (fun _ _ leads => by cases leads) ?_
    cases place with
    | bucket sent =>
        refine .ite (fun get => text fun _ => own (get ▸ rfl)) ?_
        refine .ite (fun head => text fun _ => own (head ▸ rfl)) ?_
        exact .ite (fun _ => text fun _ => free rfl) (text fun _ => free rfl)
    | object bucket key =>
        refine .ite (fun _ => text fun _ => text fun _ => free rfl) ?_
        refine .ite (fun get => text fun _ => text fun _ => own (get ▸ rfl)) ?_
        refine .ite (fun head => text fun _ => text fun _ => own (head ▸ rfl)) ?_
        exact .ite (fun post => text fun _ => text fun _ => own (post ▸ rfl))
          (text fun _ => text fun _ => free rfl)
    | rename old new => exact text fun _ => text fun _ => free rfl
    | healthz | readyz | buckets => exact free rfl
    | _ => exact text fun _ => free rfl
  unfold Route.of at leads
  split at leads
  · cases leads
  · next place _ => exact places place endpoint leads expected fixed

/-- A request names no upload, and no parameter of an object twice. -/
structure AboutObject (request : Request) : Prop where
  once : repeatedName? S3.objectParameters (parametersOf request) = none
  own : valueOf? (parametersOf request) "uploadId" = none

/-- A request without query is about an object. -/
theorem AboutObject.of_no_query {request : Request} (none : request.target.query? = none) :
    AboutObject request := by
  have empty : parametersOf request = [] := by
    rw [parametersOf, none]
    decide
  constructor <;> rw [empty] <;> rfl

/-- A fault of the store has the same status in both protocols. -/
theorem status_ofStore (fault : StoreFault) (resource : String) :
    (S3Fault.ofStore fault resource).status = (NativeFault.ofStore fault).status := by
  cases fault with
  | body fault => cases fault <;> rfl
  | _ => rfl

/-! ## The S3 protocol -/

namespace S3

theorem Address.of_named {owner bucket key : String} (named : Name.checkBucket bucket = .ok ()) :
    Address.of owner bucket key = .ok ⟨owner, bucket, key⟩ := by
  rw [Address.of, named]

/-- What is found under a key of a bucket. -/
def found (s : Store) (user : User) (bucket key : String) : Except S3Fault Content := do
  let target ← Address.of user.userId bucket key
  (s.contentUnder target.identifier).mapError (S3Fault.ofStore · target.resource)

theorem found_of_named {s : Store} {user : User} {bucket key : String}
    (named : Name.checkBucket bucket = .ok ()) :
    found s user bucket key =
      (s.contentUnder (Name.identifier user.userId bucket key)).mapError
        (S3Fault.ofStore · ("/" ++ bucket ++ "/" ++ key)) := by
  rw [found, Address.of_named named]
  rfl

section

variable {s : Store} (sound : s.Sound) {user : User} {bucket key : String}

include sound

theorem outcome_headObject :
    outcome (headObject user bucket key) s =
      ((found s user bucket key).map fun content =>
        objectResponse 200 content.object ByteArray.empty, s) := by
  unfold headObject found
  rw [outcome_bind, outcome_liftExcept]
  cases Address.of user.userId bucket key with
  | error fault => rfl
  | ok target =>
      dsimp only
      rw [outcome_bind, Address.fromStore, fromStore, outcome_adapt, sound.outcome_head_eq]
      show _ = (Except.map _ ((s.contentUnder target.identifier).mapError _), s)
      cases s.contentUnder target.identifier <;> rfl

/-- Both ways of reading a whole object find the same. -/
theorem outcome_wholeObject (target : Address) (size : Int) :
    outcome (wholeObject target size) s =
      (((s.contentUnder target.identifier).mapError (S3Fault.ofStore · target.resource)).map
        fun content => objectResponse 200 content.object content.bytes, s) := by
  have reads : outcome
      (if size ≤ checkedReadLimit then Store.read target.identifier
        else Store.peek target.identifier) s = (s.contentUnder target.identifier, s) := by
    split
    · exact sound.outcome_read_eq target.identifier
    · exact Store.outcome_peek_eq target.identifier s
  unfold wholeObject
  rw [outcome_bind, Address.fromStore, fromStore, outcome_adapt, reads]
  cases s.contentUnder target.identifier <;> rfl

theorem outcome_removeIfThere (identifier : String) :
    outcome (removeIfThere identifier) s =
      match s.contentUnder identifier with
      | .ok _ => (.ok (), s.removed identifier)
      | .error (.notFound _) => (.ok (), s)
      | .error fault => (.error fault, s) := by
  unfold removeIfThere
  have deletes : outcome (discard (Store.delete identifier)) s =
      ((outcome (Store.delete identifier) s).1.map fun _ => (),
        (outcome (Store.delete identifier) s).2) :=
    outcome_map (fun _ => ()) (Store.delete identifier) s
  rw [outcome_tryCatch, deletes, sound.outcome_delete_eq]
  cases s.contentUnder identifier with
  | ok content => rfl
  | error fault => cases fault <;> rfl

end

end S3

/-! ## The native protocol -/

namespace Native

/-- An operation on the identifier of a key, whose answer is only shown. -/
theorem outcome_on_identifier {user : User} {headers : Headers} {key identifier : String}
    (known : identifierOf user headers key = .ok identifier) {α : Type}
    (act : String → Store.Action α) (answer : α → Response) (s : Store) :
    outcome
        (do
          let identifier ← identifierOf user headers key
          return answer (← fromStore (act identifier)) : Action Response) s =
      (((outcome (act identifier) s).1.mapError NativeFault.ofStore).map answer,
        (outcome (act identifier) s).2) := by
  rw [outcome_bind, outcome_liftExcept, known]
  dsimp only
  rw [outcome_bind, fromStore, outcome_adapt]
  obtain ⟨_ | _, t⟩ := outcome (act identifier) s <;> rfl

end Native

/-! ## A client that signs requests but not their bodies -/

namespace SignedClient

section

variable (method : String) (target : Target) {more : List (String × FieldValue)} (body : Body)

/-- A request of the client. -/
def request (method : String) (target : Target) (more : List (String × FieldValue))
    (body : Body) : Request :=
  sent unsignedPayload method target more body

/-- A body that is not signed is not checked. -/
theorem signedBody_request :
    signedBody (request method target more body).headers settings.maxBufferedBytes body =
      .ok (unsignedPayload, body) := by
  have declared : (request method target more body).headers.text? digestHeader =
      some unsignedPayload := declares unsignedPayload method target body (by decide)
  rw [signedBody, declared]
  dsimp only
  rw [if_neg (by decide), if_pos rfl]

theorem authenticatedAs_request (alone : (Headers.mk more).getAll dateHeader = [])
    (closed : Protocol.ofPath target.path ≠ .probe) :
    authenticatedAs settings occasion (request method target more body) = some credential.user :=
  authenticatedAs_sent unsignedPayload method target body alone
    (signedBody_request method target body) closed

end

/-- Beside the three header lines of its signature, the client sends what it is told to. -/
theorem get?_request (method : String) (target : Target) (more : List (String × FieldValue))
    (body : Body) {name : String} (other : name ∉ ["authorization", digestHeader, dateHeader]) :
    (request method target more body).headers.get? name = (Headers.mk more).get? name := by
  simp only [List.mem_cons, List.not_mem_nil, or_false, not_or] at other
  obtain ⟨first, second, third⟩ := other
  unfold request sent headers Headers.get?
  dsimp only
  rw [List.find?_cons_of_neg (by simpa using Ne.symm first),
    List.find?_cons_of_neg (by simpa using Ne.symm second),
    List.find?_cons_of_neg (by simpa using Ne.symm third)]

/-- The client is known by its signature. -/
theorem asksFor {method : String} {target : Target} {endpoint : Endpoint}
    (leads : Route.of method target.path = .endpoint endpoint)
    (closed : Protocol.ofPath target.path ≠ .probe) {more : List (String × FieldValue)}
    (alone : (Headers.mk more).getAll dateHeader = []) (body : Body) :
    AsksFor settings occasion (request method target more body) credential.user endpoint :=
  ⟨authenticatedAs_request method target body alone closed, leads⟩

end SignedClient

end Server

end Depot

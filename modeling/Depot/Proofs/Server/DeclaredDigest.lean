import Depot.Proofs.Auth.Signing
import Depot.Proofs.Forms
import Depot.Proofs.Headers
import Depot.Proofs.Server.Tenants
import Depot.Proofs.Store.Writing

/-!
# Bodies have the digest that was declared

A signed request can declare the digest of its body.  The digest is known only
when the last chunk has come, long after the request was let in, so every
endpoint that reads the body must read it to its end and take its failure there
as fatal.  All of them do, but the one that reads a form
(`declared_digest_holds`): a body of another digest is answered with an error
and changes nothing that is stored, and what a request stores of its body is a
body of the declared digest.  A form is read up to its closing boundary.  When
that comes before the end of the body does, the failure is never met, and the
form is stored.
-/

namespace Depot.Server

set_option autoImplicit false

open Depot.Auth
open Depot.Http
open Depot.Text
open Depot.Time

def joinedContent (fields : List FormField) : ByteArray :=
  (fields.map FormField.content).foldl (· ++ ·) ByteArray.empty

/-! ## Errors -/

/-- The statuses that report errors. -/
def IsError (status : Nat) : Prop := 400 ≤ status

def NativeFault.IsError (fault : NativeFault) : Prop := Server.IsError fault.status

def S3Fault.IsError (fault : S3Fault) : Prop := Server.IsError fault.status

theorem isError_status (kind : FaultKind) : IsError kind.status := by
  cases kind <;> exact Nat.le_of_ble_eq_true rfl

theorem NativeFault.isError_ofStore (fault : StoreFault) : (NativeFault.ofStore fault).IsError :=
  isError_status fault.kind

theorem S3Fault.isError_ofStore (resource : String) (fault : StoreFault) :
    (S3Fault.ofStore fault resource).IsError := by
  unfold S3Fault.ofStore
  split <;> exact Nat.le_of_ble_eq_true rfl

theorem Native.isError_of_bucketOf {headers : Headers} {fault : NativeFault}
    (failed : Native.bucketOf headers = .error fault) : fault.IsError := by
  unfold Native.bucketOf at failed
  split at failed
  · cases failed
  · split at failed
    · cases failed
    · cases failed
      exact Nat.le_refl 400

theorem Native.isError_of_identifierOf {user : User} {headers : Headers} {key : String}
    {fault : NativeFault} (failed : Native.identifierOf user headers key = .error fault) :
    fault.IsError := by
  unfold Native.identifierOf at failed
  cases named : Native.bucketOf headers with
  | error missing =>
      rw [named] at failed
      cases failed
      exact Native.isError_of_bucketOf named
  | ok bucket =>
      rw [named] at failed
      dsimp only [bind, Except.bind] at failed
      split at failed
      · cases failed
      · cases failed
        exact Nat.le_refl 400

theorem S3.Address.isError_of {owner bucket key : String} {fault : S3Fault}
    (failed : S3.Address.of owner bucket key = .error fault) : fault.IsError := by
  unfold S3.Address.of at failed
  split at failed
  · cases failed
  · cases failed
    exact Nat.le_refl 400

theorem S3.isError_readPartNumber {target : S3.Address} {text : String} {fault : S3Fault}
    (failed : S3.readPartNumber target text = .error fault) : fault.IsError := by
  unfold S3.readPartNumber at failed
  dsimp only at failed
  split at failed
  · split at failed
    · cases failed
    · cases failed
      exact Nat.le_refl 400
  · cases failed
    exact Nat.le_refl 400

theorem S3.integer64?_of_readPartNumber {target : S3.Address} {text : String} {number : Int}
    (read : S3.readPartNumber target text = .ok number) : integer64? text = some number := by
  unfold S3.readPartNumber at read
  dsimp only at read
  split at read
  · next n known =>
      split at read
      · cases read
        exact known
      · cases read
  · cases read

/-- A form that is read is stored, whether or not its body would fail later. -/
theorem Native.putForm_stores {forms : Form.Reader} {user : User} {key : String}
    {headers : Headers} {boundary : String} {limit : Nat} {body : Body} {s : Store}
    {identifier : String} {fields : List FormField} (sound : s.Sound)
    (known : Native.identifierOf user headers key = .ok identifier)
    (valid : Name.checkIdentifier identifier = .ok ())
    (found : forms boundary limit body = .ok fields) (now : Instant) :
    ∃ response t,
      outcome (Native.putForm forms user key headers boundary limit body now) s =
        (.ok response, t) ∧
      response.status = 200 ∧ t.contentOf (.object identifier) = some (joinedContent fields) := by
  let pieces := fields.map FormField.content
  have follows : Store.Follows (fun _ => False) Object.unnumbered s
      (outcome (Store.putPieces identifier (Native.formAttributes fields) pieces now) s) _ :=
    sound.follows_putPieces not_false (Native.formAttributes fields) pieces now
  unfold Store.onObjects Ledger.putPieces at follows
  rw [Ledger.checked_eq, valid] at follows
  generalize ended : outcome (Store.putPieces identifier _ pieces now) s = done at follows
  cases follows with
  | @answered object _ t _ seen becomes =>
      have writes :=
        Store.put_writes now (pieces.map .data) identifier (Native.formAttributes fields)
      obtain ⟨bytes, whole, kept⟩ := writes.stores sound.given ended
      rw [Store.contents_of_pieces] at whole
      cases whole
      refine ⟨Native.report object, t, ?_, rfl, kept⟩
      have stores : Native.putForm forms user key headers boundary limit body now =
          Native.report <$> Native.fromStore
            (Store.putPieces identifier (Native.formAttributes fields) pieces now) := by
        unfold Native.putForm
        rw [known, found]
        rfl
      rw [stores, outcome_map, Native.fromStore, outcome_adapt, ended]
      rfl

theorem S3.Address.identifier_of {owner bucket key : String} {target : S3.Address}
    (known : S3.Address.of owner bucket key = .ok target) :
    target.identifier = Name.identifier owner bucket key := by
  unfold S3.Address.of at known
  split at known
  · cases known
    rfl
  · cases known

/-! ## Bodies that fail -/

theorem Native.fromStore_refuses {α : Type} {action : Store.Action α}
    (refuses : Refuses (fun _ => True) action) :
    Refuses NativeFault.IsError (Native.fromStore action) :=
  refuses.adapt fun fault _ => NativeFault.isError_ofStore fault

theorem S3.Address.fromStore_refuses {α : Type} (target : S3.Address) {action : Store.Action α}
    (refuses : Refuses (fun _ => True) action) :
    Refuses S3Fault.IsError (target.fromStore action) :=
  refuses.adapt fun fault _ => S3Fault.isError_ofStore target.resource fault

section

variable {body : Body} {bodyFault : BodyFault} (failing : body.contents = .error bodyFault)

include failing

namespace Native

theorem put_refuses (user : User) (key : String) (headers : Headers) (now : Instant) :
    Refuses NativeFault.IsError (put user key headers body now) :=
  .lift_bind (fun _ => isError_of_identifierOf) fun identifier _ =>
    (fromStore_refuses (Store.put_refuses failing identifier (attributesOf headers) now)).bind _

theorem update_refuses (user : User) (key : String) (headers : Headers) (now : Instant) :
    Refuses NativeFault.IsError (update user key headers body now) :=
  .lift_bind (fun _ => isError_of_identifierOf) fun identifier _ =>
    (fromStore_refuses (Store.update_refuses failing identifier now)).bind _

theorem append_refuses (user : User) (key : String) (headers : Headers) (now : Instant) :
    Refuses NativeFault.IsError (append user key headers body now) :=
  .lift_bind (fun _ => isError_of_identifierOf) fun identifier _ =>
    (fromStore_refuses (Store.append_refuses failing identifier now)).bind _

theorem putForm_refuses {forms : Form.Reader} (toEnd : forms.ReadsToEnd body) (user : User)
    (key : String) (headers : Headers) (boundary : String) (limit : Nat) (now : Instant) :
    Refuses NativeFault.IsError (putForm forms user key headers boundary limit body now) := by
  refine .lift_bind (fun _ => isError_of_identifierOf) fun identifier _ => ?_
  cases read : forms boundary limit body with
  | error fault => exact .throw (Nat.le_refl 400)
  | ok fields =>
      obtain ⟨bytes, whole⟩ := toEnd boundary limit fields read
      cases failing.symm.trans whole

end Native

namespace S3

theorem uploadPart_refuses (target : Address) (upload number : String) (now : Instant) :
    Refuses S3Fault.IsError (uploadPart target upload number body now) :=
  .lift_bind (fun _ => isError_readPartNumber) fun n _ =>
    (target.fromStore_refuses
      (Store.uploadPart_refuses failing upload target.identifier n now)).bind _

/-- The document that completes an upload is the whole body. -/
theorem completeUpload_refuses (target : Address) (upload : String) (now : Instant) :
    Refuses S3Fault.IsError (completeUpload target upload body now) := by
  unfold completeUpload readCompletion
  cases read : body.contentsWithin completionLimit with
  | within content => cases failing.symm.trans (Body.contents_of_within read)
  | tooLarge => exact .throw (Nat.le_refl 400)
  | failed fault => cases fault <;> exact .throw (Nat.le_refl 400)

theorem putObject_refuses (user : User) (bucket key : String) (params : List Parameter)
    {headers : Headers} (now : Instant)
    (reads : (valueOf? params "uploadId").isSome ∨ headers.get? "x-amz-copy-source" = none) :
    Refuses S3Fault.IsError (putObject user bucket key params headers body now) := by
  refine .lift_bind (fun _ => Address.isError_of) fun target _ => ?_
  cases named : valueOf? params "uploadId" with
  | some upload =>
      dsimp only
      cases valueOf? params "partNumber" with
      | some number => exact uploadPart_refuses failing target upload number now
      | none => exact .throw (Nat.le_refl 400)
  | none =>
      dsimp only
      have own : headers.get? "x-amz-copy-source" = none := by
        rcases reads with upload | own
        · rw [named] at upload
          cases upload
        · exact own
      rw [own]
      exact (target.fromStore_refuses
        (Store.put_refuses failing target.identifier (attributesOf headers) now)).bind _

theorem postObject_refuses (user : User) (bucket key : String) {params : List Parameter}
    (headers : Headers) (now : Instant) (reads : valueOf? params "uploads" = none) :
    Refuses S3Fault.IsError (postObject user bucket key params headers body now) := by
  refine .lift_bind (fun _ => Address.isError_of) fun target _ => ?_
  rw [reads]
  cases valueOf? params "uploadId" with
  | some upload => exact completeUpload_refuses failing target upload now
  | none => exact .throw (Nat.le_refl 400)

end S3

end

/-- A valid object whose body has another digest than declared is refused for that. -/
theorem S3.putObject_refuses_other {user : User} {bucket key : String}
    {params : List Parameter} {headers : Headers} {target : S3.Address} {body : Body}
    (other : body.contents = .error .digestMismatch)
    (known : S3.Address.of user.userId bucket key = .ok target)
    (valid : Name.checkIdentifier target.identifier = .ok ())
    (own : valueOf? params "uploadId" = none) (sent : headers.get? "x-amz-copy-source" = none)
    (now : Instant) :
    Refuses (· = S3Fault.digestMismatch target.resource)
      (putObject user bucket key params headers body now) := by
  have found (fault : S3Fault) : S3.Address.of user.userId bucket key ≠ .error fault := by
    rw [known]
    exact fun same => by cases same
  refine .lift_bind (fun fault missing => absurd missing (found fault)) fun target' known' => ?_
  cases known.symm.trans known'
  rw [own, sent]
  have refuses := Store.put_refuses_body other valid (attributesOf headers) now
  have shown : Refuses (· = S3Fault.digestMismatch target.resource)
      (target.fromStore (Store.put target.identifier (attributesOf headers) body now)) := by
    refine refuses.adapt ?_
    rintro fault rfl
    rfl
  exact shown.bind _

/-! ## What endpoints read and write -/

namespace Endpoint

variable (headers : Headers) (params : List Parameter)

/-- Whether an endpoint reads the body of a request with some headers and parameters. -/
def ReadsBody : Endpoint → Prop
  | .put _ | .putBinary _ | .update _ | .append _ => True
  | .putObject _ _ =>
      (valueOf? params "uploadId").isSome ∨ headers.get? "x-amz-copy-source" = none
  | .postObject _ _ => valueOf? params "uploads" = none
  | _ => False

/-- Whether an endpoint stores the body as it is: not as the fields of a form, and not to read a
document in it. -/
def StoresBody : Endpoint → Prop
  | .put _ | .update _ | .append _ => True
  | .putObject _ _ =>
      (valueOf? params "uploadId").isSome ∨ headers.get? "x-amz-copy-source" = none
  | _ => False

/-- The bytes of a new blob, given those of the body. -/
def Makes (user : User) (endpoint : Endpoint) (bytes : ByteArray) (s : Store)
    (new : ByteArray) : Prop :=
  new = bytes ∨
    match endpoint with
    | .append key =>
        ∃ identifier, Native.identifierOf user headers key = .ok identifier ∧
          s.Continues identifier bytes new
    | _ => False

/-- Where the bytes of the body are when the request has succeeded. -/
def Stores (user : User) (endpoint : Endpoint) (bytes : ByteArray) (s t : Store) : Prop :=
  match endpoint with
  | .put key | .update key =>
      ∃ identifier, Native.identifierOf user headers key = .ok identifier ∧
        t.contentOf (.object identifier) = some bytes
  | .append key =>
      ∃ identifier, Native.identifierOf user headers key = .ok identifier ∧
        ∃ whole, s.Continues identifier bytes whole ∧
          t.contentOf (.object identifier) = some whole
  | .putObject bucket key =>
      match valueOf? params "uploadId" with
      | none => t.contentOf (.object (Name.identifier user.userId bucket key)) = some bytes
      | some upload =>
          ∃ text, valueOf? params "partNumber" = some text ∧
            ∃ number, integer64? text = some number ∧
              t.contentOf (.part upload number.toNat) = some bytes
  | _ => False

end Endpoint

/-! ## Answers -/

/-- In every store, a request is answered with an error, and all that is stored is kept. -/
def TurnsDown (action : StateM Store Response) : Prop :=
  ∀ s, IsError (action.run s).1.status ∧ Store.SameContents s (action.run s).2

/-- What a request does with a body: every new blob is made from its bytes, and unless the answer is
an error they are where they should be. -/
structure Takes (body : Body) (made : ByteArray → Store → ByteArray → Prop)
    (stored : ByteArray → Store → Store → Prop) (action : StateM Store Response) : Prop where
  gains : ∀ {s : Store}, s.Given →
    Store.Gains (fun new => ∃ bytes, body.contents = .ok bytes ∧ made bytes s new) s
      (action.run s).2
  stores : ∀ {s : Store}, s.Given → ¬ IsError (action.run s).1.status →
    ∃ bytes, body.contents = .ok bytes ∧ stored bytes s (action.run s).2

section

variable {ε : Type} {expected : ε → Prop} {action : ExceptT ε (StateM Store) Response}
  {render : ε → Response} (renders : ∀ fault, expected fault → IsError (render fault).status)

include renders

theorem TurnsDown.answering (refuses : Refuses expected action) :
    TurnsDown (answering render action) := by
  intro s
  obtain ⟨fault, t, fails, known, same⟩ := refuses s
  rw [Discreet.run_answering, fails]
  exact ⟨renders fault known, same⟩

theorem Takes.answering {body : Body} {made : ByteArray → Store → ByteArray → Prop}
    {stored : ByteArray → Store → Store → Prop}
    (writes : Writes body expected made stored action) :
    Takes body made stored (answering render action) where
  gains given := by
    rw [Discreet.run_answering]
    exact writes.gains given
  stores {s} given well := by
    rw [Discreet.run_answering] at well ⊢
    cases ended : outcome action s with
    | mk result t =>
        rw [ended] at well
        cases result with
        | error fault => exact absurd (renders fault (writes.fails ended)) well
        | ok response => exact writes.stores given ended

end

theorem Takes.pure {body : Body} {made : ByteArray → Store → ByteArray → Prop}
    {stored : ByteArray → Store → Store → Prop} {response : Response}
    (error : IsError response.status) : Takes body made stored (pure response) where
  gains _ := .refl _
  stores _ well := absurd error well

/-! ## Endpoints that store the body as it is -/

section

variable (user : User) (headers : Headers) (params : List Parameter) (body : Body) (now : Instant)

/-- An operation of the store on the identifier of a key, whose answer is only shown. -/
theorem Native.on_identifier_writes {α : Type} {key : String} {act : String → Store.Action α}
    {answer : α → Response} {made : ByteArray → Store → ByteArray → Prop}
    {stored : ByteArray → Store → Store → Prop}
    (writes : ∀ identifier, identifierOf user headers key = .ok identifier →
      Writes body (fun _ => True) made stored (act identifier)) :
    Writes body NativeFault.IsError made stored
      (do
        let identifier ← identifierOf user headers key
        return answer (← fromStore (act identifier)) : Native.Action Response) :=
  .lift_bind (fun _ => isError_of_identifierOf) fun identifier known =>
    (writes identifier known).shown NativeFault.isError_ofStore answer

namespace Native

theorem put_writes (key : String) :
    Writes body NativeFault.IsError (Endpoint.Makes headers user (.put key))
      (Endpoint.Stores headers params user (.put key)) (put user key headers body now) :=
  on_identifier_writes user headers body fun identifier known =>
    (Store.put_writes now body identifier _).mono (fun _ _ _ => .inl)
      fun _ _ _ kept => ⟨identifier, known, kept⟩

theorem update_writes (key : String) :
    Writes body NativeFault.IsError (Endpoint.Makes headers user (.update key))
      (Endpoint.Stores headers params user (.update key)) (update user key headers body now) :=
  on_identifier_writes user headers body fun identifier known =>
    (Store.update_writes now body identifier).mono (fun _ _ _ => .inl)
      fun _ _ _ kept => ⟨identifier, known, kept⟩

theorem append_writes (key : String) :
    Writes body NativeFault.IsError (Endpoint.Makes headers user (.append key))
      (Endpoint.Stores headers params user (.append key)) (append user key headers body now) :=
  on_identifier_writes user headers body fun identifier known =>
    (Store.append_writes now body identifier).mono
      (fun _ _ _ => Or.imp_right fun continues => ⟨identifier, known, continues⟩)
      fun _ _ _ kept => ⟨identifier, known, kept⟩

end Native

theorem S3.putObject_writes (bucket key : String)
    (own : (valueOf? params "uploadId").isSome ∨ headers.get? "x-amz-copy-source" = none) :
    Writes body S3Fault.IsError (Endpoint.Makes headers user (.putObject bucket key))
      (Endpoint.Stores headers params user (.putObject bucket key))
      (putObject user bucket key params headers body now) := by
  refine .lift_bind (fun _ => Address.isError_of) fun target known => ?_
  unfold Endpoint.Stores
  cases named : valueOf? params "uploadId" with
  | some upload =>
      dsimp only
      cases valueOf? params "partNumber" with
      | none => exact .throw (Nat.le_refl 400)
      | some text =>
          refine .lift_bind (fun _ => isError_readPartNumber) fun number read => ?_
          have written := Store.uploadPart_writes now body upload target.identifier number
          refine (written.mono (fun _ _ _ => .inl) fun bytes s t kept => ?_).shown
            (S3Fault.isError_ofStore target.resource) fun part => etagResponse part.etag
          exact ⟨text, rfl, number, integer64?_of_readPartNumber read, kept⟩
  | none =>
      dsimp only
      have absent : headers.get? "x-amz-copy-source" = none := by
        rcases own with upload | absent
        · rw [named] at upload
          cases upload
        · exact absent
      rw [absent]
      have written := Store.put_writes now body target.identifier (attributesOf headers)
      refine (written.mono (fun _ _ _ => .inl) fun bytes s t kept => ?_).shown
        (S3Fault.isError_ofStore target.resource) fun object => etagResponse object.etag
      rwa [Address.identifier_of known] at kept

end

/-! ## Requests -/

section

variable {settings : Settings} {occasion : Occasion} {request : Request} {user : User}
  {endpoint : Endpoint} {body : Body}

def parametersOf (request : Request) : List Parameter :=
  parameters (request.target.query?.getD "")

theorem TurnsDown.withQuery {target : Target} {known : List String}
    {next : List Parameter → StateM Store Response}
    (rest : TurnsDown (next (parameters (target.query?.getD "")))) :
    TurnsDown (withQuery target known next) := by
  unfold Server.withQuery
  dsimp only
  split
  · exact fun s => ⟨Nat.le_refl 400, .refl s⟩
  · exact rest

theorem Takes.withQuery {made : ByteArray → Store → ByteArray → Prop}
    {stored : ByteArray → Store → Store → Prop} {target : Target} {known : List String}
    {next : List Parameter → StateM Store Response}
    (rest : Takes body made stored (next (parameters (target.query?.getD "")))) :
    Takes body made stored (withQuery target known next) := by
  unfold Server.withQuery
  dsimp only
  split
  · exact .pure (Nat.le_refl 400)
  · exact rest

/-- An endpoint that reads the body does not go on when the body fails. -/
theorem answerUser_turnsDown {bodyFault : BodyFault} (failing : body.contents = .error bodyFault)
    (reads : endpoint.ReadsBody request.headers (parametersOf request))
    (toEnd : ∀ key, endpoint = .putBinary key → settings.forms.ReadsToEnd body) :
    TurnsDown (answerUser settings occasion request body user endpoint) := by
  have native (fault : NativeFault) (known : fault.IsError) : IsError fault.response.status :=
    known
  have s3 (fault : S3Fault) (known : fault.IsError) :
      IsError (fault.response occasion.requestId).status := known
  cases endpoint with
  | put key => exact .answering native (Native.put_refuses failing user key _ _)
  | putBinary key =>
      unfold answerUser
      dsimp only
      split
      · exact fun s => ⟨Nat.le_refl 400, .refl s⟩
      · exact .answering native (Native.putForm_refuses failing (toEnd key rfl) user key _ _ _ _)
  | update key => exact .answering native (Native.update_refuses failing user key _ _)
  | append key => exact .answering native (Native.append_refuses failing user key _ _)
  | putObject bucket key =>
      exact .withQuery (.answering s3 (S3.putObject_refuses failing user bucket key _ _ reads))
  | postObject bucket key =>
      exact .withQuery (.answering s3 (S3.postObject_refuses failing user bucket key _ _ reads))
  | _ => cases reads

/-- An endpoint that stores the body makes its new blobs from it. -/
theorem answerUser_takes (stores : endpoint.StoresBody request.headers (parametersOf request)) :
    Takes body (endpoint.Makes request.headers user)
      (endpoint.Stores request.headers (parametersOf request) user)
      (answerUser settings occasion request body user endpoint) := by
  have native (fault : NativeFault) (known : fault.IsError) : IsError fault.response.status :=
    known
  have s3 (fault : S3Fault) (known : fault.IsError) :
      IsError (fault.response occasion.requestId).status := known
  cases endpoint with
  | put key => exact .answering native (Native.put_writes user _ _ body _ key)
  | update key => exact .answering native (Native.update_writes user _ _ body _ key)
  | append key => exact .answering native (Native.append_writes user _ _ body _ key)
  | putObject bucket key =>
      unfold answerUser
      refine .withQuery ?_
      exact .answering s3 (S3.putObject_writes user _ _ body _ bucket key stores)
  | _ => cases stores

/-- An object that is put with another body than declared is answered with the fault of that. -/
theorem answerUser_putObject_other {bucket key : String} {target : S3.Address}
    (other : body.contents = .error .digestMismatch)
    (known : S3.Address.of user.userId bucket key = .ok target)
    (valid : Name.checkIdentifier target.identifier = .ok ())
    (own : valueOf? (parametersOf request) "uploadId" = none)
    (sent : request.headers.get? "x-amz-copy-source" = none)
    (once : repeatedName? S3.objectParameters (parametersOf request) = none) (s : Store) :
    ((answerUser settings occasion request body user (.putObject bucket key)).run s).1 =
      (S3Fault.digestMismatch target.resource).response occasion.requestId := by
  obtain ⟨fault, t, fails, rfl, -⟩ :=
    S3.putObject_refuses_other other known valid own sent occasion.now s
  unfold parametersOf at once fails
  unfold answerUser withQuery
  dsimp only
  rw [once]
  dsimp only
  rw [answerS3, Discreet.run_answering, fails]
  rfl

/-- A form whose fields are found is stored. -/
theorem answerUser_putBinary_stores {key boundary identifier : String} {fields : List FormField}
    {s : Store}
    (announced :
      (request.headers.text? "content-type").bind MediaType.formBoundary? = some boundary)
    (found : settings.forms boundary settings.maxBodyBytes body = .ok fields)
    (known : Native.identifierOf user request.headers key = .ok identifier)
    (valid : Name.checkIdentifier identifier = .ok ()) (sound : s.Sound) :
    let done := (answerUser settings occasion request body user (.putBinary key)).run s
    done.1.status = 200 ∧ done.2.contentOf (.object identifier) = some (joinedContent fields) := by
  obtain ⟨response, t, ended, status, kept⟩ :=
    Native.putForm_stores sound known valid found occasion.now
  intro done
  have answered : done = (response, t) := by
    show (answerUser settings occasion request body user (.putBinary key)).run s = _
    unfold answerUser
    dsimp only
    rw [announced]
    dsimp only
    rw [answerNative, Discreet.run_answering, ended]
    rfl
  rw [answered]
  exact ⟨status, kept⟩

/-- Who a request is authenticated as does not depend on how forms are read. -/
theorem authenticatedAs_forms (settings : Settings) (occasion : Occasion) (request : Request)
    (forms : Form.Reader) :
    authenticatedAs { settings with forms } occasion request =
      authenticatedAs settings occasion request := rfl

theorem respond_run_user (authenticated : authenticatedAs settings occasion request = some user) :
    ∃ body,
      admission settings.verifier settings.maxBufferedBytes occasion.now
        (Protocol.ofPath request.target.path) request = .ok (user, body) ∧
      ∀ s, (respond settings occasion request).run s =
        let route := Route.of request.method request.target.path
        let done := (answer settings occasion request body (some user) route).run s
        (finish request.method route done.1, done.2) := by
  obtain ⟨body, admitted, responds⟩ := respond_of_authenticated authenticated
  refine ⟨body, admitted, fun s => ?_⟩
  rw [responds]
  rfl

/-- The response to an authenticated request is the answer of its endpoint, as it is sent. -/
theorem respond_run (authenticated : authenticatedAs settings occasion request = some user)
    (leads : Route.of request.method request.target.path = .endpoint endpoint) :
    ∃ body,
      admission settings.verifier settings.maxBufferedBytes occasion.now
        (Protocol.ofPath request.target.path) request = .ok (user, body) ∧
      ∀ s, (respond settings occasion request).run s =
        let done := (answerUser settings occasion request body user endpoint).run s
        (finish request.method (.endpoint endpoint) done.1, done.2) := by
  obtain ⟨body, admitted, responds⟩ := respond_run_user authenticated
  refine ⟨body, admitted, fun s => ?_⟩
  rw [responds, leads]
  rfl

theorem finish_status (method : String) (route : Route) (response : Response) :
    (finish method route response).status = response.status := by
  have same (r : Response) : r.withLength.status = r.status := by
    unfold Response.withLength
    split <;> rfl
  unfold finish
  dsimp only
  split
  · show Response.status (Response.withLength _) = _
    rw [same]
    split <;> rfl
  · rw [same]
    split <;> rfl

/-- A digest in hexadecimal asks for no other treatment of the body. -/
theorem signedBody_of_isDigest {headers : Headers} {maxBuffered : Nat} {declared : String}
    (declares : headers.text? digestHeader = some declared) (digest : Hex.isDigest declared) :
    signedBody headers maxBuffered body = .ok (declared, body.verified declared) := by
  have digits : ∀ c, c ∈ declared.toList → Hex.isDigit c := by
    simpa using (Bool.and_eq_true_iff.mp digest).2
  have notStreaming : beginsWith "STREAMING-" declared = false := by
    cases begins : beginsWith "STREAMING-" declared with
    | false => rfl
    | true =>
        obtain ⟨rest, whole⟩ := List.isPrefixOf_iff_prefix.mp begins
        have first : 'S' ∈ declared.toList := whole ▸ .head _
        exact absurd (digits 'S' first) (by decide)
  have notUnsigned : declared ≠ unsignedPayload := by
    rintro rfl
    exact absurd digest (by decide)
  rw [signedBody, declares]
  simp only [notStreaming, Bool.false_eq_true, if_false, if_neg notUnsigned, if_pos digest]

/-- Who signs a request is let in with the body that its headers ask for. -/
theorem admission_of_verify {protocol : Protocol} {maxBuffered : Nat} {payloadHash : String}
    {verifier : Verifier} {now : Instant} (signed : request.headers.has "authorization")
    (given : signedBody request.headers maxBuffered request.body = .ok (payloadHash, body))
    (verified : verifier.verify ⟨request.method, request.target, request.headers, payloadHash⟩ now =
      .ok user) :
    admission verifier maxBuffered now protocol request = .ok (user, body) := by
  unfold admission
  rw [if_pos signed, given]
  simp only [bind, Except.bind]
  rw [verified]
  rfl

/-- What a request declares its body to be is checked. -/
theorem body_of_admission {protocol : Protocol} {maxBuffered : Nat} {declared : String}
    {verifier : Verifier} {now : Instant}
    (admitted : admission verifier maxBuffered now protocol request = .ok (user, body))
    (signed : request.headers.has "authorization")
    (declares : request.headers.text? digestHeader = some declared)
    (digest : Hex.isDigest declared) : body = request.body.verified declared := by
  unfold admission at admitted
  rw [if_pos signed, signedBody_of_isDigest declares digest] at admitted
  simp only [bind, Except.bind] at admitted
  split at admitted
  · cases admitted
  · cases admitted
    rfl

end

/-! ## A client that signs -/

namespace SignedClient

def credential : Credential := ⟨"ann", "key", "secret"⟩

/-- A server that knows the user. -/
def settings : Settings where
  verifier := ⟨.ofList [credential], "us-east-1", 900⟩
  maxBodyBytes := 1024
  maxBufferedBytes := 1024

def occasion : Occasion := ⟨⟨0, 0⟩, "r"⟩

def signer : Signer := ⟨"key", "secret", "us-east-1"⟩

/-- The header line that the client signs. -/
def dated : Headers := ⟨[(dateHeader, "19700101T000000Z".toUTF8)]⟩

/-- The canonical form of a request, given what is declared about its body. -/
def canonical (declared method : String) (target : Target) : String :=
  method ++ "\n" ++ canonicalPath target.path ++ "\n" ++ canonicalQuery target.query? ++ "\n" ++
    String.join [dateHeader ++ ":" ++ "19700101T000000Z" ++ "\n"] ++ "\n" ++
    joined ";" [dateHeader] ++ "\n" ++ declared

/-- What the client authorizes a request with. -/
def authorization (declared method : String) (target : Target) : Authorization :=
  signer.authorizationOf [dateHeader] ⟨0, 0⟩ (canonical declared method target)

/-- The header lines of a request, given its authorization and those beside it. -/
def headers (declared : String) (authorization : FieldValue)
    (more : List (String × FieldValue)) : Headers :=
  ⟨("authorization", authorization) :: (digestHeader, declared.toUTF8) ::
    (dateHeader, "19700101T000000Z".toUTF8) :: more⟩

/-- A request of the client. -/
def sent (declared method : String) (target : Target) (more : List (String × FieldValue))
    (body : Body) : Request :=
  ⟨method, target, headers declared (authorization declared method target).text.toUTF8 more, body⟩

theorem textual_dated : dated.Textual where
  name line member := by
    obtain rfl := List.mem_singleton.mp member
    rfl
  value line member := by
    obtain rfl := List.mem_singleton.mp member
    exact ⟨"19700101T000000Z", rfl⟩

theorem names_dated : dated.names = [dateHeader] := by decide +kernel

theorem presentable : signer.Presentable where
  named := by decide
  accessKey := by decide
  region := by decide

theorem year : Instant.HasFourDigitYear ⟨0, 0⟩ := by
  unfold Instant.HasFourDigitYear
  decide

section

variable (declared method : String) (target : Target) (value : FieldValue)
  {more : List (String × FieldValue)}

theorem legible : (authorization declared method target).Legible := by
  have known := Signer.legible presentable textual_dated (names_dated ▸ List.cons_ne_nil _ _) year
    (signingKey signer.secretKey (Instant.compactDate ⟨0, 0⟩) signer.region service)
    (stringToSign ⟨0, 0⟩ (signer.scope ⟨0, 0⟩).text (canonical declared method target))
  rwa [names_dated] at known

theorem visible_text : Visible (authorization declared method target).text := by
  have known := Signer.visible_text presentable textual_dated year
    (signingKey signer.secretKey (Instant.compactDate ⟨0, 0⟩) signer.region service)
    (stringToSign ⟨0, 0⟩ (signer.scope ⟨0, 0⟩).text (canonical declared method target))
  rwa [names_dated] at known

theorem requestTime_headers (more : List (String × FieldValue)) :
    requestTime (headers declared value more) = .ok ⟨0, 0⟩ := by
  have carried : (headers declared value more).get? dateHeader =
      some "19700101T000000Z".toUTF8 := rfl
  have read : valueText? "19700101T000000Z".toUTF8 = some "19700101T000000Z" := by decide
  have instant : Instant.ofCompact? "19700101T000000Z" = some ⟨0, 0⟩ := by decide
  unfold requestTime
  rw [carried]
  dsimp only
  rw [read]
  dsimp only
  rw [instant]

theorem canonicalRequest_headers (other : (Headers.mk more).getAll dateHeader = []) :
    canonicalRequest method target (headers declared value more) [dateHeader] declared =
      .ok (canonical declared method target) := by
  have plain : plainValue dateHeader "19700101T000000Z".toUTF8 = .ok "19700101T000000Z" := by
    have read : valueText? "19700101T000000Z".toUTF8 = some "19700101T000000Z" := by decide
    unfold plainValue
    rw [read]
    exact congrArg Except.ok (by decide)
  have all : (headers declared value more).getAll (lower dateHeader) =
      ["19700101T000000Z".toUTF8] := by
    have none : (more.filter (·.1 == dateHeader)).map Prod.snd = [] := other
    have same : lower dateHeader = dateHeader := by decide
    rw [same]
    show "19700101T000000Z".toUTF8 :: (more.filter (·.1 == dateHeader)).map Prod.snd = _
    rw [none]
  have signed : signedValue target (headers declared value more) dateHeader =
      .ok "19700101T000000Z" := by
    unfold signedValue
    rw [all, List.mapM_cons, plain]
    rfl
  unfold canonicalRequest
  rw [List.mapM_cons, signedLine, signed]
  rfl

/-- What the client sends carries its signature. -/
theorem signedBy (carried : valueText? value = some (authorization declared method target).text)
    (other : (Headers.mk more).getAll dateHeader = []) :
    SignedBy settings.verifier ⟨method, target, headers declared value more, declared⟩
      (authorization declared method target) credential ⟨0, 0⟩
      (canonical declared method target) where
  sent := by
    have read : (headers declared value more).text? "authorization" = valueText? value := rfl
    exact ⟨_, read.trans carried, Authorization.ofText_text (legible declared method target)⟩
  known := rfl
  forService := rfl
  forRegion := rfl
  signedAt := requestTime_headers declared value more
  onDay := rfl
  form := canonicalRequest_headers declared method target value other
  signed := by
    have secret : credential.secretKey = signer.secretKey := rfl
    have scope : (authorization declared method target).scope = signer.scope ⟨0, 0⟩ := rfl
    rw [secret, scope]
    rfl

end

section

variable (declared method : String) (target : Target) {more : List (String × FieldValue)}
  (body : Body)

theorem has_authorization :
    (sent declared method target more body).headers.has "authorization" := by
  have has (value : FieldValue) : (headers declared value more).has "authorization" := rfl
  exact has _

theorem declares (read : valueText? declared.toUTF8 = some declared) :
    (sent declared method target more body).headers.text? digestHeader = some declared := by
  have text (value : FieldValue) :
      (headers declared value more).text? digestHeader = valueText? declared.toUTF8 := rfl
  exact (text _).trans read

/-- The client is let in with the body that what it declares asks for. -/
theorem admission_sent {checked : Body} (other : (Headers.mk more).getAll dateHeader = [])
    (given : signedBody (sent declared method target more body).headers
      settings.maxBufferedBytes body = .ok (declared, checked)) (protocol : Protocol) :
    admission settings.verifier settings.maxBufferedBytes occasion.now protocol
      (sent declared method target more body) = .ok (credential.user, checked) := by
  have carried := (visible_text declared method target).valueText?
  refine admission_of_verify (has_authorization declared method target body) given ?_
  exact ((signedBy declared method target _ carried other).verify _).trans (if_pos (by decide))

theorem authenticatedAs_sent {checked : Body} (alone : (Headers.mk more).getAll dateHeader = [])
    (given : signedBody (sent declared method target more body).headers
      settings.maxBufferedBytes body = .ok (declared, checked))
    (closed : Protocol.ofPath target.path ≠ .probe) :
    authenticatedAs settings occasion (sent declared method target more body) =
      some credential.user := by
  have other : Protocol.ofPath (sent declared method target more body).target.path ≠ .probe :=
    closed
  unfold authenticatedAs
  dsimp only
  rw [if_neg other, admission_sent declared method target body alone given]

theorem authenticatedAs_declared (read : valueText? declared.toUTF8 = some declared)
    (digest : Hex.isDigest declared) (alone : (Headers.mk more).getAll dateHeader = [])
    (closed : Protocol.ofPath target.path ≠ .probe) :
    authenticatedAs settings occasion (sent declared method target more body) =
      some credential.user :=
  authenticatedAs_sent declared method target body alone
    (signedBody_of_isDigest (declares declared method target body read) digest) closed

end

end SignedClient

/-- A digest that no known text has. -/
def zeros : String := "0000000000000000000000000000000000000000000000000000000000000000"

theorem isDigest_zeros : Hex.isDigest zeros := by decide

theorem valueText?_zeros : valueText? zeros.toUTF8 = some zeros := by rfl

namespace SignedPut

def body : Body := Body.ofBytes "x".toUTF8

/-- A put with a declared digest. -/
def request (declared : String) (body : Body) : Request :=
  SignedClient.sent declared "PUT" ⟨none, "/box/k", none⟩ [] body

theorem leads (declared : String) (body : Body) :
    Route.of (request declared body).method (request declared body).target.path =
      .endpoint (.putObject "box" "k") := by
  show Route.of "PUT" "/box/k" = _
  decide +kernel

theorem reads (declared : String) (body : Body) :
    (Endpoint.putObject "box" "k").ReadsBody (request declared body).headers
      (parametersOf (request declared body)) := by
  have own (value : FieldValue) :
      (SignedClient.headers declared value []).get? "x-amz-copy-source" = none := rfl
  exact .inr (own _)

theorem authenticated {declared : String} (digest : Hex.isDigest declared)
    (read : valueText? declared.toUTF8 = some declared) (body : Body) :
    authenticatedAs SignedClient.settings SignedClient.occasion (request declared body) =
      some SignedClient.credential.user :=
  SignedClient.authenticatedAs_declared _ _ _ _ read digest rfl (by decide)

end SignedPut

namespace SignedForm

/-- A form with one field. -/
def content : ByteArray :=
  "--B\r\nContent-Disposition: form-data; name=c\r\n\r\nx\r\n--B--".toUTF8

def body : Body := Body.ofBytes content

/-- The header line that announces the form. -/
def announcing : List (String × FieldValue) :=
  [("content-type", "multipart/form-data; boundary=B".toUTF8)]

/-- The form is sent, with a digest that it does not have. -/
def request : Request :=
  SignedClient.sent zeros "POST" ⟨none, "/put_binary/k", none⟩ announcing body

/-- A server to which each chunk of a body, and the end of it, comes by itself. -/
def chunkwise : Settings :=
  { SignedClient.settings with forms := Form.ofBursts (List.map fun chunk => [chunk]) }

theorem leads : Route.of request.method request.target.path = .endpoint (.putBinary "k") := by
  show Route.of "POST" "/put_binary/k" = _
  decide +kernel

theorem authenticated :
    authenticatedAs SignedClient.settings SignedClient.occasion request =
      some SignedClient.credential.user := by
  have alone : (Headers.mk announcing).getAll dateHeader = [] := rfl
  exact SignedClient.authenticatedAs_declared zeros "POST" ⟨none, "/put_binary/k", none⟩ body
    valueText?_zeros isDigest_zeros alone (by decide)

theorem authenticated_chunkwise :
    authenticatedAs chunkwise SignedClient.occasion request = some SignedClient.credential.user :=
  (authenticatedAs_forms ..).trans authenticated

theorem has_authorization : request.headers.has "authorization" :=
  SignedClient.has_authorization zeros "POST" ⟨none, "/put_binary/k", none⟩ body

theorem declares : request.headers.text? digestHeader = some zeros :=
  SignedClient.declares zeros "POST" ⟨none, "/put_binary/k", none⟩ body valueText?_zeros

theorem digest_ne :
    Hex.encode (Digest.Sha256.digest (ByteArray.empty ++ content)) ≠ lower zeros := by
  decide +kernel

/-- The failure comes after the chunk that closes the form. -/
theorem verified_body : body.verified zeros = body ++ [.failure .digestMismatch] :=
  Body.verified_of_ne rfl digest_ne

theorem closed :
    Form.readBursts "B" 1024 ByteArray.empty [body] = .ok [⟨some "c", none, "x".toUTF8⟩] := by
  rfl

end SignedForm

/-! ## The declared digest -/

/-- **A body has the digest that was declared for it, or it is refused, unless it is a form.**  Let
an authenticated request with a signature declare a digest in hexadecimal and lead to an endpoint
that reads its body.  When the body is not one of that digest and, should it be a form, is read to
its end, the response is an error and all objects, uploads, parts and blobs stay as they were; an
object that is put under a valid key is answered with the fault that says so, unless the query
names a parameter twice.  And whatever the endpoint stores of the body in a store that gives its
blobs new numbers is made from bytes of that digest: every new blob, and the content under the
written row when the response is not an error.  But a form is not always read to its end.  When the
bursts in which its body comes close it before the last of them, it is stored, whatever the digest
of the body is. -/
theorem declared_digest_holds {settings : Settings} {occasion : Occasion} {request : Request}
    {user : User} {endpoint : Endpoint} {declared : String}
    (authenticated : authenticatedAs settings occasion request = some user)
    (signed : request.headers.has "authorization")
    (declares : request.headers.text? digestHeader = some declared)
    (digest : Hex.isDigest declared)
    (leads : Route.of request.method request.target.path = .endpoint endpoint)
    (reads : endpoint.ReadsBody request.headers (parametersOf request)) (s : Store) :
    let checked := request.body.verified declared
    let done := (respond settings occasion request).run s
    ((¬ ∃ bytes, request.body.Proves declared bytes) →
      (∀ key, endpoint = .putBinary key → settings.forms.ReadsToEnd checked) →
      IsError done.1.status ∧ Store.SameContents s done.2) ∧
    (∀ bucket key target bytes, endpoint = .putObject bucket key →
      valueOf? (parametersOf request) "uploadId" = none →
      repeatedName? S3.objectParameters (parametersOf request) = none →
      S3.Address.of user.userId bucket key = .ok target →
      Name.checkIdentifier target.identifier = .ok () →
      request.body.contents = .ok bytes → ¬ request.body.Proves declared bytes →
      done.1 = finish request.method (.endpoint endpoint)
        ((S3Fault.digestMismatch target.resource).response occasion.requestId)) ∧
    (endpoint.StoresBody request.headers (parametersOf request) → s.Given →
      Store.Gains
        (fun new => ∃ bytes, request.body.Proves declared bytes ∧
          endpoint.Makes request.headers user bytes s new)
        s done.2 ∧
      (¬ IsError done.1.status →
        ∃ bytes, request.body.Proves declared bytes ∧
          endpoint.Stores request.headers (parametersOf request) user bytes s done.2)) ∧
    (∀ key bursts first later boundary fields identifier, endpoint = .putBinary key →
      settings.forms = Form.ofBursts bursts → bursts checked = first ++ later → first ≠ [] →
      (request.headers.text? "content-type").bind MediaType.formBoundary? = some boundary →
      Form.readBursts boundary settings.maxBodyBytes ByteArray.empty first = .ok fields →
      Native.identifierOf user request.headers key = .ok identifier →
      Name.checkIdentifier identifier = .ok () → s.Sound →
      done.1.status = 200 ∧
        done.2.contentOf (.object identifier) = some (joinedContent fields)) := by
  obtain ⟨body, admitted, responds⟩ := respond_run authenticated leads
  have same : body = request.body.verified declared :=
    body_of_admission admitted signed declares digest
  have proves {bytes : ByteArray} :
      body.contents = .ok bytes ↔ request.body.Proves declared bytes := by
    rw [same]
    exact Body.contents_verified_eq_ok_iff
  intro checked done
  rw [show done = _ from responds s]
  dsimp only
  rw [finish_status]
  refine ⟨?_, ?_, ?_, ?_⟩
  · intro other toEnd
    cases whole : body.contents with
    | ok bytes => exact absurd ⟨bytes, proves.mp whole⟩ other
    | error fault => exact answerUser_turnsDown whole reads (same ▸ toEnd) s
  · rintro bucket key target bytes rfl own once known valid whole other
    have mismatch : body.contents = .error .digestMismatch := by
      rw [same]
      exact Body.contents_verified_of_ne whole fun equal => other ⟨whole, equal⟩
    have sent : request.headers.get? "x-amz-copy-source" = none := by
      rcases reads with upload | sent
      · rw [own] at upload
        cases upload
      · exact sent
    rw [answerUser_putObject_other mismatch known valid own sent once s]
  · intro stores given
    have takes : Takes body _ _ (answerUser settings occasion request body user endpoint) :=
      answerUser_takes stores
    refine ⟨(takes.gains given).mono ?_, ?_⟩
    · rintro new ⟨bytes, whole, isMade⟩
      exact ⟨bytes, proves.mp whole, isMade⟩
    · intro well
      obtain ⟨bytes, whole, kept⟩ := takes.stores given well
      exact ⟨bytes, proves.mp whole, kept⟩
  · rintro key bursts first later boundary fields identifier rfl incremental parted some announced
      closed known valid sound
    have found : settings.forms boundary settings.maxBodyBytes body = .ok fields := by
      rw [incremental, same, Form.ofBursts, show bursts _ = first ++ later from parted]
      exact Form.readBursts_append some closed later
    exact answerUser_putBinary_stores announced found known valid sound

/-- A put whose body has another digest than the one that its user signed, and a form for which the
same holds: the form is refused when it has come as a whole, and stored when the end of its body
comes by itself. -/
theorem other_body_than_declared :
    (¬ ∃ bytes, SignedPut.body.Proves zeros bytes) ∧
    (¬ ∃ bytes, SignedForm.body.Proves zeros bytes) ∧
    TurnsDown (respond SignedClient.settings SignedClient.occasion
      (SignedPut.request zeros SignedPut.body)) ∧
    TurnsDown (respond SignedClient.settings SignedClient.occasion SignedForm.request) ∧
    let done :=
      (respond SignedForm.chunkwise SignedClient.occasion SignedForm.request).run Store.empty
    done.1.status = 200 ∧
      done.2.contentOf (.object (Name.identifier "ann" Name.defaultBucket "k")) =
        some "x".toUTF8 := by
  have otherPut : ¬ ∃ bytes, SignedPut.body.Proves zeros bytes := by
    rintro ⟨bytes, whole, same⟩
    cases whole
    exact absurd same (by decide +kernel)
  have otherForm : ¬ ∃ bytes, SignedForm.body.Proves zeros bytes := by
    rintro ⟨bytes, whole, same⟩
    cases whole
    exact SignedForm.digest_ne same
  have put := declared_digest_holds
    (SignedPut.authenticated isDigest_zeros valueText?_zeros SignedPut.body)
    (SignedClient.has_authorization ..) (SignedClient.declares _ _ _ _ valueText?_zeros)
    isDigest_zeros (SignedPut.leads _ _) (SignedPut.reads _ _)
  have whole := declared_digest_holds SignedForm.authenticated
    SignedForm.has_authorization SignedForm.declares isDigest_zeros SignedForm.leads trivial
  have parted := declared_digest_holds SignedForm.authenticated_chunkwise
    SignedForm.has_authorization SignedForm.declares isDigest_zeros SignedForm.leads trivial
  refine ⟨otherPut, otherForm, ?_, ?_, ?_⟩
  · exact fun s => (put s).1 otherPut fun _ impossible => by cases impossible
  · exact fun s => (whole s).1 otherForm fun _ _ => Form.readsToEnd_ofBody _
  · obtain ⟨status, kept⟩ := (parted Store.empty).2.2.2 "k" (List.map fun chunk => [chunk])
      [SignedForm.body] [[.failure .digestMismatch]] "B" [⟨some "c", none, "x".toUTF8⟩]
      (Name.identifier "ann" Name.defaultBucket "k") rfl rfl
      (congrArg _ SignedForm.verified_body) (List.cons_ne_nil _ _) rfl
      SignedForm.closed rfl rfl Store.sound_empty
    have joined : joinedContent [⟨some "c", none, "x".toUTF8⟩] = "x".toUTF8 := rfl
    rw [joined] at kept
    exact ⟨status, kept⟩

end Depot.Server

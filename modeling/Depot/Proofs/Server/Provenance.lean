import Depot.Proofs.Server.Agreement
import Depot.Proofs.Store.Lineage

/-!
# Attributes survive

The type and the metadata that are sent with an object are found again on it,
whatever happens to it afterwards.  An object is written with some header lines
(`WrittenWith`) when a request puts it with them, begins the upload with them
that it is completed from, or copies it with them in the place of those of its
source; and it stays so when its content is replaced or continued, when it is
moved, and when it is copied.

`attributes_survive` says that such an object is shown with just these
attributes in either protocol.
-/

namespace Depot.Server

set_option autoImplicit false

open Depot.Auth
open Depot.Http
open Depot.Text
open Depot.Time

/-! ## Endpoints of the native protocol -/

namespace Native

variable {user : User} {headers : Headers} {bucket : String} (names : NamesBucket headers bucket)

include names

theorem identifierOf_eq {key identifier : String}
    (known : identifierOf user headers key = .ok identifier) :
    identifier = Name.identifier user.userId bucket key := by
  unfold identifierOf at known
  rw [bucketOf_of_namesBucket names] at known
  simp only [bind, Except.bind] at known
  split at known
  · cases known
    rfl
  · cases known

/-- What an operation on an identifier brings about is brought about for the key that is named. -/
theorem on_identifier_brings {α : Type} {act : String → Store.Action α}
    {change : String → Shelf → Shelf → Prop}
    (brings : ∀ identifier, Brings (fun _ => True) (change identifier) (act identifier))
    (key : String) (answer : α → Response) :
    Brings NativeFault.IsError (change (Name.identifier user.userId bucket key))
      (do
        let identifier ← identifierOf user headers key
        return answer (← fromStore (act identifier)) : Action Response) := by
  refine .lift_bind (fun _ => isError_of_identifierOf) fun identifier known => ?_
  rw [identifierOf_eq names known]
  exact (brings _).shown (fun fault _ => NativeFault.isError_ofStore fault) answer

theorem rename_brings (old new : String) (now : Instant) :
    Brings NativeFault.IsError
      (fun before after => after.attributes? (Name.identifier user.userId bucket new) =
        before.attributes? (Name.identifier user.userId bucket old))
      (rename user old new headers now) := by
  refine .lift_bind (fun _ => isError_of_identifierOf) fun source known => ?_
  refine .lift_bind (fun _ => isError_of_identifierOf) fun target known' => ?_
  rw [identifierOf_eq names known, identifierOf_eq names known']
  exact (Store.rename_brings _ _ now).shown (fun fault _ => NativeFault.isError_ofStore fault)
    report

end Native

/-! ## Endpoints of the S3 protocol -/

/-- A copy asks for its attributes to be replaced. -/
def Replaces (headers : Headers) : Prop :=
  (headers.text? "x-amz-metadata-directive").map upper = some "REPLACE"

instance (headers : Headers) : Decidable (Replaces headers) :=
  inferInstanceAs (Decidable (_ = _))

namespace S3

/-- A copy gets new attributes just when it asks for them. -/
theorem copyAttributes_eq {target : Address} {headers : Headers} {attributes? : Option Attributes}
    (known : copyAttributes target headers = .ok attributes?) :
    attributes? = if Replaces headers then some (attributesOf headers) else none := by
  unfold copyAttributes at known
  cases sent : headers.get? "x-amz-metadata-directive" with
  | none =>
      have keeps : ¬ Replaces headers := by
        unfold Replaces Headers.text?
        rw [sent]
        exact nofun
      rw [sent] at known
      cases known
      exact (if_neg keeps).symm
  | some value =>
      rw [sent] at known
      dsimp only at known
      cases read : valueText? value with
      | none =>
          rw [read, Option.getD_none, if_neg (by decide), if_neg (by decide)] at known
          cases known
      | some text =>
          have asks : Replaces headers ↔ upper text = "REPLACE" := by
            unfold Replaces Headers.text?
            rw [sent, Option.bind_some, read, Option.map_some, Option.some.injEq]
          rw [read, Option.getD_some] at known
          split at known
          · next keeps =>
              cases known
              exact (if_neg (by rw [asks, keeps]; decide)).symm
          · split at known
            · next replaces =>
                cases known
                exact (if_pos (asks.mpr replaces)).symm
            · cases known

theorem isError_of_readCopySource {target : Address} {value : FieldValue} {fault : S3Fault}
    (failed : readCopySource target value = .error fault) : fault.IsError := by
  unfold readCopySource at failed
  split at failed
  · exact Address.isError_of failed
  · cases failed
    exact Nat.le_refl 400

theorem isError_of_copyAttributes {target : Address} {headers : Headers} {fault : S3Fault}
    (failed : copyAttributes target headers = .error fault) : fault.IsError := by
  unfold copyAttributes at failed
  split at failed
  · cases failed
  · dsimp only at failed
    split at failed
    · cases failed
    · split at failed
      · cases failed
      · cases failed
        exact Nat.le_refl 400

theorem isError_copyFault (source target : Address) (fault : StoreFault) :
    (copyFault source target fault).IsError := by
  unfold copyFault
  split
  · exact Nat.le_of_ble_eq_true rfl
  · exact S3Fault.isError_ofStore target.resource fault

theorem isError_of_readCompletion {target : Address} {body : Body} {fault : S3Fault}
    (failed : readCompletion target body = .error fault) : fault.IsError := by
  unfold readCompletion at failed
  split at failed
  · cases failed
    exact Nat.le_refl 400
  · cases failed
    exact Nat.le_refl 400
  · cases failed
    exact Nat.le_refl 400
  · split at failed
    · cases failed
    · cases failed
      exact Nat.le_refl 400

/-- The source of a copy is another object of the user. -/
theorem identifier_of_readCopySource {target source : Address} {value : FieldValue}
    {bucket key : String} (names : (valueText? value).bind copySource? = some (bucket, key))
    (known : readCopySource target value = .ok source) :
    source.identifier = Name.identifier target.owner bucket key := by
  unfold readCopySource at known
  rw [names] at known
  exact Address.identifier_of known

theorem copyObject_brings (target : Address) {value : FieldValue} {bucket key : String}
    (names : (valueText? value).bind copySource? = some (bucket, key)) (headers : Headers)
    (now : Instant) :
    Brings S3Fault.IsError
      (fun before after => after.attributes? target.identifier =
        (if Replaces headers then some (attributesOf headers) else none).or
          (before.attributes? (Name.identifier target.owner bucket key)))
      (copyObject target value headers now) := by
  refine .lift_bind (fun _ => isError_of_readCopySource) fun source known => ?_
  refine .lift_bind (fun _ => isError_of_copyAttributes) fun attributes? asked => ?_
  rw [← copyAttributes_eq asked, ← identifier_of_readCopySource names known]
  exact (Store.copy_brings source.identifier target.identifier attributes? now).shown
    (fun fault _ => isError_copyFault source target fault)
    fun object => Response.xml 200 (Xml.copyDocument object)

section

variable (user : User) (bucket key : String) {params : List Parameter} {headers : Headers}
  (body : Body) (now : Instant)

theorem putObject_brings (own : valueOf? params "uploadId" = none)
    (sent : headers.get? "x-amz-copy-source" = none) :
    Brings S3Fault.IsError
      (fun _ after => after.attributes? (Name.identifier user.userId bucket key) =
        some (attributesOf headers))
      (putObject user bucket key params headers body now) := by
  refine .lift_bind (fun _ => Address.isError_of) fun target known => ?_
  rw [own, sent, ← Address.identifier_of known]
  exact (Store.put_brings target.identifier (attributesOf headers) body now).shown
    (fun fault _ => S3Fault.isError_ofStore target.resource fault)
    fun object => etagResponse object.etag

theorem putObject_copies (own : valueOf? params "uploadId" = none) {value : FieldValue}
    (sent : headers.get? "x-amz-copy-source" = some value) {bucket' key' : String}
    (names : (valueText? value).bind copySource? = some (bucket', key')) :
    Brings S3Fault.IsError
      (fun before after => after.attributes? (Name.identifier user.userId bucket key) =
        (if Replaces headers then some (attributesOf headers) else none).or
          (before.attributes? (Name.identifier user.userId bucket' key')))
      (putObject user bucket key params headers body now) := by
  refine .lift_bind (fun _ => Address.isError_of) fun target known => ?_
  have owner : target.owner = user.userId := owner_of known
  rw [own, sent, ← Address.identifier_of known, ← owner]
  exact copyObject_brings target names headers now

theorem putObject_supplies {upload : String} (named : valueOf? params "uploadId" = some upload) :
    Brings S3Fault.IsError
      (fun before after => ∀ name, after.uploadAttributes? name = before.uploadAttributes? name)
      (putObject user bucket key params headers body now) := by
  refine .lift_bind (fun _ => Address.isError_of) fun target known => ?_
  rw [named]
  dsimp only
  cases valueOf? params "partNumber" with
  | none => exact .throw (Nat.le_refl 400)
  | some text =>
      refine .lift_bind (fun _ => isError_readPartNumber) fun number _ => ?_
      exact (Store.uploadPart_brings target.identifier upload body now number).shown
        (fun fault _ => S3Fault.isError_ofStore target.resource fault)
        fun part => etagResponse part.etag

theorem postObject_begins (begins : (valueOf? params "uploads").isSome) :
    Brings S3Fault.IsError
      (fun before after => ∀ name, before.sessions.find? name = none →
        (after.sessions.find? name).isSome →
        after.uploadAttributes? name = some (attributesOf headers))
      (postObject user bucket key params headers body now) := by
  refine .lift_bind (fun _ => Address.isError_of) fun target known => ?_
  rw [if_pos begins]
  exact (Store.beginUpload_brings target.identifier (attributesOf headers) now).shown
    (fun fault _ => S3Fault.isError_ofStore target.resource fault)
    fun begun => Response.xml 200 (Xml.uploadDocument target.bucket target.key begun.1)

theorem postObject_completes (begins : valueOf? params "uploads" = none) {upload : String}
    (named : valueOf? params "uploadId" = some upload) :
    Brings S3Fault.IsError
      (fun before after => after.attributes? (Name.identifier user.userId bucket key) =
        before.uploadAttributes? upload)
      (postObject user bucket key params headers body now) := by
  refine .lift_bind (fun _ => Address.isError_of) fun target known => ?_
  rw [if_neg (by simp [begins]), named, ← Address.identifier_of known]
  refine .lift_bind (fun _ => isError_of_readCompletion) fun requested _ => ?_
  exact (Store.complete_brings target.identifier upload now requested).shown
    (fun fault _ => S3Fault.isError_ofStore target.resource fault)
    fun object =>
      Response.xml 200 (Xml.completionDocument target.resource target.bucket target.key object)

end

end S3

/-! ## Requests that succeed -/

/-- A server comes from a store to the next: by a request, or when names of uploads are drawn. -/
inductive Steps (settings : Settings) (s : Store) : Store → Prop where
  | request (occasion : Occasion) (request : Request) :
      Steps settings s ((respond settings occasion request).run s).2
  | draw {next : Nat} (fresh : s.nextUpload ≤ next) :
      Steps settings s { s with nextUpload := next }

theorem Reached.steps {settings : Settings} {s t : Store} (reached : Reached settings s)
    (steps : Steps settings s t) : Reached settings t := by
  cases steps with
  | request occasion request => exact reached.request occasion request
  | draw fresh => exact reached.draw fresh

/-- A request of a user for an endpoint is answered without an error, and leaves a store. -/
inductive Succeeds (settings : Settings) (s : Store) (request : Request) (user : User)
    (endpoint : Endpoint) : Store → Prop where
  | answered (occasion : Occasion) (asks : AsksFor settings occasion request user endpoint)
      (well : ¬ IsError ((respond settings occasion request).run s).1.status) :
      Succeeds settings s request user endpoint ((respond settings occasion request).run s).2

namespace Succeeds

variable {settings : Settings} {s t : Store} {request : Request} {user : User}
  {endpoint : Endpoint} (succeeds : Succeeds settings s request user endpoint t)

include succeeds

theorem steps : Steps settings s t := by
  obtain ⟨occasion, -, -⟩ := succeeds
  exact .request occasion request

/-- What an endpoint brings about is brought about by a request that succeeds. -/
theorem brought {ε : Type} {expected : ε → Prop} {change : Shelf → Shelf → Prop}
    (render : Occasion → ε → Response)
    (action : Occasion → Body → ExceptT ε (StateM Store) Response) (sound : s.Sound)
    (answers : ∀ occasion body, answerUser settings occasion request body user endpoint =
      answering (render occasion) (action occasion body))
    (renders : ∀ occasion fault, expected fault → IsError (render occasion fault).status)
    (brings : ∀ occasion body, Brings expected change (action occasion body)) :
    change s.shelf t.shelf := by
  obtain ⟨occasion, asks, well⟩ := succeeds
  obtain ⟨body, -, responds⟩ := respond_run asks.authenticated asks.leads
  rw [responds, answers, Discreet.run_answering] at well ⊢
  cases ended : outcome (action occasion body) s with
  | mk result u =>
      rw [ended] at well
      cases result with
      | error fault =>
          have error := renders occasion fault ((brings occasion body).fails sound ended)
          refine absurd ?_ well
          rw [finish_status]
          exact error
      | ok response => exact (brings occasion body).changes sound ended

theorem native {change : Shelf → Shelf → Prop}
    (action : Occasion → Body → Native.Action Response) (sound : s.Sound)
    (answers : ∀ occasion body, answerUser settings occasion request body user endpoint =
      answerNative (action occasion body))
    (brings : ∀ occasion body, Brings NativeFault.IsError change (action occasion body)) :
    change s.shelf t.shelf :=
  succeeds.brought (fun _ => NativeFault.response) action sound answers (fun _ _ => id) brings

/-- What an operation on the identifier of a key brings about. -/
theorem on_identifier {α : Type} {change : String → Shelf → Shelf → Prop} {bucket : String}
    (names : NamesBucket request.headers bucket) (key : String)
    (act : Occasion → Body → String → Store.Action α) (answer : α → Response) (sound : s.Sound)
    (answers : ∀ occasion body, answerUser settings occasion request body user endpoint =
      answerNative (do
        let identifier ← Native.identifierOf user request.headers key
        return answer (← Native.fromStore (act occasion body identifier))))
    (brings : ∀ occasion body identifier,
      Brings (fun _ => True) (change identifier) (act occasion body identifier)) :
    change (Name.identifier user.userId bucket key) s.shelf t.shelf :=
  succeeds.native _ sound answers fun occasion body =>
    Native.on_identifier_brings names (brings occasion body) key answer

/-- A request with a parameter of an object twice does not succeed. -/
theorem s3 {change : Shelf → Shelf → Prop}
    (action : Occasion → Body → List Parameter → S3.Action Response) (sound : s.Sound)
    (answers : ∀ occasion body, answerUser settings occasion request body user endpoint =
      withQuery request.target S3.objectParameters fun params =>
        answerS3 occasion (action occasion body params))
    (brings : ∀ occasion body,
      Brings S3Fault.IsError change (action occasion body (parametersOf request))) :
    change s.shelf t.shelf := by
  cases once : repeatedName? S3.objectParameters (parametersOf request) with
  | none =>
      refine succeeds.brought (fun occasion fault => fault.response occasion.requestId)
        (fun occasion body => action occasion body (parametersOf request)) sound
        (fun occasion body => ?_) (fun occasion fault known => ?_) brings
      · rw [answers, withQuery_of_once once]
        rfl
      · rw [S3.status_response]
        exact known
  | some name =>
      obtain ⟨occasion, asks, well⟩ := succeeds
      obtain ⟨body, -, responds⟩ := respond_run asks.authenticated asks.leads
      have refused : (withQuery request.target S3.objectParameters fun params =>
          answerS3 occasion (action occasion body params)) = pure (repeatedParameter name) := by
        unfold parametersOf at once
        unfold withQuery
        dsimp only
        rw [once]
      refine absurd ?_ well
      rw [responds, answers, refused, finish_status]
      exact Nat.le_refl 400

end Succeeds

section

variable {settings : Settings} {s t : Store} {request : Request} {user : User}
  {bucket key old new : String} {change : Shelf → Shelf → Prop}

theorem Succeeds.putObject
    (succeeds : Succeeds settings s request user (.putObject bucket key) t) (sound : s.Sound)
    (brings : ∀ body now, Brings S3Fault.IsError change
      (S3.putObject user bucket key (parametersOf request) request.headers body now)) :
    change s.shelf t.shelf :=
  succeeds.s3
    (fun occasion body params =>
      S3.putObject user bucket key params request.headers body occasion.now)
    sound (fun _ _ => rfl) fun occasion body => brings body occasion.now

theorem Succeeds.postObject
    (succeeds : Succeeds settings s request user (.postObject bucket key) t) (sound : s.Sound)
    (brings : ∀ body now, Brings S3Fault.IsError change
      (S3.postObject user bucket key (parametersOf request) request.headers body now)) :
    change s.shelf t.shelf :=
  succeeds.s3
    (fun occasion body params =>
      S3.postObject user bucket key params request.headers body occasion.now)
    sound (fun _ _ => rfl) fun occasion body => brings body occasion.now

end

/-! ## What objects are written with -/

/-- A copy names its source. -/
def CopiesFrom (headers : Headers) (bucket key : String) : Prop :=
  (headers.text? "x-amz-copy-source").bind S3.copySource? = some (bucket, key)

/-- An upload of a name was begun with some header lines, and is still there. -/
inductive BegunWith (settings : Settings) : Store → String → Headers → Prop where
  | begun {s t : Store} {request : Request} {user : User} {bucket key name : String}
      (reached : Reached settings s)
      (succeeds : Succeeds settings s request user (.postObject bucket key) t)
      (begins : (valueOf? (parametersOf request) "uploads").isSome)
      (fresh : s.shelf.sessions.find? name = none)
      (there : (t.shelf.sessions.find? name).isSome) :
      BegunWith settings t name request.headers
  /-- A part of this or of another upload is stored. -/
  | supplied {s t : Store} {request : Request} {user : User} {bucket key name upload : String}
      {headers : Headers} (begun : BegunWith settings s name headers)
      (succeeds : Succeeds settings s request user (.putObject bucket key) t)
      (named : valueOf? (parametersOf request) "uploadId" = some upload) :
      BegunWith settings t name headers
  /-- Anything is done that leaves the upload as it is. -/
  | meanwhile {s t : Store} {name : String} {headers : Headers}
      (begun : BegunWith settings s name headers) (steps : Steps settings s t)
      (kept : t.shelf.sessions.find? name = s.shelf.sessions.find? name) :
      BegunWith settings t name headers

/-- The object under an identifier was written with some header lines. -/
inductive WrittenWith (settings : Settings) : Store → String → Headers → Prop where
  | put {s t : Store} {request : Request} {user : User} {bucket key : String}
      (reached : Reached settings s) (succeeds : Succeeds settings s request user (.put key) t)
      (names : NamesBucket request.headers bucket) :
      WrittenWith settings t (Name.identifier user.userId bucket key) request.headers
  | putObject {s t : Store} {request : Request} {user : User} {bucket key : String}
      (reached : Reached settings s)
      (succeeds : Succeeds settings s request user (.putObject bucket key) t)
      (own : valueOf? (parametersOf request) "uploadId" = none)
      (sent : request.headers.get? "x-amz-copy-source" = none) :
      WrittenWith settings t (Name.identifier user.userId bucket key) request.headers
  /-- An upload is completed to the object. -/
  | completed {s t : Store} {request : Request} {user : User} {bucket key upload : String}
      {headers : Headers} (begun : BegunWith settings s upload headers)
      (succeeds : Succeeds settings s request user (.postObject bucket key) t)
      (begins : valueOf? (parametersOf request) "uploads" = none)
      (named : valueOf? (parametersOf request) "uploadId" = some upload) :
      WrittenWith settings t (Name.identifier user.userId bucket key) headers
  /-- An object is copied here, and the request asks for other attributes. -/
  | replaced {s t : Store} {request : Request} {user : User} {bucket key bucket' key' : String}
      (reached : Reached settings s)
      (succeeds : Succeeds settings s request user (.putObject bucket key) t)
      (own : valueOf? (parametersOf request) "uploadId" = none)
      (copies : CopiesFrom request.headers bucket' key') (replaces : Replaces request.headers) :
      WrittenWith settings t (Name.identifier user.userId bucket key) request.headers
  /-- The object is copied here with its attributes. -/
  | copied {s t : Store} {request : Request} {user : User} {bucket key bucket' key' : String}
      {headers : Headers}
      (written : WrittenWith settings s (Name.identifier user.userId bucket' key') headers)
      (succeeds : Succeeds settings s request user (.putObject bucket key) t)
      (own : valueOf? (parametersOf request) "uploadId" = none)
      (copies : CopiesFrom request.headers bucket' key') (keeps : ¬ Replaces request.headers) :
      WrittenWith settings t (Name.identifier user.userId bucket key) headers
  | updated {s t : Store} {request : Request} {user : User} {bucket key : String}
      {headers : Headers}
      (written : WrittenWith settings s (Name.identifier user.userId bucket key) headers)
      (succeeds : Succeeds settings s request user (.update key) t)
      (names : NamesBucket request.headers bucket) :
      WrittenWith settings t (Name.identifier user.userId bucket key) headers
  | appended {s t : Store} {request : Request} {user : User} {bucket key : String}
      {headers : Headers}
      (written : WrittenWith settings s (Name.identifier user.userId bucket key) headers)
      (succeeds : Succeeds settings s request user (.append key) t)
      (names : NamesBucket request.headers bucket) :
      WrittenWith settings t (Name.identifier user.userId bucket key) headers
  | renamed {s t : Store} {request : Request} {user : User} {bucket old new : String}
      {headers : Headers}
      (written : WrittenWith settings s (Name.identifier user.userId bucket old) headers)
      (succeeds : Succeeds settings s request user (.rename old new) t)
      (names : NamesBucket request.headers bucket) :
      WrittenWith settings t (Name.identifier user.userId bucket new) headers
  /-- Anything is done that leaves the object as it is. -/
  | meanwhile {s t : Store} {identifier : String} {headers : Headers}
      (written : WrittenWith settings s identifier headers) (steps : Steps settings s t)
      (kept : t.shelf.objects.find? identifier = s.shelf.objects.find? identifier) :
      WrittenWith settings t identifier headers

section

variable {settings : Settings} {s : Store} {headers : Headers}

theorem CopiesFrom.names {bucket key : String} (copies : CopiesFrom headers bucket key) :
    ∃ value, headers.get? "x-amz-copy-source" = some value ∧
      (valueText? value).bind S3.copySource? = some (bucket, key) := by
  obtain ⟨text, shown, known⟩ := Option.bind_eq_some_iff.mp copies
  obtain ⟨value, sent, read⟩ := Option.bind_eq_some_iff.mp shown
  exact ⟨value, sent, by rw [read, Option.bind_some, known]⟩

/-- An upload keeps the attributes that it was begun with. -/
theorem BegunWith.holds {name : String} (begun : BegunWith settings s name headers) :
    Reached settings s ∧ s.shelf.uploadAttributes? name = some (attributesOf headers) := by
  induction begun with
  | begun reached succeeds begins fresh there =>
      refine ⟨reached.steps succeeds.steps, ?_⟩
      exact succeeds.postObject reached.sound
        (fun body now => S3.postObject_begins _ _ _ body now begins) _ fresh there
  | supplied _ succeeds named ih =>
      obtain ⟨reached, held⟩ := ih
      refine ⟨reached.steps succeeds.steps, ?_⟩
      have same := succeeds.putObject reached.sound
        (fun body now => S3.putObject_supplies _ _ _ body now named)
      exact (same _).trans held
  | meanwhile _ steps kept ih =>
      refine ⟨ih.1.steps steps, ?_⟩
      rw [Shelf.uploadAttributes?, kept]
      exact ih.2

/-- An object has the attributes that it was written with. -/
theorem WrittenWith.holds {identifier : String}
    (written : WrittenWith settings s identifier headers) :
    Reached settings s ∧ s.shelf.attributes? identifier = some (attributesOf headers) := by
  induction written with
  | @put _ _ request _ _ key reached succeeds names =>
      refine ⟨reached.steps succeeds.steps, ?_⟩
      exact succeeds.on_identifier names key
        (fun occasion body identifier =>
          Store.put identifier (attributesOf request.headers) body occasion.now)
        Native.report reached.sound (fun _ _ => rfl) fun occasion body identifier =>
          Store.put_brings identifier (attributesOf request.headers) body occasion.now
  | putObject reached succeeds own sent =>
      refine ⟨reached.steps succeeds.steps, ?_⟩
      exact succeeds.putObject reached.sound
        fun body now => S3.putObject_brings _ _ _ body now own sent
  | completed begun succeeds begins named =>
      obtain ⟨reached, held⟩ := begun.holds
      refine ⟨reached.steps succeeds.steps, ?_⟩
      have brought := succeeds.postObject reached.sound
        fun body now => S3.postObject_completes _ _ _ body now begins named
      exact brought.trans held
  | replaced reached succeeds own copies replaces =>
      obtain ⟨value, sent, source⟩ := copies.names
      refine ⟨reached.steps succeeds.steps, ?_⟩
      have brought := succeeds.putObject reached.sound
        fun body now => S3.putObject_copies _ _ _ body now own sent source
      rwa [if_pos replaces] at brought
  | copied _ succeeds own copies keeps ih =>
      obtain ⟨reached, held⟩ := ih
      obtain ⟨value, sent, source⟩ := copies.names
      refine ⟨reached.steps succeeds.steps, ?_⟩
      have brought := succeeds.putObject reached.sound
        fun body now => S3.putObject_copies _ _ _ body now own sent source
      rw [if_neg keeps] at brought
      exact brought.trans held
  | @updated _ _ _ _ _ key _ _ succeeds names ih =>
      obtain ⟨reached, held⟩ := ih
      refine ⟨reached.steps succeeds.steps, ?_⟩
      have brought := succeeds.on_identifier names key
        (fun occasion body identifier => Store.update identifier body occasion.now)
        Native.report reached.sound (fun _ _ => rfl) fun occasion body identifier =>
          Store.update_brings identifier body occasion.now
      exact brought.trans held
  | @appended _ _ _ _ _ key _ _ succeeds names ih =>
      obtain ⟨reached, held⟩ := ih
      refine ⟨reached.steps succeeds.steps, ?_⟩
      have brought := succeeds.on_identifier names key
        (fun occasion body identifier => Store.append identifier body occasion.now)
        Native.report reached.sound (fun _ _ => rfl) fun occasion body identifier =>
          Store.append_brings identifier body occasion.now
      exact brought.trans held
  | @renamed _ _ request user bucket old new _ _ succeeds names ih =>
      obtain ⟨reached, held⟩ := ih
      refine ⟨reached.steps succeeds.steps, ?_⟩
      have brought := succeeds.native
        (fun occasion _ => Native.rename user old new request.headers occasion.now)
        reached.sound (fun _ _ => rfl) fun occasion _ =>
          Native.rename_brings names old new occasion.now
      exact brought.trans held
  | meanwhile _ steps kept ih =>
      refine ⟨ih.1.steps steps, ?_⟩
      rw [Shelf.attributes?, Ledger.attributes?, kept]
      exact ih.2

/-- What is found where an object was written has its attributes. -/
theorem WrittenWith.found {identifier : String}
    (written : WrittenWith settings s identifier headers) :
    ∃ content, s.contentUnder identifier = .ok content ∧
      content.object.attributes = attributesOf headers := by
  obtain ⟨reached, held⟩ := written.holds
  obtain ⟨record, known, attributes⟩ := Option.map_eq_some_iff.mp held
  rw [Store.find?_shelf_objects, Option.map_eq_some_iff] at known
  obtain ⟨row, found, rfl⟩ := known
  exact ⟨s.contentAt identifier row, reached.sound.contentUnder_of_found found, attributes⟩

end

/-! ## Objects that are shown -/

/-- A response shows an object, or a range of it, with the attributes that were sent. -/
structure Shows (sent : Headers) (response : Response) : Prop where
  status : response.status = 200 ∨ response.status = 206
  carries : Carries sent response.headers

section

variable {sent : Headers} (named : sent.Named) {content : Content}
  (attributes : content.object.attributes = attributesOf sent)

include named attributes

theorem carries_objectResponse (status : Nat) (bytes : ByteArray) :
    Carries sent (S3.objectResponse status content.object bytes).headers :=
  (carries_describe named attributes).insertText (by decide) (by decide) "bytes"

theorem carries_rangeResponse (range : ByteRange) :
    Carries sent (S3.rangeResponse content range).headers := by
  have plain := carries_objectResponse named attributes 206
    (content.bytes.extract range.first (range.last + 1))
  have length := plain.insertText (by decide : "content-length" ≠ "content-type") (by decide)
    (decimal range.length)
  exact length.insertText (by decide : "content-range" ≠ "content-type") (by decide) _

theorem shows_objectResponse (method : String) (endpoint : Endpoint) (bytes : ByteArray) :
    Shows sent
      (finish method (.endpoint endpoint) (S3.objectResponse 200 content.object bytes)) where
  status := .inl (finish_status ..)
  carries := by
    rw [headers_finish method endpoint (S3.has_objectResponse 200 content.object bytes)]
    exact carries_objectResponse named attributes 200 bytes

theorem shows_rangeResponse (method : String) (endpoint : Endpoint) (range : ByteRange) :
    Shows sent (finish method (.endpoint endpoint) (S3.rangeResponse content range)) where
  status := .inr (finish_status ..)
  carries := by
    have states := Headers.has_of_getAll _ _
      (S3.getAll_rangeResponse_length content range ▸ List.mem_cons_self)
    rw [headers_finish method endpoint states]
    exact carries_rangeResponse named attributes range

theorem shows_answerAsked (endpoint : Endpoint) (resource requestId : String)
    (asked : RangeRequest) :
    let response := finish "GET" (.endpoint endpoint)
      (Discreet.rendered (S3Fault.response · requestId) (S3.answerAsked resource content asked))
    Shows sent response ∨ response.status = 416 ∧ asked = .unsatisfiable := by
  cases asked with
  | whole => exact .inl (shows_objectResponse named attributes "GET" endpoint content.bytes)
  | part range => exact .inl (shows_rangeResponse named attributes "GET" endpoint range)
  | unsatisfiable => exact .inr ⟨finish_status .., rfl⟩

theorem shows_describe (method : String) (endpoint : Endpoint) :
    Shows sent (finish method (.endpoint endpoint)
      ⟨200, describe Headers.empty content.object, content.bytes⟩) where
  status := .inl (finish_status ..)
  carries := by
    rw [headers_finish method endpoint (has_describe_length content.object)]
    exact carries_describe named attributes

end

/-- Whoever is refused a range has asked for one. -/
theorem get?_of_rangeAsked {headers : Headers} {size : Nat}
    (refused : rangeAsked headers size = .unsatisfiable) : (headers.get? "range").isSome := by
  unfold rangeAsked Headers.text? at refused
  cases sent : headers.get? "range" with
  | some value => rfl
  | none =>
      rw [sent] at refused
      cases refused

/-- **Attributes survive.**  An object that was written with some header lines is shown with the
attributes that they state, whatever became of it since: with the first content type, when that is
text, and with the last text of every name of user metadata, and no other metadata.  It is so for
the object and for every range of it in the one protocol, for its description, and for the object in
the other; only a range that holds no byte is refused. -/
theorem attributes_survive {settings : Settings} {s : Store} {headers : Headers} {user : User}
    {bucket key : String}
    (written : WrittenWith settings s (Name.identifier user.userId bucket key) headers)
    (named : Name.checkBucket bucket = .ok ()) (sent : headers.Named) (occasion : Occasion)
    (request : Request) :
    let done := (respond settings occasion request).run s
    (AsksFor settings occasion request user (.getObject bucket key) → AboutObject request →
      Shows headers done.1 ∨
        done.1.status = 416 ∧ (request.headers.get? "range").isSome) ∧
    (AsksFor settings occasion request user (.headObject bucket key) → Shows headers done.1) ∧
    (AsksFor settings occasion request user (.get key) → NamesBucket request.headers bucket →
      Shows headers done.1) := by
  have sound := written.holds.1.sound
  obtain ⟨content, there, attributes⟩ := written.found
  have found : S3.found s user bucket key = .ok content := by
    rw [S3.found_of_named named, there]
    rfl
  refine ⟨?_, ?_, ?_⟩
  · intro asks about
    rw [respond_getObject sound asks about, found]
    refine (shows_answerAsked sent attributes (.getObject bucket key) ("/" ++ bucket ++ "/" ++ key)
      occasion.requestId (rangeAsked request.headers content.bytes.size)).imp_right ?_
    rintro ⟨status, refused⟩
    exact ⟨status, get?_of_rangeAsked refused⟩
  · intro asks
    rw [respond_headObject sound asks, found]
    exact shows_objectResponse sent attributes "HEAD" (.headObject bucket key) ByteArray.empty
  · intro asks names
    rw [respond_get sound asks names named, there]
    exact shows_describe sent attributes request.method (.get key)

namespace KeyClient

/-- The user puts an object with a type and a word of metadata. -/
def describing : Request :=
  request "POST" "/put/k" [("content-type", "text/plain".toUTF8), ("x-amz-meta-a", "b".toUTF8)]
    (Body.ofBytes "x".toUTF8)

def described : Store := ((respond settings occasion describing).run Store.empty).2

theorem asksFor_describing :
    AsksFor settings occasion describing credential.user (.put "k") := by
  have native : Protocol.ofPath "/put/k" = .native := by decide
  have leads : Route.of "POST" "/put/k" = .endpoint (.put "k") := by decide +kernel
  exact asksFor native leads rfl _

theorem namesBucket_describing : NamesBucket describing.headers "put" :=
  namesBucket "POST" "/put/k" _ _

theorem describing_well :
    ¬ IsError ((respond settings occasion describing).run Store.empty).1.status := by
  have started : Store.empty.Sound := Reached.sound (.start : Reached settings _)
  have named : Name.checkBucket "put" = .ok () := rfl
  have valid : Name.checkIdentifier (Name.identifier credential.user.userId "put" "k") =
      .ok () := rfl
  have content : readable describing = .ok "x".toUTF8 := rfl
  exact not_isError_of_status
    (status_put started asksFor_describing namesBucket_describing named valid content)

def moving : Request := request "PUT" "/update_key/k/j" [] []

def moved : Store := ((respond settings occasion moving).run described).2

def appending : Request := request "POST" "/append/j" [] (Body.ofBytes "y".toUTF8)

def appended : Store := ((respond settings occasion appending).run moved).2

/-- The object was put with its header lines, then moved, then made longer. -/
theorem writtenWith_appended :
    WrittenWith settings appended (Name.identifier credential.user.userId "put" "j")
      describing.headers := by
  have put : WrittenWith settings described (Name.identifier credential.user.userId "put" "k")
      describing.headers :=
    .put .start (.answered occasion asksFor_describing describing_well) namesBucket_describing
  have moves : AsksFor settings occasion moving credential.user (.rename "k" "j") :=
    asksFor (by decide) (by decide +kernel) rfl _
  have movedWell : ¬ IsError ((respond settings occasion moving).run described).1.status := by
    unfold IsError
    decide +kernel
  have grows : AsksFor settings occasion appending credential.user (.append "j") :=
    asksFor (by decide) (by decide +kernel) rfl _
  have grownWell : ¬ IsError ((respond settings occasion appending).run moved).1.status := by
    unfold IsError
    decide +kernel
  have second : Succeeds settings described moving credential.user (.rename "k" "j") moved :=
    .answered occasion moves movedWell
  have third : Succeeds settings moved appending credential.user (.append "j") appended :=
    .answered occasion grows grownWell
  have there : WrittenWith settings moved (Name.identifier credential.user.userId "put" "j")
      describing.headers := .renamed put second (namesBucket "PUT" "/update_key/k/j" _ _)
  exact .appended there third (namesBucket "POST" "/append/j" _ _)

end KeyClient

/-- The metadata of an object that was put, moved and made longer are among the headers that
describe it. -/
theorem survives_append :
    let head := SignedClient.request "HEAD" ⟨none, "/s3/put/j", none⟩ [] []
    let response :=
      ((respond KeyClient.settings KeyClient.occasion head).run KeyClient.appended).1
    Shows KeyClient.describing.headers response ∧
      response.headers.getAll "x-amz-meta-a" = ["b".toUTF8] := by
  intro head response
  have sent : KeyClient.describing.headers.Named := by
    have all : KeyClient.describing.headers.lines.all
        fun line => fieldName? line.1 == some line.1 := by decide
    exact fun line member => eq_of_beq (List.all_eq_true.mp all line member)
  have asks : AsksFor KeyClient.settings KeyClient.occasion head KeyClient.credential.user
      (.headObject "put" "j") := SignedClient.asksFor (by decide +kernel) (by decide) rfl []
  have shows :=
    (attributes_survive KeyClient.writtenWith_appended rfl sent KeyClient.occasion head).2.1 asks
  refine ⟨shows, (shows.carries.metadata "x-amz-meta-a" (by decide)).trans ?_⟩
  decide

end Depot.Server

import Depot.Proofs.Server.Endpoints
import Depot.Proofs.Store.Blindness
import Depot.Server.Respond

/-!
# Endpoints that do not see the id of their user

Every endpoint of both protocols makes its identifiers from the id of the user
who asks, and shows keys only: the key of an identifier in reports and messages,
the keys below its bucket on pages.  So it comes to the same response for every
id, but for the list of buckets, which names its owner (`S3.listBuckets_blind`).
-/

namespace Depot.Server

set_option autoImplicit false

open Depot.Auth
open Depot.Http
open Depot.Name
open Depot.Text
open Depot.Time

variable (accessKey : String)

/-! ## The native protocol -/

namespace Native

/-- A message shows the key of an identifier at most. -/
theorem ofStore_owned (fault : StoreFault) {owner owner' : String} (isOwner : IsOwner owner)
    (isOwner' : IsOwner owner') :
    NativeFault.ofStore (fault.owned owner) = NativeFault.ofStore (fault.owned owner') := by
  cases fault with
  | notFound path =>
      simp [StoreFault.owned, NativeFault.ofStore, isOwner.keyOf_within, isOwner'.keyOf_within,
        StoreFault.kind]
  | conflict path =>
      simp [StoreFault.owned, NativeFault.ofStore, isOwner.keyOf_within, isOwner'.keyOf_within,
        StoreFault.kind]
  | _ => rfl

/-- The path of a key in the bucket that the headers name. -/
def pathOf (headers : Headers) (key : String) : Except NativeFault String := do
  let bucket ← bucketOf headers
  match checkBucket bucket with
  | .ok () => return bucket ++ "/" ++ key
  | .error fault => throw (.badRequest (fault.message bucket))

theorem identifierOf_within (owner : String) (headers : Headers) (key : String) :
    identifierOf ⟨owner, accessKey⟩ headers key =
      through (asIs owner) (within owner) (pathOf headers key) := by
  unfold identifierOf pathOf
  cases bucketOf headers with
  | error fault => rfl
  | ok bucket =>
      dsimp only [bind, Except.bind]
      rw [identifier_eq_within]
      cases checkBucket bucket <;> rfl

theorem identifierOf_blind (headers : Headers) (key : String) :
    Blind asIs within fun owner =>
      (liftM (identifierOf ⟨owner, accessKey⟩ headers key) : Action String) :=
  .lift (pathOf headers key) fun owner _ => identifierOf_within accessKey owner headers key

/-- An operation on one identifier, whose answer shows its key at most. -/
theorem on_path {α β : Type} {give : String → β → α} (headers : Headers) (key : String)
    (action : String → Store.Action α) (answer : α → Response)
    (acts : ∀ path, Blind StoreFault.owned give fun owner => action (within owner path))
    (sees : ∀ b {owner owner'}, IsOwner owner → IsOwner owner' →
      answer (give owner b) = answer (give owner' b)) :
    Blind asIs asIs fun owner => (do
      let identifier ← identifierOf ⟨owner, accessKey⟩ headers key
      return answer (← fromStore (action identifier)) : Action Response) := by
  refine .bind (identifierOf_blind accessKey headers key) fun path => ?_
  refine .bind ((acts path).adapt ofStore_owned) fun b => ?_
  exact .pure_same (sees b)

/-- A report shows the key of an identifier. -/
theorem report_owned (object : Object) {owner owner' : String} (isOwner : IsOwner owner)
    (isOwner' : IsOwner owner') : report (object.owned owner) = report (object.owned owner') := by
  have key : (object.owned owner).key = (object.owned owner').key :=
    (isOwner.keyOf_within _).trans (isOwner'.keyOf_within _).symm
  unfold report summary
  rw [key]
  rfl

theorem put_blind (key : String) (headers : Headers) (body : Body) (now : Instant) :
    Blind asIs asIs fun owner => put ⟨owner, accessKey⟩ key headers body now :=
  on_path accessKey headers key
    (fun identifier => Store.put identifier (attributesOf headers) body now) report
    (fun path => Store.put_blind path (attributesOf headers) body now) report_owned

theorem putForm_blind (forms : Form.Reader) (key : String) (headers : Headers)
    (boundary : String) (limit : Nat) (body : Body) (now : Instant) :
    Blind asIs asIs fun owner =>
      putForm forms ⟨owner, accessKey⟩ key headers boundary limit body now := by
  cases read : forms boundary limit body with
  | error fault =>
      simp only [putForm, read]
      refine .bind (identifierOf_blind accessKey headers key) fun _ => ?_
      exact .throw (.badRequest fault.message) fun _ _ => rfl
  | ok fields =>
      simp only [putForm, read]
      let pieces := fields.map FormField.content
      exact on_path accessKey headers key
        (fun identifier => Store.putPieces identifier (formAttributes fields) pieces now) report
        (fun path => Store.putPieces_blind path (formAttributes fields) pieces now) report_owned

theorem get_blind (key : String) (headers : Headers) :
    Blind asIs asIs fun owner => get ⟨owner, accessKey⟩ key headers :=
  on_path accessKey headers key Store.read
    (fun content => ⟨200, describe Headers.empty content.object, content.bytes⟩)
    Store.read_blind fun _ _ _ _ _ => rfl

theorem update_blind (key : String) (headers : Headers) (body : Body) (now : Instant) :
    Blind asIs asIs fun owner => update ⟨owner, accessKey⟩ key headers body now :=
  on_path accessKey headers key (fun identifier => Store.update identifier body now) report
    (fun path => Store.update_blind path body now) report_owned

theorem append_blind (key : String) (headers : Headers) (body : Body) (now : Instant) :
    Blind asIs asIs fun owner => append ⟨owner, accessKey⟩ key headers body now :=
  on_path accessKey headers key (fun identifier => Store.append identifier body now) report
    (fun path => Store.append_blind path body now) report_owned

theorem rename_blind (oldKey newKey : String) (headers : Headers) (now : Instant) :
    Blind asIs asIs fun owner => rename ⟨owner, accessKey⟩ oldKey newKey headers now := by
  unfold rename
  refine .bind (identifierOf_blind accessKey headers oldKey) fun old => ?_
  refine .bind (identifierOf_blind accessKey headers newKey) fun new => ?_
  refine .bind ((Store.rename_blind old new now).adapt ofStore_owned) fun object => ?_
  exact .pure_same (report_owned object)

theorem delete_blind (key : String) (headers : Headers) :
    Blind asIs asIs fun owner => delete ⟨owner, accessKey⟩ key headers :=
  on_path accessKey headers key Store.delete
    (fun _ => .json 200 (Json.objectText [("deleted", Json.quote key)]))
    Store.delete_blind fun _ _ _ _ _ => rfl

end Native

/-! ## Buckets -/

namespace S3

theorem ofStore_owned (resource : String) (fault : StoreFault) {owner owner' : String}
    (isOwner : IsOwner owner) (isOwner' : IsOwner owner') :
    S3Fault.ofStore (fault.owned owner) resource =
      S3Fault.ofStore (fault.owned owner') resource := by
  cases fault with
  | conflict path =>
      simp [StoreFault.owned, S3Fault.ofStore, isOwner.keyOf_within, isOwner'.keyOf_within]
  | _ => rfl

/-- The document of a page shows keys only. -/
theorem document_owned (owner bucket : String) (params : List Parameter) (stem : String)
    (delimiter? : Option String) (maxKeys : Nat) (page : Store.Page) :
    (listingOf bucket params stem delimiter? maxKeys (page.owned owner)).document =
      (listingOf bucket params stem delimiter? maxKeys page).document :=
  document_map (Store.PageEntry.owned owner) (Object.owned owner) (fun _ _ => rfl) (fun _ => rfl)
    (fun _ _ => rfl) bucket params stem delimiter? maxKeys page

theorem listObjects_blind (bucket : String) (params : List Parameter) (region : String) :
    Blind asIs asIs fun owner => listObjects ⟨owner, accessKey⟩ bucket params region := by
  have lists : Blind asIs asIs fun owner => (do
      let maxKeys ← readMaxKeys (bucketResource bucket) (valueOf? params "max-keys")
      let stem := (valueOf? params "prefix").getD ""
      let delimiter? := (valueOf? params "delimiter").filter (!·.isEmpty)
      let after? ← readResume (bucketResource bucket) params
      let page ← fromStore (bucketResource bucket) (Store.collectPage
        ⟨bucketScope owner bucket, stem, delimiter?, after?⟩ maxKeys)
      return .xml 200 (listingOf bucket params stem delimiter? maxKeys page).document
      : Action Response) := by
    refine .bind (.check (readMaxKeys (bucketResource bucket) (valueOf? params "max-keys")))
      fun maxKeys => ?_
    refine .bind (.check (readResume (bucketResource bucket) params)) fun after? => ?_
    simp only [bucketScope_eq_within]
    let request : Store.PageRequest := ⟨bucket ++ "/", (valueOf? params "prefix").getD "",
      (valueOf? params "delimiter").filter (!·.isEmpty), after?⟩
    refine .bind ((Store.collectPage_blind request maxKeys).adapt
      (ofStore_owned (bucketResource bucket))) fun page => ?_
    simp only [document_owned]
    exact .pure_same fun _ _ => rfl
  unfold listObjects
  refine .bind (.check (requireBucket bucket)) fun _ => ?_
  dsimp only
  split
  · exact .pure_same fun _ _ => rfl
  · split
    · split
      · exact .throw_same fun _ _ => rfl
      · exact lists
    · exact lists

/-- The list of the buckets names its owner, and nothing else in it depends on the owner. -/
theorem listBuckets_blind :
    Blind asIs (fun owner buckets => Response.xml 200 (Xml.bucketsDocument owner buckets))
      fun owner => listBuckets ⟨owner, accessKey⟩ := by
  have surveys : Blind asIs asIs fun owner =>
      fromStore "/" (Store.topLevel (ownerScope owner)) := by
    simp only [← within_empty]
    exact (Store.topLevel_blind "").adapt (ofStore_owned "/")
  unfold listBuckets
  exact .bind surveys fun segments =>
    .pure (segments.filter fun e => isBucketName e.1) fun _ _ => rfl

theorem holdsObject_blind (bucket : String) :
    Blind asIs asIs fun owner => holdsObject ⟨owner, accessKey⟩ bucket := by
  simp only [holdsObject, bucketScope_eq_within]
  exact (Store.anyUnder_blind (bucket ++ "/")).adapt (ofStore_owned (bucketResource bucket))

theorem headBucket_blind (bucket : String) :
    Blind asIs asIs fun owner => headBucket ⟨owner, accessKey⟩ bucket := by
  unfold headBucket
  refine .bind (.check (requireBucket bucket)) fun _ => ?_
  refine .bind (holdsObject_blind accessKey bucket) fun holds => ?_
  cases holds with
  | true => exact .pure (.ofStatus 200) fun _ _ => rfl
  | false => exact .throw (.noSuchBucket (bucketResource bucket)) fun _ _ => rfl

theorem deleteBucket_blind (bucket : String) :
    Blind asIs asIs fun owner => deleteBucket ⟨owner, accessKey⟩ bucket := by
  unfold deleteBucket
  refine .bind (.check (requireBucket bucket)) fun _ => ?_
  refine .bind (holdsObject_blind accessKey bucket) fun holds => ?_
  cases holds with
  | true => exact .throw (.bucketNotEmpty (bucketResource bucket)) fun _ _ => rfl
  | false => exact .pure (.ofStatus 204) fun _ _ => rfl

/-! ## Objects -/

namespace Address

def ownedBy (owner : String) (target : Address) : Address := { target with owner }

def path (target : Address) : String := target.bucket ++ "/" ++ target.key

theorem identifier_ownedBy (owner : String) (target : Address) :
    (target.ownedBy owner).identifier = within owner target.path :=
  identifier_eq_within owner target.bucket target.key

theorem of_ownedBy (owner bucket key : String) :
    Address.of owner bucket key =
      through (asIs owner) (ownedBy owner) (Address.of "" bucket key) := by
  unfold Address.of
  dsimp only
  split <;> rfl

end Address

theorem addressOf_blind (bucket key : String) :
    Blind asIs Address.ownedBy fun owner =>
      (liftM (Address.of owner bucket key) : Action Address) :=
  .lift (Address.of "" bucket key) fun owner _ => Address.of_ownedBy owner bucket key

/-- An operation on the addressed object, whose answer does not show its owner. -/
theorem on_address {α β : Type} {give : String → β → α} (target : Address)
    (action : String → Store.Action α) (answer : α → Response) (shown : β → Response)
    (acts : ∀ path, Blind StoreFault.owned give fun owner => action (within owner path))
    (sees : ∀ owner b, answer (give owner b) = shown b) :
    Blind asIs asIs fun owner => (do
      return answer (← (target.ownedBy owner).fromStore (action (target.ownedBy owner).identifier))
        : Action Response) := by
  simp only [Address.identifier_ownedBy]
  refine .bind ((acts target.path).adapt (ofStore_owned target.resource)) fun b => ?_
  exact .pure (shown b) fun owner _ => sees owner b

section

variable (target : Address)

theorem beginUpload_blind (headers : Headers) (now : Instant) :
    Blind asIs asIs fun owner => beginUpload (target.ownedBy owner) headers now := by
  let answer (begun : String × Upload) : Response :=
    .xml 200 (Xml.uploadDocument target.bucket target.key begun.1)
  exact on_address target
    (fun identifier => Store.beginUpload identifier (attributesOf headers) now) answer answer
    (fun path => Store.beginUpload_blind path (attributesOf headers) now) fun _ _ => rfl

theorem uploadPart_blind (upload number : String) (body : Body) (now : Instant) :
    Blind asIs asIs fun owner => uploadPart (target.ownedBy owner) upload number body now := by
  unfold uploadPart
  refine .bind (.check (readPartNumber target number)) fun n => ?_
  let answer (part : Part) : Response := etagResponse part.etag
  exact on_address target (fun identifier => Store.uploadPart upload identifier n body now)
    answer answer (fun path => Store.uploadPart_blind path upload n body now) fun _ _ => rfl

theorem completeUpload_blind (upload : String) (body : Body) (now : Instant) :
    Blind asIs asIs fun owner => completeUpload (target.ownedBy owner) upload body now := by
  unfold completeUpload
  refine .bind (.check (readCompletion target body)) fun requested => ?_
  let answer (object : Object) : Response :=
    .xml 200 (Xml.completionDocument target.resource target.bucket target.key object)
  exact on_address target (fun identifier => Store.complete upload identifier requested now)
    answer answer (fun path => Store.complete_blind path upload requested now) fun _ _ => rfl

theorem abortUpload_blind (upload : String) :
    Blind asIs asIs fun owner => abortUpload (target.ownedBy owner) upload :=
  on_address target (Store.abort upload) (fun _ => .ofStatus 204) (fun _ => .ofStatus 204)
    (fun path => Store.abort_blind path upload) fun _ _ => rfl

theorem listParts_blind (upload : String) :
    Blind asIs asIs fun owner => listParts (target.ownedBy owner) upload := by
  let answer (parts : List (Nat × Part)) : Response :=
    .xml 200 (Xml.partsDocument target.bucket target.key upload
      (parts.map fun e => Xml.ListedPart.ofPart e.1 e.2))
  exact on_address target (Store.listParts upload) answer answer
    (fun path => Store.listParts_blind path upload) fun _ _ => rfl

theorem copyFault_owned (source : Address) (fault : StoreFault) {owner owner' : String}
    (isOwner : IsOwner owner) (isOwner' : IsOwner owner') :
    copyFault (source.ownedBy owner) (target.ownedBy owner) (fault.owned owner) =
      copyFault (source.ownedBy owner') (target.ownedBy owner') (fault.owned owner') := by
  cases fault with
  | conflict path => exact ofStore_owned target.resource (.conflict path) isOwner isOwner'
  | _ => rfl

theorem readCopySource_ownedBy (owner : String) (value : FieldValue) :
    readCopySource (target.ownedBy owner) value =
      through (asIs owner) (Address.ownedBy owner) (readCopySource (target.ownedBy "") value) := by
  unfold readCopySource
  split
  · exact Address.of_ownedBy owner _ _
  · rfl

theorem copyObject_blind (value : FieldValue) (headers : Headers) (now : Instant) :
    Blind asIs asIs fun owner => copyObject (target.ownedBy owner) value headers now := by
  unfold copyObject
  refine .bind (.lift (readCopySource (target.ownedBy "") value) fun owner _ =>
    readCopySource_ownedBy target owner value) fun source => ?_
  refine .bind (.check (copyAttributes target headers)) fun attributes? => ?_
  simp only [Address.identifier_ownedBy]
  refine .bind ((Store.copy_blind source.path target.path attributes? now).adapt
    (copyFault_owned target source)) fun object => ?_
  exact .pure (.xml 200 (Xml.copyDocument object)) fun _ _ => rfl

theorem wholeObject_blind (size : Int) :
    Blind asIs asIs fun owner => wholeObject (target.ownedBy owner) size := by
  have reads (path : String) : Blind StoreFault.owned Content.owned fun owner =>
      (if size ≤ checkedReadLimit then Store.read (within owner path)
        else Store.peek (within owner path)) := by
    split
    · exact Store.read_blind path
    · exact Store.peek_blind path
  let answer (content : Content) : Response := objectResponse 200 content.object content.bytes
  exact on_address target
    (fun identifier =>
      if size ≤ checkedReadLimit then Store.read identifier else Store.peek identifier)
    answer answer reads fun _ _ => rfl

theorem partialObject_blind (range : ByteRange) :
    Blind asIs asIs fun owner => partialObject (target.ownedBy owner) range := by
  simp only [partialObject, Address.identifier_ownedBy]
  refine .bind ((Store.peek_blind target.path).adapt (ofStore_owned target.resource))
    fun content => ?_
  have size (owner : String) : (content.owned owner).object.size = content.object.size := rfl
  by_cases short : content.object.size.toNat ≤ range.first
  · simp only [size, if_pos short]
    exact .throw (.invalidRange target.resource) fun _ _ => rfl
  · simp only [size, if_neg short]
    exact .pure_same fun _ _ => rfl

theorem removeIfThere_blind (path : String) :
    Blind StoreFault.owned asIs fun owner => removeIfThere (within owner path) := by
  unfold removeIfThere
  refine .tryCatch ?_ fun fault => ?_
  · exact .bind (Store.delete_blind path) fun _ => .pure () fun _ _ => rfl
  · cases fault with
    | notFound path => exact .pure () fun _ _ => rfl
    | _ => exact .throw _ fun _ _ => rfl

end

theorem putObject_blind (bucket key : String) (params : List Parameter) (headers : Headers)
    (body : Body) (now : Instant) :
    Blind asIs asIs fun owner =>
      putObject ⟨owner, accessKey⟩ bucket key params headers body now := by
  unfold putObject
  refine .bind (addressOf_blind bucket key) fun target => ?_
  split
  · split
    · exact uploadPart_blind target _ _ body now
    · exact .throw_same fun _ _ => rfl
  · split
    · exact copyObject_blind target _ headers now
    · exact on_address target
        (fun identifier => Store.put identifier (attributesOf headers) body now)
        (fun object => etagResponse object.etag) (fun object => etagResponse object.etag)
        (fun path => Store.put_blind path (attributesOf headers) body now)
        fun owner object =>
          congrArg etagResponse (rfl : (object.owned owner).etag = object.etag)

theorem postObject_blind (bucket key : String) (params : List Parameter) (headers : Headers)
    (body : Body) (now : Instant) :
    Blind asIs asIs fun owner =>
      postObject ⟨owner, accessKey⟩ bucket key params headers body now := by
  unfold postObject
  refine .bind (addressOf_blind bucket key) fun target => ?_
  split
  · exact beginUpload_blind target headers now
  · split
    · exact completeUpload_blind target _ body now
    · exact .throw_same fun _ _ => rfl

theorem deleteObject_blind (bucket key : String) (params : List Parameter) :
    Blind asIs asIs fun owner => deleteObject ⟨owner, accessKey⟩ bucket key params := by
  unfold deleteObject
  refine .bind (addressOf_blind bucket key) fun target => ?_
  split
  · exact abortUpload_blind target _
  · exact on_address target removeIfThere (fun _ => .ofStatus 204) (fun _ => .ofStatus 204)
      removeIfThere_blind fun _ _ => rfl

theorem headObject_blind (bucket key : String) :
    Blind asIs asIs fun owner => headObject ⟨owner, accessKey⟩ bucket key := by
  unfold headObject
  refine .bind (addressOf_blind bucket key) fun target => ?_
  let answer (object : Object) : Response := objectResponse 200 object ByteArray.empty
  exact on_address target Store.head answer answer Store.head_blind fun _ _ => rfl

theorem getObject_blind (bucket key : String) (params : List Parameter) (headers : Headers) :
    Blind asIs asIs fun owner =>
      getObject ⟨owner, accessKey⟩ bucket key params headers := by
  unfold getObject
  refine .bind (addressOf_blind bucket key) fun target => ?_
  split
  · exact listParts_blind target _
  · simp only [Address.identifier_ownedBy]
    refine .bind ((Store.head_blind target.path).adapt (ofStore_owned target.resource))
      fun object => ?_
    dsimp only [Object.owned]
    split
    · exact wholeObject_blind target object.size
    · split
      · exact partialObject_blind target _
      · exact wholeObject_blind target object.size
      · exact .throw_same fun _ _ => rfl

end S3

end Depot.Server

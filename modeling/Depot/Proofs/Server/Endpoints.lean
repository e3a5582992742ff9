import Depot.Proofs.Store.Privacy
import Depot.Server.Native
import Depot.Server.Object

/-!
# Endpoints are private

Every endpoint of both protocols makes its identifiers and beginnings from the
user who asks, so it is private to that user, whatever keys, buckets or uploads
the request names.
-/

namespace Depot.Server

set_option autoImplicit false

open Depot.Auth
open Depot.Http
open Depot.Name
open Depot.Text
open Depot.Time

variable {user : User}

/-! ## The native protocol -/

namespace Native

theorem inScope_identifierOf {headers : Headers} {key identifier : String}
    (known : identifierOf user headers key = .ok identifier) :
    inScope user.userId identifier := by
  unfold identifierOf at known
  cases named : bucketOf headers with
  | error fault =>
      rw [named] at known
      cases known
  | ok bucket =>
      rw [named] at known
      dsimp only [bind, Except.bind] at known
      split at known
      · cases known
        exact inScope_identifier user.userId bucket key
      · cases known

/-- An operation on one identifier of the user, whose answer is only shown. -/
theorem on_identifier {α : Type} {see : α → α} {headers : Headers} {key : String}
    {action : String → Store.Action α} {answer : α → Response}
    (acts : ∀ identifier, inScope user.userId identifier →
      Private user.userId see (action identifier))
    (sees : ∀ a, answer a = answer (see a)) :
    Private user.userId id (do
      let identifier ← identifierOf user headers key
      return answer (← fromStore (action identifier)) : Action Response) := by
  refine .lift_bind fun identifier known => ?_
  exact ((acts identifier (inScope_identifierOf known)).adapt NativeFault.ofStore).bind
    (fun a => by rw [sees]) fun _ => .pure _

theorem put_private (key : String) (headers : Headers) (body : Body) (now : Instant) :
    Private user.userId id (put user key headers body now) :=
  on_identifier (fun _ mine => Store.put_private mine (attributesOf headers) body now)
    fun _ => rfl

theorem putForm_private (forms : Form.Reader) (key : String) (headers : Headers)
    (boundary : String) (limit : Nat) (body : Body) (now : Instant) :
    Private user.userId id (putForm forms user key headers boundary limit body now) := by
  refine .lift_bind fun identifier known => ?_
  cases forms boundary limit body with
  | error fault => exact .throw _
  | ok fields =>
      have stores := Store.putPieces_private (inScope_identifierOf known) (formAttributes fields)
        (fields.map FormField.content) now
      exact (stores.adapt NativeFault.ofStore).bind (fun _ => rfl) fun _ => .pure _

theorem get_private (key : String) (headers : Headers) :
    Private user.userId id (get user key headers) :=
  on_identifier (fun _ mine => Store.read_private mine) fun _ => rfl

theorem update_private (key : String) (headers : Headers) (body : Body) (now : Instant) :
    Private user.userId id (update user key headers body now) :=
  on_identifier (fun _ mine => Store.update_private mine body now) fun _ => rfl

theorem append_private (key : String) (headers : Headers) (body : Body) (now : Instant) :
    Private user.userId id (append user key headers body now) :=
  on_identifier (fun _ mine => Store.append_private mine body now) fun _ => rfl

theorem rename_private (oldKey newKey : String) (headers : Headers) (now : Instant) :
    Private user.userId id (rename user oldKey newKey headers now) := by
  refine .lift_bind fun old known => .lift_bind fun new known' => ?_
  have moves := Store.rename_private (inScope_identifierOf known) (inScope_identifierOf known') now
  exact (moves.adapt NativeFault.ofStore).bind (fun _ => rfl) fun _ => .pure _

theorem delete_private (key : String) (headers : Headers) :
    Private user.userId id (delete user key headers) :=
  on_identifier (fun _ mine => Store.delete_private mine) fun _ => rfl

end Native

/-! ## Buckets -/

namespace S3

/-- The document of a page shows of its objects what their elements show. -/
theorem document_map (f : Store.PageEntry → Store.PageEntry) (change : Object → Object)
    (onObject : ∀ key object, f (.object key object) = .object key (change object))
    (onStem : ∀ stem, f (.commonStem stem) = .commonStem stem)
    (shown : ∀ key object, Xml.contentsElement key (change object) = Xml.contentsElement key object)
    (bucket : String) (params : List Parameter) (stem : String) (delimiter? : Option String)
    (maxKeys : Nat) (page : Store.Page) :
    (listingOf bucket params stem delimiter? maxKeys
      { page with entries := page.entries.map f }).document =
      (listingOf bucket params stem delimiter? maxKeys page).document := by
  let listing := listingOf bucket params stem delimiter? maxKeys page
  let listing' :=
    listingOf bucket params stem delimiter? maxKeys { page with entries := page.entries.map f }
  have contents : listing'.contents = listing.contents.map fun e => (e.1, change e.2) := by
    simp only [listing, listing', listingOf, List.filterMap_map, List.map_filterMap]
    congr 1
    funext entry
    cases entry with
    | object key object => simp [onObject]
    | commonStem stem => simp [onStem]
  have stems : listing'.commonStems = listing.commonStems := by
    simp only [listing, listing', listingOf, List.filterMap_map]
    congr 1
    funext entry
    cases entry with
    | object key object => simp [onObject]
    | commonStem stem => simp [onStem]
  show listing'.document = listing.document
  unfold Xml.Listing.document
  rw [contents, stems, List.length_map, List.map_map]
  simp only [Function.comp_def, shown]
  rfl

/-- The document of a page does not show the numbers of blobs. -/
theorem document_unnumbered (bucket : String) (params : List Parameter) (stem : String)
    (delimiter? : Option String) (maxKeys : Nat) (page : Store.Page) :
    (listingOf bucket params stem delimiter? maxKeys page.unnumbered).document =
      (listingOf bucket params stem delimiter? maxKeys page).document :=
  document_map Store.PageEntry.unnumbered Object.unnumbered (fun _ _ => rfl) (fun _ => rfl)
    (fun _ _ => rfl) bucket params stem delimiter? maxKeys page

theorem listObjects_private (bucket : String) (params : List Parameter) (region : String) :
    Private user.userId id (listObjects user bucket params region) := by
  have lists (_ : Unit) : Private user.userId id (do
      let maxKeys ← readMaxKeys (bucketResource bucket) (valueOf? params "max-keys")
      let stem := (valueOf? params "prefix").getD ""
      let delimiter? := (valueOf? params "delimiter").filter (!·.isEmpty)
      let after? ← readResume (bucketResource bucket) params
      let page ← fromStore (bucketResource bucket) (Store.collectPage
        ⟨bucketScope user.userId bucket, stem, delimiter?, after?⟩ maxKeys)
      return .xml 200 (listingOf bucket params stem delimiter? maxKeys page).document
      : Action Response) := by
    refine .lift_bind fun maxKeys _ => .lift_bind fun after? _ => ?_
    have collects : Private user.userId Store.Page.unnumbered (Store.collectPage
        ⟨bucketScope user.userId bucket, (valueOf? params "prefix").getD "",
          (valueOf? params "delimiter").filter (!·.isEmpty), after?⟩ maxKeys) :=
      Store.collectPage_private (bucketScope_beginsWith user.userId bucket) maxKeys
    exact (collects.adapt _).bind (fun page => by rw [document_unnumbered]) fun _ => .pure _
  unfold listObjects
  refine .lift_bind fun _ _ => ?_
  dsimp only
  split
  · exact .pure _
  · split
    · split
      · exact .throw _
      · exact lists ()
    · exact lists ()

theorem listBuckets_private : Private user.userId id (listBuckets user) := by
  have within : beginsWith (ownerScope user.userId) (ownerScope user.userId) := by
    simp [beginsWith]
  exact ((Store.topLevel_private within).adapt _).bind (fun _ => rfl) fun _ => .pure _

theorem holdsObject_private (bucket : String) :
    Private user.userId id (holdsObject user bucket) :=
  (Store.anyUnder_private (bucketScope_beginsWith user.userId bucket)).adapt _

theorem headBucket_private (bucket : String) :
    Private user.userId id (headBucket user bucket) := by
  refine .lift_bind fun _ _ => (holdsObject_private bucket).bind (fun _ => rfl) fun holds => ?_
  cases holds with
  | true => exact .pure _
  | false => exact .throw _

theorem deleteBucket_private (bucket : String) :
    Private user.userId id (deleteBucket user bucket) := by
  refine .lift_bind fun _ _ => (holdsObject_private bucket).bind (fun _ => rfl) fun holds => ?_
  cases holds with
  | true => exact .throw _
  | false => exact .pure _

/-! ## Objects -/

theorem owner_of {owner bucket key : String} {address : Address}
    (known : Address.of owner bucket key = .ok address) : address.owner = owner := by
  unfold Address.of at known
  split at known
  · cases known
    rfl
  · cases known

/-- The identifier of an address is one of its owner. -/
theorem Address.inScope_identifier (address : Address) :
    inScope address.owner address.identifier :=
  Name.inScope_identifier address.owner address.bucket address.key

/-- An operation on the addressed object, whose answer is only shown. -/
theorem Address.on_identifier {α : Type} {see : α → α} (target : Address)
    {action : Store.Action α} {answer : α → Response} (acts : Private target.owner see action)
    (sees : ∀ a, answer a = answer (see a)) :
    Private target.owner id (do
      return answer (← target.fromStore action) : Action Response) :=
  (acts.adapt (S3Fault.ofStore · target.resource)).bind (fun a => by rw [sees]) fun _ => .pure _

section

variable (target : Address)

theorem beginUpload_private (headers : Headers) (now : Instant) :
    Private target.owner id (beginUpload target headers now) :=
  target.on_identifier (Store.beginUpload_private target.inScope_identifier _ now) fun _ => rfl

theorem uploadPart_private (upload number : String) (body : Body) (now : Instant) :
    Private target.owner id (uploadPart target upload number body now) :=
  .lift_bind fun number _ => target.on_identifier
    (Store.uploadPart_private target.inScope_identifier upload number body now) fun _ => rfl

theorem completeUpload_private (upload : String) (body : Body) (now : Instant) :
    Private target.owner id (completeUpload target upload body now) :=
  .lift_bind fun requested _ => target.on_identifier
    (Store.complete_private target.inScope_identifier upload requested now) fun _ => rfl

theorem abortUpload_private (upload : String) :
    Private target.owner id (abortUpload target upload) :=
  target.on_identifier (Store.abort_private target.inScope_identifier upload) fun _ => rfl

theorem listParts_private (upload : String) :
    Private target.owner id (listParts target upload) := by
  refine target.on_identifier (Store.listParts_private target.inScope_identifier upload) ?_
  intro parts
  rw [List.map_map]
  rfl

theorem copyObject_private (value : FieldValue) (headers : Headers) (now : Instant) :
    Private target.owner id (copyObject target value headers now) := by
  refine .lift_bind fun source known => .lift_bind fun attributes? _ => ?_
  have mine : inScope target.owner source.identifier := by
    unfold readCopySource at known
    split at known
    · exact owner_of known ▸ source.inScope_identifier
    · cases known
  have copies := Store.copy_private target.inScope_identifier mine attributes? now
  exact (copies.adapt (copyFault source target)).bind (fun _ => rfl) fun _ => .pure _

theorem wholeObject_private (size : Int) : Private target.owner id (wholeObject target size) := by
  have reads : Private target.owner Content.unnumbered
      (if size ≤ checkedReadLimit then Store.read target.identifier
        else Store.peek target.identifier) := by
    split
    · exact Store.read_private target.inScope_identifier
    · exact Store.peek_private target.inScope_identifier
  exact target.on_identifier reads fun _ => rfl

theorem partialObject_private (range : ByteRange) :
    Private target.owner id (partialObject target range) := by
  have looked :=
    (Store.peek_private target.inScope_identifier).adapt (S3Fault.ofStore · target.resource)
  refine looked.bind (fun _ => rfl) fun content => ?_
  dsimp only
  split
  · exact .throw _
  · exact .pure _

theorem removeIfThere_private {owner identifier : String} (mine : inScope owner identifier) :
    Private owner id (removeIfThere identifier) := by
  refine .tryCatch ?_ fun fault => ?_
  · exact (Store.delete_private mine).bind (fun _ => rfl) fun _ => .pure _
  · cases fault with
    | notFound identifier => exact .pure _
    | _ => exact .throw _

end

theorem putObject_private (bucket key : String) (params : List Parameter) (headers : Headers)
    (body : Body) (now : Instant) :
    Private user.userId id (putObject user bucket key params headers body now) := by
  refine .lift_bind fun target known => ?_
  rw [← owner_of known]
  split
  · split
    · exact uploadPart_private target _ _ body now
    · exact .throw _
  · split
    · exact copyObject_private target _ headers now
    · exact target.on_identifier
        (Store.put_private target.inScope_identifier (attributesOf headers) body now) fun _ => rfl

theorem postObject_private (bucket key : String) (params : List Parameter) (headers : Headers)
    (body : Body) (now : Instant) :
    Private user.userId id (postObject user bucket key params headers body now) := by
  refine .lift_bind fun target known => ?_
  rw [← owner_of known]
  split
  · exact beginUpload_private target headers now
  · split
    · exact completeUpload_private target _ body now
    · exact .throw _

theorem deleteObject_private (bucket key : String) (params : List Parameter) :
    Private user.userId id (deleteObject user bucket key params) := by
  refine .lift_bind fun target known => ?_
  rw [← owner_of known]
  split
  · exact abortUpload_private target _
  · exact target.on_identifier (removeIfThere_private target.inScope_identifier) fun _ => rfl

theorem headObject_private (bucket key : String) :
    Private user.userId id (headObject user bucket key) := by
  refine .lift_bind fun target known => ?_
  rw [← owner_of known]
  exact target.on_identifier (Store.head_private target.inScope_identifier) fun _ => rfl

theorem getObject_private (bucket key : String) (params : List Parameter) (headers : Headers) :
    Private user.userId id (getObject user bucket key params headers) := by
  refine .lift_bind fun target known => ?_
  rw [← owner_of known]
  split
  · exact listParts_private target _
  · refine ((Store.head_private target.inScope_identifier).adapt _).bind (fun _ => rfl) ?_
    intro object
    split
    · exact wholeObject_private target object.size
    · split
      · exact partialObject_private target _
      · exact wholeObject_private target object.size
      · exact .throw _

end S3

end Depot.Server

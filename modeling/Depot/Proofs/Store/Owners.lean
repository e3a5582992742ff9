import Depot.Proofs.Store.Pages

/-!
# Owners before paths

What the store keeps for an owner stands under identifiers that begin with the
owner and its mark; what follows is the path of an object.  A store of paths
becomes the store of an owner when the owner is put before every path
(`Store.owned`), and nothing that the store looks up, checks, sorts or cuts
depends on which owner that is: the length of an identifier counts without it
(`IsOwner.checkIdentifier_within`), the order of identifiers is that of their
paths, and a page shows the same keys (`fillFrom_owned`).
-/

namespace Depot

set_option autoImplicit false

open Depot.Text
open Depot.Time

/-! ## Identifiers -/

namespace Name

/-- A text that can be the owner of identifiers: not empty, and free of control characters. -/
structure IsOwner (owner : String) : Prop where
  filled : owner.isEmpty = false
  clean : owner.toList.any isControl = false

def within (owner path : String) : String := ownerScope owner ++ path

/-- Checks that a path can follow an owner. -/
def checkPath (path : String) : Except IdentifierFault Unit :=
  if path.isEmpty then .error .empty
  else if maxIdentifierLength < path.utf8ByteSize then .error .tooLong
  else if path.toList.any isControl then .error .control
  else .ok ()

/-- The key in a path: what follows the bucket. -/
def keyOfPath (path : String) : String :=
  match cutString '/' path with
  | some (_, key) => key
  | none => path

theorem within_empty (owner : String) : within owner "" = ownerScope owner := String.append_empty

theorem within_append (owner path rest : String) :
    within owner path ++ rest = within owner (path ++ rest) := String.append_assoc

theorem bucketScope_eq_within (owner bucket : String) :
    bucketScope owner bucket = within owner (bucket ++ "/") := String.append_assoc

theorem identifier_eq_within (owner bucket key : String) :
    identifier owner bucket key = within owner (bucket ++ "/" ++ key) :=
  identifier_eq_append owner bucket key

theorem toList_within (owner path : String) :
    (within owner path).toList = (ownerScope owner).toList ++ path.toList := by
  simp [within]

theorem within_inj (owner a b : String) : within owner a = within owner b ↔ a = b := by
  rw [← String.toList_inj, toList_within, toList_within, List.append_right_inj,
    String.toList_inj]

theorem within_lt (owner a b : String) : within owner a < within owner b ↔ a < b :=
  Store.string_append_lt_append_iff

/-- What follows a beginning of an owner is what follows it in the paths. -/
theorem drop_within (owner path beginning : String) :
    (within owner path).toList.drop (within owner beginning).length =
      path.toList.drop beginning.length := by
  have length : (within owner beginning).length =
      (ownerScope owner).toList.length + beginning.length := by
    rw [within, String.length_append, String.length_toList]
  rw [toList_within, length, List.drop_append]
  simp

theorem beginsWith_within (owner beginning path : String) :
    beginsWith (within owner beginning) (within owner path) = beginsWith beginning path := by
  have same : (within owner beginning).toList <+: (within owner path).toList ↔
      beginning.toList <+: path.toList := by
    rw [toList_within, toList_within, List.prefix_append_right_inj]
  rw [Bool.eq_iff_iff, beginsWith, beginsWith, List.isPrefixOf_iff_prefix,
    List.isPrefixOf_iff_prefix, same]

namespace IsOwner

variable {owner : String} (isOwner : IsOwner owner)

include isOwner

theorem free_of {c : Char} (control : isControl c = true) : c ∉ owner.toList := by
  intro member
  exact absurd control (List.any_eq_false.mp isOwner.clean c member)

theorem splitOwner_within (path : String) :
    splitOwner (within owner path) = (some owner, path) := by
  have whole : (within owner path).toList = owner.toList ++ ownerMark :: path.toList := by
    simp [within, ownerScope]
  have cut : cutString ownerMark (within owner path) = some (owner, path) := by
    rw [cutString, whole, cutAt_append (isOwner.free_of (by decide))]
    simp
  rw [splitOwner, cut]

/-- **An identifier is checked as its path is**, whoever the owner is. -/
theorem checkIdentifier_within (path : String) :
    checkIdentifier (within owner path) = checkPath path := by
  unfold checkIdentifier checkPath
  rw [isOwner.splitOwner_within]
  simp [isOwner.filled, isOwner.clean]

/-- **The key of an identifier is that of its path.** -/
theorem keyOf_within (path : String) : keyOf (within owner path) = keyOfPath path := by
  rw [keyOf, isOwner.splitOwner_within]
  rfl

/-- The rows compare a beginning up to a NUL, and an owner has none. -/
theorem isUnder_within (beginning path : String) :
    Store.isUnder (within owner beginning) (within owner path) = Store.isUnder beginning path := by
  have free : '\x00' ∉ (ownerScope owner).toList := by
    have own : '\x00' ∉ owner.toList := isOwner.free_of (by decide)
    simpa [ownerScope, ownerMark] using own
  rw [Store.isUnder, Store.isUnder, beginsWith_within, toList_within]
  simp [free]

end IsOwner

theorem within_ne_empty (owner path : String) : within owner path ≠ "" := by
  intro same
  have lists := congrArg String.toList same
  simp [within, ownerScope] at lists

end Name

/-! ## What an owner has -/

open Name

def Object.owned (owner : String) (object : Object) : Object :=
  { object with identifier := within owner object.identifier }

def Content.owned (owner : String) (content : Content) : Content :=
  { content with object := content.object.owned owner }

def Upload.owned (owner : String) (upload : Upload) : Upload :=
  { upload with identifier := within owner upload.identifier }

def UploadRow.owned (owner : String) (row : UploadRow) : UploadRow :=
  { row with identifier := within owner row.identifier }

/-- The fault about a path of an owner. -/
def StoreFault.owned (owner : String) : StoreFault → StoreFault
  | .notFound path => .notFound (within owner path)
  | .conflict path => .conflict (within owner path)
  | .invalidIdentifier path reason => .invalidIdentifier (within owner path) reason
  | .corrupted path expected actual => .corrupted (within owner path) expected actual
  | fault => fault

/-- A result with its value and its fault each through a function. -/
def through {ε φ α β : Type} (blame : φ → ε) (give : β → α) : Except φ β → Except ε α
  | .ok b => .ok (give b)
  | .error fault => .error (blame fault)

namespace Store

/-- The row of an owner under an identifier, from that under a path. -/
def ownedRow (owner : String) (e : String × Row) : String × Row := (within owner e.1, e.2)

/-- The store in which all paths are those of an owner. -/
def owned (owner : String) (bare : Store) : Store :=
  { bare with
    objects := bare.objects.mapKeys (within owner) (within_lt owner)
    uploadRows := bare.uploadRows.mapValues fun _ row => row.owned owner }

theorem owned_empty (owner : String) : Store.empty.owned owner = Store.empty := rfl

section

variable (bare : Store) (owner path : String)

@[simp] theorem find?_owned :
    (bare.owned owner).objects.find? (within owner path) = bare.objects.find? path :=
  Table.find?_mapKeys (within_lt owner) (within_inj owner) _ _

@[simp] theorem find?_uploads_owned (name : String) :
    (bare.owned owner).uploads.find? name =
      (bare.uploads.find? name).map (Upload.owned owner) := by
  rw [find?_uploads, find?_uploads, owned, Table.find?_mapValues, Option.map_map, Option.map_map]
  rfl

theorem takes_owned : (bare.owned owner).takes (within owner path) = bare.takes path := by
  unfold takes Table.has
  rw [find?_owned]
  rfl

theorem pointing_owned (row : Row) :
    (bare.owned owner).pointing (within owner path) row = (bare.pointing path row).owned owner := by
  unfold pointing owned
  rw [Table.mapKeys_insert (within_lt owner) (within_inj owner)]

theorem unlisted_owned :
    (bare.owned owner).unlisted (within owner path) = (bare.unlisted path).owned owner := by
  unfold unlisted owned
  rw [Table.mapKeys_erase (within_lt owner) (within_inj owner)]

theorem withoutAll_owned (blobs : List Nat) :
    (bare.owned owner).withoutAll blobs = (bare.withoutAll blobs).owned owner := by
  rw [withoutAll_eq, withoutAll_eq]
  rfl

theorem readRow_owned (row : Row) :
    readRow (within owner path) row =
      through (StoreFault.owned owner) (Object.owned owner) (readRow path row) := by
  unfold readRow
  cases row.metadata? <;> rfl

theorem lookup_owned :
    (bare.owned owner).lookup (within owner path) =
      through (StoreFault.owned owner) (Option.map (Object.owned owner)) (bare.lookup path) := by
  unfold lookup
  rw [find?_owned]
  show (if bare.health.databaseOpen then _ else _) = _
  cases bare.health.databaseOpen with
  | false => rfl
  | true =>
      cases bare.objects.find? path with
      | none => rfl
      | some row =>
          simp only [readRow_owned]
          cases readRow path row <;> rfl

theorem fetched_owned :
    (bare.owned owner).fetched (within owner path) =
      through (StoreFault.owned owner) (Object.owned owner) (bare.fetched path) := by
  unfold fetched
  rw [lookup_owned]
  rcases bare.lookup path with fault | _ | object <;> rfl

theorem uploadFor_owned (name : String) :
    (bare.owned owner).uploadFor name (within owner path) =
      through (StoreFault.owned owner) (Upload.owned owner) (bare.uploadFor name path) := by
  unfold uploadFor
  rw [find?_uploads_owned]
  show (if bare.health.databaseOpen then _ else _) = _
  cases bare.health.databaseOpen with
  | false => rfl
  | true =>
      cases bare.uploads.find? name with
      | none => rfl
      | some upload =>
          simp only [Option.map_some, Upload.owned, within_inj, if_true]
          split <;> rfl

end

/-- The store of an owner with an upload that is new. -/
theorem insert_upload_owned (owner name : String) (rows : Table String UploadRow)
    (row : UploadRow) :
    (rows.insert name row).mapValues (fun _ row => row.owned owner) =
      (rows.mapValues fun _ row => row.owned owner).insert name (row.owned owner) :=
  Table.mapValues_insert row fun _ _ _ _ => rfl

theorem forgotten_owned (owner name : String) (bare : Store) :
    (bare.owned owner).forgotten name = (bare.forgotten name).owned owner := by
  have rows : (bare.uploadRows.erase name).mapValues (fun _ row => row.owned owner) =
      (bare.uploadRows.mapValues fun _ row => row.owned owner).erase name :=
    Table.mapValues_erase fun _ _ _ _ => rfl
  unfold forgotten owned
  rw [rows]

/-! ## Listings of an owner -/

section

variable {owner : String}

theorem readRows_owned (owner : String) (rows : List (String × Row)) :
    readRows (rows.map (ownedRow owner)) =
      through (StoreFault.owned owner) (List.map (Object.owned owner)) (readRows rows) := by
  unfold readRows
  induction rows with
  | nil => rfl
  | cons e rest ih =>
      rw [List.map_cons, List.mapM_cons, List.mapM_cons, ih, ownedRow, readRow_owned]
      cases readRow e.1 e.2 with
      | error fault => rfl
      | ok object =>
          generalize List.mapM (fun e : String × Row => readRow e.1 e.2) rest = others
          cases others <;> rfl

theorem rowsUnder_owned (isOwner : IsOwner owner) (bare : Store) (beginning : String) :
    (bare.owned owner).rowsUnder (within owner beginning) =
      (bare.rowsUnder beginning).map (ownedRow owner) := by
  unfold rowsUnder
  show (bare.objects.entries.map (ownedRow owner)).filter _ = _
  rw [List.filter_map]
  refine congrArg _ (List.filter_congr fun e _ => ?_)
  exact isOwner.isUnder_within beginning e.1

theorem segmentAfter?_within (owner beginning path : String) :
    segmentAfter? (within owner beginning) (within owner path) = segmentAfter? beginning path := by
  unfold segmentAfter?
  rw [drop_within]

/-- The segments under a beginning are those of the paths. -/
theorem segmentsOf_owned (owner beginning : String) (rows : List (String × Row)) :
    segmentsOf (rows.map (ownedRow owner)) (within owner beginning) =
      segmentsOf rows beginning := by
  unfold segmentsOf
  rw [List.foldl_map]
  simp only [ownedRow, segmentAfter?_within]

/-! ## Pages of an owner -/

/-- The entry of a page, for an owner. -/
def PageEntry.owned (owner : String) : PageEntry → PageEntry
  | .object key shown => .object key (shown.owned owner)
  | .commonStem stem => .commonStem stem

def Page.owned (owner : String) (page : Page) : Page :=
  { page with entries := page.entries.map (PageEntry.owned owner) }

def PageDraft.owned (owner : String) (draft : PageDraft) : PageDraft :=
  { draft with reversed := draft.reversed.map (PageEntry.owned owner) }

/-- What is asked for below a base of an owner. -/
def PageRequest.owned (owner : String) (request : PageRequest) : PageRequest :=
  { request with base := within owner request.base }

@[simp] theorem PageEntry.key_owned (owner : String) (entry : PageEntry) :
    (entry.owned owner).key = entry.key := by
  cases entry <;> rfl

theorem PageDraft.head_owned (owner : String) (draft : PageDraft) :
    (draft.owned owner).reversed.head?.map PageEntry.key =
      draft.reversed.head?.map PageEntry.key := by
  rw [owned, List.head?_map, Option.map_map]
  congr 1
  funext entry
  exact entry.key_owned owner

theorem PageDraft.close_owned (owner : String) (draft : PageDraft) :
    (draft.owned owner).close = draft.close.owned owner := by
  simp [close, owned, Page.owned]

theorem PageDraft.closeWithMore_owned (owner : String) (draft : PageDraft) :
    (draft.owned owner).closeWithMore = draft.closeWithMore.owned owner := by
  unfold closeWithMore
  rw [draft.head_owned]
  simp [owned, Page.owned]

namespace PageRequest

variable (request : PageRequest)

theorem entryOf_owned (owner : String) (object : Object) :
    (request.owned owner).entryOf (object.owned owner) =
      (request.entryOf object).owned owner := by
  have key : (request.owned owner).keyOf (object.owned owner).identifier =
      request.keyOf object.identifier :=
    congrArg String.ofList (drop_within owner object.identifier request.base)
  have rolled : (request.owned owner).rolledUp? = request.rolledUp? := rfl
  unfold entryOf
  rw [key, rolled]
  dsimp only
  cases request.rolledUp? (request.keyOf object.identifier) <;> rfl

theorem isSeen_owned (owner : String) (draft : PageDraft) (entry : PageEntry) :
    (request.owned owner).isSeen (draft.owned owner) (entry.owned owner) =
      request.isSeen draft entry := by
  cases entry with
  | object key shown => rfl
  | commonStem stem =>
      unfold isSeen
      rw [PageEntry.owned]
      dsimp only
      rw [draft.head_owned]
      rfl

/-- A draft is filled with the same keys, whoever the owner is. -/
theorem fill_owned (owner : String) (draft : PageDraft) (objects : List Object) :
    (request.owned owner).fill (draft.owned owner) (objects.map (Object.owned owner)) =
      (request.fill draft objects).map (PageDraft.owned owner) (Page.owned owner) := by
  induction objects generalizing draft with
  | nil => rfl
  | cons object rest ih =>
      rw [List.map_cons, fill, fill, entryOf_owned, isSeen_owned]
      split
      · exact ih draft
      · cases room : draft.room with
        | zero =>
            have same : (draft.owned owner).room = 0 := room
            rw [same]
            exact congrArg Sum.inr (draft.closeWithMore_owned owner)
        | succ more =>
            have same : (draft.owned owner).room = more + 1 := room
            rw [same]
            exact ih ⟨request.entryOf object :: draft.reversed, more⟩

/-- **A page is filled from the rows of an owner as it is from those of the paths.** -/
theorem fillFrom_owned (owner : String) (draft : PageDraft) (rows : List (String × Row)) :
    (request.owned owner).fillFrom (draft.owned owner) (rows.map (ownedRow owner)) =
      through (StoreFault.owned owner) (Page.owned owner) (request.fillFrom draft rows) := by
  fun_induction request.fillFrom draft rows with
  | case1 draft rows fault failed =>
      rw [fillFrom, ← List.map_take, readRows_owned, failed]
      rfl
  | case2 draft rows objects read page full =>
      rw [fillFrom, ← List.map_take, readRows_owned, read]
      simp only [through, fill_owned, full, Sum.map_inr]
  | case3 draft rows objects read rest more few =>
      rw [fillFrom, ← List.map_take, readRows_owned, read]
      simp only [through, fill_owned, more, Sum.map_inl, List.length_map, few, dif_pos,
        PageDraft.close_owned]
  | case4 draft rows objects read rest more many ih =>
      rw [fillFrom, ← List.map_take, readRows_owned, read]
      simp only [through, fill_owned, more, Sum.map_inl, List.length_map, many, dif_neg,
        not_false_eq_true, ← List.map_drop]
      exact ih

/-- The rows that a page is filled from: those after the path that was seen last. -/
def bareRows (bare : Store) : List (String × Row) :=
  match request.after? with
  | some after => bare.rowsAfter (request.base ++ request.stem) (request.base ++ after)
  | none => bare.rowsUnder (request.base ++ request.stem)

theorem rowsAfter_owned (isOwner : IsOwner owner) (bare : Store) :
    (bare.owned owner).rowsAfter ((request.owned owner).base ++ (request.owned owner).stem)
        (request.owned owner).cursor =
      (request.bareRows bare).map (ownedRow owner) := by
  have under : (request.owned owner).base ++ (request.owned owner).stem =
      within owner (request.base ++ request.stem) := within_append owner request.base request.stem
  have cursor : (request.owned owner).cursor =
      match request.after? with
      | some after => within owner request.base ++ after
      | none => "" := rfl
  unfold rowsAfter bareRows
  rw [under, cursor, rowsUnder_owned isOwner, List.filter_map]
  cases request.after? with
  | some after =>
      refine congrArg _ (List.filter_congr fun e _ => ?_)
      simp only [Function.comp_apply, ownedRow, within_append, within_lt]
  | none =>
      -- No identifier of an owner is empty, so none is left out by the empty cursor.
      refine congrArg _ (List.filter_eq_self.mpr fun e _ => ?_)
      exact decide_eq_true (lt_of_ne_empty (within_ne_empty owner e.1))

end PageRequest

end

end Store

end Depot

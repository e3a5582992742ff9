import Depot.Proofs.Store.Sound

/-!
# The shelf of a store

What a store holds, as its clients see it: a record for every object, a session
for every upload, and a piece for every part, with the bytes in the place of the
number of the blob.  The numbers of the blobs are the store's own affair;
`unnumbered` leaves them out of an answer.

In a sound store the shelf says what every look-up answers, and every change of
the store is one change of one entry of its shelf.
-/

namespace Depot

set_option autoImplicit false

open Depot.Http
open Depot.Time

/-- The content of an object with what its writer said about it. -/
structure Record where
  bytes : ByteArray
  attributes : Attributes
  modified : Instant

/-- The content of a part. -/
structure Piece where
  bytes : ByteArray
  stored : Instant

/-- An upload with the contents of its parts. -/
structure Session where
  identifier : String
  attributes : Attributes
  started : Instant
  pieces : Table Nat Piece

/-- All that a store holds. -/
@[ext] structure Shelf where
  objects : Table String Record
  sessions : Table String Session
  nextUpload : Nat

def Object.unnumbered (object : Object) : Object := { object with blob := 0 }

def Part.unnumbered (part : Part) : Part := { part with blob := 0 }

/-- The object that a record is shown as. -/
def Record.object (record : Record) (identifier : String) : Object :=
  { identifier
    blob := 0
    attributes := record.attributes
    size := record.bytes.size
    etag := Hex.encode (Digest.Md5.digest record.bytes)
    modified := record.modified }

def Piece.part (piece : Piece) : Part :=
  ⟨0, piece.bytes.size, Hex.encode (Digest.Md5.digest piece.bytes), piece.stored⟩

namespace Store

def bytesOf (s : Store) (blob : Nat) : ByteArray := (s.blobs.find? blob).getD ByteArray.empty

def recordOf (s : Store) (row : Row) : Record :=
  ⟨s.bytesOf row.blob, ⟨row.contentType?, row.metadata?.getD Table.empty⟩, row.modified⟩

def pieceOf (s : Store) (part : Part) : Piece := ⟨s.bytesOf part.blob, part.stored⟩

/-- The session of an upload. -/
def sessionOf (s : Store) (upload : Upload) : Session :=
  { identifier := upload.identifier
    attributes := upload.attributes
    started := upload.started
    pieces := upload.parts.mapValues fun _ part => s.pieceOf part }

/-- What a store holds. -/
def shelf (s : Store) : Shelf :=
  { objects := s.objects.mapValues fun _ row => s.recordOf row
    sessions := s.uploads.mapValues fun _ upload => s.sessionOf upload
    nextUpload := s.nextUpload }

theorem shelf_objects (s : Store) :
    s.shelf.objects = s.objects.mapValues fun _ row => s.recordOf row := rfl

theorem shelf_sessions (s : Store) :
    s.shelf.sessions = s.uploads.mapValues fun _ upload => s.sessionOf upload := rfl

@[simp] theorem find?_shelf_objects (s : Store) (identifier : String) :
    s.shelf.objects.find? identifier = (s.objects.find? identifier).map s.recordOf :=
  Table.find?_mapValues _ _ _

@[simp] theorem find?_shelf_sessions (s : Store) (name : String) :
    s.shelf.sessions.find? name = (s.uploads.find? name).map s.sessionOf :=
  Table.find?_mapValues _ _ _

/-! ## Look-ups in a sound store -/

/-- The object of a row that can be read. -/
def objectAt (identifier : String) (row : Row) : Object :=
  { identifier
    blob := row.blob
    attributes := ⟨row.contentType?, row.metadata?.getD Table.empty⟩
    size := row.size
    etag := row.etag
    modified := row.modified }

theorem readRow_of_metadata {identifier : String} {row : Row} (known : row.metadata?.isSome) :
    readRow identifier row = .ok (objectAt identifier row) := by
  obtain ⟨metadata, known⟩ := Option.isSome_iff_exists.mp known
  unfold readRow objectAt
  simp [known]

/-- Rows whose metadata can be read are read as the objects that they describe. -/
theorem readRows_of_metadata {rows : List (String × Row)}
    (known : ∀ e, e ∈ rows → e.2.metadata?.isSome) :
    readRows rows = .ok (rows.map fun e => objectAt e.1 e.2) := by
  unfold readRows
  induction rows with
  | nil => rfl
  | cons e rest ih =>
      rw [List.mapM_cons, readRow_of_metadata (known e List.mem_cons_self),
        ih fun e' member => known e' (.tail _ member)]
      rfl

namespace Sound

variable {s : Store}

theorem readRow (sound : s.Sound) {identifier : String} {row : Row}
    (found : s.objects.find? identifier = some row) :
    Store.readRow identifier row = .ok (objectAt identifier row) :=
  readRow_of_metadata (sound.rows identifier row found).2

theorem lookup (sound : s.Sound) (identifier : String) :
    s.lookup identifier = .ok ((s.objects.find? identifier).map (objectAt identifier)) := by
  unfold Store.lookup
  rw [sound.health]
  cases found : s.objects.find? identifier with
  | none => rfl
  | some row =>
      simp only [sound.readRow found]
      rfl

theorem fetched (sound : s.Sound) (identifier : String) :
    s.fetched identifier =
      match s.objects.find? identifier with
      | some row => .ok (objectAt identifier row)
      | none => .error (.notFound identifier) := by
  unfold Store.fetched
  rw [sound.lookup]
  cases s.objects.find? identifier <;> rfl

theorem uploadFor (sound : s.Sound) (name identifier : String) :
    s.uploadFor name identifier =
      match s.uploads.find? name with
      | some upload =>
          if upload.identifier = identifier then .ok upload else .error (.noSuchUpload name)
      | none => .error (.noSuchUpload name) := by
  unfold Store.uploadFor
  rw [sound.health]
  rfl

/-- What a row holds is there, and is as the row says. -/
theorem held (sound : s.Sound) {holder : Holder} {h : Holding}
    (holds : s.holding holder = some h) :
    s.blobs.find? h.blob = some (s.bytesOf h.blob) ∧ h.size = (s.bytesOf h.blob).size ∧
      h.etag = Hex.encode (Digest.Md5.digest (s.bytesOf h.blob)) := by
  obtain ⟨bytes, found, size, etag⟩ := sound.tidy.held holder h holds
  simp [bytesOf, found, size, etag]

theorem held_object (sound : s.Sound) {identifier : String} {row : Row}
    (found : s.objects.find? identifier = some row) :
    s.blobs.find? row.blob = some (s.bytesOf row.blob) ∧ row.size = (s.bytesOf row.blob).size ∧
      row.etag = Hex.encode (Digest.Md5.digest (s.bytesOf row.blob)) :=
  sound.held (holding_object found)

theorem held_part (sound : s.Sound) {name : String} {upload : Upload} {number : Nat} {part : Part}
    (found : s.uploads.find? name = some upload) (known : upload.parts.find? number = some part) :
    s.blobs.find? part.blob = some (s.bytesOf part.blob) ∧
      part.size = (s.bytesOf part.blob).size ∧
      part.etag = Hex.encode (Digest.Md5.digest (s.bytesOf part.blob)) := by
  obtain ⟨there, size, etag⟩ := sound.held (holding_part found known)
  exact ⟨there, Int.ofNat.inj size, etag⟩

/-- Without the number of its blob, an object is its record. -/
theorem unnumbered_objectAt (sound : s.Sound) {identifier : String} {row : Row}
    (found : s.objects.find? identifier = some row) :
    (objectAt identifier row).unnumbered = (s.recordOf row).object identifier := by
  obtain ⟨-, size, etag⟩ := sound.held_object found
  simp [Object.unnumbered, objectAt, Record.object, recordOf, size, etag]

/-- Without the number of its blob, a part is its piece. -/
theorem unnumbered_part (sound : s.Sound) {name : String} {upload : Upload} {number : Nat}
    {part : Part} (found : s.uploads.find? name = some upload)
    (known : upload.parts.find? number = some part) :
    part.unnumbered = (s.pieceOf part).part := by
  obtain ⟨-, size, etag⟩ := sound.held_part found known
  simp [Part.unnumbered, pieceOf, Piece.part, ← size, ← etag]

end Sound

/-! ## Changes of a sound store -/

/-- The rows that stay have the same blobs in both stores. -/
def Keeps (s t : Store) (stays : Holder → Prop) : Prop :=
  ∀ holder h, s.holding holder = some h → stays holder →
    t.blobs.find? h.blob = s.blobs.find? h.blob

section

variable {s t : Store} {stays : Holder → Prop}

theorem Keeps.recordOf (keeps : s.Keeps t stays) {identifier : String} {row : Row}
    (found : s.objects.find? identifier = some row) (here : stays (.object identifier)) :
    t.recordOf row = s.recordOf row := by
  have same := keeps _ _ (holding_object found) here
  rw [Store.recordOf, bytesOf, same, Store.recordOf, bytesOf]

theorem Keeps.pieceOf (keeps : s.Keeps t stays) {name : String} {upload : Upload} {number : Nat}
    {part : Part} (found : s.uploads.find? name = some upload)
    (known : upload.parts.find? number = some part) (here : stays (.part name number)) :
    t.pieceOf part = s.pieceOf part := by
  have same := keeps _ _ (holding_part found known) here
  rw [Store.pieceOf, bytesOf, same, Store.pieceOf, bytesOf]

theorem Keeps.sessionOf (keeps : s.Keeps t stays) {name : String} {upload : Upload}
    (found : s.uploads.find? name = some upload) (here : ∀ number, stays (.part name number)) :
    t.sessionOf upload = s.sessionOf upload := by
  unfold Store.sessionOf
  rw [Table.mapValues_congr fun number part known => keeps.pieceOf found known (here number)]

/-- The records are those of before when the rows are and keep their bytes. -/
theorem Keeps.objects (keeps : s.Keeps t stays) (same : t.objects = s.objects)
    (here : ∀ identifier, stays (.object identifier)) : t.shelf.objects = s.shelf.objects := by
  rw [shelf_objects, same, shelf_objects]
  exact Table.mapValues_congr fun identifier row found => keeps.recordOf found (here identifier)

/-- The sessions are those of before when the uploads are and keep their bytes. -/
theorem Keeps.sessions (keeps : s.Keeps t stays) (same : t.uploads = s.uploads)
    (here : ∀ name number, stays (.part name number)) : t.shelf.sessions = s.shelf.sessions := by
  rw [shelf_sessions, same, shelf_sessions]
  exact Table.mapValues_congr fun name upload found => keeps.sessionOf found (here name)

/-- One record is new when one row is, and the others keep their bytes. -/
theorem Keeps.objects_insert (keeps : s.Keeps t stays) {identifier : String} {row : Row}
    (same : t.objects = s.objects.insert identifier row)
    (here : ∀ identifier', identifier' ≠ identifier → stays (.object identifier')) :
    t.shelf.objects = s.shelf.objects.insert identifier (t.recordOf row) := by
  rw [shelf_objects, same, shelf_objects]
  exact Table.mapValues_insert row fun identifier' _ other found =>
    keeps.recordOf found (here identifier' other)

theorem Keeps.objects_erase (keeps : s.Keeps t stays) {identifier : String}
    (same : t.objects = s.objects.erase identifier)
    (here : ∀ identifier', identifier' ≠ identifier → stays (.object identifier')) :
    t.shelf.objects = s.shelf.objects.erase identifier := by
  rw [shelf_objects, same, shelf_objects]
  exact Table.mapValues_erase fun identifier' _ other found =>
    keeps.recordOf found (here identifier' other)

/-- One session is new when one upload is, and the others keep their bytes. -/
theorem Keeps.sessions_insert (keeps : s.Keeps t stays) {name : String} {upload : Upload}
    (same : t.uploads = s.uploads.insert name upload)
    (here : ∀ name' number, name' ≠ name → stays (.part name' number)) :
    t.shelf.sessions = s.shelf.sessions.insert name (t.sessionOf upload) := by
  rw [shelf_sessions, same, shelf_sessions]
  exact Table.mapValues_insert upload fun name' _ other found =>
    keeps.sessionOf found fun number => here name' number other

theorem Keeps.sessions_erase (keeps : s.Keeps t stays) {name : String}
    (same : t.uploads = s.uploads.erase name)
    (here : ∀ name' number, name' ≠ name → stays (.part name' number)) :
    t.shelf.sessions = s.shelf.sessions.erase name := by
  rw [shelf_sessions, same, shelf_sessions]
  exact Table.mapValues_erase fun name' _ other found =>
    keeps.sessionOf found fun number => here name' number other

end

/-- The rows keep their bytes when no blob changes. -/
theorem keeps_of_blobs {s t : Store} (same : t.blobs = s.blobs) : s.Keeps t fun _ => True :=
  fun _ _ _ _ => by rw [same]

theorem shelf_moved (s : Store) (old new : String) (row : Row) :
    (s.moved old new row).shelf =
      { s.shelf with
        objects := (s.shelf.objects.erase old).insert new (s.recordOf row) } := by
  have keeps : s.Keeps (s.unlisted old) fun _ => True := keeps_of_blobs rfl
  have keeps' : (s.unlisted old).Keeps (s.moved old new row) fun _ => True := keeps_of_blobs rfl
  have erased := keeps.objects_erase rfl fun _ _ => trivial
  have inserted := keeps'.objects_insert rfl fun _ _ => trivial
  exact Shelf.ext (erased ▸ inserted) rfl rfl

namespace Sound

variable {s : Store}

/-- The other rows keep their bytes when one gets a new blob. -/
theorem keeps_replace (sound : s.Sound) {t : Store} (holder : Holder) (bytes : ByteArray)
    (same : t.blobs =
      (s.blobs.eraseAll (spent s.holding holder)).insert s.nextBlob bytes) :
    s.Keeps t (· ≠ holder) := by
  intro other h holds differs
  rw [same, sound.tidy.find?_replace holds differs]

/-- The rows that stay keep their bytes when others go. -/
theorem keeps_release (sound : s.Sound) {t : Store} {gone : Holder → Prop} {freed : List Nat}
    (frees : ∀ blob, blob ∈ freed ↔
      ∃ holder h, gone holder ∧ s.holding holder = some h ∧ h.blob = blob)
    (same : t.blobs = s.blobs.eraseAll freed) : s.Keeps t fun holder => ¬ gone holder := by
  intro other h holds stays
  rw [same, sound.tidy.find?_eraseAll frees holds stays]

theorem keeps_stored (sound : s.Sound) (identifier : String) (attributes : Attributes)
    (bytes : ByteArray) (now : Instant) :
    s.Keeps (s.stored identifier attributes bytes now) (· ≠ .object identifier) :=
  sound.keeps_replace (.object identifier) bytes rfl

theorem keeps_removed (sound : s.Sound) (identifier : String) :
    s.Keeps (s.removed identifier) (¬ · = .object identifier) :=
  sound.keeps_release (mem_spent_iff s.holding (.object identifier)) rfl

theorem keeps_supplied (sound : s.Sound) (name : String) (number : Nat) (bytes : ByteArray)
    (now : Instant) :
    s.Keeps (s.supplied name number bytes now) (· ≠ .part name number) :=
  sound.keeps_replace (.part name number) bytes rfl

theorem keeps_ended (sound : s.Sound) {name : String} {upload : Upload}
    (found : s.uploads.find? name = some upload) :
    s.Keeps (s.ended name upload) (¬ Holder.isPartOf name · = true) :=
  sound.keeps_release (mem_blobs_iff found) rfl

theorem shelf_stored (sound : s.Sound) (identifier : String) (attributes : Attributes)
    (bytes : ByteArray) (now : Instant) :
    (s.stored identifier attributes bytes now).shelf =
      { s.shelf with objects := s.shelf.objects.insert identifier ⟨bytes, attributes, now⟩ } := by
  have keeps := sound.keeps_stored identifier attributes bytes now
  have fresh : (s.stored identifier attributes bytes now).recordOf
      (rowOf (s.draft bytes) attributes now) = ⟨bytes, attributes, now⟩ := by
    simp [recordOf, bytesOf, Store.stored, rowOf, draft]
  have objects := keeps.objects_insert rfl fun _ other => by simpa using other
  exact Shelf.ext (fresh ▸ objects) (keeps.sessions rfl fun _ _ => Holder.part_ne_object) rfl

theorem shelf_removed (sound : s.Sound) (identifier : String) :
    (s.removed identifier).shelf =
      { s.shelf with objects := s.shelf.objects.erase identifier } := by
  have keeps := sound.keeps_removed identifier
  have objects := keeps.objects_erase rfl fun _ other => by simpa using other
  exact Shelf.ext objects (keeps.sessions rfl fun _ _ => Holder.part_ne_object) rfl

theorem shelf_begun (sound : s.Sound) (identifier : String) (attributes : Attributes)
    (now : Instant) :
    (s.begun identifier attributes now).shelf =
      { s.shelf with
        sessions :=
          s.shelf.sessions.insert (uploadName s.nextUpload)
            ⟨identifier, attributes, now, Table.empty⟩
        nextUpload := s.nextUpload + 1 } := by
  have keeps : s.Keeps (s.begun identifier attributes now) fun _ => True := keeps_of_blobs rfl
  have sessions := keeps.sessions_insert (sound.uploads_begun identifier attributes now)
    fun _ _ _ => trivial
  exact Shelf.ext rfl sessions rfl

theorem shelf_supplied (sound : s.Sound) {name : String} {upload : Upload}
    (found : s.uploads.find? name = some upload) (number : Nat) (bytes : ByteArray)
    (now : Instant) :
    (s.supplied name number bytes now).shelf =
      { s.shelf with
        sessions :=
          s.shelf.sessions.insert name
            { s.sessionOf upload with
              pieces := (s.sessionOf upload).pieces.insert number ⟨bytes, now⟩ } } := by
  have keeps := sound.keeps_supplied name number bytes now
  have fresh : (s.supplied name number bytes now).pieceOf (partOf (s.draft bytes) now) =
      ⟨bytes, now⟩ := by
    simp [pieceOf, bytesOf, Store.supplied, partOf, draft]
  have pieces : (upload.parts.insert number (partOf (s.draft bytes) now)).mapValues
        (fun _ part => (s.supplied name number bytes now).pieceOf part) =
      (s.sessionOf upload).pieces.insert number ⟨bytes, now⟩ := by
    rw [← fresh]
    exact Table.mapValues_insert _ fun number' _ other known =>
      keeps.pieceOf found known (by simpa using other)
  have sessions := keeps.sessions_insert
    (uploads_withPart found number (partOf (s.draft bytes) now)) fun _ _ other => by simp [other]
  refine Shelf.ext (keeps.objects rfl fun _ => Holder.object_ne_part) ?_ rfl
  rw [← pieces]
  exact sessions

theorem shelf_ended (sound : s.Sound) {name : String} {upload : Upload}
    (found : s.uploads.find? name = some upload) :
    (s.ended name upload).shelf = { s.shelf with sessions := s.shelf.sessions.erase name } := by
  have keeps := sound.keeps_ended found
  have sessions := keeps.sessions_erase (uploads_forgotten s name) fun _ _ other => by
    simp [Holder.isPartOf, other]
  exact Shelf.ext (keeps.objects rfl fun _ => Bool.false_ne_true) sessions rfl

end Sound

end Store

end Depot

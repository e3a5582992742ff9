import Depot.Proofs.Store.Shelf

/-!
# Changes of a sound store

A change of a sound store leaves a sound store, changes the shelf in one place,
and spares everything under identifiers that it is not about: rows, uploads, and
the blobs that they hold, down to the number of the blob.  Each kind of change
is described once, by all three (`Becomes`).
-/

namespace Depot.Store

set_option autoImplicit false

open Depot.Http
open Depot.Time

/-! ## What is spared -/

/-- All that is stored for some identifiers, rows and contents, is the same in both stores. -/
structure Spares (theirs : String → Prop) (s t : Store) : Prop where
  rows : ∀ identifier, theirs identifier →
    t.objects.find? identifier = s.objects.find? identifier
  contents : ∀ identifier row, theirs identifier → s.objects.find? identifier = some row →
    t.blobs.find? row.blob = s.blobs.find? row.blob
  uploads : ∀ name upload, theirs upload.identifier →
    (t.uploads.find? name = some upload ↔ s.uploads.find? name = some upload)
  parts : ∀ name upload number part, theirs upload.identifier →
    s.uploads.find? name = some upload → upload.parts.find? number = some part →
    t.blobs.find? part.blob = s.blobs.find? part.blob

section

variable {theirs : String → Prop} {s t u : Store}

/-- A store with the same rows and blobs spares everything. -/
theorem Spares.of_eq (objects : t.objects = s.objects) (uploads : t.uploads = s.uploads)
    (blobs : t.blobs = s.blobs) : Spares theirs s t where
  rows _ _ := by rw [objects]
  contents _ _ _ _ := by rw [blobs]
  uploads _ _ _ := by rw [uploads]
  parts _ _ _ _ _ _ _ := by rw [blobs]

theorem Spares.refl (s : Store) : Spares theirs s s := .of_eq rfl rfl rfl

theorem Spares.trans (first : Spares theirs s t) (second : Spares theirs t u) :
    Spares theirs s u where
  rows identifier here := (second.rows identifier here).trans (first.rows identifier here)
  contents identifier row here found :=
    (second.contents identifier row here ((first.rows identifier here).trans found)).trans
      (first.contents identifier row here found)
  uploads name upload here :=
    (second.uploads name upload here).trans (first.uploads name upload here)
  parts name upload number part here found known :=
    (second.parts name upload number part here ((first.uploads name upload here).mpr found)
      known).trans (first.parts name upload number part here found known)

/-- Less is spared of what is spared. -/
theorem Spares.mono {others : String → Prop} (among : ∀ identifier, others identifier →
    theirs identifier) (spares : Spares theirs s t) : Spares others s t where
  rows identifier here := spares.rows identifier (among _ here)
  contents identifier row here := spares.contents identifier row (among _ here)
  uploads name upload here := spares.uploads name upload (among _ here)
  parts name upload number part here := spares.parts name upload number part (among _ here)

/-- Rows that stay the same and keep their blobs are spared. -/
theorem Keeps.spares {stays : Holder → Prop} (keeps : s.Keeps t stays)
    (rows : ∀ identifier, theirs identifier →
      t.objects.find? identifier = s.objects.find? identifier)
    (uploads : ∀ name upload, theirs upload.identifier →
      (t.uploads.find? name = some upload ↔ s.uploads.find? name = some upload))
    (objectStays : ∀ identifier, theirs identifier → stays (.object identifier))
    (partStays : ∀ name upload number, theirs upload.identifier →
      s.uploads.find? name = some upload → stays (.part name number)) :
    Spares theirs s t where
  rows := rows
  contents identifier _ here found := keeps _ _ (holding_object found) (objectStays identifier here)
  uploads := uploads
  parts name upload number _ here found known :=
    keeps _ _ (holding_part found known) (partStays name upload number here found)

theorem find?_insert_theirs {identifier : String} {row : Row} (mine : ¬ theirs identifier)
    (objects : Table String Row) (identifier' : String) (here : theirs identifier') :
    (objects.insert identifier row).find? identifier' = objects.find? identifier' :=
  Table.find?_insert_of_ne objects row fun same => mine (same ▸ here)

theorem find?_erase_theirs {identifier : String} (mine : ¬ theirs identifier)
    (objects : Table String Row) (identifier' : String) (here : theirs identifier') :
    (objects.erase identifier).find? identifier' = objects.find? identifier' :=
  Table.find?_erase_of_ne objects fun same => mine (same ▸ here)

theorem upload_insert_theirs {name : String} {new : Upload}
    (changed : t.uploads = s.uploads.insert name new) (mine : ¬ theirs new.identifier)
    (before : ∀ old, s.uploads.find? name = some old → ¬ theirs old.identifier)
    (name' : String) (upload : Upload) (here : theirs upload.identifier) :
    t.uploads.find? name' = some upload ↔ s.uploads.find? name' = some upload := by
  rw [changed, Table.find?_insert]
  split
  · next same =>
      subst same
      refine iff_of_false ?_ fun found => before upload found here
      intro equal
      cases equal
      exact mine here
  · exact Iff.rfl

theorem upload_erase_theirs {name : String} (changed : t.uploads = s.uploads.erase name)
    (before : ∀ old, s.uploads.find? name = some old → ¬ theirs old.identifier)
    (name' : String) (upload : Upload) (here : theirs upload.identifier) :
    t.uploads.find? name' = some upload ↔ s.uploads.find? name' = some upload := by
  rw [changed, Table.find?_erase]
  split
  · next same =>
      subst same
      refine iff_of_false ?_ fun found => before upload found here
      intro absent
      cases absent
  · exact Iff.rfl

end

/-! ## Changes -/

/-- One store becomes another, sound and with the given shelf, and what is not its own is spared. -/
structure Becomes (theirs : String → Prop) (s t : Store) (after : Shelf) : Prop where
  sound : t.Sound
  shelf : t.shelf = after
  spares : Spares theirs s t

namespace Sound

variable {theirs : String → Prop} {s : Store}

theorem becomes_same (sound : s.Sound) : Becomes theirs s s s.shelf := ⟨sound, rfl, .refl s⟩

theorem becomes_skipped (sound : s.Sound) : Becomes theirs s s.skipped s.shelf :=
  ⟨sound.skipped, rfl, .of_eq rfl rfl rfl⟩

theorem becomes_stored (sound : s.Sound) {identifier : String}
    (valid : Name.checkIdentifier identifier = .ok ()) (mine : ¬ theirs identifier)
    (attributes : Attributes) (bytes : ByteArray) (now : Instant) :
    Becomes theirs s (s.stored identifier attributes bytes now)
      { s.shelf with
        objects := s.shelf.objects.insert identifier ⟨bytes, attributes, now⟩ } := by
  refine ⟨sound.stored valid attributes bytes now,
    sound.shelf_stored identifier attributes bytes now, ?_⟩
  refine (sound.keeps_stored identifier attributes bytes now).spares (find?_insert_theirs mine _)
    (fun _ _ _ => Iff.rfl) ?_ fun _ _ _ _ _ => Holder.part_ne_object
  intro identifier' here same
  cases same
  exact mine here

theorem becomes_moved (sound : s.Sound) {old new : String} {row : Row}
    (found : s.objects.find? old = some row) (valid : Name.checkIdentifier new = .ok ())
    (free : s.objects.find? new = none) (mineOld : ¬ theirs old) (mineNew : ¬ theirs new)
    (now : Instant) :
    Becomes theirs s (s.moved old new { row with modified := now })
      { s.shelf with
        objects :=
          (s.shelf.objects.erase old).insert new { s.recordOf row with modified := now } } := by
  refine ⟨sound.moved found valid free now, shelf_moved s old new _, ?_⟩
  have keeps : s.Keeps (s.moved old new { row with modified := now }) fun _ => True :=
    keeps_of_blobs rfl
  refine keeps.spares ?_ (fun _ _ _ => Iff.rfl) (fun _ _ => trivial) fun _ _ _ _ _ => trivial
  intro identifier here
  exact (find?_insert_theirs mineNew _ identifier here).trans
    (find?_erase_theirs mineOld _ identifier here)

theorem becomes_removed (sound : s.Sound) {identifier : String} (mine : ¬ theirs identifier) :
    Becomes theirs s (s.removed identifier)
      { s.shelf with objects := s.shelf.objects.erase identifier } := by
  refine ⟨sound.removed identifier, sound.shelf_removed identifier, ?_⟩
  refine (sound.keeps_removed identifier).spares (find?_erase_theirs mine _)
    (fun _ _ _ => Iff.rfl) ?_ fun _ _ _ _ _ => Holder.part_ne_object
  intro identifier' here same
  cases same
  exact mine here

theorem becomes_begun (sound : s.Sound) {identifier : String}
    (valid : Name.checkIdentifier identifier = .ok ()) (mine : ¬ theirs identifier)
    (attributes : Attributes) (now : Instant) :
    Becomes theirs s (s.begun identifier attributes now)
      { s.shelf with
        sessions :=
          s.shelf.sessions.insert (uploadName s.nextUpload)
            ⟨identifier, attributes, now, Table.empty⟩
        nextUpload := s.nextUpload + 1 } := by
  refine ⟨sound.begun valid attributes now, sound.shelf_begun identifier attributes now, ?_⟩
  have keeps : s.Keeps (s.begun identifier attributes now) fun _ => True := keeps_of_blobs rfl
  have changed := sound.uploads_begun identifier attributes now
  refine keeps.spares (fun _ _ => rfl) (upload_insert_theirs changed mine ?_) (fun _ _ => trivial)
    fun _ _ _ _ _ => trivial
  intro old found
  rw [sound.nextUpload_free] at found
  cases found

theorem becomes_supplied (sound : s.Sound) {name : String} {upload : Upload}
    (found : s.uploads.find? name = some upload) (mine : ¬ theirs upload.identifier)
    {number : Nat} (range : 1 ≤ number ∧ number ≤ maxPartNumber) (bytes : ByteArray)
    (now : Instant) :
    Becomes theirs s (s.supplied name number bytes now)
      { s.shelf with
        sessions :=
          s.shelf.sessions.insert name
            { s.sessionOf upload with
              pieces := (s.sessionOf upload).pieces.insert number ⟨bytes, now⟩ } } := by
  have before : ∀ old, s.uploads.find? name = some old → ¬ theirs old.identifier := by
    intro old found'
    cases found.symm.trans found'
    exact mine
  refine ⟨sound.supplied found range bytes now, sound.shelf_supplied found number bytes now, ?_⟩
  have changed : (s.supplied name number bytes now).uploads = _ :=
    uploads_withPart found number (partOf (s.draft bytes) now)
  refine (sound.keeps_supplied name number bytes now).spares (fun _ _ => rfl)
    (upload_insert_theirs changed mine before) (fun _ _ => Holder.object_ne_part) ?_
  intro name' upload' number' here found' same
  cases same
  exact before upload' found' here

theorem becomes_ended (sound : s.Sound) {name : String} {upload : Upload}
    (found : s.uploads.find? name = some upload) (mine : ¬ theirs upload.identifier) :
    Becomes theirs s (s.ended name upload)
      { s.shelf with sessions := s.shelf.sessions.erase name } := by
  have before : ∀ old, s.uploads.find? name = some old → ¬ theirs old.identifier := by
    intro old found'
    cases found.symm.trans found'
    exact mine
  refine ⟨sound.ended found, sound.shelf_ended found, ?_⟩
  have changed : (s.ended name upload).uploads = _ := uploads_forgotten s name
  refine (sound.keeps_ended found).spares (fun _ _ => rfl) (upload_erase_theirs changed before)
    (fun _ _ => Bool.false_ne_true) ?_
  intro name' upload' number here found' same
  have here' : name' = name := of_decide_eq_true same
  exact before upload' (here' ▸ found') here

end Sound

end Depot.Store

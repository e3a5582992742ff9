import Depot.Proofs.Store.Outcome
import Depot.Proofs.Tables
import Depot.Store.Uploads

/-!
# Small steps of the store

The changes that operations make, what they look up, and the outcomes of the
steps that all operations are made of.  A step is described in any store at all:
with rows that cannot be read, blobs that are missing or altered, and devices
that refuse their work.
-/

namespace Depot.Store

set_option autoImplicit false

open Depot.Http
open Depot.Time

/-- The digest of a blob is the MD5 of its bytes in lower-case hexadecimal. -/
theorem etagOf_eq (bytes : ByteArray) : etagOf bytes = Hex.encode (Digest.Md5.digest bytes) := rfl

/-! ## Rows of uploads and parts -/

theorem find?_uploads (s : Store) (name : String) :
    s.uploads.find? name = (s.uploadRows.find? name).map (s.uploadOf name) :=
  Table.find?_mapValues _ _ _

@[simp] theorem find?_partsOf (s : Store) (name : String) (number : Nat) :
    (s.partsOf name).find? number = s.partRows.find? ⟨name, number⟩ :=
  Part.find?_ofUpload _ _ _

theorem ofUpload_insert (rows : Table PartKey Part) (name : String) (number : Nat) (part : Part) :
    Part.ofUpload (rows.insert ⟨name, number⟩ part) name =
      (Part.ofUpload rows name).insert number part := by
  refine Table.ext_find? fun number' => ?_
  simp only [Part.find?_ofUpload, Table.find?_insert, PartKey.mk.injEq, true_and]

theorem ofUpload_insert_of_ne (rows : Table PartKey Part) {name name' : String}
    (other : name' ≠ name) (number : Nat) (part : Part) :
    Part.ofUpload (rows.insert ⟨name, number⟩ part) name' = Part.ofUpload rows name' := by
  refine Table.ext_find? fun number' => ?_
  simp [Part.find?_ofUpload, Table.find?_insert, other]

theorem ofUpload_filter_of_ne (rows : Table PartKey Part) {name name' : String}
    (other : name' ≠ name) :
    Part.ofUpload (rows.filter fun key _ => decide (key.upload ≠ name)) name' =
      Part.ofUpload rows name' := by
  refine Table.ext_find? fun number => ?_
  rw [Part.find?_ofUpload, Table.find?_filter, Part.find?_ofUpload]
  cases rows.find? ⟨name', number⟩ <;> simp [Option.filter, other]

/-- The parts of an upload are those whose rows name it. -/
theorem parts_of_find?_uploads {s : Store} {name : String} {upload : Upload}
    (found : s.uploads.find? name = some upload) : upload.parts = s.partsOf name := by
  rw [find?_uploads, Option.map_eq_some_iff] at found
  obtain ⟨row, -, rfl⟩ := found
  rfl

/-! ## Changes of a store -/

def placed (s : Store) : Store := { s with health := { s.health with blobPlace := true } }

def draft (s : Store) (bytes : ByteArray) : Written := ⟨s.nextBlob, bytes.size, etagOf bytes⟩

def kept (s : Store) (bytes : ByteArray) : Store :=
  { s with blobs := s.blobs.insert s.nextBlob bytes, nextBlob := s.nextBlob + 1 }

def without (s : Store) (blob : Nat) : Store := { s with blobs := s.blobs.erase blob }

def withoutAll (s : Store) (blobs : List Nat) : Store := blobs.foldl without s

/-- The row that names a written blob. -/
def rowOf (written : Written) (attributes : Attributes) (now : Instant) : Row :=
  { blob := written.blob
    contentType? := attributes.contentType?
    metadata? := some attributes.metadata
    size := written.size
    etag := written.etag
    modified := now }

/-- The object that such a row describes. -/
def objectOf (identifier : String) (written : Written) (attributes : Attributes)
    (now : Instant) : Object :=
  { identifier
    blob := written.blob
    attributes
    size := written.size
    etag := written.etag
    modified := now }

def pointing (s : Store) (identifier : String) (row : Row) : Store :=
  { s with objects := s.objects.insert identifier row }

/-- Whether the row of an identifier can be written. -/
def takes (s : Store) (identifier : String) : Bool :=
  s.health.databaseOpen && !(s.objects.has identifier && !s.health.rowsChangeable)

/-! ## What can be looked up -/

/-- The object under an identifier, or why it cannot be read. -/
def lookup (s : Store) (identifier : String) : Except StoreFault (Option Object) :=
  if s.health.databaseOpen then
    match s.objects.find? identifier with
    | none => .ok none
    | some row => (readRow identifier row).map some
  else .error .database

/-- The object under an identifier, which must be there. -/
def fetched (s : Store) (identifier : String) : Except StoreFault Object :=
  match s.lookup identifier with
  | .ok (some object) => .ok object
  | .ok none => .error (.notFound identifier)
  | .error fault => .error fault

/-- The bytes of a blob, or that it is missing. -/
def content (s : Store) (blob : Nat) : Except StoreFault ByteArray :=
  match s.blobs.find? blob with
  | some bytes => .ok bytes
  | none => .error .missingBlob

/-- The bytes of some blobs, one after another. -/
def joined (s : Store) (blobs : List Nat) : Except StoreFault ByteArray :=
  (blobs.mapM s.content).map fun contents => contents.foldl (· ++ ·) ByteArray.empty

/-- The upload of a name, when it is for the identifier. -/
def uploadFor (s : Store) (name identifier : String) : Except StoreFault Upload :=
  if s.health.databaseOpen then
    match s.uploads.find? name with
    | some upload =>
        if upload.identifier = identifier then .ok upload else .error (.noSuchUpload name)
    | none => .error (.noSuchUpload name)
  else .error .database

/-! A place for blobs and one more blob change nothing of what is looked up in the rows. -/

@[simp] theorem content_placed (s : Store) (blob : Nat) :
    s.placed.content blob = s.content blob := rfl

@[simp] theorem lookup_placed (s : Store) (identifier : String) :
    s.placed.lookup identifier = s.lookup identifier := rfl

@[simp] theorem fetched_placed (s : Store) (identifier : String) :
    s.placed.fetched identifier = s.fetched identifier := rfl

@[simp] theorem uploadFor_placed (s : Store) (name identifier : String) :
    s.placed.uploadFor name identifier = s.uploadFor name identifier := rfl

@[simp] theorem lookup_kept (s : Store) (bytes : ByteArray) (identifier : String) :
    (s.kept bytes).lookup identifier = s.lookup identifier := rfl

@[simp] theorem fetched_kept (s : Store) (bytes : ByteArray) (identifier : String) :
    (s.kept bytes).fetched identifier = s.fetched identifier := rfl

@[simp] theorem uploadFor_kept (s : Store) (bytes : ByteArray) (name identifier : String) :
    (s.kept bytes).uploadFor name identifier = s.uploadFor name identifier := rfl

/-- A row is read when what it keeps as metadata is metadata. -/
theorem readRow_eq_ok_iff {identifier : String} {row : Row} {object : Object} :
    readRow identifier row = .ok object ↔
      ∃ metadata, row.metadata? = some metadata ∧
        object = ⟨identifier, row.blob, ⟨row.contentType?, metadata⟩, row.size, row.etag,
          row.modified⟩ := by
  unfold readRow
  cases row.metadata? <;> simp [eq_comm]

theorem fetched_eq_ok_iff {s : Store} {identifier : String} {object : Object} :
    s.fetched identifier = .ok object ↔
      s.health.databaseOpen ∧
        ∃ row, s.objects.find? identifier = some row ∧ readRow identifier row = .ok object := by
  unfold fetched lookup
  cases s.health.databaseOpen with
  | false => simp
  | true =>
      cases s.objects.find? identifier with
      | none => simp
      | some row => cases read : readRow identifier row <;> simp [read, Except.map]

/-! ## Small steps -/

theorem outcome_makeBlobPlace (s : Store) : outcome makeBlobPlace s = (.ok (), s.placed) := rfl

theorem outcome_discardBlob (blob : Nat) (s : Store) :
    outcome (discardBlob blob) s = (.ok (), s.without blob) := rfl

theorem outcome_requireIdentifier (identifier : String) (s : Store) :
    outcome (requireIdentifier identifier) s =
      ((Name.checkIdentifier identifier).mapError (.ofIdentifier identifier), s) := by
  unfold requireIdentifier
  cases Name.checkIdentifier identifier <;> rfl

theorem outcome_requireDatabase (s : Store) :
    outcome requireDatabase s =
      (if s.health.databaseOpen then .ok () else .error .database, s) := by
  unfold requireDatabase
  rw [outcome_get_bind]
  cases s.health.databaseOpen <;> rfl

theorem outcome_writeBlob (body : Body) (s : Store) :
    outcome (writeBlob body) s =
      match body.contents with
      | .ok bytes => (.ok (s.draft bytes), s.placed.kept bytes)
      | .error fault => (.error (.body fault), s.placed) := by
  unfold writeBlob
  rw [outcome_bind, outcome_makeBlobPlace]
  cases body.contents <;> rfl

theorem outcome_readBlob (blob : Nat) (s : Store) :
    outcome (readBlob blob) s = (s.content blob, s) := by
  unfold readBlob content
  rw [outcome_get_bind]
  cases s.blobs.find? blob <;> rfl

theorem outcome_joinBlobs (blobs : List Nat) (s : Store) :
    outcome (joinBlobs blobs) s =
      match s.joined blobs with
      | .ok bytes => (.ok (s.draft bytes), s.placed.kept bytes)
      | .error fault => (.error fault, s.placed) := by
  unfold joinBlobs joined
  rw [outcome_bind, outcome_makeBlobPlace]
  show outcome (blobs.mapM readBlob >>= _) s.placed = _
  rw [outcome_bind, outcome_mapM_of_reads fun blob => outcome_readBlob blob s.placed,
    funext s.content_placed]
  cases blobs.mapM s.content <;> rfl

theorem outcome_find (identifier : String) (s : Store) :
    outcome (find identifier) s = (s.lookup identifier, s) := by
  unfold find lookup
  rw [outcome_bind, outcome_requireDatabase]
  cases s.health.databaseOpen with
  | false => rfl
  | true =>
      show outcome (get >>= _) s = _
      rw [outcome_get_bind]
      cases s.objects.find? identifier with
      | none => rfl
      | some row =>
          show outcome (some <$> liftM (readRow identifier row)) s = _
          rw [outcome_map, outcome_liftExcept]
          rfl

theorem outcome_fetch (identifier : String) (s : Store) :
    outcome (fetch identifier) s = (s.fetched identifier, s) := by
  unfold fetch fetched
  rw [outcome_bind, outcome_find]
  rcases s.lookup identifier with fault | _ | object <;> rfl

theorem outcome_fetchUpload (name identifier : String) (s : Store) :
    outcome (fetchUpload name identifier) s = (s.uploadFor name identifier, s) := by
  unfold fetchUpload uploadFor
  rw [outcome_bind, outcome_requireDatabase]
  cases s.health.databaseOpen with
  | false => rfl
  | true =>
      show outcome (get >>= _) s = _
      rw [outcome_get_bind]
      rw [find?_uploads]
      cases s.uploadRows.find? name with
      | none => rfl
      | some row => by_cases same : row.identifier = identifier <;> simp [same, uploadOf]

theorem outcome_pointTo (identifier : String) (written : Written) (attributes : Attributes)
    (now : Instant) (s : Store) :
    outcome (pointTo identifier written attributes now) s =
      if s.takes identifier then
        (.ok (objectOf identifier written attributes now),
          s.pointing identifier (rowOf written attributes now))
      else (.error .database, s) := by
  unfold pointTo takes
  rw [outcome_bind, outcome_requireDatabase]
  cases s.health.databaseOpen with
  | false => rfl
  | true =>
      show outcome (get >>= _) s = _
      rw [outcome_get_bind]
      cases s.objects.has identifier && !s.health.rowsChangeable <;> rfl

theorem outcome_commit (identifier : String) (written : Written) (attributes : Attributes)
    (previous? : Option Object) (now : Instant) (s : Store) :
    outcome (commit identifier written attributes previous? now) s =
      if s.takes identifier then
        (.ok (objectOf identifier written attributes now),
          (s.pointing identifier (rowOf written attributes now)).withoutAll
            (previous?.map Object.blob).toList)
      else (.error .database, s.without written.blob) := by
  unfold commit
  rw [outcome_tryCatch, outcome_bind, outcome_pointTo]
  cases s.takes identifier
  · rfl
  · cases previous? <;> rfl

end Depot.Store

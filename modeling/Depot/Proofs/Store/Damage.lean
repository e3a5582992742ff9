import Depot.Proofs.Store.Undoing

/-!
# Damage that is passed on

Blobs can be lost or altered behind the back of the store.  The row of an object
and that of a part record the digest of their blob, so an alteration can be
noticed, and a reader of an object notices it (`read_corrupted`).

Three operations read blobs in order to write them again: an object is
continued, an object is copied, an upload is completed.  None of them compares
what it reads with what is recorded.  They notice that a blob is missing, but
altered content is joined like any other, and the new object records the digest
of what was joined (`Joining.ends`).  So what a reader was refused before is
read without a fault afterwards (`damage_passed_on`).

No number is given to a blob twice, whatever happens to a store (`Weathered`);
this is why the blob of the new object is none of those that go.
-/

namespace Depot.Store

set_option autoImplicit false

open Depot.Http
open Depot.Time

/-! ## What is looked up -/

theorem uploadFor_eq_ok_iff {s : Store} {name identifier : String} {upload : Upload} :
    s.uploadFor name identifier = .ok upload ↔
      s.health.databaseOpen ∧ s.uploads.find? name = some upload ∧
        upload.identifier = identifier := by
  unfold uploadFor
  cases s.health.databaseOpen with
  | false => simp
  | true =>
      cases s.uploads.find? name with
      | none => simp
      | some known =>
          by_cases same : known.identifier = identifier
          · simp only [if_pos same, if_true, Except.ok.injEq, Option.some.injEq, true_and]
            exact ⟨fun eq => ⟨eq, eq ▸ same⟩, And.left⟩
          · simp only [if_neg same, if_true, Option.some.injEq, true_and, reduceCtorEq, false_iff]
            rintro ⟨rfl, there⟩
            exact same there

/-- What is fetched is what is looked up, when there is something. -/
theorem fetched_iff_lookup {s : Store} {identifier : String} {object : Object} :
    s.fetched identifier = .ok object ↔ s.lookup identifier = .ok (some object) := by
  unfold fetched
  rcases s.lookup identifier with fault | (_ | known) <;> simp

/-- A row that cannot be looked up is a fault of the database. -/
theorem fault_of_lookup {s : Store} {identifier : String} {fault : StoreFault}
    (failed : s.lookup identifier = .error fault) : fault = .database := by
  unfold lookup at failed
  split at failed
  · split at failed
    · cases failed
    · next row _ =>
        unfold readRow at failed
        split at failed
        · cases failed
        · cases failed
          rfl
  · cases failed
    rfl

/-- Blobs are joined, unless one is missing. -/
theorem joined_cases (s : Store) (blobs : List Nat) :
    (∃ bytes, s.joined blobs = .ok bytes ∧ ∀ blob, blob ∈ blobs → s.blobs.find? blob ≠ none) ∨
      (s.joined blobs = .error .missingBlob ∧
        ∃ blob, blob ∈ blobs ∧ s.blobs.find? blob = none) := by
  unfold joined
  induction blobs with
  | nil => exact .inl ⟨_, rfl, fun _ => nofun⟩
  | cons blob rest ih =>
      rw [List.mapM_cons]
      cases here : s.blobs.find? blob with
      | none =>
          right
          refine ⟨?_, blob, List.mem_cons_self, here⟩
          rw [content, here]
          rfl
      | some bytes =>
          rw [content, here]
          rcases ih with ⟨whole, joins, there⟩ | ⟨fails, lost, member, gone⟩
          · left
            cases read : rest.mapM s.content with
            | error fault =>
                rw [read] at joins
                cases joins
            | ok contents =>
                refine ⟨_, rfl, ?_⟩
                rw [List.forall_mem_cons, here]
                exact ⟨nofun, there⟩
          · right
            refine ⟨?_, lost, .tail _ member, gone⟩
            cases read : rest.mapM s.content with
            | error fault =>
                rw [read] at fails
                exact fails
            | ok contents =>
                rw [read] at fails
                cases fails

/-! ## Numbers of blobs are new -/

/-- The rows of a store hold blobs below the next number, and uploads are for valid identifiers. -/
structure Fresh (s : Store) : Prop where
  rows : ∀ identifier row, s.objects.find? identifier = some row → row.blob < s.nextBlob
  parts : ∀ key part, s.partRows.find? key = some part → part.blob < s.nextBlob
  targets : ∀ name row, s.uploadRows.find? name = some row →
    Name.checkIdentifier row.identifier = .ok ()

namespace Fresh

variable {s t : Store}

theorem empty : Store.empty.Fresh where
  rows _ _ found := by cases found
  parts _ _ found := by cases found
  targets _ _ found := by cases found

/-- What becomes of blobs and devices does not matter, when no number is given again. -/
theorem of_rows (fresh : s.Fresh) (objects : t.objects = s.objects)
    (uploads : t.uploadRows = s.uploadRows) (parts : t.partRows = s.partRows)
    (later : s.nextBlob ≤ t.nextBlob) : t.Fresh where
  rows identifier row found :=
    Nat.lt_of_lt_of_le (fresh.rows identifier row (objects ▸ found)) later
  parts key part found := Nat.lt_of_lt_of_le (fresh.parts key part (parts ▸ found)) later
  targets name row found := fresh.targets name row (uploads ▸ found)

/-- The blob of an object that is found has been numbered. -/
theorem blob_lt (fresh : s.Fresh) {identifier : String} {object : Object}
    (found : s.fetched identifier = .ok object) : object.blob < s.nextBlob := by
  obtain ⟨-, row, known, read⟩ := fetched_eq_ok_iff.mp found
  obtain ⟨metadata, -, rfl⟩ := readRow_eq_ok_iff.mp read
  exact fresh.rows identifier row known

theorem older (fresh : s.Fresh) {identifier : String} {previous? : Option Object}
    (looked : s.lookup identifier = .ok previous?) (previous : Object)
    (known : previous? = some previous) : previous.blob < s.nextBlob :=
  fresh.blob_lt (fetched_iff_lookup.mpr (known ▸ looked))

/-- An open upload is for a valid identifier. -/
theorem target (fresh : s.Fresh) {name : String} {upload : Upload}
    (known : s.uploads.find? name = some upload) :
    Name.checkIdentifier upload.identifier = .ok () := by
  rw [find?_uploads, Option.map_eq_some_iff] at known
  obtain ⟨row, found, rfl⟩ := known
  exact fresh.targets name row found

/-- The blob of a part of an open upload has been numbered. -/
theorem part_lt (fresh : s.Fresh) {name : String} {upload : Upload} {number : Nat} {part : Part}
    (known : s.uploads.find? name = some upload) (there : upload.parts.find? number = some part) :
    part.blob < s.nextBlob := by
  rw [parts_of_find?_uploads known, find?_partsOf] at there
  exact fresh.parts _ part there

theorem placed (fresh : s.Fresh) : s.placed.Fresh := fresh.of_rows rfl rfl rfl (Nat.le_refl _)

theorem kept (fresh : s.Fresh) (bytes : ByteArray) : (s.kept bytes).Fresh :=
  fresh.of_rows rfl rfl rfl (Nat.le_succ _)

theorem without (fresh : s.Fresh) (blob : Nat) : (s.without blob).Fresh :=
  fresh.of_rows rfl rfl rfl (Nat.le_refl _)

theorem withoutAll (fresh : s.Fresh) (blobs : List Nat) : (s.withoutAll blobs).Fresh := by
  induction blobs generalizing s with
  | nil => exact fresh
  | cons blob rest ih => exact ih (fresh.without blob)

theorem pointing (fresh : s.Fresh) (identifier : String) {row : Row}
    (below : row.blob < s.nextBlob) : (s.pointing identifier row).Fresh where
  rows identifier' row' found := by
    unfold Store.pointing at found
    rw [Table.find?_insert] at found
    split at found
    · cases found
      exact below
    · exact fresh.rows identifier' row' found
  parts := fresh.parts
  targets := fresh.targets

theorem unlisted (fresh : s.Fresh) (identifier : String) : (s.unlisted identifier).Fresh where
  rows identifier' row found := by
    unfold Store.unlisted at found
    rw [Table.find?_erase] at found
    split at found
    · cases found
    · exact fresh.rows identifier' row found
  parts := fresh.parts
  targets := fresh.targets

theorem begun (fresh : s.Fresh) {identifier : String}
    (valid : Name.checkIdentifier identifier = .ok ()) (attributes : Attributes) (now : Instant) :
    (s.begun identifier attributes now).Fresh where
  rows := fresh.rows
  parts := fresh.parts
  targets name row found := by
    unfold Store.begun at found
    rw [Table.find?_insert] at found
    split at found
    · cases found
      exact valid
    · exact fresh.targets name row found

theorem withPart (fresh : s.Fresh) (name : String) (number : Nat) {part : Part}
    (below : part.blob < s.nextBlob) : (s.withPart name number part).Fresh where
  rows := fresh.rows
  parts key part' found := by
    unfold Store.withPart at found
    rw [Table.find?_insert] at found
    split at found
    · cases found
      exact below
    · exact fresh.parts key part' found
  targets := fresh.targets

theorem forgotten (fresh : s.Fresh) (name : String) : (s.forgotten name).Fresh where
  rows := fresh.rows
  parts key part found := by
    unfold Store.forgotten at found
    rw [Table.find?_filter, Option.filter_eq_some_iff] at found
    exact fresh.parts key part found.1
  targets name' row found := by
    unfold Store.forgotten at found
    rw [Table.find?_erase] at found
    split at found
    · cases found
    · exact fresh.targets name' row found

theorem dropped (fresh : s.Fresh) (name : String) (upload : Upload) :
    (s.dropped name upload).Fresh :=
  (fresh.forgotten name).withoutAll _

/-! ### Operations -/

theorem commit (fresh : s.Fresh) (identifier : String) {written : Written}
    (below : written.blob < s.nextBlob) (attributes : Attributes) (previous? : Option Object)
    (now : Instant) : (outcome (commit identifier written attributes previous? now) s).2.Fresh := by
  rw [outcome_commit]
  split
  · exact (fresh.pointing identifier below).withoutAll _
  · exact fresh.without _

/-- The newest blob is committed. -/
theorem commit_draft (fresh : s.Fresh) (identifier : String) (bytes : ByteArray)
    (attributes : Attributes) (previous? : Option Object) (now : Instant) :
    (outcome (Store.commit identifier (s.draft bytes) attributes previous? now)
      (s.placed.kept bytes)).2.Fresh :=
  (fresh.placed.kept bytes).commit identifier (Nat.lt_succ_self _) attributes previous? now

theorem put (fresh : s.Fresh) (identifier : String) (attributes : Attributes) (body : Body)
    (now : Instant) : (outcome (put identifier attributes body now) s).2.Fresh := by
  rw [outcome_put]
  split
  · exact fresh
  · split
    · exact fresh.placed
    · split
      · exact fresh.placed.kept _
      · exact fresh.commit_draft ..

theorem update (fresh : s.Fresh) (identifier : String) (body : Body) (now : Instant) :
    (outcome (update identifier body now) s).2.Fresh := by
  rw [outcome_update]
  split
  · exact fresh
  · split
    · exact fresh.placed
    · split
      · exact (fresh.placed.kept _).without _
      · exact fresh.commit_draft ..

theorem joinTo (fresh : s.Fresh) (identifier : String) (written : Written) (now : Instant) :
    (outcome (joinTo identifier written now) s).2.Fresh := by
  rw [outcome_joinTo]
  split
  · exact fresh
  · split
    · exact fresh.placed
    · exact fresh.commit_draft ..

theorem append (fresh : s.Fresh) (identifier : String) (body : Body) (now : Instant) :
    (outcome (append identifier body now) s).2.Fresh := by
  rw [outcome_append]
  split
  · exact fresh
  · split
    · exact fresh.placed
    · exact ((fresh.placed.kept _).joinTo ..).without _

theorem rename (fresh : s.Fresh) (old new : String) (now : Instant) :
    (outcome (rename old new now) s).2.Fresh := by
  rw [outcome_rename]
  split
  · exact fresh
  · exact fresh
  · split
    · exact fresh
    · split
      · exact fresh
      · split
        · exact fresh
        · exact fresh
        · split
          · split
            · exact fresh
            · next row found => exact (fresh.unlisted old).pointing new (fresh.rows old row found)
          · exact fresh

theorem copy (fresh : s.Fresh) (source destination : String) (attributes? : Option Attributes)
    (now : Instant) : (outcome (copy source destination attributes? now) s).2.Fresh := by
  rw [outcome_copy]
  split
  · exact fresh
  · exact fresh
  · split
    · exact fresh
    · split
      · exact fresh
      · split
        · exact fresh.placed
        · exact fresh.commit_draft ..

theorem delete (fresh : s.Fresh) (identifier : String) :
    (outcome (delete identifier) s).2.Fresh := by
  rw [outcome_delete]
  split
  · exact fresh
  · split
    · split
      · exact fresh
      · split
        · exact fresh.unlisted identifier
        · exact (fresh.unlisted identifier).without _
    · exact fresh

theorem beginUpload (fresh : s.Fresh) (identifier : String) (attributes : Attributes)
    (now : Instant) : (outcome (beginUpload identifier attributes now) s).2.Fresh := by
  rw [outcome_beginUpload]
  split
  · exact fresh
  · next valid =>
      split
      · exact fresh.begun valid attributes now
      · exact fresh

theorem uploadPart (fresh : s.Fresh) (name identifier : String) (number : Int) (body : Body)
    (now : Instant) : (outcome (uploadPart name identifier number body now) s).2.Fresh := by
  rw [outcome_uploadPart]
  split
  · exact fresh
  · split
    · exact fresh
    · split
      · exact fresh.placed
      · apply withoutAll
        exact (fresh.placed.kept _).withPart name _ (Nat.lt_succ_self _)

theorem dropUpload (fresh : s.Fresh) (name : String) (upload : Upload) :
    (outcome (dropUpload name upload) s).2.Fresh := by
  rw [outcome_dropUpload]
  split
  · exact fresh.dropped name upload
  · exact fresh

theorem complete (fresh : s.Fresh) (name identifier : String) (requested : List RequestedPart)
    (now : Instant) : (outcome (complete name identifier requested now) s).2.Fresh := by
  rw [outcome_complete]
  split
  · exact fresh
  · next upload _ =>
      split
      · exact fresh
      · split
        · exact fresh.placed
        · next bytes _ =>
            split
            · exact fresh.placed.kept _
            · next previous? _ =>
                have committed :=
                  fresh.commit_draft identifier bytes upload.attributes previous? now
                split
                · next ended => exact ended ▸ committed
                · next ended =>
                    rw [ended] at committed
                    exact committed.dropUpload name upload

theorem abort (fresh : s.Fresh) (name identifier : String) :
    (outcome (abort name identifier) s).2.Fresh := by
  rw [outcome_abort]
  split
  · exact fresh
  · exact fresh.dropUpload ..

/-- Every call takes new numbers for its blobs. -/
theorem after (fresh : s.Fresh) (call : Call) : (call.after s).Fresh := by
  cases call with
  | object call =>
      rw [Call.after, Call.perform, outcome_map]
      cases call with
      | put identifier attributes body now =>
          rw [ObjectCall.perform, outcome_map]
          exact fresh.put identifier attributes body now
      | putPieces identifier attributes pieces now =>
          rw [ObjectCall.perform, outcome_map]
          exact fresh.put identifier attributes _ now
      | update identifier body now =>
          rw [ObjectCall.perform, outcome_map]
          exact fresh.update identifier body now
      | append identifier body now =>
          rw [ObjectCall.perform, outcome_map]
          exact fresh.append identifier body now
      | rename old new now =>
          rw [ObjectCall.perform, outcome_map]
          exact fresh.rename old new now
      | copy source destination attributes? now =>
          rw [ObjectCall.perform, outcome_map]
          exact fresh.copy source destination attributes? now
      | delete identifier =>
          rw [ObjectCall.perform, outcome_map]
          exact fresh.delete identifier
      | head identifier =>
          rw [ObjectCall.perform, outcome_map]
          exact (head_keeps identifier s).symm ▸ fresh
      | read identifier =>
          rw [ObjectCall.perform, outcome_map]
          exact (read_keeps identifier s).symm ▸ fresh
      | list beginning =>
          rw [ObjectCall.perform, outcome_map, outcome_list]
          exact fresh
  | upload call =>
      rw [Call.after, Call.perform, outcome_map]
      cases call with
      | start identifier attributes now =>
          rw [UploadCall.perform, outcome_map]
          exact fresh.beginUpload identifier attributes now
      | uploadPart name identifier number body now =>
          rw [UploadCall.perform, outcome_map]
          exact fresh.uploadPart name identifier number body now
      | listParts name identifier =>
          rw [UploadCall.perform, outcome_map, outcome_listParts]
          exact fresh
      | complete name identifier requested now =>
          rw [UploadCall.perform, outcome_map]
          exact fresh.complete name identifier requested now
      | abort name identifier =>
          rw [UploadCall.perform, outcome_map]
          exact fresh.abort name identifier
  | survey look =>
      rw [Call.after, Call.perform, outcome_map, look.after_eq]
      exact fresh

end Fresh

/-- The stores that come from the empty one by calls, and by damage of any kind: blobs may be lost,
altered or left over, rows may be altered or go, and devices may refuse their work. -/
inductive Weathered : Store → Prop
  | start : Weathered Store.empty
  | call {s : Store} (weathered : Weathered s) (call : Call) : Weathered (call.after s)
  | blobs {s : Store} (weathered : Weathered s) (blobs : Table Nat ByteArray) :
      Weathered { s with blobs }
  | health {s : Store} (weathered : Weathered s) (health : Health) : Weathered { s with health }
  | rows {s : Store} (weathered : Weathered s) (objects : Table String Row)
      (below : ∀ identifier row, objects.find? identifier = some row → row.blob < s.nextBlob) :
      Weathered { s with objects }
  | draw {s : Store} (weathered : Weathered s) (next : Nat) :
      Weathered { s with nextUpload := next }

/-- Whatever happens to a store, no number is given again to a blob. -/
theorem Weathered.fresh {s : Store} (weathered : Weathered s) : s.Fresh := by
  induction weathered with
  | start => exact .empty
  | call _ call fresh => exact fresh.after call
  | blobs _ _ fresh => exact fresh.of_rows rfl rfl rfl (Nat.le_refl _)
  | health _ _ fresh => exact fresh.of_rows rfl rfl rfl (Nat.le_refl _)
  | rows _ objects below fresh => exact ⟨below, fresh.parts, fresh.targets⟩
  | draw _ _ fresh => exact fresh.of_rows rfl rfl rfl (Nat.le_refl _)

/-! ## Objects that are shown -/

/-- A store shows an object with some bytes, and with the digest of just these bytes. -/
structure Shows (s : Store) (identifier : String) (object : Object) (bytes : ByteArray) : Prop where
  valid : Name.checkIdentifier identifier = .ok ()
  fetched : s.fetched identifier = .ok object
  content : s.blobs.find? object.blob = some bytes
  etag : object.etag = Hex.encode (Digest.Md5.digest bytes)

namespace Shows

variable {s : Store} {identifier : String} {object : Object} {bytes : ByteArray}

/-- What is shown is read, because its digest is its own. -/
theorem read (shows : s.Shows identifier object bytes) :
    outcome (read identifier) s = (.ok ⟨object, bytes⟩, s) := by
  have peeked : s.peeked identifier = .ok ⟨object, bytes⟩ := by
    rw [Store.peeked, shows.fetched]
    dsimp only
    rw [Store.content, shows.content]
    rfl
  rw [outcome_read, shows.valid]
  dsimp only
  rw [peeked]
  dsimp only
  rw [etagOf_eq, if_pos shows.etag.symm]

/-- Another blob can go. -/
theorem without (shows : s.Shows identifier object bytes) {blob : Nat}
    (other : object.blob ≠ blob) :
    (s.without blob).Shows identifier object bytes where
  valid := shows.valid
  fetched := shows.fetched
  content := by
    show (s.blobs.erase blob).find? object.blob = some bytes
    rw [Table.find?_erase, if_neg other]
    exact shows.content
  etag := shows.etag

theorem withoutAll (shows : s.Shows identifier object bytes) {blobs : List Nat}
    (others : ∀ blob, blob ∈ blobs → object.blob ≠ blob) :
    (s.withoutAll blobs).Shows identifier object bytes := by
  induction blobs generalizing s with
  | nil => exact shows
  | cons blob rest ih =>
      have first := shows.without (others blob List.mem_cons_self)
      exact ih first fun other member => others other (.tail _ member)

/-- An upload can go with the blobs of its parts. -/
theorem dropUpload (shows : s.Shows identifier object bytes) (name : String) {upload : Upload}
    (others : ∀ number part, upload.parts.find? number = some part → object.blob ≠ part.blob) :
    (outcome (dropUpload name upload) s).2.Shows identifier object bytes := by
  rw [outcome_dropUpload]
  split
  · have listed : (s.forgotten name).Shows identifier object bytes :=
      ⟨shows.valid, shows.fetched, shows.content, shows.etag⟩
    apply listed.withoutAll
    intro blob member
    obtain ⟨entry, known, rfl⟩ := List.mem_map.mp member
    exact others entry.1 entry.2 (Table.mem_entries_iff.mp known)
  · exact shows

end Shows

/-- Two stores with the same rows of objects, uploads and parts. -/
structure SameRows (s t : Store) : Prop where
  objects : t.objects = s.objects
  uploads : t.uploadRows = s.uploadRows
  parts : t.partRows = s.partRows

/-- How the newest blob is committed: the object is shown with it, or its row cannot be written and
all rows stay as they were. -/
theorem commit_cases {s : Store} {identifier : String}
    (valid : Name.checkIdentifier identifier = .ok ()) (bytes : ByteArray)
    (attributes : Attributes) {previous? : Option Object} (now : Instant)
    (older : ∀ previous, previous? = some previous → previous.blob < s.nextBlob) :
    (s.takes identifier = true ∧ ∃ object t,
      outcome (commit identifier (s.draft bytes) attributes previous? now) (s.placed.kept bytes) =
        (.ok object, t) ∧ t.Shows identifier object bytes ∧ object.blob = s.nextBlob) ∨
    (s.takes identifier = false ∧ ∃ t,
      outcome (commit identifier (s.draft bytes) attributes previous? now) (s.placed.kept bytes) =
        (.error .database, t) ∧ SameRows s t) := by
  have same : (s.placed.kept bytes).takes identifier = s.takes identifier := rfl
  rw [outcome_commit, same]
  cases takes : s.takes identifier with
  | false =>
      right
      exact ⟨rfl, _, rfl, rfl, rfl, rfl⟩
  | true =>
      left
      have opened : s.health.databaseOpen := by
        unfold Store.takes at takes
        exact (Bool.and_eq_true_iff.mp takes).1
      refine ⟨rfl, _, _, rfl, ?_, rfl⟩
      apply Shows.withoutAll
      · refine ⟨valid, fetched_eq_ok_iff.mpr ⟨opened, ?_⟩, Table.find?_insert_self _ _ _, rfl⟩
        exact ⟨_, Table.find?_insert_self _ _ _, readRow_eq_ok_iff.mpr ⟨_, rfl, rfl⟩⟩
      · intro blob member
        obtain ⟨previous, known, rfl⟩ :
            ∃ previous, previous? = some previous ∧ previous.blob = blob := by
          simpa using member
        exact Nat.ne_of_gt (older previous known)

/-! ## Operations that join blobs -/

/-- An operation that writes an object from blobs that are there. -/
inductive Joining where
  | append (identifier : String) (body : Body) (now : Instant)
  | copy (source destination : String) (attributes? : Option Attributes) (now : Instant)
  | complete (name identifier : String) (requested : List RequestedPart) (now : Instant)

namespace Joining

/-- The operation. -/
def perform : Joining → Action Object
  | append identifier body now => Store.append identifier body now
  | copy source destination attributes? now => Store.copy source destination attributes? now
  | complete name identifier requested now => Store.complete name identifier requested now

/-- The object whose content is joined, when it is that of one. -/
def source? : Joining → Option String
  | append identifier _ _ => some identifier
  | copy source _ _ _ => some source
  | complete _ _ _ _ => none

end Joining

/-- A blob that is joined, with the digest that its row records. -/
structure Source where
  blob : Nat
  etag : String

/-- What an operation joins, and where it writes it to: some sources and the bytes after them. -/
structure Joint where
  target : String
  sources : List Source
  added : ByteArray

namespace Joint

variable (joint : Joint) (s : Store)

/-- What is joined, or that a blob is missing. -/
def whole : Except StoreFault ByteArray :=
  (s.joined (joint.sources.map Source.blob)).map (· ++ joint.added)

/-- A source does not have the digest that its row records. -/
def Damaged : Prop :=
  ∃ source, source ∈ joint.sources ∧
    ∃ bytes, s.blobs.find? source.blob = some bytes ∧
      Hex.encode (Digest.Md5.digest bytes) ≠ source.etag

/-- What is joined cannot be written: a source is missing, or the row of the target can not be
read or not be changed. -/
def Blocked : Prop :=
  (∃ source, source ∈ joint.sources ∧ s.blobs.find? source.blob = none) ∨
    s.Unreadable joint.target ∨ s.takes joint.target = false

end Joint

/-- What an operation joins, when all that it is given is in order. -/
inductive Joining.Selects (s : Store) : Joining → Joint → Prop
  | append {identifier : String} {body : Body} {now : Instant} {bytes : ByteArray} {object : Object}
      (valid : Name.checkIdentifier identifier = .ok ()) (read : body.contents = .ok bytes)
      (found : s.fetched identifier = .ok object) :
      Selects s (.append identifier body now) ⟨identifier, [⟨object.blob, object.etag⟩], bytes⟩
  | copy {source destination : String} {attributes? : Option Attributes} {now : Instant}
      {object : Object} (valid : Name.checkIdentifier source = .ok ())
      (valid' : Name.checkIdentifier destination = .ok ())
      (found : s.fetched source = .ok object) :
      Selects s (.copy source destination attributes? now)
        ⟨destination, [⟨object.blob, object.etag⟩], ByteArray.empty⟩
  | complete {name identifier : String} {requested : List RequestedPart} {now : Instant}
      {upload : Upload} {chosen : List Part} (found : s.uploadFor name identifier = .ok upload)
      (chose : chooseParts upload.parts requested = .ok chosen) :
      Selects s (.complete name identifier requested now)
        ⟨identifier, chosen.map fun part => ⟨part.blob, part.etag⟩, ByteArray.empty⟩

/-- How an operation ends that joins blobs: it fails and leaves the rows as they were, or it shows
what it has joined. -/
inductive Ends (s : Store) (joint : Joint) : Except StoreFault Object × Store → Prop
  | refused {fault : StoreFault} {t : Store} (blocked : joint.Blocked s)
      (kind : fault.kind = .storage) (same : SameRows s t) : Ends s joint (.error fault, t)
  | shown {object : Object} {bytes : ByteArray} {t : Store} (free : ¬ joint.Blocked s)
      (whole : joint.whole s = .ok bytes) (shows : t.Shows joint.target object bytes) :
      Ends s joint (.ok object, t)

/-- What is joined can be written when nothing is missing and the row of the target is in order. -/
theorem Joint.not_blocked {joint : Joint} {s : Store} {bytes : ByteArray}
    {previous? : Option Object} (joins : s.joined (joint.sources.map Source.blob) = .ok bytes)
    (readable : s.lookup joint.target = .ok previous?) (takes : s.takes joint.target = true) :
    ¬ joint.Blocked s := by
  rintro (⟨source, member, gone⟩ | ⟨fault, unread⟩ | refuses)
  · rcases joined_cases s (joint.sources.map Source.blob) with ⟨_, -, there⟩ | ⟨fails, -⟩
    · exact there source.blob (List.mem_map.mpr ⟨source, member, rfl⟩) gone
    · cases joins.symm.trans fails
  · cases readable.symm.trans unread
  · cases takes.symm.trans refuses

/-- A missing blob is a fault of the storage, and blocks what is joined. -/
theorem Joint.blocked_of_joined (joint : Joint) {s : Store} {fault : StoreFault}
    (fails : s.joined (joint.sources.map Source.blob) = .error fault) :
    joint.Blocked s ∧ fault.kind = .storage := by
  rcases joined_cases s (joint.sources.map Source.blob) with
    ⟨_, joins, -⟩ | ⟨lost, blob, member, gone⟩
  · cases joins.symm.trans fails
  · cases lost.symm.trans fails
    obtain ⟨source, known, rfl⟩ := List.mem_map.mp member
    exact ⟨.inl ⟨source, known, gone⟩, rfl⟩

theorem copy_ends {s : Store} (fresh : s.Fresh) {source destination : String}
    (attributes? : Option Attributes) (now : Instant) {object : Object}
    (valid : Name.checkIdentifier source = .ok ())
    (valid' : Name.checkIdentifier destination = .ok ())
    (found : s.fetched source = .ok object) :
    Ends s ⟨destination, [⟨object.blob, object.etag⟩], ByteArray.empty⟩
      (outcome (copy source destination attributes? now) s) := by
  have same : (if source = destination then .ok (some object)
      else s.lookup destination : Except StoreFault (Option Object)) = s.lookup destination := by
    split
    · next same => rw [← same, fetched_iff_lookup.mp found]
    · rfl
  rw [outcome_copy, valid, valid']
  dsimp only
  rw [found]
  dsimp only
  rw [same]
  cases looked : s.lookup destination with
  | error fault =>
      exact .refused (.inr (.inl ⟨fault, looked⟩)) (fault_of_lookup looked ▸ rfl) ⟨rfl, rfl, rfl⟩
  | ok previous? =>
      dsimp only
      cases joins : s.joined [object.blob] with
      | error fault =>
          obtain ⟨blocked, kind⟩ := Joint.blocked_of_joined
            ⟨destination, [⟨object.blob, object.etag⟩], ByteArray.empty⟩ joins
          exact .refused blocked kind ⟨rfl, rfl, rfl⟩
      | ok bytes =>
          dsimp only
          rcases commit_cases valid' bytes (attributes?.getD object.attributes) now
            (fresh.older looked) with
            ⟨takes, written, t, ended, shows, -⟩ | ⟨takes, t, ended, same⟩
          · rw [ended]
            refine .shown (Joint.not_blocked joins looked takes) ?_ shows
            simp [Joint.whole, joins, Except.map]
          · rw [ended]
            exact .refused (.inr (.inr takes)) rfl same

/-- The bytes that are added are joined after the content of the object. -/
theorem joined_staged {s : Store} {blob : Nat} (below : blob < s.nextBlob) (bytes : ByteArray) :
    (s.placed.kept bytes).joined [blob, s.nextBlob] = (s.joined [blob]).map (· ++ bytes) := by
  have newest : (s.placed.kept bytes).content s.nextBlob = .ok bytes := by
    have found : (s.placed.kept bytes).blobs.find? s.nextBlob = some bytes :=
      Table.find?_insert_self _ _ _
    rw [content, found]
  have older : (s.placed.kept bytes).content blob = s.content blob := by
    have found : (s.placed.kept bytes).blobs.find? blob = s.blobs.find? blob := by
      unfold Store.kept
      rw [Table.find?_insert]
      exact if_neg (Nat.ne_of_lt below)
    rw [content, content, found]
  unfold joined
  rw [List.mapM_cons, List.mapM_cons, List.mapM_cons, newest, older]
  cases s.content blob <;> rfl

theorem append_ends {s : Store} (fresh : s.Fresh) {identifier : String} {body : Body}
    (now : Instant) {bytes : ByteArray} {object : Object}
    (valid : Name.checkIdentifier identifier = .ok ()) (read : body.contents = .ok bytes)
    (found : s.fetched identifier = .ok object) :
    Ends s ⟨identifier, [⟨object.blob, object.etag⟩], bytes⟩
      (outcome (append identifier body now) s) := by
  have looked := fetched_iff_lookup.mp found
  have staged := joined_staged (fresh.blob_lt found) bytes
  have found' : (s.placed.kept bytes).fetched identifier = .ok object := found
  rw [outcome_append, valid, read]
  dsimp only
  rw [outcome_joinTo, found']
  dsimp only
  rw [show (s.draft bytes).blob = s.nextBlob from rfl, staged]
  cases joins : s.joined [object.blob] with
  | error fault =>
      obtain ⟨blocked, kind⟩ := Joint.blocked_of_joined
        ⟨identifier, [⟨object.blob, object.etag⟩], bytes⟩ joins
      exact .refused blocked kind ⟨rfl, rfl, rfl⟩
  | ok whole =>
      have older : ∀ previous, some object = some previous →
          previous.blob < (s.placed.kept bytes).nextBlob := by
        rintro previous ⟨rfl⟩
        exact Nat.lt_succ_of_lt (fresh.blob_lt found)
      dsimp only [Except.map]
      rcases commit_cases valid (whole ++ bytes) object.attributes now older with
        ⟨takes, written, t, ended, shows, number⟩ | ⟨takes, t, ended, same⟩
      · rw [ended]
        have later : written.blob ≠ s.nextBlob := by
          rw [number]
          exact Nat.succ_ne_self _
        refine .shown (Joint.not_blocked joins looked takes) ?_ (shows.without later)
        simp [Joint.whole, joins, Except.map]
      · rw [ended]
        exact .refused (.inr (.inr takes)) rfl ⟨same.objects, same.uploads, same.parts⟩

theorem complete_ends {s : Store} (fresh : s.Fresh) {name identifier : String}
    {requested : List RequestedPart} (now : Instant) {upload : Upload} {chosen : List Part}
    (found : s.uploadFor name identifier = .ok upload)
    (chose : chooseParts upload.parts requested = .ok chosen) :
    Ends s ⟨identifier, chosen.map fun part => ⟨part.blob, part.etag⟩, ByteArray.empty⟩
      (outcome (complete name identifier requested now) s) := by
  obtain ⟨-, known, rfl⟩ := uploadFor_eq_ok_iff.mp found
  have valid := fresh.target known
  have blobs : (chosen.map fun part => (⟨part.blob, part.etag⟩ : Source)).map Source.blob =
      chosen.map Part.blob := by
    rw [List.map_map]
    rfl
  rw [outcome_complete, found]
  dsimp only
  rw [chose]
  dsimp only
  cases joins : s.joined (chosen.map Part.blob) with
  | error fault =>
      obtain ⟨blocked, kind⟩ := Joint.blocked_of_joined
        ⟨upload.identifier, chosen.map fun part => ⟨part.blob, part.etag⟩, ByteArray.empty⟩
        (blobs ▸ joins)
      exact .refused blocked kind ⟨rfl, rfl, rfl⟩
  | ok bytes =>
      dsimp only
      cases looked : s.lookup upload.identifier with
      | error fault =>
          exact .refused (.inr (.inl ⟨fault, looked⟩)) (fault_of_lookup looked ▸ rfl)
            ⟨rfl, rfl, rfl⟩
      | ok previous? =>
          dsimp only
          rcases commit_cases valid bytes upload.attributes now (fresh.older looked) with
            ⟨takes, written, t, ended, shows, number⟩ | ⟨takes, t, ended, same⟩
          · rw [ended]
            have others : ∀ number part, upload.parts.find? number = some part →
                written.blob ≠ part.blob := by
              intro n part there same
              have below := fresh.part_lt known there
              rw [← same, number] at below
              exact Nat.lt_irrefl _ below
            refine .shown (Joint.not_blocked (blobs ▸ joins) looked takes) ?_
              (shows.dropUpload name others)
            simp [Joint.whole, blobs, joins, Except.map]
          · rw [ended]
            exact .refused (.inr (.inr takes)) rfl same

/-- Every operation that joins blobs shows what it has joined, or leaves the rows as they were. -/
theorem Joining.ends {s : Store} (fresh : s.Fresh) {joining : Joining} {joint : Joint}
    (selects : joining.Selects s joint) : Ends s joint (outcome joining.perform s) := by
  cases selects with
  | append valid read found => exact append_ends fresh _ valid read found
  | copy valid valid' found => exact copy_ends fresh _ _ valid valid' found
  | complete found chose => exact complete_ends fresh _ found chose

/-- A blob with another digest than its row records is noticed by a reader. -/
theorem read_corrupted {s : Store} {identifier : String} {object : Object} {bytes : ByteArray}
    (valid : Name.checkIdentifier identifier = .ok ()) (found : s.fetched identifier = .ok object)
    (there : s.blobs.find? object.blob = some bytes) (other : etagOf bytes ≠ object.etag) :
    outcome (read identifier) s =
      (.error (.corrupted identifier object.etag (etagOf bytes)), s) := by
  have peeked : s.peeked identifier = .ok ⟨object, bytes⟩ := by
    rw [Store.peeked, found]
    dsimp only
    rw [content, there]
    rfl
  rw [outcome_read, valid]
  dsimp only
  rw [peeked]
  exact if_neg other

/-- The object whose damaged content is joined cannot be read. -/
theorem Joining.Selects.read_refused {s : Store} {joining : Joining} {joint : Joint}
    (selects : joining.Selects s joint) (damaged : joint.Damaged s) {identifier : String}
    (source : joining.source? = some identifier) :
    ∃ expected actual,
      outcome (read identifier) s = (.error (.corrupted identifier expected actual), s) := by
  obtain ⟨part, member, bytes, there, other⟩ := damaged
  cases selects with
  | append valid _ found =>
      cases source
      cases List.mem_singleton.mp member
      exact ⟨_, _, read_corrupted valid found there other⟩
  | copy valid _ found =>
      cases source
      cases List.mem_singleton.mp member
      exact ⟨_, _, read_corrupted valid found there other⟩
  | complete _ _ => cases source

/-- **Damage is passed on.**  Let a store have come to its state by calls and by any damage, and let
an operation join content that has not the digest that is recorded for it: continue an object, copy
one, or complete an upload.  A reader of the object is refused.  But the operation fails with a
fault of the storage, and leaves all rows as they were, exactly when something is missing or the
target cannot be read or changed.  Otherwise it writes an object with a digest of its own, that of
the damaged bytes, and the object is read without a fault. -/
theorem damage_passed_on {s : Store} (weathered : Weathered s) {joining : Joining} {joint : Joint}
    (selects : joining.Selects s joint) (damaged : joint.Damaged s) :
    let ended := outcome joining.perform s
    (∀ identifier, joining.source? = some identifier → ∃ expected actual,
      outcome (read identifier) s = (.error (.corrupted identifier expected actual), s)) ∧
    ((∃ fault, ended.1 = .error fault ∧ fault.kind = .storage ∧ SameRows s ended.2) ↔
      joint.Blocked s) ∧
    (¬ joint.Blocked s → ∃ object bytes, joint.whole s = .ok bytes ∧ ended.1 = .ok object ∧
      object.etag = Hex.encode (Digest.Md5.digest bytes) ∧
      outcome (read joint.target) ended.2 = (.ok ⟨object, bytes⟩, ended.2)) := by
  intro ended
  have ends : Ends s joint ended := Joining.ends weathered.fresh selects
  refine ⟨fun _ => selects.read_refused damaged, ?_⟩
  obtain ⟨result, t⟩ := ended
  cases ends with
  | refused blocked kind same =>
      refine ⟨iff_of_true ⟨_, rfl, kind, same⟩ blocked, ?_⟩
      intro free
      exact absurd blocked free
  | shown free whole shows =>
      refine ⟨iff_of_false ?_ free, ?_⟩
      · rintro ⟨fault, failed, -⟩
        cases failed
      · intro _
        exact ⟨_, _, whole, rfl, shows.etag, shows.read⟩

/-- A store in which the content of an object has been altered. -/
def altered : Store :=
  { (Call.object (.put "k" .none (Body.ofBytes "old".toUTF8) ⟨0, 0⟩)).after Store.empty with
    blobs := Table.empty.insert 0 "bad".toUTF8 }

/-- Altered content is continued, and what comes of it is read. -/
theorem altered_append :
    let ended := outcome (append "k" (Body.ofBytes "x".toUTF8) ⟨1, 0⟩) altered
    (∃ expected actual,
      outcome (read "k") altered = (.error (.corrupted "k" expected actual), altered)) ∧
    ∃ object bytes, ended.1 = .ok object ∧
      outcome (read "k") ended.2 = (.ok ⟨object, bytes⟩, ended.2) := by
  intro ended
  have weathered : Weathered altered := .blobs (.call .start _) _
  have found : altered.fetched "k" =
      .ok (objectOf "k" (Store.empty.draft "old".toUTF8) .none ⟨0, 0⟩) := rfl
  have selects : (Joining.append "k" (Body.ofBytes "x".toUTF8) ⟨1, 0⟩).Selects altered
      ⟨"k", [⟨0, etagOf "old".toUTF8⟩], "x".toUTF8⟩ := .append rfl rfl found
  have damaged : Joint.Damaged ⟨"k", [⟨0, etagOf "old".toUTF8⟩], "x".toUTF8⟩ altered :=
    ⟨_, List.mem_singleton_self _, "bad".toUTF8, rfl, by decide +kernel⟩
  have free : ¬ Joint.Blocked ⟨"k", [⟨0, etagOf "old".toUTF8⟩], "x".toUTF8⟩ altered :=
    Joint.not_blocked rfl (fetched_iff_lookup.mp found) rfl
  obtain ⟨refused, -, passes⟩ := damage_passed_on weathered selects damaged
  obtain ⟨object, bytes, -, done, -, reads⟩ := passes free
  exact ⟨refused "k" rfl, object, bytes, done, reads⟩

end Depot.Store

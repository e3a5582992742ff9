import Depot.Proofs.Store.Steps
import Depot.Store.Listing
import Depot.Store.Read
import Depot.Store.Write

/-!
# What each operation does

For every operation of the store, its outcome in any store: which fault comes
first, and what has happened to the store by then.  Later proofs go from these
equations and never open an operation again.
-/

namespace Depot.Store

set_option autoImplicit false

open Depot.Http
open Depot.Time

/-! ## Changing objects -/

theorem outcome_put (identifier : String) (attributes : Attributes) (body : Body)
    (now : Instant) (s : Store) :
    outcome (put identifier attributes body now) s =
      match Name.checkIdentifier identifier with
      | .error fault => (.error (.ofIdentifier identifier fault), s)
      | .ok () =>
          match body.contents with
          | .error fault => (.error (.body fault), s.placed)
          | .ok bytes =>
              match s.lookup identifier with
              | .error fault => (.error fault, s.placed.kept bytes)
              | .ok previous? =>
                  outcome (commit identifier (s.draft bytes) attributes previous? now)
                    (s.placed.kept bytes) := by
  unfold put
  rw [outcome_bind, outcome_requireIdentifier]
  cases Name.checkIdentifier identifier with
  | error fault => rfl
  | ok valid =>
      show outcome (writeBlob body >>= _) s = _
      rw [outcome_bind, outcome_writeBlob]
      cases body.contents with
      | error fault => rfl
      | ok bytes =>
          show outcome (find identifier >>= _) (s.placed.kept bytes) = _
          rw [outcome_bind, outcome_find, lookup_kept, lookup_placed]
          cases s.lookup identifier <;> rfl

/-- A body that comes in pieces is their concatenation. -/
theorem contents_of_pieces (pieces : List ByteArray) :
    Body.contents (pieces.map .data) = .ok (pieces.foldl (· ++ ·) ByteArray.empty) := by
  have onto (read : ByteArray) :
      Body.readOnto read (pieces.map .data) = .ok (pieces.foldl (· ++ ·) read) := by
    induction pieces generalizing read with
    | nil => rfl
    | cons piece rest ih => exact ih (read ++ piece)
  exact onto ByteArray.empty

theorem outcome_update (identifier : String) (body : Body) (now : Instant) (s : Store) :
    outcome (update identifier body now) s =
      match Name.checkIdentifier identifier with
      | .error fault => (.error (.ofIdentifier identifier fault), s)
      | .ok () =>
          match body.contents with
          | .error fault => (.error (.body fault), s.placed)
          | .ok bytes =>
              match s.fetched identifier with
              | .error fault => (.error fault, (s.placed.kept bytes).without s.nextBlob)
              | .ok previous =>
                  outcome
                    (commit identifier (s.draft bytes) previous.attributes (some previous) now)
                    (s.placed.kept bytes) := by
  unfold update
  rw [outcome_bind, outcome_requireIdentifier]
  cases Name.checkIdentifier identifier with
  | error fault => rfl
  | ok valid =>
      show outcome (writeBlob body >>= _) s = _
      rw [outcome_bind, outcome_writeBlob]
      cases body.contents with
      | error fault => rfl
      | ok bytes =>
          show outcome (fetchFor identifier (s.draft bytes) >>= _) (s.placed.kept bytes) = _
          unfold fetchFor
          rw [outcome_bind, outcome_tryCatch, outcome_fetch, fetched_kept, fetched_placed]
          cases s.fetched identifier <;> rfl

theorem outcome_joinTo (identifier : String) (written : Written) (now : Instant) (s : Store) :
    outcome (joinTo identifier written now) s =
      match s.fetched identifier with
      | .error fault => (.error fault, s)
      | .ok previous =>
          match s.joined [previous.blob, written.blob] with
          | .error fault => (.error fault, s.placed)
          | .ok bytes =>
              outcome (commit identifier (s.draft bytes) previous.attributes (some previous) now)
                (s.placed.kept bytes) := by
  unfold joinTo
  rw [outcome_bind, outcome_fetch]
  cases s.fetched identifier with
  | error fault => rfl
  | ok previous =>
      show outcome (joinBlobs [previous.blob, written.blob] >>= _) s = _
      rw [outcome_bind, outcome_joinBlobs]
      cases read : s.joined [previous.blob, written.blob] <;> simp only [read]

theorem outcome_append (identifier : String) (body : Body) (now : Instant) (s : Store) :
    outcome (append identifier body now) s =
      match Name.checkIdentifier identifier with
      | .error fault => (.error (.ofIdentifier identifier fault), s)
      | .ok () =>
          match body.contents with
          | .error fault => (.error (.body fault), s.placed)
          | .ok bytes =>
              let done := outcome (joinTo identifier (s.draft bytes) now) (s.placed.kept bytes)
              (done.1, done.2.without s.nextBlob) := by
  unfold append
  rw [outcome_bind, outcome_requireIdentifier]
  cases Name.checkIdentifier identifier with
  | error fault => rfl
  | ok valid =>
      show outcome (writeBlob body >>= _) s = _
      rw [outcome_bind, outcome_writeBlob]
      cases body.contents with
      | error fault => rfl
      | ok bytes =>
          show outcome (observing (joinTo identifier (s.draft bytes) now) >>= _)
            (s.placed.kept bytes) = _
          unfold observing
          rw [outcome_bind, outcome_tryCatch, outcome_bind]
          show _ = ((outcome (joinTo identifier (s.draft bytes) now) (s.placed.kept bytes)).1,
            (outcome (joinTo identifier (s.draft bytes) now) (s.placed.kept bytes)).2.without
              s.nextBlob)
          obtain ⟨result, t⟩ :=
            outcome (joinTo identifier (s.draft bytes) now) (s.placed.kept bytes)
          cases result <;> rfl

def unlisted (s : Store) (identifier : String) : Store :=
  { s with objects := s.objects.erase identifier }

theorem outcome_rename (old new : String) (now : Instant) (s : Store) :
    outcome (rename old new now) s =
      match Name.checkIdentifier old, Name.checkIdentifier new with
      | .error fault, _ => (.error (.ofIdentifier old fault), s)
      | .ok (), .error fault => (.error (.ofIdentifier new fault), s)
      | .ok (), .ok () =>
          match s.fetched old with
          | .error fault => (.error fault, s)
          | .ok current =>
              if old = new then (.ok current, s)
              else
                match s.lookup new with
                | .error fault => (.error fault, s)
                | .ok (some _) => (.error (.conflict new), s)
                | .ok none =>
                    if s.health.rowsChangeable then
                      match s.objects.find? old with
                      | none => (.error (.notFound old), s)
                      | some row =>
                          (readRow new { row with modified := now },
                            (s.unlisted old).pointing new { row with modified := now })
                    else (.error .database, s) := by
  unfold rename
  rw [outcome_bind, outcome_requireIdentifier]
  cases Name.checkIdentifier old with
  | error fault => cases Name.checkIdentifier new <;> rfl
  | ok oldValid =>
      show outcome (requireIdentifier new >>= _) s = _
      rw [outcome_bind, outcome_requireIdentifier]
      cases Name.checkIdentifier new with
      | error fault => rfl
      | ok newValid =>
          show outcome (fetch old >>= _) s = _
          rw [outcome_bind, outcome_fetch]
          cases s.fetched old with
          | error fault => rfl
          | ok current =>
              by_cases same : old = new
              · simp [same]
              · show outcome (if old = new then pure current else _) s = _
                simp only [if_neg same]
                show outcome (find new >>= _) s = _
                rw [outcome_bind, outcome_find]
                rcases s.lookup new with fault | _ | taken
                · rfl
                · show outcome (get >>= _) s = _
                  rw [outcome_get_bind]
                  cases s.health.rowsChangeable with
                  | false => rfl
                  | true => cases s.objects.find? old <;> rfl
                · rfl

theorem outcome_copy (source destination : String) (attributes? : Option Attributes)
    (now : Instant) (s : Store) :
    outcome (copy source destination attributes? now) s =
      match Name.checkIdentifier source, Name.checkIdentifier destination with
      | .error fault, _ => (.error (.ofIdentifier source fault), s)
      | .ok (), .error fault => (.error (.ofIdentifier destination fault), s)
      | .ok (), .ok () =>
          match s.fetched source with
          | .error fault => (.error fault, s)
          | .ok current =>
              match if source = destination then .ok (some current) else s.lookup destination with
              | .error fault => (.error fault, s)
              | .ok previous? =>
                  match s.joined [current.blob] with
                  | .error fault => (.error fault, s.placed)
                  | .ok bytes =>
                      outcome
                        (commit destination (s.draft bytes)
                          (attributes?.getD current.attributes) previous? now)
                        (s.placed.kept bytes) := by
  unfold copy
  rw [outcome_bind, outcome_requireIdentifier]
  cases Name.checkIdentifier source with
  | error fault => cases Name.checkIdentifier destination <;> rfl
  | ok sourceValid =>
      show outcome (requireIdentifier destination >>= _) s = _
      rw [outcome_bind, outcome_requireIdentifier]
      cases Name.checkIdentifier destination with
      | error fault => rfl
      | ok destinationValid =>
          show outcome (fetch source >>= _) s = _
          rw [outcome_bind, outcome_fetch]
          cases s.fetched source with
          | error fault => rfl
          | ok current =>
              have joins (previous? : Option Object) :
                  outcome
                      (joinBlobs [current.blob] >>= fun written =>
                        commit destination written (attributes?.getD current.attributes) previous?
                          now) s =
                    match s.joined [current.blob] with
                    | .error fault => (.error fault, s.placed)
                    | .ok bytes =>
                        outcome
                          (commit destination (s.draft bytes)
                            (attributes?.getD current.attributes) previous? now)
                          (s.placed.kept bytes) := by
                rw [outcome_bind, outcome_joinBlobs]
                cases s.joined [current.blob] <;> rfl
              by_cases same : source = destination
              · simp only [if_pos same]
                exact joins (some current)
              · simp only [if_neg same]
                show outcome (find destination >>= _) s = _
                rw [outcome_bind, outcome_find]
                cases s.lookup destination with
                | error fault => rfl
                | ok previous? => exact joins previous?

theorem outcome_delete (identifier : String) (s : Store) :
    outcome (delete identifier) s =
      match Name.checkIdentifier identifier with
      | .error fault => (.error (.ofIdentifier identifier fault), s)
      | .ok () =>
          if s.health.databaseOpen then
            match s.objects.find? identifier with
            | none => (.error (.notFound identifier), s)
            | some row =>
                match readRow identifier row with
                | .error fault => (.error fault, s.unlisted identifier)
                | .ok object => (.ok object, (s.unlisted identifier).without object.blob)
          else (.error .database, s) := by
  unfold delete
  rw [outcome_bind, outcome_requireIdentifier]
  cases Name.checkIdentifier identifier with
  | error fault => rfl
  | ok valid =>
      show outcome (requireDatabase >>= _) s = _
      rw [outcome_bind, outcome_requireDatabase]
      cases s.health.databaseOpen with
      | false => rfl
      | true =>
          show outcome (get >>= _) s = _
          rw [outcome_get_bind]
          cases s.objects.find? identifier with
          | none => rfl
          | some row =>
              show outcome (liftM (readRow identifier row) >>= _) (s.unlisted identifier) = _
              rw [outcome_bind, outcome_liftExcept]
              cases reading : readRow identifier row <;> simp only [reading] <;> rfl

/-! ## Reading objects -/

theorem outcome_head (identifier : String) (s : Store) :
    outcome (head identifier) s =
      match Name.checkIdentifier identifier with
      | .error fault => (.error (.ofIdentifier identifier fault), s)
      | .ok () => (s.fetched identifier, s) := by
  unfold head
  rw [outcome_bind, outcome_requireIdentifier]
  cases Name.checkIdentifier identifier with
  | error fault => rfl
  | ok valid => exact outcome_fetch identifier s

/-- An object with its content as it stands, or why it cannot be had. -/
def peeked (s : Store) (identifier : String) : Except StoreFault Content :=
  match s.fetched identifier with
  | .error fault => .error fault
  | .ok object => (s.content object.blob).map fun bytes => ⟨object, bytes⟩

theorem outcome_peek (identifier : String) (s : Store) :
    outcome (peek identifier) s =
      match Name.checkIdentifier identifier with
      | .error fault => (.error (.ofIdentifier identifier fault), s)
      | .ok () => (s.peeked identifier, s) := by
  unfold peek peeked
  rw [outcome_bind, outcome_requireIdentifier]
  cases Name.checkIdentifier identifier with
  | error fault => rfl
  | ok valid =>
      show outcome (fetch identifier >>= _) s = _
      rw [outcome_bind, outcome_fetch]
      cases s.fetched identifier with
      | error fault => rfl
      | ok object =>
          show outcome (readBlob object.blob >>= _) s = _
          rw [outcome_bind, outcome_readBlob]
          cases reading : s.content object.blob <;> simp only [reading] <;> rfl

theorem outcome_read (identifier : String) (s : Store) :
    outcome (read identifier) s =
      match Name.checkIdentifier identifier with
      | .error fault => (.error (.ofIdentifier identifier fault), s)
      | .ok () =>
          match s.peeked identifier with
          | .error fault => (.error fault, s)
          | .ok content =>
              if etagOf content.bytes = content.object.etag then (.ok content, s)
              else
                (.error (.corrupted identifier content.object.etag (etagOf content.bytes)), s) := by
  unfold read
  rw [outcome_bind, outcome_peek]
  cases Name.checkIdentifier identifier with
  | error fault => rfl
  | ok valid =>
      cases s.peeked identifier with
      | error fault => rfl
      | ok content =>
          by_cases same : etagOf content.bytes = content.object.etag <;> simp [same]

theorem head_keeps (identifier : String) (s : Store) : (outcome (head identifier) s).2 = s := by
  rw [outcome_head]
  cases Name.checkIdentifier identifier <;> rfl

theorem peek_keeps (identifier : String) (s : Store) : (outcome (peek identifier) s).2 = s := by
  rw [outcome_peek]
  cases Name.checkIdentifier identifier <;> rfl

theorem read_keeps (identifier : String) (s : Store) : (outcome (read identifier) s).2 = s := by
  rw [outcome_read]
  split
  · rfl
  · split
    · rfl
    · split <;> rfl

/-! ## Listing objects -/

theorem outcome_list (beginning : String) (s : Store) :
    outcome (list beginning) s =
      (if s.health.databaseOpen then readRows (s.rowsUnder beginning)
      else .error .database, s) := by
  unfold list
  rw [outcome_bind, outcome_requireDatabase]
  cases s.health.databaseOpen <;> rfl

theorem outcome_listPage (beginning : String) (after? : Option String) (limit : Nat)
    (s : Store) :
    outcome (listPage beginning after? limit) s =
      (if s.health.databaseOpen then
        readRows ((s.rowsAfter beginning (after?.getD "")).take limit)
      else .error .database, s) := by
  unfold listPage
  rw [outcome_bind, outcome_requireDatabase]
  cases s.health.databaseOpen <;> rfl

theorem outcome_anyUnder (beginning : String) (s : Store) :
    outcome (anyUnder beginning) s =
      (if s.health.databaseOpen then .ok (!(s.rowsUnder beginning).isEmpty)
      else .error .database, s) := by
  unfold anyUnder
  rw [outcome_bind, outcome_requireDatabase]
  cases s.health.databaseOpen <;> rfl

theorem outcome_topLevel (beginning : String) (s : Store) :
    outcome (topLevel beginning) s =
      (if s.health.databaseOpen then
        .ok (segmentsOf (s.rowsUnder beginning) beginning).entries
      else .error .database, s) := by
  unfold topLevel
  rw [outcome_bind, outcome_requireDatabase]
  cases s.health.databaseOpen <;> rfl

/-! ## Uploads in parts -/

/-- The store with a new upload. -/
def begun (s : Store) (identifier : String) (attributes : Attributes) (now : Instant) : Store :=
  { s with
    uploadRows := s.uploadRows.insert (uploadName s.nextUpload) ⟨identifier, attributes, now⟩
    nextUpload := s.nextUpload + 1 }

/-- A new upload has no parts when no row names it. -/
theorem uploads_begun {s : Store}
    (free : ∀ number, s.partRows.find? ⟨uploadName s.nextUpload, number⟩ = none)
    (identifier : String) (attributes : Attributes) (now : Instant) :
    (s.begun identifier attributes now).uploads =
      s.uploads.insert (uploadName s.nextUpload) ⟨identifier, attributes, now, Table.empty⟩ := by
  have none : s.partsOf (uploadName s.nextUpload) = Table.empty :=
    Table.ext_find? fun number => (find?_partsOf s _ number).trans (free number)
  have new : s.uploadOf (uploadName s.nextUpload) ⟨identifier, attributes, now⟩ =
      ⟨identifier, attributes, now, Table.empty⟩ := by
    rw [uploadOf, none]
  rw [← new]
  exact Table.mapValues_insert _ fun _ _ _ _ => rfl

theorem outcome_beginUpload (identifier : String) (attributes : Attributes) (now : Instant)
    (s : Store) :
    outcome (beginUpload identifier attributes now) s =
      match Name.checkIdentifier identifier with
      | .error fault => (.error (.ofIdentifier identifier fault), s)
      | .ok () =>
          if s.health.databaseOpen then
            (.ok (uploadName s.nextUpload, ⟨identifier, attributes, now, Table.empty⟩),
              s.begun identifier attributes now)
          else (.error .database, s) := by
  unfold beginUpload
  rw [outcome_bind, outcome_requireIdentifier]
  cases Name.checkIdentifier identifier with
  | error fault => rfl
  | ok valid =>
      show outcome (requireDatabase >>= _) s = _
      rw [outcome_bind, outcome_requireDatabase]
      cases s.health.databaseOpen <;> rfl

def partNumberFault : StoreFault :=
  .invalidPart ("part number must be between 1 and " ++ Text.decimal maxPartNumber)

def partOf (written : Written) (now : Instant) : Part :=
  ⟨written.blob, written.size, written.etag, now⟩

def withPart (s : Store) (name : String) (number : Nat) (part : Part) : Store :=
  { s with partRows := s.partRows.insert ⟨name, number⟩ part }

theorem uploads_withPart {s : Store} {name : String} {upload : Upload}
    (found : s.uploads.find? name = some upload) (number : Nat) (part : Part) :
    (s.withPart name number part).uploads =
      s.uploads.insert name { upload with parts := upload.parts.insert number part } := by
  refine Table.ext_find? fun name' => ?_
  rw [find?_uploads, Table.find?_insert]
  split
  · next here =>
      subst here
      rw [find?_uploads, Option.map_eq_some_iff] at found
      obtain ⟨row, there, rfl⟩ := found
      rw [withPart, there, Option.map_some, uploadOf, partsOf, ofUpload_insert]
      rfl
  · next other =>
      have same : (s.withPart name number part).uploadOf name' = s.uploadOf name' := by
        funext row
        rw [withPart, uploadOf, partsOf, ofUpload_insert_of_ne _ other]
        rfl
      rw [same, find?_uploads]
      rfl

theorem outcome_uploadPart (name identifier : String) (number : Int) (body : Body)
    (now : Instant) (s : Store) :
    outcome (uploadPart name identifier number body now) s =
      if number < 1 ∨ (maxPartNumber : Int) < number then (.error partNumberFault, s)
      else
        match s.uploadFor name identifier with
        | .error fault => (.error fault, s)
        | .ok upload =>
            match body.contents with
            | .error fault => (.error (.body fault), s.placed)
            | .ok bytes =>
                (.ok (partOf (s.draft bytes) now),
                  ((s.placed.kept bytes).withPart name number.toNat
                    (partOf (s.draft bytes) now)).withoutAll
                    ((upload.parts.find? number.toNat).map Part.blob).toList) := by
  unfold uploadPart
  by_cases range : number < 1 ∨ (maxPartNumber : Int) < number
  · rw [if_pos range, if_pos range]
    rfl
  · rw [if_neg range, if_neg range]
    show outcome (fetchUpload name identifier >>= _) s = _
    rw [outcome_bind, outcome_fetchUpload]
    cases found : s.uploadFor name identifier with
    | error fault => rfl
    | ok upload =>
        show outcome (writeBlob body >>= _) s = _
        rw [outcome_bind, outcome_writeBlob]
        cases body.contents with
        | error fault => rfl
        | ok bytes =>
            show outcome (fetchUpload name identifier >>= _) (s.placed.kept bytes) = _
            rw [outcome_bind, outcome_fetchUpload, uploadFor_kept, uploadFor_placed, found]
            show outcome (modify _ >>= _) (s.placed.kept bytes) = _
            rw [outcome_bind, outcome_modify]
            show outcome _ ((s.placed.kept bytes).withPart name number.toNat
              (partOf (s.draft bytes) now)) = _
            cases previous : upload.parts.find? number.toNat <;> simp only [previous] <;> rfl

theorem outcome_listParts (name identifier : String) (s : Store) :
    outcome (listParts name identifier) s =
      ((s.uploadFor name identifier).map fun upload => upload.parts.entries, s) := by
  unfold listParts
  rw [outcome_bind, outcome_fetchUpload]
  cases s.uploadFor name identifier <;> rfl

/-- The store without the rows of an upload and of its parts. -/
def forgotten (s : Store) (name : String) : Store :=
  { s with
    uploadRows := s.uploadRows.erase name
    partRows := s.partRows.filter fun key _ => decide (key.upload ≠ name) }

theorem uploads_forgotten (s : Store) (name : String) :
    (s.forgotten name).uploads = s.uploads.erase name := by
  refine Table.mapValues_erase fun name' row other _ => ?_
  rw [uploadOf, partsOf, forgotten, ofUpload_filter_of_ne _ other]
  rfl

/-- The store without an upload and the blobs of its parts. -/
def dropped (s : Store) (name : String) (upload : Upload) : Store :=
  (s.forgotten name).withoutAll (upload.parts.entries.map fun e => e.2.blob)

theorem outcome_dropUpload (name : String) (upload : Upload) (s : Store) :
    outcome (dropUpload name upload) s =
      if s.health.databaseOpen && s.health.uploadsRemovable then (.ok (), s.dropped name upload)
      else (.error .database, s) := by
  unfold dropUpload dropped withoutAll
  rw [outcome_bind, outcome_requireDatabase, List.foldl_map]
  cases s.health.databaseOpen with
  | false => rfl
  | true =>
      show outcome (get >>= _) s = _
      rw [outcome_get_bind]
      cases s.health.uploadsRemovable with
      | false => rfl
      | true =>
          exact outcome_forM_of_changes
            (fun (e : Nat × Part) t => outcome_discardBlob e.2.blob t) upload.parts.entries
            (s.forgotten name)

theorem outcome_complete (name identifier : String) (requested : List RequestedPart)
    (now : Instant) (s : Store) :
    outcome (complete name identifier requested now) s =
      match s.uploadFor name identifier with
      | .error fault => (.error fault, s)
      | .ok upload =>
          match chooseParts upload.parts requested with
          | .error fault => (.error fault, s)
          | .ok chosen =>
              match s.joined (chosen.map Part.blob) with
              | .error fault => (.error fault, s.placed)
              | .ok bytes =>
                  match s.lookup identifier with
                  | .error fault => (.error fault, s.placed.kept bytes)
                  | .ok previous? =>
                      match
                        outcome
                          (commit identifier (s.draft bytes) upload.attributes previous? now)
                          (s.placed.kept bytes) with
                      | (.error fault, t) => (.error fault, t)
                      | (.ok object, t) =>
                          (.ok object, (outcome (dropUpload name upload) t).2) := by
  unfold complete
  rw [outcome_bind, outcome_fetchUpload]
  cases s.uploadFor name identifier with
  | error fault => rfl
  | ok upload =>
      dsimp only
      rw [outcome_bind, outcome_liftExcept]
      cases chooseParts upload.parts requested with
      | error fault => rfl
      | ok chosen =>
          dsimp only
          rw [outcome_bind, outcome_joinBlobs]
          cases s.joined (chosen.map Part.blob) with
          | error fault => rfl
          | ok bytes =>
              dsimp only
              rw [outcome_bind, outcome_find, lookup_kept, lookup_placed]
              cases s.lookup identifier with
              | error fault => rfl
              | ok previous? =>
                  dsimp only
                  rw [outcome_bind]
                  obtain ⟨_ | object, t⟩ :=
                    outcome (commit identifier (s.draft bytes) upload.attributes previous? now)
                      (s.placed.kept bytes)
                  · rfl
                  · dsimp only
                    rw [outcome_bind, outcome_tryCatch]
                    obtain ⟨_ | _, u⟩ := outcome (dropUpload name upload) t <;> rfl

theorem outcome_abort (name identifier : String) (s : Store) :
    outcome (abort name identifier) s =
      match s.uploadFor name identifier with
      | .error fault => (.error fault, s)
      | .ok upload => outcome (dropUpload name upload) s := by
  unfold abort
  rw [outcome_bind, outcome_fetchUpload]
  cases s.uploadFor name identifier <;> rfl

end Depot.Store

import Depot.Proofs.Store.Owners

/-!
# Operations that do not see their owner

An operation is made for an owner, from whom its identifiers begin.  A family of
operations, one for each owner, is blind when it does the same for all of them:
in the stores that owners have of the same paths, it comes to the same value or
the same fault, but for the owner in their identifiers, and leaves the stores of
the same paths again (`Blind`).  Families that are put together from blind ones
are blind, so each operation is taken apart as its program is written.

The stores may be any at all: with rows that cannot be read, blobs that are
missing and devices that refuse their work.
-/

namespace Depot

set_option autoImplicit false

open Depot.Http
open Depot.Name
open Depot.Time

/-! ## Blindness -/

section

variable {ε ε' φ α α' β β' : Type}

/-- One of the texts that can be owners. -/
def someOwner : String := "a"

theorem isOwner_someOwner : IsOwner someOwner := ⟨rfl, rfl⟩

/-- A value that is the same for every owner. -/
abbrev asIs (_ : String) (a : α) : α := a

/-- A family of operations does the same for every owner, given what its values and its faults are
for an owner. -/
def Blind (blame : String → φ → ε) (give : String → β → α)
    (action : String → ExceptT ε (StateM Store) α) : Prop :=
  ∀ bare : Store, ∃ (result : Except φ β) (next : Store), ∀ owner, IsOwner owner →
    outcome (action owner) (bare.owned owner) =
      (through (blame owner) (give owner) result, next.owned owner)

namespace Blind

variable {blame : String → φ → ε} {give : String → β → α}
  {give' : String → β' → α'} {action : String → ExceptT ε (StateM Store) α}

theorem pure {a : String → α} (b : β) (same : ∀ owner, IsOwner owner → a owner = give owner b) :
    Blind blame give fun owner => (pure (a owner) : ExceptT ε (StateM Store) α) := by
  intro bare
  refine ⟨.ok b, bare, fun owner isOwner => ?_⟩
  rw [outcome_pure, same owner isOwner]
  rfl

theorem throw {faults : String → ε} (fault : φ)
    (same : ∀ owner, IsOwner owner → faults owner = blame owner fault) :
    Blind blame give fun owner => (throw (faults owner) : ExceptT ε (StateM Store) α) := by
  intro bare
  refine ⟨.error fault, bare, fun owner isOwner => ?_⟩
  rw [outcome_throw, same owner isOwner]
  rfl

/-- An answer that is the same for any two owners is one answer for all. -/
theorem pure_same {a : String → α}
    (same : ∀ {owner owner'}, IsOwner owner → IsOwner owner' → a owner = a owner') :
    Blind blame asIs fun owner => (Pure.pure (a owner) : ExceptT ε (StateM Store) α) :=
  .pure (a someOwner) fun _ isOwner => same isOwner isOwner_someOwner

theorem throw_same {faults : String → ε}
    (same : ∀ {owner owner'}, IsOwner owner → IsOwner owner' → faults owner = faults owner') :
    Blind asIs give fun owner => (throwThe ε (faults owner) : ExceptT ε (StateM Store) α) :=
  .throw (faults someOwner) fun _ isOwner => same isOwner isOwner_someOwner

theorem lift {results : String → Except ε α} (result : Except φ β)
    (same : ∀ owner, IsOwner owner → results owner = through (blame owner) (give owner) result) :
    Blind blame give fun owner => (liftM (results owner) : ExceptT ε (StateM Store) α) := by
  intro bare
  refine ⟨result, bare, fun owner isOwner => ?_⟩
  rw [outcome_liftExcept, same owner isOwner]

/-- A check that no owner takes part in. -/
theorem check {β : Type} (result : Except ε β) :
    Blind asIs asIs fun _ => (liftM result : ExceptT ε (StateM Store) β) :=
  .lift result fun _ _ => by cases result <;> rfl

/-- A blind operation may be followed by one that is blind to the owner of what came before. -/
theorem bind {next : String → α → ExceptT ε (StateM Store) α'} (first : Blind blame give action)
    (rest : ∀ b, Blind blame give' fun owner => next owner (give owner b)) :
    Blind blame give' fun owner => action owner >>= next owner := by
  intro bare
  obtain ⟨result, middle, done⟩ := first bare
  cases result with
  | error fault =>
      refine ⟨.error fault, middle, fun owner isOwner => ?_⟩
      rw [outcome_bind, done owner isOwner]
      rfl
  | ok b =>
      obtain ⟨result, last, ended⟩ := rest b middle
      refine ⟨result, last, fun owner isOwner => ?_⟩
      rw [outcome_bind, done owner isOwner]
      exact ended owner isOwner

/-- Faults may be answered in a way that does not show the owner. -/
theorem adapt {render : String → ε → ε'} (first : Blind blame give action)
    (sees : ∀ fault {owner owner'}, IsOwner owner → IsOwner owner' →
      render owner (blame owner fault) = render owner' (blame owner' fault)) :
    Blind asIs give fun owner => ExceptT.adapt (render owner) (action owner) := by
  intro bare
  obtain ⟨result, next, done⟩ := first bare
  cases result with
  | error fault =>
      refine ⟨.error (render someOwner (blame someOwner fault)), next, fun owner isOwner => ?_⟩
      rw [outcome_adapt, done owner isOwner]
      exact congrArg (fun fault => (Except.error fault, next.owned owner))
        (sees fault isOwner isOwner_someOwner)
  | ok b =>
      refine ⟨.ok b, next, fun owner isOwner => ?_⟩
      rw [outcome_adapt, done owner isOwner]
      rfl

theorem tryCatch {handler : String → ε → ExceptT ε (StateM Store) α}
    (first : Blind blame give action)
    (handled : ∀ fault, Blind blame give fun owner => handler owner (blame owner fault)) :
    Blind blame give fun owner => tryCatch (action owner) (handler owner) := by
  intro bare
  obtain ⟨result, middle, done⟩ := first bare
  cases result with
  | error fault =>
      obtain ⟨result, last, ended⟩ := handled fault middle
      refine ⟨result, last, fun owner isOwner => ?_⟩
      rw [outcome_tryCatch, done owner isOwner]
      exact ended owner isOwner
  | ok b =>
      refine ⟨.ok b, middle, fun owner isOwner => ?_⟩
      rw [outcome_tryCatch, done owner isOwner]
      rfl

end Blind

end

/-! ## Small steps -/

namespace Store

variable (path : String)

theorem requireIdentifier_blind :
    Blind StoreFault.owned asIs fun owner => requireIdentifier (within owner path) := by
  intro bare
  refine ⟨(checkPath path).mapError (.ofIdentifier path), bare, fun owner isOwner => ?_⟩
  rw [outcome_requireIdentifier, isOwner.checkIdentifier_within]
  cases checkPath path <;> rfl

theorem requireDatabase_blind : Blind StoreFault.owned asIs fun _ => requireDatabase := by
  intro bare
  refine ⟨if bare.health.databaseOpen then .ok () else .error .database, bare, fun owner _ => ?_⟩
  rw [outcome_requireDatabase]
  show (if bare.health.databaseOpen then _ else _, _) = _
  cases bare.health.databaseOpen <;> rfl

theorem readBlob_blind (blob : Nat) :
    Blind StoreFault.owned asIs fun _ => readBlob blob := by
  intro bare
  refine ⟨bare.content blob, bare, fun owner _ => ?_⟩
  rw [outcome_readBlob]
  show (bare.content blob, _) = _
  unfold content
  cases bare.blobs.find? blob <;> rfl

theorem discardBlob_blind (blob : Nat) :
    Blind StoreFault.owned asIs fun _ => discardBlob blob := by
  intro bare
  exact ⟨.ok (), bare.without blob, fun owner _ => outcome_discardBlob blob (bare.owned owner)⟩

theorem readBlobs_blind (blobs : List Nat) :
    Blind StoreFault.owned asIs fun _ => blobs.mapM readBlob := by
  induction blobs with
  | nil => exact .pure [] fun _ _ => rfl
  | cons blob rest ih =>
      simp only [List.mapM_cons]
      refine .bind (readBlob_blind blob) fun bytes => ?_
      exact .bind ih fun others => .pure (bytes :: others) fun _ _ => rfl

theorem makeBlobPlace_blind : Blind StoreFault.owned asIs fun _ => makeBlobPlace := by
  intro bare
  exact ⟨.ok (), bare.placed, fun owner _ => outcome_makeBlobPlace (bare.owned owner)⟩

theorem keepBytes_blind (bytes : ByteArray) :
    Blind StoreFault.owned asIs fun _ => keepBytes bytes := by
  intro bare
  exact ⟨.ok (bare.draft bytes), bare.kept bytes, fun _ _ => rfl⟩

theorem writeBlob_blind (body : Body) :
    Blind StoreFault.owned asIs fun _ => writeBlob body := by
  unfold writeBlob
  refine .bind makeBlobPlace_blind fun _ => ?_
  cases body.contents with
  | ok bytes => exact keepBytes_blind bytes
  | error fault => exact .throw (.body fault) fun _ _ => rfl

theorem joinBlobs_blind (blobs : List Nat) :
    Blind StoreFault.owned asIs fun _ => joinBlobs blobs := by
  unfold joinBlobs
  refine .bind makeBlobPlace_blind fun _ => ?_
  refine .bind (readBlobs_blind blobs) fun contents => ?_
  exact keepBytes_blind (contents.foldl (· ++ ·) ByteArray.empty)

theorem find_blind :
    Blind StoreFault.owned (fun owner => Option.map (Object.owned owner)) fun owner =>
      find (within owner path) := by
  intro bare
  refine ⟨bare.lookup path, bare, fun owner _ => ?_⟩
  rw [outcome_find, lookup_owned]

theorem fetch_blind :
    Blind StoreFault.owned Object.owned fun owner => fetch (within owner path) := by
  intro bare
  refine ⟨bare.fetched path, bare, fun owner _ => ?_⟩
  rw [outcome_fetch, fetched_owned]

theorem fetchUpload_blind (name : String) :
    Blind StoreFault.owned Upload.owned fun owner => fetchUpload name (within owner path) := by
  intro bare
  refine ⟨bare.uploadFor name path, bare, fun owner _ => ?_⟩
  rw [outcome_fetchUpload, uploadFor_owned]

theorem commit_blind (written : Written) (attributes : Attributes) (previous? : Option Object)
    (now : Instant) :
    Blind StoreFault.owned Object.owned fun owner =>
      commit (within owner path) written attributes (previous?.map (Object.owned owner)) now := by
  intro bare
  have blobs (owner : String) : ((previous?.map (Object.owned owner)).map Object.blob).toList =
      (previous?.map Object.blob).toList := by
    cases previous? <;> rfl
  cases takes : bare.takes path with
  | true =>
      refine ⟨.ok (objectOf path written attributes now), (bare.pointing path
        (rowOf written attributes now)).withoutAll (previous?.map Object.blob).toList, ?_⟩
      intro owner _
      rw [outcome_commit, takes_owned, takes, blobs, pointing_owned, withoutAll_owned]
      rfl
  | false =>
      refine ⟨.error .database, bare.without written.blob, fun owner _ => ?_⟩
      rw [outcome_commit, takes_owned, takes]
      rfl

/-! ## Changing objects -/

theorem put_blind (attributes : Attributes) (body : Body) (now : Instant) :
    Blind StoreFault.owned Object.owned fun owner =>
      put (within owner path) attributes body now := by
  unfold put
  refine .bind (requireIdentifier_blind path) fun _ => ?_
  refine .bind (writeBlob_blind body) fun written => ?_
  refine .bind (find_blind path) fun previous? => ?_
  exact commit_blind path written attributes previous? now

theorem putPieces_blind (attributes : Attributes) (pieces : List ByteArray) (now : Instant) :
    Blind StoreFault.owned Object.owned fun owner =>
      putPieces (within owner path) attributes pieces now :=
  put_blind path attributes (pieces.map .data) now

theorem fetchFor_blind (written : Written) :
    Blind StoreFault.owned Object.owned fun owner => fetchFor (within owner path) written := by
  unfold fetchFor
  refine .tryCatch (fetch_blind path) fun fault => ?_
  exact .bind (discardBlob_blind written.blob) fun _ => .throw fault fun _ _ => rfl

theorem update_blind (body : Body) (now : Instant) :
    Blind StoreFault.owned Object.owned fun owner => update (within owner path) body now := by
  unfold update
  refine .bind (requireIdentifier_blind path) fun _ => ?_
  refine .bind (writeBlob_blind body) fun written => ?_
  refine .bind (fetchFor_blind path written) fun previous => ?_
  exact commit_blind path written previous.attributes (some previous) now

theorem joinTo_blind (written : Written) (now : Instant) :
    Blind StoreFault.owned Object.owned fun owner => joinTo (within owner path) written now := by
  unfold joinTo
  refine .bind (fetch_blind path) fun previous => ?_
  refine .bind (joinBlobs_blind [previous.blob, written.blob]) fun joined => ?_
  exact commit_blind path joined previous.attributes (some previous) now

theorem append_blind (body : Body) (now : Instant) :
    Blind StoreFault.owned Object.owned fun owner => append (within owner path) body now := by
  intro bare
  cases valid : checkPath path with
  | error fault =>
      refine ⟨.error (.ofIdentifier path fault), bare, fun owner isOwner => ?_⟩
      rw [outcome_append, isOwner.checkIdentifier_within, valid]
      rfl
  | ok _ =>
      cases read : body.contents with
      | error fault =>
          refine ⟨.error (.body fault), bare.placed, fun owner isOwner => ?_⟩
          rw [outcome_append, isOwner.checkIdentifier_within, valid, read]
          rfl
      | ok bytes =>
          obtain ⟨result, next, done⟩ :=
            joinTo_blind path (bare.draft bytes) now (bare.placed.kept bytes)
          refine ⟨result, next.without bare.nextBlob, fun owner isOwner => ?_⟩
          have joins : outcome (joinTo (within owner path) ((bare.owned owner).draft bytes) now)
              ((bare.owned owner).placed.kept bytes) = _ := done owner isOwner
          rw [outcome_append, isOwner.checkIdentifier_within, valid, read]
          dsimp only
          rw [joins]
          rfl

/-- The row of a path goes to another path. -/
theorem moveRow_blind (new : String) (now : Instant) :
    Blind StoreFault.owned Object.owned fun owner => (do
      let s ← get
      if !s.health.rowsChangeable then throw .database
      match s.objects.find? (within owner path) with
      | none => throw (.notFound (within owner path))
      | some row =>
          let moved := { row with modified := now }
          set { s with
            objects := (s.objects.erase (within owner path)).insert (within owner new) moved }
          readRow (within owner new) moved : Action Object) := by
  intro bare
  cases changeable : bare.health.rowsChangeable with
  | false =>
      refine ⟨.error .database, bare, fun owner _ => ?_⟩
      have refuses : (bare.owned owner).health.rowsChangeable = false := changeable
      simp only [outcome_get_bind, refuses]
      rfl
  | true =>
      have takes (owner : String) : (bare.owned owner).health.rowsChangeable = true := changeable
      cases found : bare.objects.find? path with
      | none =>
          refine ⟨.error (.notFound path), bare, fun owner _ => ?_⟩
          simp only [outcome_get_bind, takes, find?_owned, found]
          rfl
      | some row =>
          let moved := { row with modified := now }
          refine ⟨readRow new moved, (bare.unlisted path).pointing new moved, fun owner _ => ?_⟩
          rw [← pointing_owned, ← unlisted_owned, ← readRow_owned]
          simp only [outcome_get_bind, takes, find?_owned, found]
          rfl

theorem rename_blind (new : String) (now : Instant) :
    Blind StoreFault.owned Object.owned fun owner =>
      rename (within owner path) (within owner new) now := by
  unfold rename
  refine .bind (requireIdentifier_blind path) fun _ => ?_
  refine .bind (requireIdentifier_blind new) fun _ => ?_
  refine .bind (fetch_blind path) fun current => ?_
  simp only [within_inj]
  by_cases same : path = new
  · simp only [if_pos same]
    exact .pure current fun _ _ => rfl
  · simp only [if_neg same]
    refine .bind (find_blind new) fun taken? => ?_
    cases taken? with
    | some taken => exact .throw (.conflict new) fun _ _ => rfl
    | none => exact moveRow_blind path new now

theorem copy_blind (destination : String) (attributes? : Option Attributes) (now : Instant) :
    Blind StoreFault.owned Object.owned fun owner =>
      copy (within owner path) (within owner destination) attributes? now := by
  have writes (current : Object) (previous? : Option Object) :
      Blind StoreFault.owned Object.owned fun owner => (do
        let written ← joinBlobs [(current.owned owner).blob]
        commit (within owner destination) written
          (attributes?.getD (current.owned owner).attributes)
          (previous?.map (Object.owned owner)) now : Action Object) := by
    refine .bind (joinBlobs_blind [current.blob]) fun written => ?_
    exact commit_blind destination written (attributes?.getD current.attributes) previous? now
  unfold copy
  refine .bind (requireIdentifier_blind path) fun _ => ?_
  refine .bind (requireIdentifier_blind destination) fun _ => ?_
  refine .bind (fetch_blind path) fun current => ?_
  simp only [within_inj]
  by_cases same : path = destination
  · simp only [if_pos same]
    exact writes current (some current)
  · simp only [if_neg same]
    exact .bind (find_blind destination) fun previous? => writes current previous?

theorem delete_blind :
    Blind StoreFault.owned Object.owned fun owner => delete (within owner path) := by
  unfold delete
  refine .bind (requireIdentifier_blind path) fun _ => ?_
  refine .bind requireDatabase_blind fun _ => ?_
  intro bare
  cases found : bare.objects.find? path with
  | none =>
      refine ⟨.error (.notFound path), bare, fun owner _ => ?_⟩
      simp only [outcome_get_bind, find?_owned, found]
      rfl
  | some row => ?_
  cases read : readRow path row with
  | error fault =>
      refine ⟨.error fault, bare.unlisted path, fun owner _ => ?_⟩
      have fails : readRow (within owner path) row = .error (fault.owned owner) := by
        rw [readRow_owned, read]
        rfl
      rw [← unlisted_owned]
      simp only [outcome_get_bind, find?_owned, found, fails]
      rfl
  | ok object =>
      refine ⟨.ok object, (bare.unlisted path).without object.blob, fun owner _ => ?_⟩
      have reads : readRow (within owner path) row = .ok (object.owned owner) := by
        rw [readRow_owned, read]
        rfl
      have without : ((bare.unlisted path).without object.blob).owned owner =
          ((bare.unlisted path).owned owner).without object.blob := rfl
      rw [without, ← unlisted_owned]
      simp only [outcome_get_bind, find?_owned, found, reads]
      rfl

/-! ## Reading objects -/

theorem head_blind :
    Blind StoreFault.owned Object.owned fun owner => head (within owner path) := by
  unfold head
  exact .bind (requireIdentifier_blind path) fun _ => fetch_blind path

theorem peek_blind :
    Blind StoreFault.owned Content.owned fun owner => peek (within owner path) := by
  unfold peek
  refine .bind (requireIdentifier_blind path) fun _ => ?_
  refine .bind (fetch_blind path) fun object => ?_
  exact .bind (readBlob_blind object.blob) fun bytes => .pure ⟨object, bytes⟩ fun _ _ => rfl

theorem read_blind :
    Blind StoreFault.owned Content.owned fun owner => read (within owner path) := by
  unfold read
  refine .bind (peek_blind path) fun content => ?_
  show Blind _ _ fun owner => if etagOf content.bytes = content.object.etag then _ else _
  split
  · exact .pure content fun _ _ => rfl
  · exact .throw (.corrupted path content.object.etag (etagOf content.bytes)) fun _ _ => rfl

/-! ## Uploads in parts -/

theorem beginUpload_blind (attributes : Attributes) (now : Instant) :
    Blind StoreFault.owned (fun owner => Prod.map id (Upload.owned owner)) fun owner =>
      beginUpload (within owner path) attributes now := by
  unfold beginUpload
  refine .bind (requireIdentifier_blind path) fun _ => ?_
  refine .bind requireDatabase_blind fun _ => ?_
  intro bare
  refine ⟨.ok (uploadName bare.nextUpload, ⟨path, attributes, now, Table.empty⟩),
    bare.begun path attributes now, fun owner _ => ?_⟩
  have begun : (bare.begun path attributes now).owned owner =
      (bare.owned owner).begun (within owner path) attributes now := by
    unfold Store.begun owned
    rw [insert_upload_owned]
    rfl
  rw [begun]
  rfl

/-- A part that an upload gets. -/
theorem modify_parts_blind (key : PartKey) (part : Part) :
    Blind StoreFault.owned asIs fun _ =>
      (modify fun s => { s with partRows := s.partRows.insert key part } : Action PUnit) := by
  intro bare
  exact ⟨.ok ⟨⟩, { bare with partRows := bare.partRows.insert key part }, fun owner _ => rfl⟩

theorem uploadPart_blind (name : String) (number : Int) (body : Body) (now : Instant) :
    Blind StoreFault.owned asIs fun owner =>
      uploadPart name (within owner path) number body now := by
  unfold uploadPart
  by_cases range : number < 1 ∨ (maxPartNumber : Int) < number
  · simp only [if_pos range]
    exact .throw (.invalidPart ("part number must be between 1 and " ++
      Text.decimal maxPartNumber)) fun _ _ => rfl
  · simp only [if_neg range]
    refine .bind (fetchUpload_blind path name) fun _ => ?_
    refine .bind (writeBlob_blind body) fun written => ?_
    refine .bind (fetchUpload_blind path name) fun upload => ?_
    let part : Part := ⟨written.blob, written.size, written.etag, now⟩
    refine .bind (modify_parts_blind ⟨name, number.toNat⟩ part) fun _ => ?_
    dsimp only [Upload.owned]
    cases upload.parts.find? number.toNat with
    | some previous =>
        exact .bind (discardBlob_blind previous.blob) fun _ => .pure part fun _ _ => rfl
    | none => exact .pure part fun _ _ => rfl

theorem listParts_blind (name : String) :
    Blind StoreFault.owned asIs fun owner => listParts name (within owner path) := by
  unfold listParts
  exact .bind (fetchUpload_blind path name) fun upload =>
    .pure upload.parts.entries fun _ _ => rfl

/-- No fault of a choice of parts names an identifier. -/
theorem chooseFrom_owned (owner : String) (parts : Table Nat Part) (last : Int)
    (requested : List RequestedPart) :
    through (StoreFault.owned owner) (asIs owner) (chooseFrom parts last requested) =
      chooseFrom parts last requested := by
  induction requested generalizing last with
  | nil => rfl
  | cons first rest ih =>
      unfold chooseFrom
      split
      · rfl
      · split
        · rfl
        · split
          · have others := ih first.number
            cases chosen : chooseFrom parts first.number rest with
            | ok more => rfl
            | error fault =>
                rw [chosen] at others
                exact others
          · rfl

theorem chooseParts_owned (owner : String) (parts : Table Nat Part)
    (requested : List RequestedPart) :
    through (StoreFault.owned owner) (asIs owner) (chooseParts parts requested) =
      chooseParts parts requested := by
  unfold chooseParts
  split
  · split <;> rfl
  · exact chooseFrom_owned owner parts 0 requested

theorem dropUpload_blind (name : String) (upload : Upload) :
    Blind StoreFault.owned asIs fun owner => dropUpload name (upload.owned owner) := by
  intro bare
  have dropped (owner : String) : (bare.owned owner).dropped name (upload.owned owner) =
      (bare.dropped name upload).owned owner := by
    unfold Store.dropped
    rw [← withoutAll_owned, forgotten_owned]
    rfl
  refine ⟨if bare.health.databaseOpen && bare.health.uploadsRemovable then .ok ()
    else .error .database, if bare.health.databaseOpen && bare.health.uploadsRemovable then
      bare.dropped name upload else bare, fun owner _ => ?_⟩
  rw [Store.outcome_dropUpload, dropped]
  show (if bare.health.databaseOpen && bare.health.uploadsRemovable then _ else _) = _
  split <;> rfl

theorem complete_blind (name : String) (requested : List RequestedPart) (now : Instant) :
    Blind StoreFault.owned Object.owned fun owner =>
      complete name (within owner path) requested now := by
  unfold complete
  refine .bind (fetchUpload_blind path name) fun upload => ?_
  refine .bind (.lift (chooseParts upload.parts requested) fun owner _ =>
    (chooseParts_owned owner upload.parts requested).symm) fun chosen => ?_
  refine .bind (joinBlobs_blind (chosen.map Part.blob)) fun joined => ?_
  refine .bind (find_blind path) fun previous? => ?_
  refine .bind (commit_blind path joined upload.attributes previous? now) fun object => ?_
  refine .bind (.tryCatch (dropUpload_blind name upload) fun _ => .pure () fun _ _ => rfl) ?_
  exact fun _ => .pure object fun _ _ => rfl

theorem abort_blind (name : String) :
    Blind StoreFault.owned asIs fun owner => abort name (within owner path) := by
  unfold abort
  exact .bind (fetchUpload_blind path name) fun upload => dropUpload_blind name upload

/-! ## Surveys -/

theorem anyUnder_blind :
    Blind StoreFault.owned asIs fun owner => anyUnder (within owner path) := by
  unfold anyUnder
  refine .bind requireDatabase_blind fun _ bare => ?_
  refine ⟨.ok (!(bare.rowsUnder path).isEmpty), bare, fun owner isOwner => ?_⟩
  rw [outcome_get_bind, rowsUnder_owned isOwner, List.isEmpty_map]
  rfl

theorem topLevel_blind :
    Blind StoreFault.owned asIs fun owner => topLevel (within owner path) := by
  unfold topLevel
  refine .bind requireDatabase_blind fun _ bare => ?_
  refine ⟨.ok (segmentsOf (bare.rowsUnder path) path).entries, bare, fun owner isOwner => ?_⟩
  rw [outcome_get_bind, rowsUnder_owned isOwner, segmentsOf_owned]
  rfl

theorem collectPage_blind (request : PageRequest) (most : Nat) :
    Blind StoreFault.owned Page.owned fun owner =>
      collectPage (request.owned owner) most := by
  unfold collectPage
  split
  · exact .pure ⟨[], none⟩ fun _ _ => rfl
  · refine .bind requireDatabase_blind fun _ bare => ?_
    refine ⟨request.fillFrom ⟨[], most⟩ (request.bareRows bare), bare, fun owner isOwner => ?_⟩
    rw [outcome_get_bind, request.rowsAfter_owned isOwner, ← request.fillFrom_owned]
    rfl

end Store

end Depot

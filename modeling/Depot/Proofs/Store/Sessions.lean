import Depot.Proofs.Store.Following

/-!
# Uploads follow their sessions

A shelf has a session for every upload.  What the operations on uploads do to
the sessions and, on completion, to the objects is said here without blobs, and
every operation made in a sound store is shown to do just that
(`UploadCall.follows`).
-/

namespace Depot

set_option autoImplicit false

open Depot.Http
open Depot.Time

/-! ## The sessions of a shelf -/

namespace Shelf

/-- The session of a name, when it is for the identifier. -/
def sessionFor (shelf : Shelf) (name identifier : String) : Except StoreFault Session :=
  match shelf.sessions.find? name with
  | some session =>
      if session.identifier = identifier then .ok session else .error (.noSuchUpload name)
  | none => .error (.noSuchUpload name)

/-- Begins a session under the next name. -/
def start (shelf : Shelf) (identifier : String) (attributes : Attributes) (now : Instant) :
    Except StoreFault ((String × Upload) × Shelf) := do
  Ledger.checked identifier
  let name := Store.uploadName shelf.nextUpload
  return ((name, ⟨identifier, attributes, now, Table.empty⟩),
    { shelf with
      sessions := shelf.sessions.insert name ⟨identifier, attributes, now, Table.empty⟩
      nextUpload := shelf.nextUpload + 1 })

/-- Sets the piece of a number. -/
def uploadPart (shelf : Shelf) (name identifier : String) (number : Int) (body : Body)
    (now : Instant) : Except StoreFault (Part × Shelf) := do
  if number < 1 ∨ (Store.maxPartNumber : Int) < number then throw Store.partNumberFault
  let session ← shelf.sessionFor name identifier
  let bytes ← Ledger.whole body
  let pieces := session.pieces.insert number.toNat ⟨bytes, now⟩
  return (Piece.part ⟨bytes, now⟩,
    { shelf with sessions := shelf.sessions.insert name { session with pieces } })

/-- The pieces of a session by their numbers. -/
def listParts (shelf : Shelf) (name identifier : String) :
    Except StoreFault (List (Nat × Part)) := do
  let session ← shelf.sessionFor name identifier
  return session.pieces.entries.map fun e => (e.1, e.2.part)

/-- A digest as a client writes it, without the blanks and then the quotes at its ends. -/
def stripped (digest : String) : String :=
  String.ofList (Text.trim (· == '\x22') (Text.trim Text.isBlank digest.toList))

/-- The pieces of a request, whose numbers must rise from above `last` on, each named with the MD5
of its bytes. -/
def chooseFrom (pieces : Table Nat Piece) (last : Int) :
    List RequestedPart → Except StoreFault (List Piece)
  | [] => .ok []
  | requested :: rest =>
      if requested.number ≤ last then .error .invalidPartOrder
      else
        match pieces.find? requested.number.toNat with
        | none =>
            .error
              (.invalidPart
                ("part " ++ Text.signedDecimal requested.number ++ " was not uploaded"))
        | some piece =>
            if stripped requested.etag = Hex.encode (Digest.Md5.digest piece.bytes) then
              (chooseFrom pieces requested.number rest).map (piece :: ·)
            else
              .error
                (.invalidPart ("etag mismatch for part " ++ Text.signedDecimal requested.number))

/-- The pieces that a completion joins: the requested ones, or all when none are named. -/
def choose (pieces : Table Nat Piece) (requested : List RequestedPart) :
    Except StoreFault (List Piece) :=
  if requested.isEmpty then
    if pieces.entries.isEmpty then .error (.invalidPart "no parts have been uploaded")
    else .ok (pieces.entries.map Prod.snd)
  else chooseFrom pieces 0 requested

/-- Ends a session with an object of its chosen pieces, one after another. -/
def complete (shelf : Shelf) (name identifier : String) (requested : List RequestedPart)
    (now : Instant) : Except StoreFault (Object × Shelf) := do
  let session ← shelf.sessionFor name identifier
  let chosen ← choose session.pieces requested
  let bytes := (chosen.map Piece.bytes).foldl (· ++ ·) ByteArray.empty
  let (object, objects) := Ledger.enter shelf.objects identifier ⟨bytes, session.attributes, now⟩
  return (object, { shelf with objects, sessions := shelf.sessions.erase name })

/-- Ends a session without an object. -/
def abort (shelf : Shelf) (name identifier : String) : Except StoreFault (Unit × Shelf) := do
  let _ ← shelf.sessionFor name identifier
  return ((), { shelf with sessions := shelf.sessions.erase name })

end Shelf

namespace Store

/-! ## Chosen parts -/

/-- Parts that are chosen from those of an upload are among them. -/
theorem mem_chooseFrom {parts : Table Nat Part} {requested : List RequestedPart} {last : Int}
    {chosen : List Part} (done : chooseFrom parts last requested = .ok chosen) :
    ∀ part, part ∈ chosen → ∃ number, parts.find? number = some part := by
  induction requested generalizing last chosen with
  | nil =>
      cases done
      intro part member
      cases member
  | cons first rest ih =>
      unfold chooseFrom at done
      split at done
      · cases done
      · split at done
        · cases done
        · next known found =>
            split at done
            · cases chosenRest : chooseFrom parts first.number rest with
              | error fault =>
                  rw [chosenRest] at done
                  cases done
              | ok others =>
                  rw [chosenRest] at done
                  cases done
                  intro part member
                  rcases List.mem_cons.mp member with same | member
                  · exact ⟨_, same ▸ found⟩
                  · exact ih chosenRest part member
            · cases done

theorem mem_chooseParts {parts : Table Nat Part} {requested : List RequestedPart}
    {chosen : List Part} (done : chooseParts parts requested = .ok chosen) :
    ∀ part, part ∈ chosen → ∃ number, parts.find? number = some part := by
  unfold chooseParts at done
  split at done
  · split at done
    · cases done
    · cases done
      intro part member
      obtain ⟨e, listed, rfl⟩ := List.mem_map.mp member
      exact ⟨e.1, Table.mem_entries_iff.mp listed⟩
  · exact mem_chooseFrom done

/-- Digests are compared without the blanks and then the quotes at their ends. -/
theorem plainEtag_eq (etag : String) : plainEtag etag = Shelf.stripped etag := rfl

/-- The pieces of parts are chosen as the parts are, when the parts record the digests. -/
theorem chooseFrom_mapValues {parts : Table Nat Part} {f : Part → Piece}
    (records : ∀ number part, parts.find? number = some part →
      part.etag = Hex.encode (Digest.Md5.digest (f part).bytes))
    (last : Int) (requested : List RequestedPart) :
    Shelf.chooseFrom (parts.mapValues fun _ part => f part) last requested =
      (chooseFrom parts last requested).map (List.map f) := by
  induction requested generalizing last with
  | nil => rfl
  | cons first rest ih =>
      unfold Shelf.chooseFrom chooseFrom
      rw [Table.find?_mapValues]
      split
      · rfl
      · cases found : parts.find? first.number.toNat with
        | none => rfl
        | some part =>
            simp only [Option.map_some, plainEtag_eq, records _ part found, ih]
            split
            · cases chooseFrom parts first.number rest <;> rfl
            · rfl

theorem choose_mapValues {parts : Table Nat Part} {f : Part → Piece}
    (records : ∀ number part, parts.find? number = some part →
      part.etag = Hex.encode (Digest.Md5.digest (f part).bytes))
    (requested : List RequestedPart) :
    Shelf.choose (parts.mapValues fun _ part => f part) requested =
      (chooseParts parts requested).map (List.map f) := by
  have entries : (parts.mapValues fun _ part => f part).entries =
      parts.entries.map fun e => (e.1, f e.2) := rfl
  unfold Shelf.choose chooseParts
  rw [chooseFrom_mapValues records, entries, List.isEmpty_map, List.map_map]
  split
  · split
    · rfl
    · simp [Except.map]
  · rfl

/-! ## Operations -/

namespace Sound

variable {theirs : String → Prop} {s : Store}

theorem sessionFor_shelf (sound : s.Sound) (name identifier : String) :
    s.shelf.sessionFor name identifier = (s.uploadFor name identifier).map s.sessionOf := by
  rw [Shelf.sessionFor, find?_shelf_sessions, sound.uploadFor]
  cases s.uploads.find? name with
  | none => rfl
  | some upload =>
      by_cases same : upload.identifier = identifier
      · simp [same, sessionOf, Except.map]
      · simp [same, sessionOf, Except.map]

/-- An upload that is found for an identifier is there, and is for it. -/
theorem of_uploadFor (sound : s.Sound) {name identifier : String} {upload : Upload}
    (found : s.uploadFor name identifier = .ok upload) :
    s.uploads.find? name = some upload ∧ upload.identifier = identifier := by
  rw [sound.uploadFor] at found
  split at found
  · next known there =>
      split at found
      · next same =>
          cases found
          exact ⟨there, same⟩
      · cases found
  · cases found

theorem follows_beginUpload (sound : s.Sound) {identifier : String}
    (mine : ¬ theirs identifier) (attributes : Attributes)
    (now : Instant) :
    Follows theirs id s (outcome (beginUpload identifier attributes now) s)
      (s.shelf.start identifier attributes now) := by
  rw [outcome_beginUpload, sound.health]
  unfold Shelf.start
  rw [Ledger.checked_eq]
  cases valid : Name.checkIdentifier identifier with
  | error fault => exact .failed sound.becomes_same
  | ok _ =>
      exact .answered rfl (sound.becomes_begun valid mine attributes now)

theorem follows_uploadPart (sound : s.Sound) (name : String) {identifier : String}
    (mine : ¬ theirs identifier) (number : Int) (body : Body) (now : Instant) :
    Follows theirs Part.unnumbered s (outcome (uploadPart name identifier number body now) s)
      (s.shelf.uploadPart name identifier number body now) := by
  rw [outcome_uploadPart, sound.placed]
  unfold Shelf.uploadPart
  rw [Ledger.whole_eq]
  by_cases range : number < 1 ∨ (maxPartNumber : Int) < number
  · simp only [if_pos range]
    exact .failed sound.becomes_same
  · simp only [if_neg range]
    rw [sound.sessionFor_shelf]
    cases there : s.uploadFor name identifier with
    | error fault => exact .failed sound.becomes_same
    | ok upload =>
        obtain ⟨found, target⟩ := sound.of_uploadFor there
        cases body.contents with
        | error fault => exact .failed sound.becomes_same
        | ok bytes =>
            have inRange : 1 ≤ number.toNat ∧ number.toNat ≤ maxPartNumber := by omega
            have freed : ((upload.parts.find? number.toNat).map Part.blob).toList =
                spent s.holding (.part name number.toNat) := by
              rw [spent_part, parts_of_find?_uploads found, find?_partsOf]
            have state : ((s.kept bytes).withPart name number.toNat
                  (partOf (s.draft bytes) now)).withoutAll
                  ((upload.parts.find? number.toNat).map Part.blob).toList =
                s.supplied name number.toNat bytes now := by
              rw [withoutAll_eq, freed, Store.supplied, ← sound.tidy.insert_eraseAll]
              rfl
            dsimp only
            rw [state]
            exact .answered rfl (sound.becomes_supplied found (target ▸ mine) inRange bytes now)

theorem follows_listParts (sound : s.Sound) (name identifier : String) :
    Follows theirs (List.map fun e => (e.1, e.2.unnumbered)) s
      (outcome (listParts name identifier) s)
      ((s.shelf.listParts name identifier).map fun parts => (parts, s.shelf)) := by
  rw [outcome_listParts]
  unfold Shelf.listParts
  rw [sound.sessionFor_shelf]
  cases there : s.uploadFor name identifier with
  | error fault => exact .failed sound.becomes_same
  | ok upload =>
      obtain ⟨found, -⟩ := sound.of_uploadFor there
      refine .answered ?_ sound.becomes_same
      show _ = (upload.parts.entries.map _).map _
      rw [List.map_map]
      refine List.map_congr_left fun e member => ?_
      rw [sound.unnumbered_part found (Table.mem_entries_iff.mp member)]
      rfl

/-- Removing an upload from a sound store ends it. -/
theorem outcome_dropUpload (sound : s.Sound) (name : String) (upload : Upload) :
    outcome (dropUpload name upload) s = (.ok (), s.ended name upload) := by
  rw [Store.outcome_dropUpload, sound.health, dropped, withoutAll_eq]
  rfl

theorem follows_abort (sound : s.Sound) (name : String) {identifier : String}
    (mine : ¬ theirs identifier) :
    Follows theirs id s (outcome (abort name identifier) s)
      (s.shelf.abort name identifier) := by
  rw [outcome_abort]
  unfold Shelf.abort
  rw [sound.sessionFor_shelf]
  cases there : s.uploadFor name identifier with
  | error fault => exact .failed sound.becomes_same
  | ok upload =>
      obtain ⟨found, target⟩ := sound.of_uploadFor there
      dsimp only
      rw [sound.outcome_dropUpload]
      exact .answered rfl (sound.becomes_ended found (target ▸ mine))

theorem follows_complete (sound : s.Sound) (name : String) {identifier : String}
    (mine : ¬ theirs identifier) (requested : List RequestedPart) (now : Instant) :
    Follows theirs Object.unnumbered s (outcome (complete name identifier requested now) s)
      (s.shelf.complete name identifier requested now) := by
  rw [outcome_complete]
  unfold Shelf.complete
  rw [sound.sessionFor_shelf]
  cases there : s.uploadFor name identifier with
  | error fault => exact .failed sound.becomes_same
  | ok upload =>
      obtain ⟨found, target⟩ := sound.of_uploadFor there
      have valid : Name.checkIdentifier identifier = .ok () :=
        target ▸ (sound.uploads name upload found).target
      have records : ∀ number part, upload.parts.find? number = some part →
          part.etag = Hex.encode (Digest.Md5.digest (s.pieceOf part).bytes) :=
        fun _ _ known => (sound.held_part found known).2.2
      have choice : Shelf.choose (s.sessionOf upload).pieces requested =
          (chooseParts upload.parts requested).map (List.map s.pieceOf) :=
        choose_mapValues records requested
      dsimp only
      show Follows _ _ _ _ (Shelf.choose (s.sessionOf upload).pieces requested >>= _)
      rw [choice]
      cases chosen : chooseParts upload.parts requested with
      | error fault => exact .failed sound.becomes_same
      | ok parts =>
          have joined : s.joined (parts.map Part.blob) =
              .ok (((parts.map s.pieceOf).map Piece.bytes).foldl (· ++ ·) ByteArray.empty) := by
            rw [joined_eq s.bytesOf, List.map_map, List.map_map]
            · rfl
            · intro blob member
              obtain ⟨part, listed, rfl⟩ := List.mem_map.mp member
              obtain ⟨number, known⟩ := mem_chooseParts chosen part listed
              exact (sound.held_part found known).1
          show Follows _ _ _ _
            (.ok
              ((Record.mk (((parts.map s.pieceOf).map Piece.bytes).foldl (· ++ ·)
                  ByteArray.empty) upload.attributes now).object identifier, _))
          dsimp only
          rw [joined, sound.placed]
          dsimp only
          generalize ((parts.map s.pieceOf).map Piece.bytes).foldl (· ++ ·) ByteArray.empty = bytes
          rw [sound.lookup]
          dsimp only
          rw [sound.outcome_commit]
          have stored : Becomes theirs s (s.stored identifier upload.attributes bytes now) _ :=
            sound.becomes_stored valid mine upload.attributes bytes now
          have ended := stored.sound.becomes_ended found (target ▸ mine)
          dsimp only
          rw [stored.sound.outcome_dropUpload]
          refine .answered rfl ⟨ended.sound, ?_, stored.spares.trans ended.spares⟩
          rw [ended.shelf, stored.shelf]
          rfl

end Sound

/-! ## Calls -/

/-- The answer without the numbers of blobs. -/
def UploadReply.unnumbered : UploadReply → UploadReply
  | .upload name begun => .upload name begun
  | .part stored => .part stored.unnumbered
  | .parts stored => .parts (stored.map fun e => (e.1, e.2.unnumbered))
  | .object completed => .object completed.unnumbered
  | .done => .done

/-- What a call does to a shelf. -/
def UploadCall.onShelf (call : UploadCall) (shelf : Shelf) :
    Except StoreFault (UploadReply × Shelf) :=
  match call with
  | .start identifier attributes now =>
      (shelf.start identifier attributes now).map (Prod.map (fun e => .upload e.1 e.2) id)
  | .uploadPart name identifier number body now =>
      (shelf.uploadPart name identifier number body now).map (Prod.map .part id)
  | .listParts name identifier =>
      (shelf.listParts name identifier).map fun parts => (.parts parts, shelf)
  | .complete name identifier requested now =>
      (shelf.complete name identifier requested now).map (Prod.map .object id)
  | .abort name identifier => (shelf.abort name identifier).map (Prod.map (fun _ => .done) id)

/-- Every operation on uploads follows the sessions. -/
theorem UploadCall.follows {s : Store} (sound : s.Sound) (call : UploadCall) :
    Follows (fun _ => False) UploadReply.unnumbered s (outcome call.perform s)
      (call.onShelf s.shelf) := by
  cases call with
  | start identifier attributes now =>
      exact (sound.follows_beginUpload not_false attributes now).map fun _ => rfl
  | uploadPart name identifier number body now =>
      exact (sound.follows_uploadPart name not_false number body now).map fun _ => rfl
  | listParts name identifier =>
      rw [onShelf, map_beside]
      exact (sound.follows_listParts name identifier).map fun _ => rfl
  | complete name identifier requested now =>
      exact (sound.follows_complete name not_false requested now).map fun _ => rfl
  | abort name identifier =>
      exact (sound.follows_abort name not_false).map fun _ => rfl

end Store

end Depot

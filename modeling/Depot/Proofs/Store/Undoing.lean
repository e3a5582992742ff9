import Depot.Proofs.Store.Calls
import Depot.Proofs.Tables

/-!
# What a failed operation leaves

An operation writes a blob before it knows whether it will succeed, and takes
the blob back when it does not.  A call that fails keeps all objects, uploads,
parts and blobs as they were, in any store at all, except in two cases
(`sameContents_iff_not_spills`).  The row that a put or a completion replaces is
read after the new blob was written, and the blob stays when that row cannot be
read.  And a removal takes the row away before it finds that it cannot be read.
-/

namespace Depot.Store

set_option autoImplicit false

open Depot.Http
open Depot.Time

/-- Two stores with the same objects, uploads, parts and blobs. -/
structure SameContents (s t : Store) : Prop where
  objects : t.objects = s.objects
  uploads : t.uploadRows = s.uploadRows
  parts : t.partRows = s.partRows
  blobs : t.blobs = s.blobs

/-- The number of the next blob is above those of all blobs. -/
def Numbered (s : Store) : Prop :=
  ∀ blob bytes, s.blobs.find? blob = some bytes → blob < s.nextBlob

/-- The row under an identifier cannot be read. -/
def Unreadable (s : Store) (identifier : String) : Prop :=
  ∃ fault, s.lookup identifier = .error fault

/-- The calls that fail too late: all that they are given is in order, and then the row that they
replace or remove cannot be read. -/
def Call.Spills (s : Store) : Call → Prop
  | .object (.put identifier _ body _) =>
      Name.checkIdentifier identifier = .ok () ∧ (∃ bytes, body.contents = .ok bytes) ∧
        s.Unreadable identifier
  | .object (.putPieces identifier _ _ _) =>
      Name.checkIdentifier identifier = .ok () ∧ s.Unreadable identifier
  | .object (.delete identifier) =>
      Name.checkIdentifier identifier = .ok () ∧ s.health.databaseOpen ∧
        s.Unreadable identifier
  | .upload (.complete name identifier requested _) =>
      (∃ upload chosen bytes, s.uploadFor name identifier = .ok upload ∧
        chooseParts upload.parts requested = .ok chosen ∧
        s.joined (chosen.map Part.blob) = .ok bytes) ∧
        s.Unreadable identifier
  | _ => False

/-! ## Taking a blob back -/

namespace SameContents

theorem refl (s : Store) : SameContents s s := ⟨rfl, rfl, rfl, rfl⟩

theorem trans {s t u : Store} (first : SameContents s t) (second : SameContents t u) :
    SameContents s u :=
  ⟨second.objects.trans first.objects, second.uploads.trans first.uploads,
    second.parts.trans first.parts, second.blobs.trans first.blobs⟩

theorem placed (s : Store) : SameContents s s.placed := ⟨rfl, rfl, rfl, rfl⟩

theorem without {s t : Store} (same : SameContents s t) (blob : Nat) :
    SameContents (s.without blob) (t.without blob) :=
  ⟨same.objects, same.uploads, same.parts,
    congrArg (fun blobs => Table.erase blobs blob) same.blobs⟩

end SameContents

theorem Numbered.find?_nextBlob {s : Store} (numbered : s.Numbered) :
    s.blobs.find? s.nextBlob = none := by
  cases found : s.blobs.find? s.nextBlob with
  | none => rfl
  | some bytes => exact absurd (numbered _ _ found) (Nat.lt_irrefl _)

theorem Numbered.kept {s : Store} (numbered : s.Numbered) (bytes : ByteArray) :
    (s.kept bytes).Numbered := by
  intro blob bytes' found
  unfold Store.kept at found ⊢
  rw [Table.find?_insert] at found
  split at found
  · next same => exact same ▸ Nat.lt_succ_self _
  · exact Nat.lt_succ_of_lt (numbered blob bytes' found)

/-- A blob that is taken back leaves nothing. -/
theorem Numbered.sameContents_kept_without {s : Store} (numbered : s.Numbered)
    (bytes : ByteArray) : SameContents s ((s.placed.kept bytes).without s.nextBlob) :=
  ⟨rfl, rfl, rfl, Table.erase_insert numbered.find?_nextBlob bytes⟩

/-- A blob that stays is a difference. -/
theorem Numbered.not_sameContents_kept {s : Store} (numbered : s.Numbered)
    (bytes : ByteArray) : ¬ SameContents s (s.placed.kept bytes) := by
  intro same
  have found : (s.placed.kept bytes).blobs.find? s.nextBlob = some bytes :=
    Table.find?_insert_self ..
  rw [same.blobs, numbered.find?_nextBlob] at found
  cases found

/-- A commit that fails has taken its blob back and changed nothing else. -/
theorem commit_failed {identifier : String} {written : Written} {attributes : Attributes}
    {previous? : Option Object} {now : Instant} {s t : Store} {fault : StoreFault}
    (failed : outcome (commit identifier written attributes previous? now) s = (.error fault, t)) :
    t = s.without written.blob := by
  rw [outcome_commit] at failed
  split at failed
  · cases failed
  · exact (congrArg Prod.snd failed).symm

/-- A commit of the newest blob that fails leaves the store as it was before the blob. -/
theorem Numbered.commit_draft_failed {s t : Store} (numbered : s.Numbered) {bytes : ByteArray}
    {identifier : String} {attributes : Attributes} {previous? : Option Object} {now : Instant}
    {fault : StoreFault}
    (failed : outcome (commit identifier (s.draft bytes) attributes previous? now)
      (s.placed.kept bytes) = (.error fault, t)) : SameContents s t := by
  rw [commit_failed failed]
  exact numbered.sameContents_kept_without bytes

/-! ## Failures, one operation after another -/

section

variable {s t : Store} {fault : StoreFault} (numbered : s.Numbered)

include numbered

theorem put_failed {identifier : String} {attributes : Attributes} {body : Body} {now : Instant}
    (failed : outcome (put identifier attributes body now) s = (.error fault, t)) :
    SameContents s t ↔ ¬ (Call.object (.put identifier attributes body now)).Spills s := by
  rw [outcome_put] at failed
  cases valid : Name.checkIdentifier identifier with
  | error _ =>
      rw [valid] at failed
      cases failed
      exact iff_of_true (.refl s) (by simp [Call.Spills, valid])
  | ok _ =>
      rw [valid] at failed
      dsimp only at failed
      cases read : body.contents with
      | error _ =>
          rw [read] at failed
          cases failed
          exact iff_of_true (.placed s) (by simp [Call.Spills, read])
      | ok bytes =>
          rw [read] at failed
          dsimp only at failed
          cases found : s.lookup identifier with
          | error unread =>
              rw [found] at failed
              cases failed
              exact iff_of_false (numbered.not_sameContents_kept bytes)
                (not_not_intro ⟨valid, ⟨bytes, read⟩, fault, found⟩)
          | ok previous? =>
              rw [found] at failed
              refine iff_of_true (numbered.commit_draft_failed failed) ?_
              rintro ⟨-, -, _, unread⟩
              cases found.symm.trans unread

theorem update_failed {identifier : String} {body : Body} {now : Instant}
    (failed : outcome (update identifier body now) s = (.error fault, t)) :
    SameContents s t := by
  rw [outcome_update] at failed
  cases valid : Name.checkIdentifier identifier with
  | error _ =>
      rw [valid] at failed
      cases failed
      exact .refl s
  | ok _ =>
      rw [valid] at failed
      dsimp only at failed
      cases read : body.contents with
      | error _ =>
          rw [read] at failed
          cases failed
          exact .placed s
      | ok bytes =>
          rw [read] at failed
          dsimp only at failed
          cases found : s.fetched identifier with
          | error _ =>
              rw [found] at failed
              cases failed
              exact numbered.sameContents_kept_without bytes
          | ok previous =>
              rw [found] at failed
              exact numbered.commit_draft_failed failed

theorem joinTo_failed {identifier : String} {written : Written} {now : Instant}
    (failed : outcome (joinTo identifier written now) s = (.error fault, t)) :
    SameContents s t := by
  rw [outcome_joinTo] at failed
  cases found : s.fetched identifier with
  | error _ =>
      rw [found] at failed
      cases failed
      exact .refl s
  | ok previous =>
      rw [found] at failed
      dsimp only at failed
      cases read : s.joined [previous.blob, written.blob] with
      | error _ =>
          rw [read] at failed
          cases failed
          exact .placed s
      | ok bytes =>
          rw [read] at failed
          exact numbered.commit_draft_failed failed

theorem append_failed {identifier : String} {body : Body} {now : Instant}
    (failed : outcome (append identifier body now) s = (.error fault, t)) :
    SameContents s t := by
  rw [outcome_append] at failed
  cases valid : Name.checkIdentifier identifier with
  | error _ =>
      rw [valid] at failed
      cases failed
      exact .refl s
  | ok _ =>
      rw [valid] at failed
      dsimp only at failed
      cases read : body.contents with
      | error _ =>
          rw [read] at failed
          cases failed
          exact .placed s
      | ok bytes =>
          rw [read] at failed
          dsimp only at failed
          cases joining : outcome (joinTo identifier (s.draft bytes) now) (s.placed.kept bytes) with
          | mk result u =>
              rw [joining] at failed
              cases failed
              have staged : SameContents (s.placed.kept bytes) u :=
                joinTo_failed (Numbered.kept (s := s.placed) numbered bytes) joining
              exact (numbered.sameContents_kept_without bytes).trans (staged.without s.nextBlob)

theorem copy_failed {source destination : String} {attributes? : Option Attributes}
    {now : Instant}
    (failed : outcome (copy source destination attributes? now) s = (.error fault, t)) :
    SameContents s t := by
  rw [outcome_copy] at failed
  split at failed
  · cases failed
    exact .refl s
  · cases failed
    exact .refl s
  · split at failed
    · cases failed
      exact .refl s
    · split at failed
      · cases failed
        exact .refl s
      · split at failed
        · cases failed
          exact .placed s
        · exact numbered.commit_draft_failed failed

theorem complete_failed {name identifier : String} {requested : List RequestedPart}
    {now : Instant}
    (failed : outcome (complete name identifier requested now) s = (.error fault, t)) :
    SameContents s t ↔
      ¬ (Call.upload (.complete name identifier requested now)).Spills s := by
  rw [outcome_complete] at failed
  split at failed
  · next missing =>
      cases failed
      exact iff_of_true (.refl s) (by simp [Call.Spills, missing])
  · next upload found =>
      split at failed
      · next refused =>
          cases failed
          exact iff_of_true (.refl s) (by simp [Call.Spills, found, refused])
      · next chosen chose =>
          split at failed
          · next lost =>
              cases failed
              exact iff_of_true (.placed s) (by simp [Call.Spills, found, chose, lost])
          · next bytes joined =>
              split at failed
              · next unread =>
                  cases failed
                  exact iff_of_false (numbered.not_sameContents_kept bytes)
                    (not_not_intro ⟨⟨upload, chosen, bytes, found, chose, joined⟩, fault, unread⟩)
              · next previous? readable =>
                  split at failed
                  · next committing =>
                      cases failed
                      refine iff_of_true (numbered.commit_draft_failed committing) ?_
                      rintro ⟨-, _, unread⟩
                      cases readable.symm.trans unread
                  · cases failed

end

section

variable {s t : Store} {fault : StoreFault}

theorem rename_failed {old new : String} {now : Instant}
    (failed : outcome (rename old new now) s = (.error fault, t)) : t = s := by
  rw [outcome_rename] at failed
  split at failed
  · cases failed
    rfl
  · cases failed
    rfl
  · split at failed
    · cases failed
      rfl
    · next current fetched =>
        split at failed
        · cases failed
        · split at failed
          · cases failed
            rfl
          · cases failed
            rfl
          · split at failed
            · split at failed
              · cases failed
                rfl
              · next row found =>
                  obtain ⟨-, row', found', read⟩ := fetched_eq_ok_iff.mp fetched
                  cases found.symm.trans found'
                  obtain ⟨metadata, kept, -⟩ := readRow_eq_ok_iff.mp read
                  simp [readRow, kept] at failed
            · cases failed
              rfl

theorem delete_failed {identifier : String}
    (failed : outcome (delete identifier) s = (.error fault, t)) :
    SameContents s t ↔ ¬ (Call.object (.delete identifier)).Spills s := by
  rw [outcome_delete] at failed
  split at failed
  · next refused =>
      cases failed
      exact iff_of_true (.refl s) (by simp [Call.Spills, refused])
  · next valid =>
      split at failed
      · next openDatabase =>
          split at failed
          · next missing =>
              cases failed
              exact iff_of_true (.refl s)
                (by simp [Call.Spills, Unreadable, lookup, openDatabase, missing])
          · next row found =>
              split at failed
              · next unread =>
                  cases failed
                  refine iff_of_false ?_ (not_not_intro ⟨valid, openDatabase, fault, ?_⟩)
                  · intro same
                    have gone : (s.unlisted identifier).objects.find? identifier = none :=
                      Table.find?_erase_self ..
                    rw [same.objects, found] at gone
                    cases gone
                  · simp [lookup, openDatabase, found, unread, Except.map]
              · cases failed
      · next closed =>
          cases failed
          exact iff_of_true (.refl s) (by simp [Call.Spills, closed])

theorem beginUpload_failed {identifier : String} {attributes : Attributes} {now : Instant}
    (failed : outcome (beginUpload identifier attributes now) s = (.error fault, t)) : t = s := by
  rw [outcome_beginUpload] at failed
  split at failed
  · cases failed
    rfl
  · split at failed
    · cases failed
    · cases failed
      rfl

theorem uploadPart_failed {name identifier : String} {number : Int} {body : Body}
    {now : Instant}
    (failed : outcome (uploadPart name identifier number body now) s = (.error fault, t)) :
    SameContents s t := by
  rw [outcome_uploadPart] at failed
  split at failed
  · cases failed
    exact .refl s
  · split at failed
    · cases failed
      exact .refl s
    · split at failed
      · cases failed
        exact .placed s
      · cases failed

theorem abort_failed {name identifier : String}
    (failed : outcome (abort name identifier) s = (.error fault, t)) : t = s := by
  rw [outcome_abort] at failed
  split at failed
  · cases failed
    rfl
  · rw [outcome_dropUpload] at failed
    split at failed
    · cases failed
    · cases failed
      rfl

/-- A failed call of an operation on objects keeps what is stored, unless it fails too late. -/
theorem ObjectCall.sameContents_iff (numbered : s.Numbered) {call : ObjectCall}
    (failed : outcome call.perform s = (.error fault, t)) :
    SameContents s t ↔ ¬ (Call.object call).Spills s := by
  cases call with
  | put identifier attributes body now =>
      exact put_failed numbered (outcome_map_eq_error_iff.mp failed)
  | putPieces identifier attributes pieces now =>
      refine (put_failed numbered (outcome_map_eq_error_iff.mp failed)).trans (not_congr ?_)
      simp [Call.Spills, contents_of_pieces]
  | update identifier body now =>
      exact iff_of_true (update_failed numbered (outcome_map_eq_error_iff.mp failed)) not_false
  | append identifier body now =>
      exact iff_of_true (append_failed numbered (outcome_map_eq_error_iff.mp failed)) not_false
  | rename old new now =>
      cases rename_failed (outcome_map_eq_error_iff.mp failed)
      exact iff_of_true (.refl s) not_false
  | copy source destination attributes? now =>
      exact iff_of_true (copy_failed numbered (outcome_map_eq_error_iff.mp failed)) not_false
  | delete identifier => exact delete_failed (outcome_map_eq_error_iff.mp failed)
  | head identifier =>
      have kept := head_keeps identifier s
      rw [outcome_map_eq_error_iff.mp failed] at kept
      exact iff_of_true (kept ▸ .refl s) not_false
  | read identifier =>
      have kept := read_keeps identifier s
      rw [outcome_map_eq_error_iff.mp failed] at kept
      exact iff_of_true (kept ▸ .refl s) not_false
  | list beginning =>
      have ended := outcome_map_eq_error_iff.mp failed
      rw [outcome_list] at ended
      cases congrArg Prod.snd ended
      exact iff_of_true (.refl s) not_false

/-- A failed call of an operation on uploads keeps what is stored, unless it fails too late. -/
theorem UploadCall.sameContents_iff (numbered : s.Numbered) {call : UploadCall}
    (failed : outcome call.perform s = (.error fault, t)) :
    SameContents s t ↔ ¬ (Call.upload call).Spills s := by
  cases call with
  | start identifier attributes now =>
      cases beginUpload_failed (outcome_map_eq_error_iff.mp failed)
      exact iff_of_true (.refl s) not_false
  | uploadPart name identifier number body now =>
      exact iff_of_true (uploadPart_failed (outcome_map_eq_error_iff.mp failed)) not_false
  | listParts name identifier =>
      have ended := outcome_map_eq_error_iff.mp failed
      rw [outcome_listParts] at ended
      cases congrArg Prod.snd ended
      exact iff_of_true (.refl s) not_false
  | complete name identifier requested now =>
      exact complete_failed numbered (outcome_map_eq_error_iff.mp failed)
  | abort name identifier =>
      cases abort_failed (outcome_map_eq_error_iff.mp failed)
      exact iff_of_true (.refl s) not_false

/-- Nothing spills over rows that can be read, whatever has become of the blobs. -/
theorem Call.not_spills_of_readable (readable : ∀ identifier, ¬ s.Unreadable identifier)
    (call : Call) : ¬ call.Spills s := by
  cases call with
  | object call =>
      cases call with
      | put identifier _ _ _ => exact fun spills => readable identifier spills.2.2
      | putPieces identifier _ _ _ => exact fun spills => readable identifier spills.2
      | delete identifier => exact fun spills => readable identifier spills.2.2
      | _ => exact not_false
  | upload call =>
      cases call with
      | complete _ identifier _ _ => exact fun spills => readable identifier spills.2
      | _ => exact not_false
  | survey look => exact not_false

/-- **A failed call keeps all objects, uploads, parts and blobs, unless it fails too late.**  The
store may be any: its rows may be unreadable, its blobs missing or altered. -/
theorem sameContents_iff_not_spills (numbered : s.Numbered) {call : Call}
    (failed : outcome call.perform s = (.error fault, t)) :
    SameContents s t ↔ ¬ call.Spills s := by
  cases call with
  | object call => exact call.sameContents_iff numbered (outcome_map_eq_error_iff.mp failed)
  | upload call => exact call.sameContents_iff numbered (outcome_map_eq_error_iff.mp failed)
  | survey look =>
      have kept := look.after_eq s
      rw [outcome_map_eq_error_iff.mp failed] at kept
      exact iff_of_true (kept ▸ .refl s) not_false

/-- A row that cannot be read, in the way of a put: the put fails and its blob stays. -/
theorem put_over_unreadable_row_spills :
    let s := Store.empty.pointing "k" ⟨0, none, none, 0, "", ⟨0, 0⟩⟩
    let call := Call.object (.put "k" Attributes.none (Body.ofBytes "new".toUTF8) ⟨1, 0⟩)
    s.Numbered ∧
      outcome call.perform s = (.error .database, s.kept "new".toUTF8) ∧
      ¬ SameContents s (s.kept "new".toUTF8) := by
  intro s call
  have numbered : s.Numbered := by
    intro blob bytes found
    cases found
  have failed : outcome call.perform s = (.error .database, s.kept "new".toUTF8) := by rfl
  refine ⟨numbered, failed, fun same => ?_⟩
  refine (sameContents_iff_not_spills numbered failed).mp same ⟨rfl, ⟨"new".toUTF8, rfl⟩, ?_⟩
  exact ⟨.database, rfl⟩

end

end Depot.Store

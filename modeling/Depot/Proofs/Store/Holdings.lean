import Depot.Proofs.Store.Operations
import Depot.Proofs.Tables

/-!
# Who holds which blob

The row of an object and the row of a part each hold one blob.  The holdings of
a store are tidy when every row holds a blob that exists and records its size
and digest, no two rows hold one blob, and every blob is held.  Three moves keep
holdings tidy: a new blob for a row that holds none, the release of what some
rows hold together with those rows, and the hand-over from one row to another.
-/

namespace Depot.Store

set_option autoImplicit false

open Depot.Http
open Depot.Time

/-- A row that can hold a blob: that of an object, or that of a part of an upload. -/
inductive Holder where
  | object (identifier : String)
  | part (upload : String) (number : Nat)
  deriving DecidableEq

theorem Holder.object_ne_part {identifier name : String} {number : Nat} :
    object identifier ≠ part name number := by
  intro same
  cases same

theorem Holder.part_ne_object {identifier name : String} {number : Nat} :
    part name number ≠ object identifier := by
  intro same
  cases same

/-- What a row says about the blob it holds. -/
structure Holding where
  blob : Nat
  size : Int
  etag : String

/-- What each row of a store holds. -/
def holding (s : Store) : Holder → Option Holding
  | .object identifier =>
      (s.objects.find? identifier).map fun row => ⟨row.blob, row.size, row.etag⟩
  | .part name number =>
      (s.partRows.find? ⟨name, number⟩).map fun part => ⟨part.blob, part.size, part.etag⟩

theorem holding_object {s : Store} {identifier : String} {row : Row}
    (found : s.objects.find? identifier = some row) :
    s.holding (.object identifier) = some ⟨row.blob, row.size, row.etag⟩ := by
  rw [holding, found, Option.map_some]

theorem holding_partRow {s : Store} {name : String} {number : Nat} {part : Part}
    (found : s.partRows.find? ⟨name, number⟩ = some part) :
    s.holding (.part name number) = some ⟨part.blob, part.size, part.etag⟩ := by
  rw [holding, found, Option.map_some]

theorem holding_part {s : Store} {name : String} {upload : Upload} {number : Nat} {part : Part}
    (found : s.uploads.find? name = some upload) (known : upload.parts.find? number = some part) :
    s.holding (.part name number) = some ⟨part.blob, part.size, part.etag⟩ := by
  rw [parts_of_find?_uploads found, find?_partsOf] at known
  exact holding_partRow known

/-- Holdings that fit the blobs: none missing, shared, misdescribed or left over. -/
structure Tidy (holding : Holder → Option Holding) (blobs : Table Nat ByteArray)
    (next : Nat) : Prop where
  /-- Every blob has a number below the next one. -/
  numbered : ∀ blob bytes, blobs.find? blob = some bytes → blob < next
  /-- A row holds a blob that exists, and records its size and the MD5 digest of its bytes in
  lower-case hexadecimal. -/
  held : ∀ holder h, holding holder = some h →
    ∃ bytes, blobs.find? h.blob = some bytes ∧ h.size = bytes.size ∧
      h.etag = Hex.encode (Digest.Md5.digest bytes)
  /-- No blob is held by two rows. -/
  apart : ∀ holder holder' h h', holding holder = some h → holding holder' = some h' →
    h.blob = h'.blob → holder = holder'
  /-- Every blob is held by a row. -/
  used : ∀ blob bytes, blobs.find? blob = some bytes →
    ∃ holder h, holding holder = some h ∧ h.blob = blob

/-- The blob that is no longer needed when a row goes. -/
def spent (holding : Holder → Option Holding) (holder : Holder) : List Nat :=
  ((holding holder).map Holding.blob).toList

theorem mem_spent_iff (holding : Holder → Option Holding) (holder : Holder) (blob : Nat) :
    blob ∈ spent holding holder ↔
      ∃ holder' h, holder' = holder ∧ holding holder' = some h ∧ h.blob = blob := by
  simp [spent]

theorem spent_object (s : Store) (identifier : String) :
    spent s.holding (.object identifier) =
      ((s.objects.find? identifier).map Row.blob).toList := by
  rw [spent, holding, Option.map_map]
  rfl

theorem spent_part (s : Store) (name : String) (number : Nat) :
    spent s.holding (.part name number) =
      ((s.partRows.find? ⟨name, number⟩).map Part.blob).toList := by
  rw [spent, holding, Option.map_map]
  rfl

namespace Tidy

variable {holding : Holder → Option Holding} {blobs : Table Nat ByteArray} {next : Nat}

/-- The next number is above the blob of every row. -/
theorem blob_lt (tidy : Tidy holding blobs next) {holder : Holder} {h : Holding}
    (holds : holding holder = some h) : h.blob < next := by
  obtain ⟨bytes, found, -, -⟩ := tidy.held holder h holds
  exact tidy.numbered _ _ found

/-- No blob has the next number yet. -/
theorem next_free (tidy : Tidy holding blobs next) : blobs.find? next = none := by
  cases found : blobs.find? next with
  | none => rfl
  | some bytes => exact absurd (tidy.numbered next bytes found) (Nat.lt_irrefl next)

theorem skip (tidy : Tidy holding blobs next) {next' : Nat} (later : next ≤ next') :
    Tidy holding blobs next' where
  numbered blob bytes found := Nat.lt_of_lt_of_le (tidy.numbered blob bytes found) later
  held := tidy.held
  apart := tidy.apart
  used := tidy.used

/-- A row that holds nothing gets the newest blob. -/
theorem add (tidy : Tidy holding blobs next) {holder : Holder} (free : holding holder = none)
    (bytes : ByteArray) :
    Tidy (fun x => if x = holder then some ⟨next, bytes.size, etagOf bytes⟩ else holding x)
      (blobs.insert next bytes) (next + 1) where
  numbered blob bytes' found := by
    rw [Table.find?_insert] at found
    split at found
    · next same => exact same ▸ Nat.lt_succ_self _
    · exact Nat.lt_succ_of_lt (tidy.numbered blob bytes' found)
  held x h holds := by
    rw [Table.find?_insert]
    split at holds
    · cases holds
      exact ⟨bytes, if_pos rfl, rfl, rfl⟩
    · rw [if_neg (Nat.ne_of_lt (tidy.blob_lt holds))]
      exact tidy.held x h holds
  apart x y h h' holds holds' same := by
    split at holds <;> split at holds'
    · next here there => exact here.trans there.symm
    · cases holds
      exact absurd same.symm (Nat.ne_of_lt (tidy.blob_lt holds'))
    · cases holds'
      exact absurd same (Nat.ne_of_lt (tidy.blob_lt holds))
    · exact tidy.apart x y h h' holds holds' same
  used blob bytes' found := by
    rw [Table.find?_insert] at found
    split at found
    · next same => exact ⟨holder, _, if_pos rfl, same.symm⟩
    · obtain ⟨x, h, holds, same⟩ := tidy.used blob bytes' found
      have other : x ≠ holder := by
        intro here
        rw [here, free] at holds
        cases holds
      exact ⟨x, h, (if_neg other).trans holds, same⟩

/-- Some rows go, together with all that they hold. -/
theorem release (tidy : Tidy holding blobs next) (gone : Holder → Prop) [DecidablePred gone]
    {freed : List Nat}
    (frees : ∀ blob, blob ∈ freed ↔
      ∃ holder h, gone holder ∧ holding holder = some h ∧ h.blob = blob) :
    Tidy (fun x => if gone x then none else holding x) (blobs.eraseAll freed) next where
  numbered blob bytes found := by
    rw [Table.find?_eraseAll] at found
    split at found
    · cases found
    · exact tidy.numbered blob bytes found
  held x h holds := by
    split at holds
    · cases holds
    · next stays =>
        have kept : h.blob ∉ freed := by
          intro member
          obtain ⟨y, h', goes, holds', same⟩ := (frees _).mp member
          exact stays (tidy.apart y x h' h holds' holds same ▸ goes)
        rw [Table.find?_eraseAll, if_neg kept]
        exact tidy.held x h holds
  apart x y h h' holds holds' same := by
    split at holds
    · cases holds
    · split at holds'
      · cases holds'
      · exact tidy.apart x y h h' holds holds' same
  used blob bytes found := by
    rw [Table.find?_eraseAll] at found
    split at found
    · cases found
    · next kept =>
        obtain ⟨x, h, holds, same⟩ := tidy.used blob bytes found
        have stays : ¬ gone x := fun goes => kept ((frees blob).mpr ⟨x, h, goes, holds, same⟩)
        exact ⟨x, h, (if_neg stays).trans holds, same⟩

/-- What is not released keeps its blob. -/
theorem find?_eraseAll (tidy : Tidy holding blobs next) {gone : Holder → Prop} {freed : List Nat}
    (frees : ∀ blob, blob ∈ freed ↔
      ∃ holder h, gone holder ∧ holding holder = some h ∧ h.blob = blob)
    {holder : Holder} {h : Holding} (holds : holding holder = some h) (stays : ¬ gone holder) :
    (blobs.eraseAll freed).find? h.blob = blobs.find? h.blob := by
  rw [Table.find?_eraseAll, if_neg]
  intro member
  obtain ⟨y, h', goes, holds', same⟩ := (frees _).mp member
  exact stays (tidy.apart y holder h' h holds' holds same ▸ goes)

/-- A row gets the newest blob, and what it held before goes. -/
theorem replace (tidy : Tidy holding blobs next) (holder : Holder) (bytes : ByteArray) :
    Tidy (fun x => if x = holder then some ⟨next, bytes.size, etagOf bytes⟩ else holding x)
      ((blobs.eraseAll (spent holding holder)).insert next bytes) (next + 1) := by
  have released := tidy.release (· = holder) (mem_spent_iff holding holder)
  have free : (if holder = holder then none else holding holder) = none := if_pos rfl
  have added := released.add free bytes
  have same :
      (fun x => if x = holder then some (Holding.mk next bytes.size (etagOf bytes))
        else if x = holder then none else holding x) =
      fun x => if x = holder then some ⟨next, bytes.size, etagOf bytes⟩ else holding x := by
    funext x
    split <;> rfl
  exact same ▸ added

/-- The other rows keep their blobs when a row gets the newest one. -/
theorem find?_replace (tidy : Tidy holding blobs next) {holder other : Holder} {h : Holding}
    (holds : holding other = some h) (differs : other ≠ holder) (bytes : ByteArray) :
    ((blobs.eraseAll (spent holding holder)).insert next bytes).find? h.blob =
      blobs.find? h.blob := by
  rw [Table.find?_insert, if_neg (Nat.ne_of_lt (tidy.blob_lt holds))]
  exact tidy.find?_eraseAll (mem_spent_iff holding holder) holds differs

/-- A row hands its blob over to a row that holds none. -/
theorem move (tidy : Tidy holding blobs next) {giver taker : Holder}
    (free : holding taker = none) :
    Tidy (fun x => if x = taker then holding giver else if x = giver then none else holding x)
      blobs next := by
  -- Whoever holds something now held it before, or it was the giver that did.
  have before (x : Holder) (h : Holding)
      (holds : (if x = taker then holding giver else if x = giver then none else holding x) =
        some h) :
      (x = taker ∧ holding giver = some h) ∨ (x ≠ giver ∧ holding x = some h) := by
    split at holds
    · next here => exact .inl ⟨here, holds⟩
    · split at holds
      · cases holds
      · next other => exact .inr ⟨other, holds⟩
  refine ⟨tidy.numbered, ?_, ?_, ?_⟩
  · intro x h holds
    rcases before x h holds with ⟨-, holds⟩ | ⟨-, holds⟩
    · exact tidy.held giver h holds
    · exact tidy.held x h holds
  · intro x y h h' holds holds' same
    rcases before x h holds with ⟨here, holds⟩ | ⟨other, holds⟩ <;>
      rcases before y h' holds' with ⟨here', holds'⟩ | ⟨other', holds'⟩
    · exact here.trans here'.symm
    · exact absurd (tidy.apart _ _ _ _ holds holds' same).symm other'
    · exact absurd (tidy.apart _ _ _ _ holds holds' same) other
    · exact tidy.apart _ _ _ _ holds holds' same
  · intro blob bytes found
    obtain ⟨x, h, holds, same⟩ := tidy.used blob bytes found
    by_cases here : x = giver
    · exact ⟨taker, h, (if_pos rfl).trans (here ▸ holds), same⟩
    · have notTaker : x ≠ taker := by
        intro there
        rw [there, free] at holds
        cases holds
      exact ⟨x, h, by rw [if_neg notTaker, if_neg here]; exact holds, same⟩

end Tidy

end Depot.Store

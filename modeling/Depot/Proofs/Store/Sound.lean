import Depot.Proofs.Store.Holdings

/-!
# Sound stores

A store is sound when its devices work, its rows can be read, and the holdings
of its rows are tidy.  Sound stores change in few ways: an object or a part gets
new content, an object moves or goes, an upload begins or ends.  Each of these
changes is defined here as one step and keeps a store sound.

The name of an upload is new because the number it is written from is.
-/

namespace Depot.Store

set_option autoImplicit false

open Depot.Http
open Depot.Time

/-! ## Names of uploads -/

/-- The number written in hexadecimal digits. -/
def numberOf (digits : List Char) : Nat :=
  digits.foldl (fun n c => 16 * n + ((Hex.value? c).getD 0).toNat) 0

theorem numberOf_concat (digits : List Char) (c : Char) :
    numberOf (digits ++ [c]) = 16 * numberOf digits + ((Hex.value? c).getD 0).toNat := by
  simp [numberOf]

theorem value_digitChar {n : Nat} (small : n < 16) :
    ((Hex.value? n.digitChar).getD 0).toNat = n := by
  have every : ∀ k : Fin 16, ((Hex.value? k.val.digitChar).getD 0).toNat = k := by decide
  exact every ⟨n, small⟩

theorem numberOf_toDigits (n : Nat) : numberOf (Nat.toDigits 16 n) = n := by
  induction n using Nat.strongRecOn with
  | ind n ih =>
      by_cases small : n < 16
      · rw [Nat.toDigits_of_lt_base small, ← List.nil_append [_], numberOf_concat,
          value_digitChar small]
        exact Nat.zero_add n
      · rw [Nat.toDigits_of_base_le (by decide) (Nat.le_of_not_lt small), numberOf_concat,
          ih (n / 16) (by omega), value_digitChar (Nat.mod_lt n (by decide))]
        exact Nat.div_add_mod n 16

theorem numberOf_zeros (count : Nat) (digits : List Char) :
    numberOf (List.replicate count '0' ++ digits) = numberOf digits := by
  induction count with
  | zero => rfl
  | succ count ih => exact ih

/-- Uploads with different numbers have different names. -/
theorem uploadName_inj {n m : Nat} (same : uploadName n = uploadName m) : n = m := by
  have value (k : Nat) : numberOf (uploadName k).toList = k := by
    unfold uploadName
    rw [String.toList_ofList, numberOf_zeros, numberOf_toDigits]
  rw [← value n, same, value m]

/-! ## Soundness -/

/-- What holds of every upload of a sound store, given the number of the next one. -/
structure UploadFits (name : String) (upload : Upload) (next : Nat) : Prop where
  /-- It is for a valid identifier. -/
  target : Name.checkIdentifier upload.identifier = .ok ()
  /-- It has the name of a number that has been passed. -/
  named : ∃ n, n < next ∧ name = uploadName n

/-- A store in which every operation finds what it needs. -/
structure Sound (s : Store) : Prop where
  /-- All devices do their work. -/
  health : s.health = {}
  /-- Every object has a valid identifier and can be read. -/
  rows : ∀ identifier row, s.objects.find? identifier = some row →
    Name.checkIdentifier identifier = .ok () ∧ row.metadata?.isSome
  uploads : ∀ name upload, s.uploads.find? name = some upload →
    UploadFits name upload s.nextUpload
  /-- Every part belongs to an upload that is open, and has a number in range. -/
  parts : ∀ key part, s.partRows.find? key = some part →
    s.uploadRows.has key.upload ∧ 1 ≤ key.number ∧ key.number ≤ maxPartNumber
  /-- No blob is missing, shared, misdescribed or left over. -/
  tidy : Tidy s.holding s.blobs s.nextBlob

theorem sound_empty : Sound Store.empty where
  health := rfl
  rows _ _ found := by cases found
  uploads _ _ found := by cases found
  parts _ _ found := by cases found
  tidy :=
    { numbered := fun _ _ found => by cases found
      held := fun holder _ holds => by cases holder <;> cases holds
      apart := fun holder _ _ _ holds => by cases holder <;> cases holds
      used := fun _ _ found => by cases found }

/-! ## Changes of sound stores -/

/-- The store with new content and attributes under an identifier. -/
def stored (s : Store) (identifier : String) (attributes : Attributes) (bytes : ByteArray)
    (now : Instant) : Store :=
  { s with
    objects := s.objects.insert identifier (rowOf (s.draft bytes) attributes now)
    blobs := (s.blobs.eraseAll (spent s.holding (.object identifier))).insert s.nextBlob bytes
    nextBlob := s.nextBlob + 1 }

/-- The store after a blob has come and gone. -/
def skipped (s : Store) : Store := { s with nextBlob := s.nextBlob + 1 }

def moved (s : Store) (old new : String) (row : Row) : Store :=
  (s.unlisted old).pointing new row

/-- The store without an object. -/
def removed (s : Store) (identifier : String) : Store :=
  { s with
    objects := s.objects.erase identifier
    blobs := s.blobs.eraseAll (spent s.holding (.object identifier)) }

/-- The store with new content for a part. -/
def supplied (s : Store) (name : String) (number : Nat) (bytes : ByteArray) (now : Instant) :
    Store :=
  { s with
    partRows := s.partRows.insert ⟨name, number⟩ (partOf (s.draft bytes) now)
    blobs := (s.blobs.eraseAll (spent s.holding (.part name number))).insert s.nextBlob bytes
    nextBlob := s.nextBlob + 1 }

/-- The store without an upload. -/
def ended (s : Store) (name : String) (upload : Upload) : Store :=
  { s.forgotten name with
    blobs := s.blobs.eraseAll (upload.parts.entries.map fun e => e.2.blob) }

/-! ## What the changes do to the holdings -/

theorem holding_stored (s : Store) (identifier : String) (attributes : Attributes)
    (bytes : ByteArray) (now : Instant) :
    (s.stored identifier attributes bytes now).holding = fun x =>
      if x = .object identifier then some ⟨s.nextBlob, bytes.size, etagOf bytes⟩
      else s.holding x := by
  funext x
  cases x with
  | object identifier' =>
      simp only [holding, stored, Table.find?_insert, Holder.object.injEq]
      split <;> rfl
  | part name number => rfl

theorem holding_moved {s : Store} {old new : String} {row : Row}
    (found : s.objects.find? old = some row) (now : Instant) :
    (s.moved old new { row with modified := now }).holding = fun x =>
      if x = .object new then s.holding (.object old)
      else if x = .object old then none else s.holding x := by
  funext x
  cases x with
  | object identifier' =>
      simp only [holding, moved, pointing, unlisted, Table.find?_insert, Table.find?_erase,
        Holder.object.injEq, found]
      split
      · rfl
      · split <;> rfl
  | part name number => rfl

theorem holding_removed (s : Store) (identifier : String) :
    (s.removed identifier).holding = fun x =>
      if x = .object identifier then none else s.holding x := by
  funext x
  cases x with
  | object identifier' =>
      simp only [holding, removed, Table.find?_erase, Holder.object.injEq]
      split <;> rfl
  | part name number => rfl

theorem holding_supplied (s : Store) (name : String) (number : Nat) (bytes : ByteArray)
    (now : Instant) :
    (s.supplied name number bytes now).holding = fun x =>
      if x = .part name number then some ⟨s.nextBlob, bytes.size, etagOf bytes⟩
      else s.holding x := by
  funext x
  cases x with
  | object identifier => rfl
  | part name' number' =>
      simp only [holding, supplied, Table.find?_insert, Holder.part.injEq, PartKey.mk.injEq]
      split <;> rfl

/-- Whether a holder is a part of an upload. -/
def Holder.isPartOf (name : String) : Holder → Bool
  | .object _ => false
  | .part name' _ => name' = name

/-- The blobs of the parts of an upload are those that its parts hold. -/
theorem mem_blobs_iff {s : Store} {name : String} {upload : Upload}
    (found : s.uploads.find? name = some upload) (blob : Nat) :
    blob ∈ upload.parts.entries.map (fun e => e.2.blob) ↔
      ∃ holder h, Holder.isPartOf name holder = true ∧ s.holding holder = some h ∧
        h.blob = blob := by
  rw [List.mem_map]
  constructor
  · rintro ⟨⟨number, part⟩, member, same⟩
    refine ⟨.part name number, ⟨part.blob, part.size, part.etag⟩, ?_, ?_, same⟩
    · simp [Holder.isPartOf]
    · exact holding_part found (Table.mem_entries_iff.mp member)
  · rintro ⟨holder, h, part, holds, same⟩
    cases holder with
    | object identifier => cases part
    | part name' number =>
        obtain rfl : name' = name := of_decide_eq_true part
        rw [holding, Option.map_eq_some_iff] at holds
        obtain ⟨known, listed, rfl⟩ := holds
        rw [← find?_partsOf, ← parts_of_find?_uploads found] at listed
        exact ⟨(number, known), Table.mem_entries_iff.mpr listed, same⟩

theorem holding_ended (s : Store) (name : String) (upload : Upload) :
    (s.ended name upload).holding = fun x =>
      if x.isPartOf name = true then none else s.holding x := by
  funext x
  cases x with
  | object identifier => rfl
  | part name' number =>
      simp only [holding, ended, forgotten, Holder.isPartOf, Table.find?_filter,
        decide_eq_true_eq]
      cases s.partRows.find? ⟨name', number⟩ with
      | none => simp
      | some part => by_cases here : name' = name <;> simp [here, Option.filter]

/-! ## The changes keep a store sound -/

namespace Sound

variable {s : Store}

/-- Every row is that of a valid identifier and can be read, also with one that is new. -/
theorem rows_insert (sound : s.Sound) {identifier : String} {row : Row}
    (valid : Name.checkIdentifier identifier = .ok ()) (readable : row.metadata?.isSome)
    (identifier' : String) (row' : Row)
    (found : (s.objects.insert identifier row).find? identifier' = some row') :
    Name.checkIdentifier identifier' = .ok () ∧ row'.metadata?.isSome := by
  rw [Table.find?_insert] at found
  split at found
  · next same =>
      cases found
      exact ⟨same ▸ valid, readable⟩
  · exact sound.rows identifier' row' found

theorem rows_erase (sound : s.Sound) {identifier : String} (identifier' : String) (row' : Row)
    (found : (s.objects.erase identifier).find? identifier' = some row') :
    Name.checkIdentifier identifier' = .ok () ∧ row'.metadata?.isSome := by
  rw [Table.find?_erase] at found
  split at found
  · cases found
  · exact sound.rows identifier' row' found

theorem stored (sound : s.Sound) {identifier : String}
    (valid : Name.checkIdentifier identifier = .ok ()) (attributes : Attributes)
    (bytes : ByteArray) (now : Instant) : (s.stored identifier attributes bytes now).Sound where
  health := sound.health
  rows := sound.rows_insert valid rfl
  uploads := sound.uploads
  parts := sound.parts
  tidy := holding_stored s identifier attributes bytes now ▸
    sound.tidy.replace (.object identifier) bytes

theorem skipped (sound : s.Sound) : s.skipped.Sound :=
  { sound with tidy := sound.tidy.skip (Nat.le_succ _) }

theorem moved (sound : s.Sound) {old new : String} {row : Row}
    (found : s.objects.find? old = some row) (valid : Name.checkIdentifier new = .ok ())
    (free : s.objects.find? new = none) (now : Instant) :
    (s.moved old new { row with modified := now }).Sound where
  health := sound.health
  rows identifier row' found' := by
    rw [Store.moved, pointing, Table.find?_insert] at found'
    split at found'
    · next same =>
        cases found'
        exact ⟨same ▸ valid, (sound.rows old row found).2⟩
    · exact sound.rows_erase identifier row' found'
  uploads := sound.uploads
  parts := sound.parts
  tidy := by
    have nobody : s.holding (.object new) = none := by rw [holding, free, Option.map_none]
    exact holding_moved found now ▸ sound.tidy.move nobody

theorem removed (sound : s.Sound) (identifier : String) : (s.removed identifier).Sound where
  health := sound.health
  rows := sound.rows_erase
  uploads := sound.uploads
  parts := sound.parts
  tidy := holding_removed s identifier ▸
    sound.tidy.release (· = .object identifier) (mem_spent_iff s.holding (.object identifier))

/-- No upload has the name of the next one. -/
theorem nextUpload_free (sound : s.Sound) : s.uploads.find? (uploadName s.nextUpload) = none := by
  cases found : s.uploads.find? (uploadName s.nextUpload) with
  | none => rfl
  | some upload =>
      obtain ⟨n, passed, same⟩ := (sound.uploads _ upload found).named
      exact absurd (uploadName_inj same) (Nat.ne_of_gt passed)

/-- No part has a row when its upload has none. -/
theorem no_part_of_absent (sound : s.Sound) {name : String}
    (absent : s.uploads.find? name = none) (number : Nat) :
    s.partRows.find? ⟨name, number⟩ = none := by
  cases found : s.partRows.find? ⟨name, number⟩ with
  | none => rfl
  | some part =>
      rw [find?_uploads, Option.map_eq_none_iff] at absent
      have open' := (sound.parts _ _ found).1
      rw [Table.has, absent] at open'
      cases open'

theorem uploads_begun (sound : s.Sound) (identifier : String) (attributes : Attributes)
    (now : Instant) :
    (s.begun identifier attributes now).uploads =
      s.uploads.insert (uploadName s.nextUpload) ⟨identifier, attributes, now, Table.empty⟩ :=
  Store.uploads_begun (sound.no_part_of_absent sound.nextUpload_free) identifier attributes now

/-- A store stays sound when names of uploads are passed over. -/
theorem draw (sound : s.Sound) {next : Nat} (later : s.nextUpload ≤ next) :
    Sound { s with nextUpload := next } where
  health := sound.health
  rows := sound.rows
  uploads name upload found := by
    have fits := sound.uploads name upload found
    obtain ⟨n, passed, same⟩ := fits.named
    exact { fits with named := ⟨n, Nat.lt_of_lt_of_le passed later, same⟩ }
  parts := sound.parts
  tidy := sound.tidy

theorem begun (sound : s.Sound) {identifier : String}
    (valid : Name.checkIdentifier identifier = .ok ()) (attributes : Attributes)
    (now : Instant) : (s.begun identifier attributes now).Sound where
  health := sound.health
  rows := sound.rows
  uploads name upload found := by
    rw [sound.uploads_begun, Table.find?_insert] at found
    split at found
    · next same =>
        cases found
        exact ⟨valid, ⟨s.nextUpload, Nat.lt_succ_self _, same⟩⟩
    · have fits := sound.uploads name upload found
      obtain ⟨n, passed, same⟩ := fits.named
      exact { fits with named := ⟨n, Nat.lt_succ_of_lt passed, same⟩ }
  parts key part found := by
    obtain ⟨there, range⟩ := sound.parts key part found
    refine ⟨?_, range⟩
    rw [Store.begun, Table.has, Table.find?_insert]
    split
    · rfl
    · exact there
  tidy := by
    have same : (s.begun identifier attributes now).holding = s.holding := by
      funext x
      cases x <;> rfl
    exact same ▸ sound.tidy

theorem supplied (sound : s.Sound) {name : String} {upload : Upload}
    (found : s.uploads.find? name = some upload) {number : Nat}
    (range : 1 ≤ number ∧ number ≤ maxPartNumber) (bytes : ByteArray) (now : Instant) :
    (s.supplied name number bytes now).Sound where
  health := sound.health
  rows := sound.rows
  uploads name' upload' found' := by
    have uploads : (s.supplied name number bytes now).uploads = _ :=
      uploads_withPart found number (partOf (s.draft bytes) now)
    rw [uploads, Table.find?_insert] at found'
    split at found'
    · next same =>
        cases found'
        have fits := sound.uploads name upload found
        exact ⟨fits.target, same ▸ fits.named⟩
    · exact sound.uploads name' upload' found'
  parts key part found' := by
    rw [Store.supplied, Table.find?_insert] at found'
    split at found'
    · next same =>
        rw [find?_uploads, Option.map_eq_some_iff] at found
        obtain ⟨row, there, -⟩ := found
        exact same ▸ ⟨Option.isSome_iff_exists.mpr ⟨row, there⟩, range⟩
    · exact sound.parts key part found'
  tidy := holding_supplied s name number bytes now ▸
    sound.tidy.replace (.part name number) bytes

theorem ended (sound : s.Sound) {name : String} {upload : Upload}
    (found : s.uploads.find? name = some upload) : (s.ended name upload).Sound where
  health := sound.health
  rows := sound.rows
  uploads name' upload' found' := by
    have uploads : (s.ended name upload).uploads = _ := uploads_forgotten s name
    rw [uploads, Table.find?_erase] at found'
    split at found'
    · cases found'
    · exact sound.uploads name' upload' found'
  parts key part found' := by
    rw [Store.ended, forgotten, Table.find?_filter, Option.filter_eq_some_iff] at found'
    obtain ⟨known, other⟩ := found'
    obtain ⟨there, range⟩ := sound.parts key part known
    refine ⟨?_, range⟩
    rw [Store.ended, forgotten, Table.has, Table.find?_erase_of_ne _ (of_decide_eq_true other)]
    exact there
  tidy := holding_ended s name upload ▸
    sound.tidy.release (fun x => Holder.isPartOf name x = true) (mem_blobs_iff found)

end Sound

end Depot.Store

import Depot.Proofs.Store.Pages
import Mathlib.Data.List.TakeWhile

/-!
# Buckets among the rows

A bucket is nothing but the common beginning of its identifiers, and the store
finds it in two ways: it probes for a row under the beginning, or cuts the rows
of an owner at the first slash and keeps one entry for each segment.  Both find
the bucket just when a row has an identifier in it (`Sound.rowsUnder_ne_nil_iff`,
`Sound.mem_segments_iff`), whatever the owner and the bucket are called: a row
is under the beginning or not, and a segment ends where its slash stands.
-/

namespace Depot

set_option autoImplicit false

open Depot.Text
open Depot.Time

theorem Table.mem_keys_iff {κ α : Type} [LT κ] [DecidableEq κ] [LE κ] [Std.LawfulOrderLT κ]
    {t : Table κ α} {k : κ} : k ∈ t.keys ↔ (t.find? k).isSome := by
  rw [keys, List.mem_map, Option.isSome_iff_exists]
  constructor
  · rintro ⟨⟨_, v⟩, known, rfl⟩
    exact ⟨v, mem_entries_iff.mp known⟩
  · rintro ⟨v, found⟩
    exact ⟨(k, v), mem_entries_iff.mpr found, rfl⟩

namespace Store

/-! ## Grouping rows by their segment -/

/-- Notes the segment of a row, when it has one. -/
def noteRow (beginning : String) (segments : Table String Instant) (e : String × Row) :
    Table String Instant :=
  match segmentAfter? beginning e.1 with
  | some segment => noteSegment segments segment e.2.modified
  | none => segments

theorem segmentsOf_eq (rows : List (String × Row)) (beginning : String) :
    segmentsOf rows beginning = rows.foldl (noteRow beginning) Table.empty := rfl

theorem find?_noteSegment (segments : Table String Instant) (segment : String) (moment : Instant)
    (other : String) :
    ((noteSegment segments segment moment).find? other).isSome ↔
      segment = other ∨ (segments.find? other).isSome := by
  have inserted (moment : Instant) :
      ((segments.insert segment moment).find? other).isSome ↔
        segment = other ∨ (segments.find? other).isSome := by
    rw [Table.find?_insert]
    split
    · next same => exact iff_of_true rfl (.inl same.symm)
    · next differs => rw [or_iff_right (Ne.symm differs)]
  unfold noteSegment
  split <;> exact inserted _

theorem find?_noteRow (beginning : String) (segments : Table String Instant) (e : String × Row)
    (segment : String) :
    ((noteRow beginning segments e).find? segment).isSome ↔
      segmentAfter? beginning e.1 = some segment ∨ (segments.find? segment).isSome := by
  unfold noteRow
  split
  · next noted known => rw [find?_noteSegment, known, Option.some_inj]
  · next none => simp [none]

/-- The noted segments are those of the rows, and those that were noted before. -/
theorem find?_noteRows (beginning : String) (rows : List (String × Row))
    (segments : Table String Instant) (segment : String) :
    ((rows.foldl (noteRow beginning) segments).find? segment).isSome ↔
      (∃ e, e ∈ rows ∧ segmentAfter? beginning e.1 = some segment) ∨
        (segments.find? segment).isSome := by
  -- The rows before have filled the table, so the induction is for every table.
  induction rows generalizing segments with
  | nil => simp
  | cons first rest ih =>
      rw [List.foldl_cons, ih, find?_noteRow, ← or_assoc]
      refine or_congr_left ?_
      simp only [List.mem_cons, or_and_right, exists_or, exists_eq_left]
      exact or_comm

theorem mem_segmentsOf_iff {rows : List (String × Row)} {beginning segment : String} :
    segment ∈ (segmentsOf rows beginning).keys ↔
      ∃ e, e ∈ rows ∧ segmentAfter? beginning e.1 = some segment := by
  rw [Table.mem_keys_iff, segmentsOf_eq, find?_noteRows, Table.find?_empty]
  simp

/-! ## The segment of an identifier -/

/-- A segment ends where the first slash after the beginning stands. -/
theorem segmentAfter?_eq_some_iff {beginning rest segment : String}
    (clean : '\x00' ∉ rest.toList) (filled : segment ≠ "") (slashless : '/' ∉ segment.toList) :
    segmentAfter? beginning (beginning ++ rest) = some segment ↔
      ∃ key, rest = segment ++ "/" ++ key := by
  -- Rows are cut as texts that end at a NUL, and here there is none.
  have after : ((beginning ++ rest).toList.drop beginning.length).takeWhile (· != '\x00') =
      rest.toList := by
    rw [String.toList_append, ← String.length_toList, List.drop_left, List.takeWhile_eq_self_iff]
    intro c member
    have differs : c ≠ '\x00' := fun same => clean (same ▸ member)
    simpa using differs
  unfold segmentAfter?
  dsimp only
  rw [after]
  constructor
  · intro found
    split at found
    · next first last cut =>
        obtain ⟨slash, same, whole⟩ := append_of_cutWhere cut
        split at found
        · cases found
        · cases found
          refine ⟨String.ofList last, String.toList_inj.mp ?_⟩
          rw [whole, eq_of_beq same]
          simp
    · cases found
  · rintro ⟨key, rfl⟩
    have whole : (segment ++ "/" ++ key).toList = segment.toList ++ '/' :: key.toList := by simp
    have first : segment.toList.isEmpty = false := by simpa using filled
    rw [whole, cutAt_append slashless]
    dsimp only
    rw [first, String.ofList_toList]
    rfl

/-! ## Buckets -/

namespace Sound

variable {s : Store} (sound : s.Sound) {owner bucket : String}

include sound

/-- **A probe finds a bucket that has a key.** -/
theorem rowsUnder_ne_nil_iff :
    s.rowsUnder (Name.bucketScope owner bucket) ≠ [] ↔
      ∃ key, (s.objects.find? (Name.identifier owner bucket key)).isSome := by
  constructor
  · intro some
    obtain ⟨⟨_, row⟩, listed⟩ := List.exists_mem_of_ne_nil _ some
    obtain ⟨key, rfl, found⟩ := sound.listable.mem_rowsUnder_iff.mp listed
    exact ⟨key, Option.isSome_of_eq_some found⟩
  · rintro ⟨key, held⟩
    obtain ⟨row, found⟩ := Option.isSome_iff_exists.mp held
    exact List.ne_nil_of_mem (sound.listable.mem_rowsUnder_iff.mpr ⟨key, rfl, found⟩)

theorem noNul_after {beginning rest : String} {row : Row}
    (found : s.objects.find? (beginning ++ rest) = some row) : '\x00' ∉ rest.toList := by
  have clean := Name.noNul_of_valid (sound.rows _ _ found).1
  rw [String.toList_append] at clean
  exact fun inside => clean (List.mem_append_right _ inside)

/-- **A bucket that has a key is a segment of its owner.** -/
theorem mem_segments_iff (filled : bucket ≠ "") (slashless : '/' ∉ bucket.toList) :
    bucket ∈
        (segmentsOf (s.rowsUnder (Name.ownerScope owner)) (Name.ownerScope owner)).keys ↔
      ∃ key, (s.objects.find? (Name.identifier owner bucket key)).isSome := by
  simp only [mem_segmentsOf_iff, Name.identifier_eq_append]
  constructor
  · rintro ⟨⟨_, row⟩, listed, cut⟩
    obtain ⟨rest, rfl, found⟩ := sound.listable.mem_rowsUnder_iff.mp listed
    obtain ⟨key, rfl⟩ :=
      (segmentAfter?_eq_some_iff (sound.noNul_after found) filled slashless).mp cut
    exact ⟨key, Option.isSome_of_eq_some found⟩
  · rintro ⟨key, held⟩
    obtain ⟨row, found⟩ := Option.isSome_iff_exists.mp held
    have listed := sound.listable.mem_rowsUnder_iff.mpr ⟨_, rfl, found⟩
    exact ⟨_, listed,
      (segmentAfter?_eq_some_iff (sound.noNul_after found) filled slashless).mpr ⟨key, rfl⟩⟩

end Sound

end Store

end Depot

import Depot.Store.Table
import Depot.Time.Instant

/-!
# Parts of uploads

The rows of parts stand in one table, in ascending order of their uploads and
then of their numbers, so that the parts of one upload are a table by
themselves (`Part.ofUpload`).
-/

namespace Depot

set_option autoImplicit false

open Depot.Time

/-- One part of an upload. -/
structure Part where
  blob : Nat
  size : Nat
  etag : String
  stored : Instant

/-! ## Keys of parts -/

/-- A part is known by the name of its upload and its number there. -/
structure PartKey where
  upload : String
  number : Nat
  deriving DecidableEq

namespace PartKey

instance : LT PartKey where
  lt a b := a.upload < b.upload ∨ a.upload = b.upload ∧ a.number < b.number

instance : LE PartKey := LE.ofLT PartKey

instance : DecidableLT PartKey := fun a b =>
  inferInstanceAs (Decidable (a.upload < b.upload ∨ a.upload = b.upload ∧ a.number < b.number))

theorem lt_iff {a b : PartKey} :
    a < b ↔ a.upload < b.upload ∨ a.upload = b.upload ∧ a.number < b.number := Iff.rfl

theorem lt_trans {a b c : PartKey} (ab : a < b) (bc : b < c) : a < c := by
  rcases ab with ab | ⟨ab, ab'⟩ <;> rcases bc with bc | ⟨bc, bc'⟩
  · exact .inl (Std.lt_trans ab bc)
  · exact .inl (bc ▸ ab)
  · exact .inl (ab ▸ bc)
  · exact .inr ⟨ab.trans bc, Nat.lt_trans ab' bc'⟩

theorem lt_asymm {a b : PartKey} (ab : a < b) : ¬ b < a := by
  intro ba
  have same : a < a := lt_trans ab ba
  simp [lt_iff] at same

theorem lt_trichotomy (a b : PartKey) : a < b ∨ a = b ∨ b < a := by
  obtain ⟨upload, number⟩ := a
  obtain ⟨upload', number'⟩ := b
  rcases Std.lt_trichotomy upload upload' with below | rfl | above
  · exact .inl (.inl below)
  · simpa [lt_iff, Std.lt_irrefl] using Nat.lt_trichotomy number number'
  · exact .inr (.inr (.inl above))

theorem not_lt_trans {a b c : PartKey} (ab : ¬ a < b) (bc : ¬ b < c) : ¬ a < c := by
  intro ac
  rcases lt_trichotomy a b with below | rfl | above
  · exact ab below
  · exact bc ac
  · exact bc (lt_trans above ac)

instance : Std.Asymm fun a b : PartKey => a < b := ⟨fun _ _ => lt_asymm⟩

instance : Std.IsLinearOrder PartKey :=
  .of_lt inferInstance ⟨fun ab bc => not_lt_trans ab bc⟩
    ⟨fun a b ab ba => ((lt_trichotomy a b).resolve_left ab).resolve_right ba⟩

instance : Std.LawfulOrderLT PartKey := .of_lt

end PartKey

/-! ## The parts of one upload -/

namespace Part

/-- What the row of a part is to the parts of an upload. -/
def inUpload? (name : String) (row : PartKey × Part) : Option (Nat × Part) :=
  if row.1.upload = name then some (row.1.number, row.2) else none

/-- The parts of one upload by their numbers. -/
def ofUpload (rows : Table PartKey Part) (name : String) : Table Nat Part where
  entries := rows.entries.filterMap (inUpload? name)
  sorted := by
    refine List.Pairwise.filterMap _ ?_ rows.sorted
    intro a b below e inA e' inB
    unfold inUpload? at inA inB
    split at inA <;> split at inB <;> cases inA <;> cases inB
    next first second =>
      rcases below with below | ⟨-, below⟩
      · exact absurd (first ▸ second ▸ below) Std.lt_irrefl
      · exact below

/-- A part of an upload is found under its number just when its row is found under its key. -/
@[simp] theorem find?_ofUpload (rows : Table PartKey Part) (name : String) (number : Nat) :
    (ofUpload rows name).find? number = rows.find? ⟨name, number⟩ := by
  show (rows.entries.filterMap (inUpload? name)).lookup number = rows.entries.lookup ⟨name, number⟩
  induction rows.entries with
  | nil => rfl
  | cons row rest ih =>
      obtain ⟨⟨upload, number'⟩, part⟩ := row
      by_cases same : upload = name
      · subst same
        by_cases here : number = number'
        · simp [inUpload?, here]
        · have differs : (number == number') = false := by simpa using here
          have differs' : (PartKey.mk upload number == ⟨upload, number'⟩) = false := by
            simpa using here
          rw [List.lookup_cons, differs', ← ih]
          simp [inUpload?, List.lookup_cons, differs]
      · have differs : (PartKey.mk name number == ⟨upload, number'⟩) = false := by
          simpa using fun here _ => same here.symm
        rw [List.lookup_cons, differs, ← ih, List.filterMap_cons]
        simp [inUpload?, same]

end Part

end Depot

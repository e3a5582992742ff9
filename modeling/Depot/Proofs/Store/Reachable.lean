import Depot.Proofs.Store.Sessions

/-!
# Reachable stores

Every call keeps a store sound, whether it succeeds or fails, and the empty
store is sound.  So every store that a run of calls leaves is sound
(`afterAll_sound`), and in it the content of every object can be read and is the
one that was recorded.
-/

namespace Depot.Store

set_option autoImplicit false

/-- Every call keeps a store sound. -/
theorem Sound.after {s : Store} (sound : s.Sound) (call : Call) : (call.after s).Sound := by
  cases call with
  | object call =>
      rw [Call.after, Call.perform, outcome_map]
      exact (call.follows sound).sound
  | upload call =>
      rw [Call.after, Call.perform, outcome_map]
      exact (call.follows sound).sound
  | survey look =>
      rw [Call.after, Call.perform, outcome_map]
      exact (look.after_eq s).symm ▸ sound

/-- Every run from the empty store leaves a sound store. -/
theorem afterAll_sound (calls : List Call) : (afterAll calls Store.empty).Sound :=
  afterAll_induction (P := Sound) (fun call _ sound => sound.after call) calls sound_empty

/-- An object that is there can be read, with the bytes of its blob. -/
theorem Sound.read_ok {s : Store} (sound : s.Sound) {identifier : String} {row : Row}
    (found : s.objects.find? identifier = some row) :
    outcome (read identifier) s =
      (.ok ⟨objectAt identifier row, s.bytesOf row.blob⟩, s) := by
  rw [sound.read_eq_peek, outcome_peek, (sound.rows identifier row found).1]
  dsimp only
  rw [sound.peeked, found]
  rfl

/-- **Whatever calls are made on an empty store, successful or failing, the store that they leave
is consistent.**  It is sound: rows and blobs fit each other one to one, with the recorded sizes and
digests.  Every part belongs to an open upload, with a number in range, and no identifier and no
number of a part of an upload occurs twice.  Every object has a valid identifier and can be read:
reading never finds it missing or altered. -/
theorem afterAll_consistent (calls : List Call) :
    let s := afterAll calls Store.empty
    s.Sound ∧
      s.objects.keys.Nodup ∧
      s.partRows.keys.Nodup ∧
      (∀ key part, s.partRows.find? key = some part →
        (∃ row, s.uploadRows.find? key.upload = some row ∧ Name.Storable row.identifier) ∧
          1 ≤ key.number ∧ key.number ≤ 10000) ∧
      ∀ identifier row, s.objects.find? identifier = some row →
        Name.Storable identifier ∧
          outcome (read identifier) s =
            (.ok ⟨objectAt identifier row, s.bytesOf row.blob⟩, s) := by
  intro s
  have sound : s.Sound := afterAll_sound calls
  refine ⟨sound, Table.keys_nodup _, Table.keys_nodup _, ?_, ?_⟩
  · intro key part found
    obtain ⟨there, range⟩ := sound.parts key part found
    obtain ⟨row, known⟩ := Option.isSome_iff_exists.mp there
    have upload : s.uploads.find? key.upload = some (s.uploadOf key.upload row) := by
      rw [find?_uploads, known, Option.map_some]
    have target := (sound.uploads _ _ upload).target
    exact ⟨⟨row, known, Name.checkIdentifier_eq_ok_iff.mp target⟩, range⟩
  · intro identifier row found
    have valid := (sound.rows identifier row found).1
    exact ⟨Name.checkIdentifier_eq_ok_iff.mp valid, sound.read_ok found⟩

end Depot.Store

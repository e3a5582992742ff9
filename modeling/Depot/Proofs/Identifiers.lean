import Depot.Proofs.BucketNames
import Depot.Proofs.Store.Owners

/-!
# Identifiers of objects

The identifier of an object is made of an owner, a bucket and a key, and its parts
do not run together: the first mark ends the owner, which has none, and the first
slash after it ends the bucket, which has none, whatever stands in the key.

So an identifier tells its parts (`identifier_eq_iff`), and begins as those of its
own bucket and owner do and as no others.  Whether it can be stored depends on the
bucket and the key alone (`checkIdentifier_identifier_eq_ok_iff`).
-/

namespace Depot.Name

set_option autoImplicit false

open Depot.Text

variable {owner owner' bucket bucket' : String}

theorem cutString_path (named : checkBucket bucket = .ok ()) (key : String) :
    cutString '/' (bucket ++ "/" ++ key) = some (bucket, key) := by
  have whole : (bucket ++ "/" ++ key).toList = bucket.toList ++ '/' :: key.toList := by simp
  rw [cutString, whole, cutAt_append (slashless_bucket named)]
  simp

/-- **An identifier tells its parts.** -/
theorem identifier_eq_iff (isOwner : IsOwner owner) (isOwner' : IsOwner owner')
    (named : checkBucket bucket = .ok ()) (named' : checkBucket bucket' = .ok ())
    {key key' : String} : identifier owner bucket key = identifier owner' bucket' key' ↔
      owner = owner' ∧ bucket = bucket' ∧ key = key' := by
  constructor
  · intro same
    rw [identifier_eq_within, identifier_eq_within] at same
    -- Both are cut at their first mark, and then the paths at their first slash.
    have split := congrArg splitOwner same
    rw [isOwner.splitOwner_within, isOwner'.splitOwner_within] at split
    obtain ⟨⟨⟩, path⟩ := Prod.mk.inj split
    have cut := congrArg (cutString '/') path
    rw [cutString_path named, cutString_path named'] at cut
    cases cut
    exact ⟨rfl, rfl, rfl⟩
  · rintro ⟨rfl, rfl, rfl⟩
    rfl

/-- The key of an identifier is the one from which it was made. -/
theorem keyOf_identifier (isOwner : IsOwner owner) (named : checkBucket bucket = .ok ())
    (key : String) : keyOf (identifier owner bucket key) = key := by
  rw [identifier_eq_within, isOwner.keyOf_within, keyOfPath, cutString_path named]

/-- An identifier begins as those of its own bucket, and of no other. -/
theorem bucketScope_beginsWith_identifier_iff (isOwner : IsOwner owner) (isOwner' : IsOwner owner')
    (named : checkBucket bucket = .ok ()) (named' : checkBucket bucket' = .ok ()) (key : String) :
    beginsWith (bucketScope owner' bucket') (identifier owner bucket key) ↔
      owner = owner' ∧ bucket = bucket' := by
  constructor
  · intro begins
    obtain ⟨rest, same⟩ := beginsWith_iff_exists_append.mp begins
    obtain ⟨owners, buckets, -⟩ := (identifier_eq_iff isOwner isOwner' named named').mp same
    exact ⟨owners, buckets⟩
  · rintro ⟨rfl, rfl⟩
    exact beginsWith_append _ _

/-- An identifier is in the scope of its own owner, and of no other. -/
theorem inScope_identifier_iff (isOwner : IsOwner owner) (isOwner' : IsOwner owner')
    (key : String) : inScope owner' (identifier owner bucket key) ↔ owner = owner' := by
  have clean {name : String} (isOwner : IsOwner name) : ownerMark ∉ name.toList :=
    isOwner.free_of (by decide)
  constructor
  · exact owner_unique (clean isOwner) (clean isOwner') (inScope_identifier owner bucket key)
  · rintro rfl
    exact inScope_identifier owner bucket key

theorem checkPath_eq_ok_iff {path : String} : checkPath path = .ok () ↔
    path ≠ "" ∧ path.utf8ByteSize ≤ 1024 ∧ path.toList.any isControl = false := by
  simp [checkPath, Results.guard_eq_ok_iff, maxIdentifierLength]

/-- An identifier can be stored when its key is clean and it is not too long.  The owner does not
count. -/
theorem checkIdentifier_identifier_eq_ok_iff (isOwner : IsOwner owner)
    (named : checkBucket bucket = .ok ()) (key : String) :
    checkIdentifier (identifier owner bucket key) = .ok () ↔
      key.toList.any isControl = false ∧ bucket.utf8ByteSize + key.utf8ByteSize + 1 ≤ 1024 := by
  have filled : bucket ++ "/" ++ key ≠ "" := by simp
  have size : (bucket ++ "/" ++ key).utf8ByteSize =
      bucket.utf8ByteSize + key.utf8ByteSize + 1 := by
    have slash : "/".utf8ByteSize = 1 := rfl
    rw [String.utf8ByteSize_append, String.utf8ByteSize_append, slash]
    omega
  have clean : (bucket ++ "/" ++ key).toList.any isControl = key.toList.any isControl := by
    have slash : "/".toList.any isControl = false := by decide
    rw [String.toList_append, String.toList_append, List.any_append, List.any_append,
      clean_bucket named, slash, Bool.or_self, Bool.false_or]
  rw [identifier_eq_within, isOwner.checkIdentifier_within, checkPath_eq_ok_iff, size, clean,
    and_iff_right filled]
  exact and_comm

/-- **An identifier determines its parts.**  Let the owners be texts without control characters, not
empty, and the buckets have names that pass; the keys may be any texts.  An identifier shows its
key, and two identifiers are the same only when their owners, buckets and keys are.  It begins like
those of a bucket just when it is of that bucket and its owner, and like those of an owner just when
it is that owner's.  It can be stored just when its key has no control character and the bucket, a
slash and the key have no more than 1024 bytes. -/
theorem identifier_determines_parts (isOwner : IsOwner owner) (isOwner' : IsOwner owner')
    (named : checkBucket bucket = .ok ()) (named' : checkBucket bucket' = .ok ())
    (key key' : String) :
    keyOf (identifier owner bucket key) = key ∧
    (identifier owner bucket key = identifier owner' bucket' key' →
      owner = owner' ∧ bucket = bucket' ∧ key = key') ∧
    (beginsWith (bucketScope owner' bucket') (identifier owner bucket key) ↔
      owner = owner' ∧ bucket = bucket') ∧
    (beginsWith (ownerScope owner') (identifier owner bucket key) ↔ owner = owner') ∧
    (checkIdentifier (identifier owner bucket key) = .ok () ↔
      (∀ c, c ∈ key.toList → isControl c = false) ∧
        bucket.utf8ByteSize + key.utf8ByteSize + 1 ≤ 1024) := by
  refine ⟨keyOf_identifier isOwner named key,
    (identifier_eq_iff isOwner isOwner' named named').mp,
    bucketScope_beginsWith_identifier_iff isOwner isOwner' named named' key,
    inScope_identifier_iff isOwner isOwner' key, ?_⟩
  rw [checkIdentifier_identifier_eq_ok_iff isOwner named, List.any_eq_false]
  simp only [Bool.not_eq_true]

/-- An owner and a bucket whose names begin others, and a key with a slash and the mark of
owners. -/
theorem parts_of_nested_names :
    let old := identifier "ann" "box.old" "k"
    let marked := identifier "ann" "box" "old/\x1fk"
    (IsOwner "ann" ∧ IsOwner "an" ∧ checkBucket "box" = .ok () ∧ checkBucket "box.old" = .ok ()) ∧
      keyOf marked = "old/\x1fk" ∧ old ≠ marked ∧ ¬ beginsWith (bucketScope "ann" "box") old ∧
      ¬ beginsWith (ownerScope "an") marked ∧ checkIdentifier marked ≠ .ok () := by
  intro old marked
  have ann : IsOwner "ann" := ⟨rfl, rfl⟩
  have an : IsOwner "an" := ⟨rfl, rfl⟩
  have box : checkBucket "box" = .ok () := by rfl
  have boxOld : checkBucket "box.old" = .ok () := by rfl
  obtain ⟨key, -, -, owned, stored⟩ :=
    identifier_determines_parts ann an box box "old/\x1fk" "k"
  obtain ⟨-, same, held, -, -⟩ :=
    identifier_determines_parts ann ann boxOld box "k" "old/\x1fk"
  refine ⟨⟨ann, an, box, boxOld⟩, key, fun equal => ?_, fun begins => ?_, fun begins => ?_,
    fun valid => ?_⟩
  · exact absurd (same equal).2.1 (by decide)
  · exact absurd (held.mp begins).2 (by decide)
  · exact absurd (owned.mp begins) (by decide)
  · exact absurd ((stored.mp valid).1 '\x1f' (by decide)) (by decide)

end Depot.Name

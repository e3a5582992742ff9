import Depot.Http.Body

/-!
# Bodies to their end

A body that is checked against a digest can be read to its end just when it has
that digest.  Reading no more than a limit reads the whole body or fails.
-/

namespace Depot.Http.Body

set_option autoImplicit false

theorem readOnto_append (read : ByteArray) (body more : Body) :
    readOnto read (body ++ more) =
      match readOnto read body with
      | .ok bytes => readOnto bytes more
      | .error fault => .error fault := by
  induction body generalizing read with
  | nil => rfl
  | cons chunk rest ih =>
      cases chunk with
      | data bytes => exact ih (read ++ bytes)
      | failure fault => rfl

/-- After the end of a body of another digest stands the failure that says so. -/
theorem verified_of_ne {declared : String} {body : Body} {bytes : ByteArray}
    (whole : body.contents = .ok bytes)
    (other : Hex.encode (Digest.Sha256.digest bytes) ≠ Text.lower declared) :
    body.verified declared = body ++ [.failure .digestMismatch] := by
  unfold verified
  rw [whole]
  exact if_neg other

theorem contents_verified_of_ne {declared : String} {body : Body} {bytes : ByteArray}
    (whole : body.contents = .ok bytes)
    (other : Hex.encode (Digest.Sha256.digest bytes) ≠ Text.lower declared) :
    (body.verified declared).contents = .error .digestMismatch := by
  have read : readOnto ByteArray.empty body = .ok bytes := whole
  rw [verified_of_ne whole other, contents, readOnto_append, read]
  rfl

/-- A body comes to its end and consists of some bytes with the digest that was declared. -/
def Proves (body : Body) (declared : String) (bytes : ByteArray) : Prop :=
  body.contents = .ok bytes ∧ Hex.encode (Digest.Sha256.digest bytes) = Text.lower declared

/-- **A checked body can be read just when it has the digest.** -/
theorem contents_verified_eq_ok_iff {declared : String} {body : Body} {bytes : ByteArray} :
    (body.verified declared).contents = .ok bytes ↔ body.Proves declared bytes := by
  unfold Proves
  cases whole : body.contents with
  | error fault =>
      have same : body.verified declared = body := by rw [verified, whole]
      simp [same, whole]
  | ok read =>
      by_cases right : Hex.encode (Digest.Sha256.digest read) = Text.lower declared
      · have same : body.verified declared = body := by
          rw [verified, whole]
          exact if_pos right
        rw [same, whole]
        constructor
        · intro here
          cases here
          exact ⟨rfl, right⟩
        · exact And.left
      · rw [contents_verified_of_ne whole right]
        refine iff_of_false (by simp) ?_
        rintro ⟨here, right'⟩
        cases here
        exact right right'

/-- What is read within a limit is all that there is to read. -/
theorem readOnto_of_readWithin {limit : Nat} {read bytes : ByteArray} {body : Body}
    (within : readWithin limit read body = .within bytes) : readOnto read body = .ok bytes := by
  induction body generalizing read with
  | nil =>
      cases within
      rfl
  | cons chunk rest ih =>
      cases chunk with
      | data piece =>
          unfold readWithin at within
          split at within
          · exact ih within
          · cases within
      | failure fault => cases within

/-- A body that is found to be within a limit is read as a whole. -/
theorem contents_of_within {limit : Nat} {body : Body} {bytes : ByteArray}
    (within : body.contentsWithin limit = .within bytes) : body.contents = .ok bytes :=
  readOnto_of_readWithin within

theorem size_le_of_readOnto {read bytes : ByteArray} {body : Body}
    (whole : readOnto read body = .ok bytes) : read.size ≤ bytes.size := by
  induction body generalizing read with
  | nil =>
      cases whole
      exact Nat.le_refl _
  | cons chunk rest ih =>
      cases chunk with
      | data more =>
          have within := ih whole
          rw [ByteArray.size_append] at within
          omega
      | failure fault => cases whole

theorem readWithin_of_readOnto {limit : Nat} {read bytes : ByteArray} {body : Body}
    (whole : readOnto read body = .ok bytes) (small : bytes.size ≤ limit) :
    readWithin limit read body = .within bytes := by
  induction body generalizing read with
  | nil =>
      cases whole
      rfl
  | cons chunk rest ih =>
      cases chunk with
      | data more =>
          have within := @size_le_of_readOnto (read ++ more) _ _ whole
          rw [ByteArray.size_append] at within
          rw [readWithin, if_pos (Nat.le_trans within small)]
          exact ih whole
      | failure fault => cases whole

/-- A body that is not too large is read as a whole. -/
theorem contentsWithin_of_contents {limit : Nat} {body : Body} {bytes : ByteArray}
    (whole : body.contents = .ok bytes) (small : bytes.size ≤ limit) :
    body.contentsWithin limit = .within bytes :=
  readWithin_of_readOnto whole small

end Depot.Http.Body

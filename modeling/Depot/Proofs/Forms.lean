import Depot.Http.Form
import Depot.Proofs.Bodies

/-!
# Forms are read no further than they go

A reader that looks at what has come before it awaits more does not see what comes
after the form is closed: any such bursts may follow, a failing one too
(`readBursts_append`).  A body that has come as a whole is seen to its end
(`readsToEnd_ofBody`).
-/

namespace Depot.Http.Form

set_option autoImplicit false

/-- A form in the body is found only if the whole body comes. -/
def Reader.ReadsToEnd (reader : Reader) (body : Body) : Prop :=
  ∀ boundary limit fields, reader boundary limit body = .ok fields →
    ∃ bytes, body.contents = .ok bytes

theorem readsToEnd_ofBody (body : Body) : ofBody.ReadsToEnd body := by
  intro boundary limit fields found
  unfold ofBody ofBursts readBursts at found
  cases read : body.readWithin limit ByteArray.empty with
  | within bytes => exact ⟨bytes, Body.contents_of_within read⟩
  | tooLarge => simp [read] at found
  | failed fault => simp [read] at found

/-- **What comes after the form is closed is not looked at.** -/
theorem readBursts_append {boundary : String} {limit : Nat} {seen : ByteArray}
    {bursts : List Body} {fields : List FormField} (some : bursts ≠ [])
    (closed : readBursts boundary limit seen bursts = .ok fields) (later : List Body) :
    readBursts boundary limit seen (bursts ++ later) = .ok fields := by
  induction bursts generalizing seen with
  | nil => exact absurd rfl some
  | cons burst rest ih =>
      rw [List.cons_append]
      unfold readBursts at closed ⊢
      cases came : burst.readWithin limit seen with
      | tooLarge => simp [came] at closed
      | failed fault => simp [came] at closed
      | within seen' =>
          simp only [came] at closed ⊢
          cases here : read boundary seen' with
          | ok fields' => simpa [here] using closed
          | error fault =>
              simp only [here] at closed ⊢
              by_cases goesOn : fault.isOpen
              · rw [if_pos goesOn] at closed ⊢
                -- The last burst leaves the form open, so there is one after this.
                cases rest with
                | nil => cases here.symm.trans closed
                | cons next rest => exact ih (List.cons_ne_nil _ _) closed
              · simp [goesOn] at closed

end Depot.Http.Form

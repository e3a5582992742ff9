import Depot.Store.State

/-!
# Outcomes

An operation of the store, or of a protocol over it, answers with a value or a
fault and leaves a store behind.  `outcome` is that pair.  The lemmas give it
for each way in which operations are put together, and then for the small steps
of the store: a step is described by the store it is taken in, never by its
program text.
-/

namespace Depot

set_option autoImplicit false

variable {ε ε' α β : Type}

/-- What an operation answers in a store, and the store it leaves. -/
def outcome (action : ExceptT ε (StateM Store) α) (s : Store) : Except ε α × Store :=
  StateT.run (ExceptT.run action) s

/-! ## Operations put together -/

@[simp] theorem outcome_pure (a : α) (s : Store) :
    outcome (pure a : ExceptT ε (StateM Store) α) s = (.ok a, s) := rfl

@[simp] theorem outcome_throw (fault : ε) (s : Store) :
    outcome (throw fault : ExceptT ε (StateM Store) α) s = (.error fault, s) := rfl

@[simp] theorem outcome_modify (change : Store → Store) (s : Store) :
    outcome (modify change : ExceptT ε (StateM Store) PUnit) s = (.ok ⟨⟩, change s) := rfl

@[simp] theorem outcome_liftExcept (result : Except ε α) (s : Store) :
    outcome (liftM result : ExceptT ε (StateM Store) α) s = (result, s) := rfl

@[simp] theorem outcome_adapt (render : ε → ε') (action : ExceptT ε (StateM Store) α)
    (s : Store) :
    outcome (ExceptT.adapt render action) s =
      ((outcome action s).1.mapError render, (outcome action s).2) := rfl

theorem outcome_bind (action : ExceptT ε (StateM Store) α)
    (next : α → ExceptT ε (StateM Store) β) (s : Store) :
    outcome (action >>= next) s =
      match outcome action s with
      | (.ok a, t) => outcome (next a) t
      | (.error fault, t) => (.error fault, t) := by
  unfold outcome
  rw [ExceptT.run_bind, StateT.run_bind]
  obtain ⟨result, t⟩ := StateT.run (ExceptT.run action) s
  cases result <;> rfl

theorem outcome_get_bind (next : Store → ExceptT ε (StateM Store) β) (s : Store) :
    outcome (get >>= next) s = outcome (next s) s := rfl

theorem outcome_map (f : α → β) (action : ExceptT ε (StateM Store) α) (s : Store) :
    outcome (f <$> action) s = ((outcome action s).1.map f, (outcome action s).2) := by
  rw [← bind_pure_comp, outcome_bind]
  obtain ⟨result, t⟩ := outcome action s
  cases result <;> rfl

/-- An operation whose value is only rendered fails when the operation does. -/
theorem outcome_map_eq_error_iff {f : α → β} {action : ExceptT ε (StateM Store) α}
    {s t : Store} {fault : ε} :
    outcome (f <$> action) s = (.error fault, t) ↔ outcome action s = (.error fault, t) := by
  rw [outcome_map]
  obtain ⟨_ | _, u⟩ := outcome action s <;> simp [Except.map]

theorem outcome_tryCatch (action : ExceptT ε (StateM Store) α)
    (handler : ε → ExceptT ε (StateM Store) α) (s : Store) :
    outcome (tryCatch action handler) s =
      match outcome action s with
      | (.ok a, t) => (.ok a, t)
      | (.error fault, t) => outcome (handler fault) t := by
  unfold outcome
  rw [ExceptT.run_tryCatch, StateT.run_bind]
  obtain ⟨result, t⟩ := StateT.run (ExceptT.run action) s
  cases result <;> rfl

/-- Reading one thing after another in a store that none of the reads changes. -/
theorem outcome_mapM_of_reads {f : α → ExceptT ε (StateM Store) β} {g : α → Except ε β}
    {s : Store} (reads : ∀ a, outcome (f a) s = (g a, s)) (list : List α) :
    outcome (list.mapM f) s = (list.mapM g, s) := by
  induction list with
  | nil => rfl
  | cons a rest ih =>
      rw [List.mapM_cons, List.mapM_cons, outcome_bind, reads]
      cases g a with
      | error fault => rfl
      | ok b =>
          show outcome (rest.mapM f >>= _) s = _
          rw [outcome_bind, ih]
          cases rest.mapM g <;> rfl

/-- One change of the store after another, none of which fails. -/
theorem outcome_forM_of_changes {f : α → ExceptT ε (StateM Store) PUnit}
    {change : Store → α → Store} (changes : ∀ a s, outcome (f a) s = (.ok ⟨⟩, change s a))
    (list : List α) (s : Store) : outcome (list.forM f) s = (.ok ⟨⟩, list.foldl change s) := by
  induction list generalizing s with
  | nil => rfl
  | cons a rest ih =>
      show outcome (f a >>= fun _ => rest.forM f) s = _
      rw [outcome_bind, changes]
      exact ih (change s a)

end Depot

import Depot.Proofs.Store.Tenancy

/-!
# Private operations

An operation is private to an owner when it spares everything that is not the
owner's, and answers alike in any two sound stores whose shelves agree for the
owner.  Operations that are put together from private ones are private, so that
the endpoints of a protocol need only be taken apart.

What is compared of an answer is what is seen of it: the number of a blob may
differ from store to store as long as nothing that follows depends on it.
-/

namespace Depot

set_option autoImplicit false

open Depot.Http
open Depot.Name
open Depot.Text
open Depot.Time

/-! ## Privacy -/

/-- In sound stores, an operation leaves a sound store, spares what is not the owner's, and does the
same in two stores that agree for the owner. -/
structure Private {ε α : Type} (owner : String) (see : α → α)
    (action : ExceptT ε (StateM Store) α) : Prop where
  sound : ∀ {s}, s.Sound → (outcome action s).2.Sound
  spares : ∀ {s}, s.Sound →
    Store.Spares (fun identifier => ¬ inScope owner identifier) s (outcome action s).2
  alike : ∀ {s s'}, s.Sound → s'.Sound → Shelf.Agree owner s.shelf s'.shelf →
    (outcome action s).1.map see = (outcome action s').1.map see ∧
      Shelf.Agree owner (outcome action s).2.shelf (outcome action s').2.shelf

namespace Private

variable {ε ε' α β : Type} {owner : String} {see : α → α}

/-- An operation that follows what is specified, where that is answered alike, is private. -/
theorem of_follows {action : Store.Action α}
    {specified : Shelf → Except StoreFault (α × Shelf)}
    (follows : ∀ {s}, s.Sound → Store.Follows (fun identifier => ¬ inScope owner identifier) see s
      (outcome action s) (specified s.shelf))
    (alike : ∀ {a b}, Shelf.Agree owner a b → Shelf.Alike owner (specified a) (specified b)) :
    Private owner see action where
  sound sound := (follows sound).sound
  spares sound := (follows sound).spares
  alike {s s'} sound sound' agree := by
    have first := follows sound
    have second := follows sound'
    have both := alike agree
    generalize outcome action s = done at first
    generalize outcome action s' = done' at second
    generalize specified s.shelf = expected at first both
    generalize specified s'.shelf = expected' at second both
    cases both with
    | answered after =>
        cases first with
        | answered seen becomes =>
            cases second with
            | answered seen' becomes' =>
                refine ⟨congrArg Except.ok (seen.trans seen'.symm), ?_⟩
                rw [becomes.shelf, becomes'.shelf]
                exact after
    | failed =>
        cases first with
        | failed becomes =>
            cases second with
            | failed becomes' =>
                refine ⟨rfl, ?_⟩
                rw [becomes.shelf, becomes'.shelf]
                exact agree

/-- In two sound stores that agree for the owner, a private operation fails with the same fault or
answers with what is seen alike, and the stores that it leaves agree again. -/
theorem both {action : ExceptT ε (StateM Store) α} (isPrivate : Private owner see action)
    {s s' : Store} (sound : s.Sound) (sound' : s'.Sound)
    (agree : Shelf.Agree owner s.shelf s'.shelf) :
    ∃ t t', t.Sound ∧ t'.Sound ∧ Shelf.Agree owner t.shelf t'.shelf ∧
      ((∃ fault, outcome action s = (.error fault, t) ∧ outcome action s' = (.error fault, t')) ∨
        ∃ a a', see a = see a' ∧ outcome action s = (.ok a, t) ∧
          outcome action s' = (.ok a', t')) := by
  have after := isPrivate.sound sound
  have after' := isPrivate.sound sound'
  obtain ⟨same, agrees⟩ := isPrivate.alike sound sound' agree
  generalize outcome action s = done at after same agrees ⊢
  generalize outcome action s' = done' at after' same agrees ⊢
  refine ⟨done.2, done'.2, after, after', agrees, ?_⟩
  obtain ⟨fault | a, t⟩ := done <;> obtain ⟨fault' | a', t'⟩ := done'
  · cases same
    exact .inl ⟨fault, rfl, rfl⟩
  · cases same
  · cases same
  · exact .inr ⟨a, a', Except.ok.inj same, rfl, rfl⟩

/-! ## Operations put together -/

theorem pure (a : α) : Private owner see (pure a : ExceptT ε (StateM Store) α) where
  sound sound := sound
  spares _ := .refl _
  alike _ _ agree := ⟨rfl, agree⟩

theorem throw (fault : ε) : Private owner see (throw fault : ExceptT ε (StateM Store) α) where
  sound sound := sound
  spares _ := .refl _
  alike _ _ agree := ⟨rfl, agree⟩

theorem lift (result : Except ε α) :
    Private owner see (liftM result : ExceptT ε (StateM Store) α) where
  sound sound := sound
  spares _ := .refl _
  alike _ _ agree := ⟨rfl, agree⟩

/-- A private operation may be followed by one that depends on what is seen, and is private. -/
theorem bind {see' : β → β} {action : ExceptT ε (StateM Store) α}
    {next : α → ExceptT ε (StateM Store) β} (first : Private owner see action)
    (sees : ∀ a, next a = next (see a)) (rest : ∀ a, Private owner see' (next a)) :
    Private owner see' (action >>= next) where
  sound {s} sound := by
    have after := first.sound sound
    rw [outcome_bind]
    generalize outcome action s = done at after
    obtain ⟨fault | a, t⟩ := done
    · exact after
    · exact (rest a).sound after
  spares {s} sound := by
    have after := first.sound sound
    have spared := first.spares sound
    rw [outcome_bind]
    generalize outcome action s = done at after spared
    obtain ⟨fault | a, t⟩ := done
    · exact spared
    · exact spared.trans ((rest a).spares after)
  alike sound sound' agree := by
    rw [outcome_bind, outcome_bind]
    obtain ⟨t, t', after, after', agrees, result⟩ := first.both sound sound' agree
    rcases result with ⟨fault, fails, fails'⟩ | ⟨a, a', seen, answers, answers'⟩
    · rw [fails, fails']
      exact ⟨rfl, agrees⟩
    · have follow : next a = next a' := by rw [sees a, seen, ← sees a']
      rw [answers, answers']
      dsimp only
      rw [follow]
      exact (rest a').alike after after' agrees

/-- What follows a check may depend on all that the check found. -/
theorem lift_bind {see' : β → β} {result : Except ε α}
    {next : α → ExceptT ε (StateM Store) β}
    (rest : ∀ a, result = .ok a → Private owner see' (next a)) :
    Private owner see' ((liftM result : ExceptT ε (StateM Store) α) >>= next) := by
  cases result with
  | error fault => exact throw fault
  | ok a => exact rest a rfl

theorem adapt {action : ExceptT ε (StateM Store) α} (render : ε → ε')
    (first : Private owner see action) : Private owner see (ExceptT.adapt render action) where
  sound sound := first.sound sound
  spares sound := first.spares sound
  alike sound sound' agree := by
    rw [outcome_adapt, outcome_adapt]
    obtain ⟨t, t', -, -, agrees, result⟩ := first.both sound sound' agree
    rcases result with ⟨fault, fails, fails'⟩ | ⟨a, a', seen, answers, answers'⟩
    · rw [fails, fails']
      exact ⟨rfl, agrees⟩
    · rw [answers, answers']
      exact ⟨congrArg Except.ok seen, agrees⟩

theorem tryCatch {action : ExceptT ε (StateM Store) α}
    {handler : ε → ExceptT ε (StateM Store) α} (first : Private owner see action)
    (handled : ∀ fault, Private owner see (handler fault)) :
    Private owner see (tryCatch action handler) where
  sound {s} sound := by
    have after := first.sound sound
    rw [outcome_tryCatch]
    generalize outcome action s = done at after
    obtain ⟨fault | a, t⟩ := done
    · exact (handled fault).sound after
    · exact after
  spares {s} sound := by
    have after := first.sound sound
    have spared := first.spares sound
    rw [outcome_tryCatch]
    generalize outcome action s = done at after spared
    obtain ⟨fault | a, t⟩ := done
    · exact spared.trans ((handled fault).spares after)
    · exact spared
  alike sound sound' agree := by
    rw [outcome_tryCatch, outcome_tryCatch]
    obtain ⟨t, t', after, after', agrees, result⟩ := first.both sound sound' agree
    rcases result with ⟨fault, fails, fails'⟩ | ⟨a, a', seen, answers, answers'⟩
    · rw [fails, fails']
      exact (handled fault).alike after after' agrees
    · rw [answers, answers']
      exact ⟨congrArg Except.ok seen, agrees⟩

end Private

/-! ## Operations of the store -/

namespace Store

variable {owner identifier : String}

section

variable (mine : inScope owner identifier)

include mine

theorem put_private (attributes : Attributes) (body : Body) (now : Instant) :
    Private owner Object.unnumbered (put identifier attributes body now) :=
  .of_follows (fun sound => sound.follows_put (not_not_intro mine) attributes body now)
    fun agree => agree.put identifier attributes body now

theorem putPieces_private (attributes : Attributes) (pieces : List ByteArray) (now : Instant) :
    Private owner Object.unnumbered (putPieces identifier attributes pieces now) :=
  .of_follows (fun sound => sound.follows_putPieces (not_not_intro mine) attributes pieces now)
    fun agree => agree.putPieces identifier attributes pieces now

theorem update_private (body : Body) (now : Instant) :
    Private owner Object.unnumbered (update identifier body now) :=
  .of_follows (fun sound => sound.follows_update (not_not_intro mine) body now)
    fun agree => agree.update mine body now

theorem append_private (body : Body) (now : Instant) :
    Private owner Object.unnumbered (append identifier body now) :=
  .of_follows (fun sound => sound.follows_append (not_not_intro mine) body now)
    fun agree => agree.append mine body now

theorem rename_private {new : String} (mineNew : inScope owner new) (now : Instant) :
    Private owner Object.unnumbered (rename identifier new now) :=
  .of_follows
    (fun sound => sound.follows_rename (not_not_intro mine) (not_not_intro mineNew) now)
    fun agree => agree.rename mine mineNew now

theorem copy_private {source : String} (mineSource : inScope owner source)
    (attributes? : Option Attributes) (now : Instant) :
    Private owner Object.unnumbered (copy source identifier attributes? now) :=
  .of_follows (fun sound => sound.follows_copy source (not_not_intro mine) attributes? now)
    fun agree => agree.copy mineSource identifier attributes? now

theorem delete_private : Private owner Object.unnumbered (delete identifier) :=
  .of_follows (fun sound => sound.follows_delete (not_not_intro mine))
    fun agree => agree.delete mine

theorem head_private : Private owner Object.unnumbered (head identifier) :=
  .of_follows (fun sound => sound.follows_head identifier) fun agree =>
    .looking agree (agree.head mine)

theorem peek_private : Private owner Content.unnumbered (peek identifier) :=
  .of_follows (fun sound => sound.follows_peek identifier) fun agree =>
    .looking agree (agree.read mine)

theorem read_private : Private owner Content.unnumbered (read identifier) :=
  .of_follows (fun sound => sound.follows_read identifier) fun agree =>
    .looking agree (agree.read mine)

theorem beginUpload_private (attributes : Attributes) (now : Instant) :
    Private owner id (beginUpload identifier attributes now) :=
  .of_follows (fun sound => sound.follows_beginUpload (not_not_intro mine) attributes now)
    fun agree => agree.start identifier attributes now

theorem uploadPart_private (name : String) (number : Int) (body : Body) (now : Instant) :
    Private owner Part.unnumbered (uploadPart name identifier number body now) :=
  .of_follows (fun sound => sound.follows_uploadPart name (not_not_intro mine) number body now)
    fun agree => agree.uploadPart name mine number body now

theorem listParts_private (name : String) :
    Private owner (List.map fun e => (e.1, e.2.unnumbered)) (listParts name identifier) :=
  .of_follows (fun sound => sound.follows_listParts name identifier) fun agree =>
    .looking agree (agree.listParts name mine)

theorem complete_private (name : String) (requested : List RequestedPart) (now : Instant) :
    Private owner Object.unnumbered (complete name identifier requested now) :=
  .of_follows (fun sound => sound.follows_complete name (not_not_intro mine) requested now)
    fun agree => agree.complete name mine requested now

theorem abort_private (name : String) : Private owner id (abort name identifier) :=
  .of_follows (fun sound => sound.follows_abort name (not_not_intro mine))
    fun agree => agree.abort name mine

end

section

variable {beginning : String} (mine : beginsWith (ownerScope owner) beginning)

include mine

theorem anyUnder_private : Private owner id (anyUnder beginning) :=
  .of_follows (fun sound => sound.follows_anyUnder beginning) fun agree =>
    .looking agree (by simp only [agree.under mine])

theorem topLevel_private : Private owner id (topLevel beginning) :=
  .of_follows (fun sound => sound.follows_topLevel beginning) fun agree =>
    .looking agree (by simp only [agree.segments mine])

end

theorem collectPage_private {request : PageRequest}
    (mine : beginsWith (ownerScope owner) request.base) (most : Nat) :
    Private owner Page.unnumbered (collectPage request most) :=
  .of_follows (fun sound => sound.follows_collectPage request most) fun agree =>
    .looking agree (by simp only [agree.page mine most])

end Store

end Depot

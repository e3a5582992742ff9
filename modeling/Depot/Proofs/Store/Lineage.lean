import Depot.Proofs.Store.SessionTable

/-!
# Where attributes come from

An object is put with the attributes that are given.  It keeps them when its
content changes, takes them along to another identifier, and hands them on to
its copies unless these are given others; an upload keeps those that it began
with for the object that it is completed to.

All of this is said of operations that succeed.  What an operation brings about
is a relation of the shelves before and after it (`Brings`), which follows from
what is specified of it.
-/

namespace Depot

set_option autoImplicit false

open Depot.Http
open Depot.Time

/-! ## What operations bring about -/

/-- In a sound store, an operation that succeeds brings a change about, and one that fails does so
for a reason that is expected. -/
structure Brings {ε α : Type} (expected : ε → Prop) (change : Shelf → Shelf → Prop)
    (action : ExceptT ε (StateM Store) α) : Prop where
  fails : ∀ {s t : Store} {fault : ε}, s.Sound → outcome action s = (.error fault, t) →
    expected fault
  changes : ∀ {s t : Store} {a : α}, s.Sound → outcome action s = (.ok a, t) →
    change s.shelf t.shelf

namespace Brings

variable {ε ε' α β : Type} {expected : ε → Prop} {change : Shelf → Shelf → Prop}

theorem throw {fault : ε} (known : expected fault) :
    Brings expected change (throw fault : ExceptT ε (StateM Store) α) where
  fails _ ended := by
    cases ended
    exact known
  changes _ ended := by cases ended

/-- What can be found without the store comes first. -/
theorem lift_bind {result : Except ε β} {next : β → ExceptT ε (StateM Store) α}
    (here : ∀ fault, result = .error fault → expected fault)
    (there : ∀ b, result = .ok b → Brings expected change (next b)) :
    Brings expected change (liftM result >>= next) := by
  cases result with
  | error fault => exact .throw (here fault rfl)
  | ok b => exact there b rfl

/-- The answer of an operation and its fault are only rendered. -/
theorem shown {action : ExceptT ε (StateM Store) α} {expected' : ε' → Prop} {render : ε → ε'}
    (brings : Brings expected change action)
    (renders : ∀ fault, expected fault → expected' (render fault)) (answer : α → β) :
    Brings expected' change (do return answer (← ExceptT.adapt render action)) := by
  constructor <;> intro s t _ sound ended <;> rw [outcome_bind, outcome_adapt] at ended
  · cases done : outcome action s with
    | mk result u =>
        rw [done] at ended
        cases result with
        | error fault =>
            cases ended
            exact renders fault (brings.fails sound done)
        | ok a => cases ended
  · cases done : outcome action s with
    | mk result u =>
        rw [done] at ended
        cases result with
        | error fault => cases ended
        | ok a =>
            cases ended
            exact brings.changes sound done

/-- What is specified of an operation is what it brings about. -/
theorem of_follows {view : α → β} {action : Store.Action α}
    {specified : Shelf → Except StoreFault (β × Shelf)}
    (follows : ∀ {s : Store}, s.Sound →
      Store.Follows (fun _ => False) view s (outcome action s) (specified s.shelf))
    (done : ∀ {shelf after b}, specified shelf = .ok (b, after) → change shelf after) :
    Brings (fun _ => True) change action where
  fails _ _ := trivial
  changes {s t a} sound ended := by
    have known := follows sound
    rw [ended] at known
    cases answers : specified s.shelf with
    | error fault =>
        rw [answers] at known
        cases known
    | ok expected =>
        rw [answers] at known
        cases known with
        | answered _ becomes =>
            rw [becomes.shelf]
            exact done answers

/-- A change of objects is specified on the ledger. -/
theorem of_ledger {view : α → β} {action : Store.Action α}
    {specified : Ledger → Except StoreFault (β × Ledger)} {alters : Ledger → Ledger → Prop}
    (follows : ∀ {s : Store}, s.Sound →
      Store.Follows (fun _ => False) view s (outcome action s)
        (Store.onObjects specified s.shelf))
    (done : ∀ {ledger after b}, specified ledger = .ok (b, after) → alters ledger after) :
    Brings (fun _ => True) (fun before after => alters before.objects after.objects) action :=
  of_follows follows fun answers => by
    obtain ⟨⟨_, objects⟩, changed, same⟩ := Results.map_eq_ok_iff.mp answers
    cases same
    exact done changed

end Brings

/-! ## Attributes of objects -/

namespace Ledger

def attributes? (ledger : Ledger) (identifier : String) : Option Attributes :=
  (ledger.find? identifier).map Record.attributes

theorem attributes?_insert_self (ledger : Ledger) (identifier : String) (record : Record) :
    attributes? (ledger.insert identifier record) identifier = some record.attributes := by
  rw [attributes?, Table.find?_insert_self]
  rfl

theorem fetch_bind_eq_ok_iff {α : Type} {ledger : Ledger} {identifier : String}
    {next : Record → Except StoreFault α} {a : α} :
    ledger.fetch identifier >>= next = .ok a ↔
      ∃ record, ledger.find? identifier = some record ∧ next record = .ok a := by
  unfold fetch
  cases ledger.find? identifier <;> simp [bind, Except.bind]

variable {ledger after : Ledger} {identifier source destination old new : String}
  {attributes : Attributes} {body : Body} {now : Instant} {object : Object}

theorem put_attributes (done : ledger.put identifier attributes body now = .ok (object, after)) :
    after.attributes? identifier = some attributes := by
  obtain ⟨-, -, done⟩ := Results.bind_eq_ok_iff.mp done
  obtain ⟨bytes, -, done⟩ := Results.bind_eq_ok_iff.mp done
  cases done
  exact attributes?_insert_self _ _ _

theorem update_attributes (done : ledger.update identifier body now = .ok (object, after)) :
    after.attributes? identifier = ledger.attributes? identifier := by
  obtain ⟨-, -, done⟩ := Results.bind_eq_ok_iff.mp done
  obtain ⟨bytes, -, done⟩ := Results.bind_eq_ok_iff.mp done
  obtain ⟨known, found, done⟩ := fetch_bind_eq_ok_iff.mp done
  cases done
  rw [attributes?_insert_self, attributes?, found]
  rfl

theorem append_attributes (done : ledger.append identifier body now = .ok (object, after)) :
    after.attributes? identifier = ledger.attributes? identifier := by
  obtain ⟨-, -, done⟩ := Results.bind_eq_ok_iff.mp done
  obtain ⟨bytes, -, done⟩ := Results.bind_eq_ok_iff.mp done
  obtain ⟨known, found, done⟩ := fetch_bind_eq_ok_iff.mp done
  cases done
  rw [attributes?_insert_self, attributes?, found]
  rfl

theorem rename_attributes (done : ledger.rename old new now = .ok (object, after)) :
    after.attributes? new = ledger.attributes? old := by
  obtain ⟨-, -, done⟩ := Results.bind_eq_ok_iff.mp done
  obtain ⟨-, -, done⟩ := Results.bind_eq_ok_iff.mp done
  obtain ⟨known, found, done⟩ := fetch_bind_eq_ok_iff.mp done
  split at done
  · next same =>
      cases done
      rw [same]
  · split at done
    · cases done
    · cases done
      rw [attributes?_insert_self, attributes?, found]
      rfl

theorem copy_attributes {attributes? : Option Attributes}
    (done : ledger.copy source destination attributes? now = .ok (object, after)) :
    after.attributes? destination = attributes?.or (ledger.attributes? source) := by
  obtain ⟨-, -, done⟩ := Results.bind_eq_ok_iff.mp done
  obtain ⟨-, -, done⟩ := Results.bind_eq_ok_iff.mp done
  obtain ⟨known, found, done⟩ := fetch_bind_eq_ok_iff.mp done
  cases done
  rw [attributes?_insert_self, Ledger.attributes?, found]
  cases attributes? <;> rfl

end Ledger

/-! ## Attributes of uploads -/

namespace Shelf

def attributes? (shelf : Shelf) (identifier : String) : Option Attributes :=
  Ledger.attributes? shelf.objects identifier

def uploadAttributes? (shelf : Shelf) (name : String) : Option Attributes :=
  (shelf.sessions.find? name).map Session.attributes

variable {shelf after : Shelf} {name identifier : String} {attributes : Attributes}
  {now : Instant}

/-- The upload that a beginning brings with it has the given attributes. -/
theorem start_attributes {begun : String × Upload}
    (done : shelf.start identifier attributes now = .ok (begun, after))
    (fresh : shelf.sessions.find? name = none) (there : (after.sessions.find? name).isSome) :
    after.uploadAttributes? name = some attributes := by
  obtain ⟨-, -, rfl⟩ := start_eq_ok_iff.mp done
  by_cases same : name = Store.uploadName shelf.nextUpload
  · subst same
    rw [uploadAttributes?]
    dsimp only
    rw [Table.find?_insert_self]
    rfl
  · rw [Table.find?_insert_of_ne _ _ same, fresh] at there
    cases there

theorem uploadPart_attributes {part : Part} {number : Int} {body : Body}
    (done : shelf.uploadPart name identifier number body now = .ok (part, after))
    (other : String) : after.uploadAttributes? other = shelf.uploadAttributes? other := by
  obtain ⟨session, ⟨found, -⟩, -, bytes, -, -, rfl⟩ := uploadPart_eq_ok_iff.mp done
  unfold uploadAttributes?
  dsimp only
  rw [Table.find?_insert]
  split
  · next same =>
      rw [same, found]
      rfl
  · rfl

theorem complete_attributes {requested : List RequestedPart} {object : Object}
    (done : shelf.complete name identifier requested now = .ok (object, after)) :
    after.attributes? identifier = shelf.uploadAttributes? name := by
  obtain ⟨session, ⟨found, -⟩, -, -, rfl⟩ := complete_eq_ok_iff.mp done
  rw [uploadAttributes?, found]
  exact Ledger.attributes?_insert_self _ _ _

end Shelf

/-! ## Operations of the store -/

namespace Store

section

variable (identifier source destination old new name : String) (attributes : Attributes)
  (attributes? : Option Attributes) (body : Body) (now : Instant)

theorem put_brings : Brings (fun _ => True)
    (fun _ after => after.attributes? identifier = some attributes)
    (put identifier attributes body now) :=
  .of_ledger (fun sound => sound.follows_put not_false attributes body now)
    Ledger.put_attributes

theorem update_brings : Brings (fun _ => True)
    (fun before after =>
      after.attributes? identifier = before.attributes? identifier)
    (update identifier body now) :=
  .of_ledger (fun sound => sound.follows_update not_false body now) Ledger.update_attributes

theorem append_brings : Brings (fun _ => True)
    (fun before after =>
      after.attributes? identifier = before.attributes? identifier)
    (append identifier body now) :=
  .of_ledger (fun sound => sound.follows_append not_false body now) Ledger.append_attributes

theorem rename_brings : Brings (fun _ => True)
    (fun before after => after.attributes? new = before.attributes? old)
    (rename old new now) :=
  .of_ledger (fun sound => sound.follows_rename not_false not_false now)
    Ledger.rename_attributes

theorem copy_brings : Brings (fun _ => True)
    (fun before after => after.attributes? destination =
      attributes?.or (before.attributes? source))
    (copy source destination attributes? now) :=
  .of_ledger (fun sound => sound.follows_copy source not_false attributes? now)
    Ledger.copy_attributes

theorem beginUpload_brings : Brings (fun _ => True)
    (fun before after => ∀ name, before.sessions.find? name = none →
      (after.sessions.find? name).isSome → after.uploadAttributes? name = some attributes)
    (beginUpload identifier attributes now) :=
  .of_follows (fun sound => sound.follows_beginUpload not_false attributes now)
    fun done _ => Shelf.start_attributes done

theorem uploadPart_brings (number : Int) : Brings (fun _ => True)
    (fun before after => ∀ name, after.uploadAttributes? name = before.uploadAttributes? name)
    (uploadPart name identifier number body now) :=
  .of_follows (fun sound => sound.follows_uploadPart name not_false number body now)
    Shelf.uploadPart_attributes

theorem complete_brings (requested : List RequestedPart) : Brings (fun _ => True)
    (fun before after =>
      after.attributes? identifier = before.uploadAttributes? name)
    (complete name identifier requested now) :=
  .of_follows (fun sound => sound.follows_complete name not_false requested now)
    Shelf.complete_attributes

end

end Store

end Depot

import Depot.Proofs.Store.Sessions
import Depot.Proofs.Store.Surveys

/-!
# What one owner sees

The belongings of an owner are the records and sessions under the owner's
identifiers.  Two shelves agree for an owner when the owner's belongings are the
same in both.  An operation on identifiers of the owner answers alike on shelves
that agree, and leaves shelves that agree.  What an operation spares for an owner
still belongs to the owner (`Store.Spares.belongings`).
-/

namespace Depot

set_option autoImplicit false

open Depot.Http
open Depot.Name
open Depot.Text
open Depot.Time

/-! ## Belongings -/

/-- What a shelf holds for one owner. -/
structure Belongings where
  objects : Table String Record
  sessions : Table String Session

namespace Shelf

/-- What belongs to an owner. -/
def belongings (shelf : Shelf) (owner : String) : Belongings :=
  { objects := shelf.objects.filter fun identifier _ => inScope owner identifier
    sessions := shelf.sessions.filter fun _ session => inScope owner session.identifier }

end Shelf

namespace Store.Spares

variable {owner : String} {s t : Store}
  (spares : Store.Spares (fun identifier => inScope owner identifier) s t)
include spares

theorem recordOf {identifier : String} {row : Row} (mine : inScope owner identifier)
    (found : s.objects.find? identifier = some row) : t.recordOf row = s.recordOf row := by
  unfold Store.recordOf Store.bytesOf
  rw [spares.contents identifier row mine found]

theorem sessionOf {name : String} {upload : Upload} (mine : inScope owner upload.identifier)
    (found : s.uploads.find? name = some upload) : t.sessionOf upload = s.sessionOf upload := by
  have pieces : (upload.parts.mapValues fun _ part => t.pieceOf part) =
      upload.parts.mapValues fun _ part => s.pieceOf part :=
    Table.mapValues_congr fun number part there => by
      unfold Store.pieceOf Store.bytesOf
      rw [spares.parts name upload number part mine found there]
  unfold Store.sessionOf
  rw [pieces]

/-- What is spared for an owner still belongs to the owner. -/
theorem belongings : t.shelf.belongings owner = s.shelf.belongings owner := by
  have objects : (t.shelf.objects.filter fun identifier _ => inScope owner identifier) =
      s.shelf.objects.filter fun identifier _ => inScope owner identifier := by
    refine Table.ext_find? fun identifier => Option.ext fun record => ?_
    simp only [Table.find?_filter, find?_shelf_objects, Option.filter_eq_some_iff,
      Option.map_eq_some_iff]
    constructor
    · rintro ⟨⟨row, there, rfl⟩, mine⟩
      have here := (spares.rows identifier mine).symm.trans there
      exact ⟨⟨row, here, (spares.recordOf mine here).symm⟩, mine⟩
    · rintro ⟨⟨row, here, rfl⟩, mine⟩
      exact ⟨⟨row, (spares.rows identifier mine).trans here, spares.recordOf mine here⟩, mine⟩
  have sessions : (t.shelf.sessions.filter fun _ session => inScope owner session.identifier) =
      s.shelf.sessions.filter fun _ session => inScope owner session.identifier := by
    refine Table.ext_find? fun name => Option.ext fun session => ?_
    simp only [Table.find?_filter, find?_shelf_sessions, Option.filter_eq_some_iff,
      Option.map_eq_some_iff]
    constructor
    · rintro ⟨⟨upload, there, rfl⟩, mine⟩
      have here := (spares.uploads name upload mine).mp there
      exact ⟨⟨upload, here, (spares.sessionOf mine here).symm⟩, mine⟩
    · rintro ⟨⟨upload, here, rfl⟩, mine⟩
      exact ⟨⟨upload, (spares.uploads name upload mine).mpr here, spares.sessionOf mine here⟩, mine⟩
  unfold Shelf.belongings
  rw [objects, sessions]

end Store.Spares

namespace Shelf

/-- Two shelves hold the same for an owner, and name their next upload alike. -/
structure Agree (owner : String) (a b : Shelf) : Prop where
  belongings : a.belongings owner = b.belongings owner
  nextUpload : a.nextUpload = b.nextUpload

variable {owner : String} {a b : Shelf}

namespace Agree

theorem objects (agree : Agree owner a b) :
    (a.objects.filter fun identifier _ => inScope owner identifier) =
      b.objects.filter fun identifier _ => inScope owner identifier :=
  congrArg Belongings.objects agree.belongings

theorem sessions (agree : Agree owner a b) :
    (a.sessions.filter fun _ session => inScope owner session.identifier) =
      b.sessions.filter fun _ session => inScope owner session.identifier :=
  congrArg Belongings.sessions agree.belongings

/-! ### Looking up -/

theorem find? (agree : Agree owner a b) {identifier : String} (mine : inScope owner identifier) :
    a.objects.find? identifier = b.objects.find? identifier := by
  have all (found : Option Record) : found.filter (fun _ => true) = found := by
    cases found <;> rfl
  have same := congrArg (Table.find? · identifier) agree.objects
  simp only [Table.find?_filter] at same
  rwa [mine, all, all] at same

theorem fetch (agree : Agree owner a b) {identifier : String} (mine : inScope owner identifier) :
    Ledger.fetch a.objects identifier = Ledger.fetch b.objects identifier := by
  rw [Ledger.fetch, agree.find? mine, Ledger.fetch]

theorem sessionFor (agree : Agree owner a b) (name : String) {identifier : String}
    (mine : inScope owner identifier) :
    a.sessionFor name identifier = b.sessionFor name identifier := by
  -- A session for the identifier is one of the owner's, and those are the same on both sides.
  have through (shelf : Shelf) : shelf.sessionFor name identifier =
      ((shelf.sessions.find? name).filter fun session => inScope owner session.identifier).elim
        (.error (.noSuchUpload name)) fun session =>
          if session.identifier = identifier then .ok session else .error (.noSuchUpload name) := by
    unfold Shelf.sessionFor
    cases shelf.sessions.find? name with
    | none => rfl
    | some session =>
        rw [Option.filter_some]
        by_cases owned : inScope owner session.identifier
        · rw [if_pos owned]
          rfl
        · rw [if_neg owned]
          have differs : session.identifier ≠ identifier := fun same => owned (same ▸ mine)
          exact if_neg differs
  have same := congrArg (Table.find? · name) agree.sessions
  simp only [Table.find?_filter] at same
  rw [through a, through b, same]

theorem under (agree : Agree owner a b) {beginning : String}
    (mine : beginsWith (ownerScope owner) beginning) :
    Ledger.under a.objects beginning = Ledger.under b.objects beginning := by
  have through (ledger : Ledger) : ledger.under beginning =
      Ledger.under (ledger.filter fun identifier _ => inScope owner identifier) beginning := by
    have both (e : String × Record) : beginsWith beginning e.1 =
        (beginsWith beginning e.1 && inScope owner e.1) := by
      cases within : beginsWith beginning e.1 with
      | false => rfl
      | true => exact (beginsWith_trans mine within).symm
    show ledger.entries.filter _ = (ledger.entries.filter _).filter _
    rw [List.filter_filter]
    exact List.filter_congr fun e _ => both e
  rw [through a.objects, through b.objects, agree.objects]

theorem head (agree : Agree owner a b) {identifier : String} (mine : inScope owner identifier) :
    Ledger.head a.objects identifier = Ledger.head b.objects identifier := by
  simp only [Ledger.head, agree.fetch mine]

theorem read (agree : Agree owner a b) {identifier : String} (mine : inScope owner identifier) :
    Ledger.read a.objects identifier = Ledger.read b.objects identifier := by
  simp only [Ledger.read, agree.fetch mine]

theorem segments (agree : Agree owner a b) {beginning : String}
    (mine : beginsWith (ownerScope owner) beginning) :
    Ledger.segments a.objects beginning = Ledger.segments b.objects beginning := by
  simp only [Ledger.segments, agree.under mine]

theorem page (agree : Agree owner a b) {request : Store.PageRequest}
    (mine : beginsWith (ownerScope owner) request.base) (most : Nat) :
    Ledger.page a.objects request most = Ledger.page b.objects request most := by
  have within := beginsWith_trans mine (beginsWith_append request.base request.stem)
  simp only [Ledger.page, Ledger.after, agree.under within]

/-! ### Changing -/

theorem insertObject (agree : Agree owner a b) (identifier : String) (record : Record) :
    Agree owner { a with objects := a.objects.insert identifier record }
      { b with objects := b.objects.insert identifier record } := by
  refine ⟨?_, agree.nextUpload⟩
  simp only [Shelf.belongings, Table.filter_insert, agree.objects, agree.sessions]

theorem eraseObject (agree : Agree owner a b) (identifier : String) :
    Agree owner { a with objects := a.objects.erase identifier }
      { b with objects := b.objects.erase identifier } := by
  refine ⟨?_, agree.nextUpload⟩
  simp only [Shelf.belongings, Table.filter_erase, agree.objects, agree.sessions]

theorem insertSession (agree : Agree owner a b) (name : String) (session : Session) :
    Agree owner { a with sessions := a.sessions.insert name session }
      { b with sessions := b.sessions.insert name session } := by
  refine ⟨?_, agree.nextUpload⟩
  simp only [Shelf.belongings, Table.filter_insert, agree.objects, agree.sessions]

theorem eraseSession (agree : Agree owner a b) (name : String) :
    Agree owner { a with sessions := a.sessions.erase name }
      { b with sessions := b.sessions.erase name } := by
  refine ⟨?_, agree.nextUpload⟩
  simp only [Shelf.belongings, Table.filter_erase, agree.objects, agree.sessions]

end Agree

/-! ## Answering alike -/

/-- Two specified results have the same answer or fault, and leave shelves that agree. -/
inductive Alike {β : Type} (owner : String) :
    Except StoreFault (β × Shelf) → Except StoreFault (β × Shelf) → Prop where
  | answered {answer : β} {a b : Shelf} (agree : Agree owner a b) :
      Alike owner (.ok (answer, a)) (.ok (answer, b))
  | failed {fault : StoreFault} : Alike owner (.error fault) (.error fault)

/-- A look that finds the same on both sides. -/
theorem Alike.looking {β : Type} (agree : Agree owner a b) {found found' : Except StoreFault β}
    (same : found = found') :
    Alike owner (found.map fun answer => (answer, a)) (found'.map fun answer => (answer, b)) := by
  subst same
  cases found with
  | error fault => exact .failed
  | ok answer => exact .answered agree

namespace Agree

theorem put (agree : Agree owner a b) (identifier : String) (attributes : Attributes)
    (body : Body) (now : Instant) :
    Alike owner (Store.onObjects (Ledger.put · identifier attributes body now) a)
      (Store.onObjects (Ledger.put · identifier attributes body now) b) := by
  unfold Store.onObjects Ledger.put
  cases Ledger.checked identifier with
  | error fault => exact .failed
  | ok _ =>
      cases Ledger.whole body with
      | error fault => exact .failed
      | ok bytes => exact .answered (agree.insertObject identifier _)

theorem putPieces (agree : Agree owner a b) (identifier : String) (attributes : Attributes)
    (pieces : List ByteArray) (now : Instant) :
    Alike owner (Store.onObjects (Ledger.putPieces · identifier attributes pieces now) a)
      (Store.onObjects (Ledger.putPieces · identifier attributes pieces now) b) := by
  unfold Store.onObjects Ledger.putPieces
  cases Ledger.checked identifier with
  | error fault => exact .failed
  | ok _ => exact .answered (agree.insertObject identifier _)

/-- An object of the owner is set to what is made of its record and new bytes. -/
theorem revise (agree : Agree owner a b) {identifier : String} (mine : inScope owner identifier)
    (body : Body) (change : Record → ByteArray → Record) :
    let revised (ledger : Ledger) : Except StoreFault (Object × Ledger) := do
      Ledger.checked identifier
      let bytes ← Ledger.whole body
      let known ← ledger.fetch identifier
      return ledger.enter identifier (change known bytes)
    Alike owner (Store.onObjects revised a) (Store.onObjects revised b) := by
  unfold Store.onObjects
  dsimp only
  rw [agree.fetch mine]
  cases Ledger.checked identifier with
  | error fault => exact .failed
  | ok _ =>
      cases Ledger.whole body with
      | error fault => exact .failed
      | ok bytes =>
          cases Ledger.fetch b.objects identifier with
          | error fault => exact .failed
          | ok known => exact .answered (agree.insertObject identifier _)

theorem update (agree : Agree owner a b) {identifier : String} (mine : inScope owner identifier)
    (body : Body) (now : Instant) :
    Alike owner (Store.onObjects (Ledger.update · identifier body now) a)
      (Store.onObjects (Ledger.update · identifier body now) b) :=
  agree.revise mine body fun known bytes => ⟨bytes, known.attributes, now⟩

theorem append (agree : Agree owner a b) {identifier : String} (mine : inScope owner identifier)
    (body : Body) (now : Instant) :
    Alike owner (Store.onObjects (Ledger.append · identifier body now) a)
      (Store.onObjects (Ledger.append · identifier body now) b) :=
  agree.revise mine body fun known bytes => ⟨known.bytes ++ bytes, known.attributes, now⟩

theorem rename (agree : Agree owner a b) {old new : String} (mineOld : inScope owner old)
    (mineNew : inScope owner new) (now : Instant) :
    Alike owner (Store.onObjects (Ledger.rename · old new now) a)
      (Store.onObjects (Ledger.rename · old new now) b) := by
  unfold Store.onObjects Ledger.rename
  dsimp only
  rw [agree.fetch mineOld, Table.has, agree.find? mineNew, ← Table.has]
  cases Ledger.checked old with
  | error fault => exact .failed
  | ok _ =>
      cases Ledger.checked new with
      | error fault => exact .failed
      | ok _ =>
          cases Ledger.fetch b.objects old with
          | error fault => exact .failed
          | ok known =>
              by_cases same : old = new
              · simp only [if_pos same]
                exact .answered agree
              · simp only [if_neg same]
                cases Table.has b.objects new with
                | true => exact .failed
                | false => exact .answered ((agree.eraseObject old).insertObject new _)

theorem copy (agree : Agree owner a b) {source : String} (mine : inScope owner source)
    (destination : String) (attributes? : Option Attributes) (now : Instant) :
    Alike owner (Store.onObjects (Ledger.copy · source destination attributes? now) a)
      (Store.onObjects (Ledger.copy · source destination attributes? now) b) := by
  unfold Store.onObjects Ledger.copy
  dsimp only
  rw [agree.fetch mine]
  cases Ledger.checked source with
  | error fault => exact .failed
  | ok _ =>
      cases Ledger.checked destination with
      | error fault => exact .failed
      | ok _ =>
          cases Ledger.fetch b.objects source with
          | error fault => exact .failed
          | ok known => exact .answered (agree.insertObject destination _)

theorem delete (agree : Agree owner a b) {identifier : String} (mine : inScope owner identifier) :
    Alike owner (Store.onObjects (Ledger.delete · identifier) a)
      (Store.onObjects (Ledger.delete · identifier) b) := by
  unfold Store.onObjects Ledger.delete
  dsimp only
  rw [agree.fetch mine]
  cases Ledger.checked identifier with
  | error fault => exact .failed
  | ok _ =>
      cases Ledger.fetch b.objects identifier with
      | error fault => exact .failed
      | ok known => exact .answered (agree.eraseObject identifier)

theorem start (agree : Agree owner a b) (identifier : String) (attributes : Attributes)
    (now : Instant) :
    Alike owner (a.start identifier attributes now) (b.start identifier attributes now) := by
  unfold Shelf.start
  rw [agree.nextUpload]
  cases Ledger.checked identifier with
  | error fault => exact .failed
  | ok _ =>
      have begun := agree.insertSession (Store.uploadName b.nextUpload)
        ⟨identifier, attributes, now, Table.empty⟩
      exact .answered ⟨begun.belongings, rfl⟩

theorem uploadPart (agree : Agree owner a b) (name : String) {identifier : String}
    (mine : inScope owner identifier) (number : Int) (body : Body) (now : Instant) :
    Alike owner (a.uploadPart name identifier number body now)
      (b.uploadPart name identifier number body now) := by
  unfold Shelf.uploadPart
  rw [agree.sessionFor name mine]
  by_cases range : number < 1 ∨ (Store.maxPartNumber : Int) < number
  · simp only [if_pos range]
    exact .failed
  · simp only [if_neg range]
    cases b.sessionFor name identifier with
    | error fault => exact .failed
    | ok session =>
        cases Ledger.whole body with
        | error fault => exact .failed
        | ok bytes => exact .answered (agree.insertSession name _)

theorem listParts (agree : Agree owner a b) (name : String) {identifier : String}
    (mine : inScope owner identifier) :
    a.listParts name identifier = b.listParts name identifier := by
  rw [Shelf.listParts, agree.sessionFor name mine, Shelf.listParts]

theorem complete (agree : Agree owner a b) (name : String) {identifier : String}
    (mine : inScope owner identifier) (requested : List RequestedPart) (now : Instant) :
    Alike owner (a.complete name identifier requested now)
      (b.complete name identifier requested now) := by
  unfold Shelf.complete
  rw [agree.sessionFor name mine]
  cases b.sessionFor name identifier with
  | error fault => exact .failed
  | ok session =>
      dsimp only
      show Alike owner (Shelf.choose session.pieces requested >>= _)
        (Shelf.choose session.pieces requested >>= _)
      cases Shelf.choose session.pieces requested with
      | error fault => exact .failed
      | ok chosen => exact .answered ((agree.insertObject identifier _).eraseSession name)

theorem abort (agree : Agree owner a b) (name : String) {identifier : String}
    (mine : inScope owner identifier) :
    Alike owner (a.abort name identifier) (b.abort name identifier) := by
  unfold Shelf.abort
  rw [agree.sessionFor name mine]
  cases b.sessionFor name identifier with
  | error fault => exact .failed
  | ok session => exact .answered (agree.eraseSession name)

end Agree

end Shelf

end Depot

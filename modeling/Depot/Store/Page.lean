import Depot.Store.Listing

/-!
# Pages of a listing

A page shows the keys under a beginning from a resume point on.  With a
delimiter, keys that have it after the asked-for stem are rolled up: one entry,
the key up to and including the delimiter, stands for all of them.

Rows are read in batches, so a page that is full early reads no further rows; a
row that cannot be read fails the page only when its batch is read.
-/

namespace Depot.Store

set_option autoImplicit false

open Depot.Text

/-- One entry of a page. -/
inductive PageEntry where
  | object (key : String) (object : Object)
  | commonStem (stem : String)

/-- The text that an entry is listed under. -/
def PageEntry.key : PageEntry → String
  | .object key _ => key
  | .commonStem stem => stem

/-- A page of a listing. -/
structure Page where
  entries : List PageEntry
  /-- The key of the last entry when more entries follow. -/
  next? : Option String

/-- What a page is asked for. -/
structure PageRequest where
  /-- What all identifiers of the bucket begin with. -/
  base : String
  /-- What the keys begin with. -/
  stem : String
  delimiter? : Option String
  /-- The key or common stem that was seen last. -/
  after? : Option String

/-- A page that is being filled: its entries, last one first, and how many more it takes. -/
structure PageDraft where
  reversed : List PageEntry
  room : Nat

def PageDraft.close (d : PageDraft) : Page := ⟨d.reversed.reverse, none⟩

/-- The page of a draft that more entries follow. -/
def PageDraft.closeWithMore (d : PageDraft) : Page :=
  ⟨d.reversed.reverse, d.reversed.head?.map PageEntry.key⟩

/-- The key of an object within the listed bucket. -/
def PageRequest.keyOf (r : PageRequest) (identifier : String) : String :=
  String.ofList (identifier.toList.drop r.base.length)

/-- What a key is rolled up to, when the delimiter occurs in it after the stem. -/
def PageRequest.rolledUp? (r : PageRequest) (key : String) : Option String :=
  r.delimiter?.bind fun delimiter =>
    (cutAtWord delimiter.toList (key.toList.drop r.stem.length)).map fun (before, _) =>
      String.ofList (key.toList.take r.stem.length ++ before ++ delimiter.toList)

/-- The entry of an object. -/
def PageRequest.entryOf (r : PageRequest) (object : Object) : PageEntry :=
  let key := r.keyOf object.identifier
  match r.rolledUp? key with
  | some stem => .commonStem stem
  | none => .object key object

/-- Whether an entry has been shown: as the last one of the draft, or before the resume point. -/
def PageRequest.isSeen (r : PageRequest) (d : PageDraft) : PageEntry → Bool
  | .object _ _ => false
  | .commonStem stem =>
      (d.reversed.head?.map PageEntry.key) == some stem || r.after?.any fun a => decide (stem ≤ a)

/-- Adds the entries of some objects to a draft; the page is done when one finds no room. -/
def PageRequest.fill (r : PageRequest) (d : PageDraft) : List Object → PageDraft ⊕ Page
  | [] => .inl d
  | object :: rest =>
      let entry := r.entryOf object
      if r.isSeen d entry then r.fill d rest
      else
        match d.room with
        | 0 => .inr d.closeWithMore
        | room + 1 => r.fill ⟨entry :: d.reversed, room⟩ rest

def batchSize : Nat := 1000

/-- Fills a draft from rows, batch by batch. -/
def PageRequest.fillFrom (r : PageRequest) (d : PageDraft) (rows : List (String × Row)) :
    Except StoreFault Page :=
  match readRows (rows.take batchSize) with
  | .error fault => .error fault
  | .ok objects =>
      match r.fill d objects with
      | .inr page => .ok page
      | .inl d =>
          if _h : rows.length < batchSize then .ok d.close
          else r.fillFrom d (rows.drop batchSize)
termination_by rows.length
decreasing_by
  rw [List.length_drop]
  unfold batchSize at _h ⊢
  omega

/-- The identifier that the rows of a page come after. -/
def PageRequest.cursor (r : PageRequest) : String :=
  match r.after? with
  | some after => r.base ++ after
  | none => ""

/-- A page of at most `most` entries.  A page of none is empty and reads nothing. -/
def collectPage (r : PageRequest) (most : Nat) : Action Page := do
  if most = 0 then return ⟨[], none⟩
  requireDatabase
  r.fillFrom ⟨[], most⟩ ((← get).rowsAfter (r.base ++ r.stem) r.cursor)

end Depot.Store

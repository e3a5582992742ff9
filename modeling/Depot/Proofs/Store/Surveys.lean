import Depot.Proofs.Store.Following
import Depot.Store.Page

/-!
# Surveys follow the ledger

What the operations that look at many objects answer, in terms of the ledger:
whether there is anything under a beginning, which segments there are, and which
page of entries a listing shows.  A page is filled from batches of rows; in a
sound store every batch can be read, and the page is the one that is filled from
all rows at once.
-/

namespace Depot

set_option autoImplicit false

open Depot.Text
open Depot.Time

namespace Store

/-! ## Filling a page -/

/-- The entry without the number of a blob. -/
def PageEntry.unnumbered : PageEntry → PageEntry
  | .object key shown => .object key shown.unnumbered
  | .commonStem stem => .commonStem stem

def Page.unnumbered (page : Page) : Page :=
  { page with entries := page.entries.map PageEntry.unnumbered }

def PageDraft.unnumbered (draft : PageDraft) : PageDraft :=
  { draft with reversed := draft.reversed.map PageEntry.unnumbered }

@[simp] theorem PageEntry.key_unnumbered (entry : PageEntry) :
    entry.unnumbered.key = entry.key := by
  cases entry <;> rfl

theorem PageDraft.head_unnumbered (draft : PageDraft) :
    draft.unnumbered.reversed.head?.map PageEntry.key =
      draft.reversed.head?.map PageEntry.key := by
  rw [unnumbered, List.head?_map, Option.map_map]
  congr 1
  funext entry
  exact entry.key_unnumbered

theorem PageDraft.close_unnumbered (draft : PageDraft) :
    draft.unnumbered.close = draft.close.unnumbered := by
  simp [close, unnumbered, Page.unnumbered]

theorem PageDraft.closeWithMore_unnumbered (draft : PageDraft) :
    draft.unnumbered.closeWithMore = draft.closeWithMore.unnumbered := by
  unfold closeWithMore
  rw [draft.head_unnumbered]
  simp [unnumbered, Page.unnumbered]

namespace PageRequest

variable (request : PageRequest)

theorem entryOf_unnumbered (object : Object) :
    request.entryOf object.unnumbered = (request.entryOf object).unnumbered := by
  have key : request.keyOf object.unnumbered.identifier = request.keyOf object.identifier := rfl
  unfold entryOf
  rw [key]
  dsimp only
  cases request.rolledUp? (request.keyOf object.identifier) <;> rfl

theorem isSeen_unnumbered (draft : PageDraft) (entry : PageEntry) :
    request.isSeen draft.unnumbered entry.unnumbered = request.isSeen draft entry := by
  cases entry with
  | object key shown => rfl
  | commonStem stem =>
      unfold isSeen
      rw [PageEntry.unnumbered]
      dsimp only
      rw [draft.head_unnumbered]

/-- The numbers of blobs do not matter to how a draft is filled. -/
theorem fill_unnumbered (draft : PageDraft) (objects : List Object) :
    request.fill draft.unnumbered (objects.map Object.unnumbered) =
      (request.fill draft objects).map PageDraft.unnumbered Page.unnumbered := by
  induction objects generalizing draft with
  | nil => rfl
  | cons object rest ih =>
      rw [List.map_cons, fill, fill, entryOf_unnumbered, isSeen_unnumbered]
      split
      · exact ih draft
      · cases room : draft.room with
        | zero =>
            have same : draft.unnumbered.room = 0 := room
            rw [same]
            exact congrArg Sum.inr draft.closeWithMore_unnumbered
        | succ more =>
            have same : draft.unnumbered.room = more + 1 := room
            rw [same]
            exact ih ⟨request.entryOf object :: draft.reversed, more⟩

/-- The page that some objects fill. -/
def filled (draft : PageDraft) (objects : List Object) : Page :=
  match request.fill draft objects with
  | .inl rest => rest.close
  | .inr page => page

theorem filled_unnumbered (draft : PageDraft) (objects : List Object) :
    request.filled draft.unnumbered (objects.map Object.unnumbered) =
      (request.filled draft objects).unnumbered := by
  unfold filled
  rw [fill_unnumbered]
  cases request.fill draft objects with
  | inl rest => exact rest.close_unnumbered
  | inr page => rfl

theorem fill_append (draft : PageDraft) (first second : List Object) :
    request.fill draft (first ++ second) =
      match request.fill draft first with
      | .inl rest => request.fill rest second
      | .inr page => .inr page := by
  induction first generalizing draft with
  | nil => rfl
  | cons object rest ih =>
      rw [List.cons_append, fill, fill]
      split
      · exact ih draft
      · cases draft.room with
        | zero => rfl
        | succ more => exact ih ⟨request.entryOf object :: draft.reversed, more⟩

/-- **Filling a page batch by batch is filling it from all rows at once**, when all rows can be
read. -/
theorem fillFrom_eq_filled {objectOf : String × Row → Object} {rows : List (String × Row)}
    (readable : ∀ rows', (∀ e, e ∈ rows' → e ∈ rows) →
      readRows rows' = .ok (rows'.map objectOf)) (draft : PageDraft) :
    request.fillFrom draft rows = .ok (request.filled draft (rows.map objectOf)) := by
  have split (draft : PageDraft) (rows : List (String × Row)) :=
    request.fill_append draft ((rows.take batchSize).map objectOf)
      ((rows.drop batchSize).map objectOf)
  simp only [← List.map_append, List.take_append_drop] at split
  fun_induction request.fillFrom draft rows with
  | case1 draft rows fault failed =>
      rw [readable _ fun _ => List.mem_of_mem_take] at failed
      cases failed
  | case2 draft rows objects read page full =>
      rw [readable _ fun _ => List.mem_of_mem_take] at read
      cases read
      have whole := split draft rows
      rw [full] at whole
      rw [filled, whole]
  | case3 draft rows objects read rest more few =>
      rw [readable _ fun _ => List.mem_of_mem_take] at read
      cases read
      rw [filled, ← List.take_of_length_le (Nat.le_of_lt few), more]
  | case4 draft rows objects read rest more many ih =>
      rw [readable _ fun _ => List.mem_of_mem_take] at read
      cases read
      have whole := split draft rows
      rw [more] at whole
      have onward := ih fun rows' among =>
        readable rows' fun e member => List.mem_of_mem_drop (among e member)
      rw [onward, filled, filled, whole]

end PageRequest

end Store

/-! ## Surveys of a ledger -/

namespace Ledger

/-- The segments after a beginning, each with a moment of change under it. -/
def segments (ledger : Ledger) (beginning : String) : Table String Instant :=
  (ledger.under beginning).foldl
    (fun segments e =>
      match Store.segmentAfter? beginning e.1 with
      | some segment => Store.noteSegment segments segment e.2.modified
      | none => segments)
    Table.empty

/-- The objects under a beginning that come after an identifier. -/
def after (ledger : Ledger) (beginning cursor : String) : List Object :=
  ((ledger.under beginning).filter fun e => decide (cursor < e.1)).map fun e => e.2.object e.1

/-- A page of at most `most` entries. -/
def page (ledger : Ledger) (request : Store.PageRequest) (most : Nat) : Store.Page :=
  if most = 0 then ⟨[], none⟩
  else
    request.filled ⟨[], most⟩ (ledger.after (request.base ++ request.stem) request.cursor)

end Ledger

namespace Store

theorem mem_entries_of_after {s : Store} {beginning cursor : String} {e : String × Row}
    (member : e ∈ s.rowsAfter beginning cursor) : e ∈ s.objects.entries :=
  Sound.mem_entries_of_under (List.mem_filter.mp member).1

/-- When the rows can be reached, a page is filled from those after the resume point. -/
theorem outcome_collectPage {s : Store} (reached : s.health.databaseOpen = true)
    (request : PageRequest) (most : Nat) :
    outcome (collectPage request most) s =
      (if most = 0 then .ok ⟨[], none⟩
        else
          request.fillFrom ⟨[], most⟩
            (s.rowsAfter (request.base ++ request.stem) request.cursor),
        s) := by
  unfold collectPage
  split
  · rfl
  · rw [outcome_bind, outcome_requireDatabase, reached]
    rfl

namespace Sound

variable {theirs : String → Prop} {s : Store}

theorem follows_anyUnder (sound : s.Sound) (beginning : String) :
    Follows theirs id s (outcome (anyUnder beginning) s)
      (looking (fun ledger => .ok (!(ledger.under beginning).isEmpty)) s.shelf) := by
  have same : (s.rowsUnder beginning).isEmpty =
      (Ledger.under s.shelf.objects beginning).isEmpty := by
    rw [← sound.rowsUnder_shelf, List.isEmpty_map]
  rw [outcome_anyUnder, sound.health, same]
  exact .answered rfl sound.becomes_same

theorem follows_topLevel (sound : s.Sound) (beginning : String) :
    Follows theirs id s (outcome (topLevel beginning) s)
      (looking (fun ledger => .ok (ledger.segments beginning).entries) s.shelf) := by
  have same : segmentsOf (s.rowsUnder beginning) beginning =
      Ledger.segments s.shelf.objects beginning := by
    rw [Ledger.segments, ← sound.rowsUnder_shelf, List.foldl_map]
    rfl
  rw [outcome_topLevel, sound.health, same]
  exact .answered rfl sound.becomes_same

/-- The objects after an identifier are those of the ledger. -/
theorem unnumbered_rowsAfter (sound : s.Sound) (beginning cursor : String) :
    ((s.rowsAfter beginning cursor).map fun e => objectAt e.1 e.2).map Object.unnumbered =
      Ledger.after s.shelf.objects beginning cursor := by
  rw [sound.unnumbered_rows fun _ => mem_entries_of_after, Ledger.after,
    ← sound.rowsUnder_shelf, List.filter_map, List.map_map]
  rfl

theorem follows_listPage (sound : s.Sound) (beginning : String) (after? : Option String)
    (limit : Nat) :
    Follows theirs (List.map Object.unnumbered) s (outcome (listPage beginning after? limit) s)
      (looking (fun ledger => .ok ((ledger.after beginning (after?.getD "")).take limit))
        s.shelf) := by
  have known : ∀ e, e ∈ (s.rowsAfter beginning (after?.getD "")).take limit →
      e ∈ s.objects.entries :=
    fun _ member => mem_entries_of_after (List.mem_of_mem_take member)
  rw [outcome_listPage, sound.health, sound.readRows known]
  refine .answered ?_ sound.becomes_same
  rw [List.map_take, List.map_take, sound.unnumbered_rowsAfter]

theorem follows_collectPage (sound : s.Sound) (request : PageRequest) (most : Nat) :
    Follows theirs Page.unnumbered s (outcome (collectPage request most) s)
      (looking (fun ledger => .ok (ledger.page request most)) s.shelf) := by
  rw [outcome_collectPage (by rw [sound.health])]
  unfold looking Ledger.page
  split
  · exact .answered rfl sound.becomes_same
  · rw [request.fillFrom_eq_filled fun rows among => sound.readRows fun e member =>
      mem_entries_of_after (among e member)]
    refine .answered ?_ sound.becomes_same
    rw [← sound.unnumbered_rowsAfter, ← request.filled_unnumbered]
    rfl

end Sound

end Store

end Depot

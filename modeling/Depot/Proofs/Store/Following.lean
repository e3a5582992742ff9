import Depot.Proofs.Store.Ledger

/-!
# Objects follow the ledger

Every operation on objects, made in a sound store, answers what the ledger of
the store answers and leaves a sound store with the ledger's next entries
(`ObjectCall.follows`).  So does every run from the empty store
(`answers_eq_ledger`): blobs that are written, swapped and discarded on the way
are never seen.
-/

namespace Depot

set_option autoImplicit false

open Depot.Http
open Depot.Text
open Depot.Time

namespace Store

/-! ## Following what is specified -/

/-- An outcome is as specified: it has the same fault and leaves the shelf as it was, or it has the
same answer, as far as that is seen, and leaves the specified shelf.  In both cases the store that
is left is sound, and all that is not the operation's own is spared. -/
inductive Follows {α β : Type} (theirs : String → Prop) (view : α → β) (s : Store) :
    Except StoreFault α × Store → Except StoreFault (β × Shelf) → Prop where
  | answered {a : α} {b : β} {t : Store} {after : Shelf} (seen : view a = b)
      (becomes : Becomes theirs s t after) : Follows theirs view s (.ok a, t) (.ok (b, after))
  | failed {fault : StoreFault} {t : Store} (becomes : Becomes theirs s t s.shelf) :
      Follows theirs view s (.error fault, t) (.error fault)

namespace Follows

variable {α β α' β' : Type} {theirs : String → Prop} {view : α → β} {s : Store}
  {done : Except StoreFault α × Store} {expected : Except StoreFault (β × Shelf)}

theorem sound (follows : Follows theirs view s done expected) : done.2.Sound := by
  cases follows with
  | answered _ becomes => exact becomes.sound
  | failed becomes => exact becomes.sound

theorem spares (follows : Follows theirs view s done expected) : Spares theirs s done.2 := by
  cases follows with
  | answered _ becomes => exact becomes.spares
  | failed becomes => exact becomes.spares

/-- What is done with an answer is done with what is seen of it. -/
theorem map {view' : α' → β'} {f : α → α'} {g : β → β'} {action : Action α}
    (sees : ∀ a, view' (f a) = g (view a))
    (follows : Follows theirs view s (outcome action s) expected) :
    Follows theirs view' s (outcome (f <$> action) s) (expected.map (Prod.map g id)) := by
  rw [outcome_map]
  generalize outcome action s = ended at follows
  cases follows with
  | answered seen becomes => exact .answered (seen ▸ sees _) becomes
  | failed becomes => exact .failed becomes

end Follows

/-- An operation on a ledger is one on the objects of a shelf. -/
def onObjects {α : Type} (change : Ledger → Except StoreFault (α × Ledger)) (shelf : Shelf) :
    Except StoreFault (α × Shelf) :=
  (change shelf.objects).map fun (a, objects) => (a, { shelf with objects })

/-- A look at a ledger leaves the shelf as it is. -/
def looking {α : Type} (look : Ledger → Except StoreFault α) (shelf : Shelf) :
    Except StoreFault (α × Shelf) :=
  (look shelf.objects).map fun a => (a, shelf)

namespace Sound

variable {theirs : String → Prop} {s : Store}

theorem placed (sound : s.Sound) : s.placed = s := by
  have same : { s.health with blobPlace := true } = s.health := by rw [sound.health]
  rw [Store.placed, same]

theorem takes (sound : s.Sound) (identifier : String) : s.takes identifier = true := by
  simp [Store.takes, sound.health]

theorem fetch_shelf (s : Store) (identifier : String) :
    Ledger.fetch s.shelf.objects identifier =
      match s.objects.find? identifier with
      | some row => .ok (s.recordOf row)
      | none => .error (.notFound identifier) := by
  unfold Ledger.fetch
  rw [find?_shelf_objects]
  cases s.objects.find? identifier <;> rfl

end Sound

/-! ## Blobs joined -/

/-- Blobs that are there are joined in their order. -/
theorem joined_eq {s : Store} {blobs : List Nat} (bytes : Nat → ByteArray)
    (there : ∀ blob, blob ∈ blobs → s.blobs.find? blob = some (bytes blob)) :
    s.joined blobs = .ok ((blobs.map bytes).foldl (· ++ ·) ByteArray.empty) := by
  have each : blobs.mapM s.content = .ok (blobs.map bytes) := by
    induction blobs with
    | nil => rfl
    | cons blob rest ih =>
        have first : s.content blob = .ok (bytes blob) := by
          rw [content, there blob List.mem_cons_self]
        rw [List.mapM_cons, first, ih fun blob' member => there blob' (.tail _ member)]
        rfl
  rw [joined, each]
  rfl

/-! ## Committing -/

theorem withoutAll_eq (s : Store) (blobs : List Nat) :
    s.withoutAll blobs = { s with blobs := s.blobs.eraseAll blobs } := by
  unfold withoutAll Table.eraseAll
  induction blobs generalizing s with
  | nil => rfl
  | cons blob rest ih => exact ih (s.without blob)

/-- The newest blob stays when older ones go. -/
theorem Tidy.insert_eraseAll {holding : Holder → Option Holding} {blobs : Table Nat ByteArray}
    {next : Nat} (tidy : Tidy holding blobs next) (holder : Holder) (bytes : ByteArray) :
    (blobs.insert next bytes).eraseAll (spent holding holder) =
      (blobs.eraseAll (spent holding holder)).insert next bytes := by
  have kept : next ∉ spent holding holder := by
    intro member
    obtain ⟨holder', h, -, holds, same⟩ := (mem_spent_iff holding holder next).mp member
    exact absurd same (Nat.ne_of_lt (tidy.blob_lt holds))
  refine Table.ext_find? fun blob => ?_
  rw [Table.find?_eraseAll, Table.find?_insert, Table.find?_insert, Table.find?_eraseAll]
  by_cases here : blob = next
  · subst here
    rw [if_neg kept, if_pos rfl, if_pos rfl]
  · rw [if_neg here, if_neg here]

namespace Sound

variable {theirs : String → Prop} {s : Store}

/-- Committing the newest blob of a sound store stores it. -/
theorem outcome_commit (sound : s.Sound) (identifier : String) (attributes : Attributes)
    (bytes : ByteArray) (now : Instant) :
    outcome
        (commit identifier (s.draft bytes) attributes
          ((s.objects.find? identifier).map (objectAt identifier)) now)
        (s.kept bytes) =
      (.ok (objectOf identifier (s.draft bytes) attributes now),
        s.stored identifier attributes bytes now) := by
  have takes : (s.kept bytes).takes identifier = true := sound.takes identifier
  have freed : (((s.objects.find? identifier).map (objectAt identifier)).map Object.blob).toList =
      spent s.holding (.object identifier) := by
    rw [spent_object, Option.map_map]
    rfl
  rw [Store.outcome_commit, if_pos takes, freed, withoutAll_eq, Store.stored,
    ← sound.tidy.insert_eraseAll]
  rfl

/-- The outcome of storing new content is that of setting its record. -/
theorem follows_commit (sound : s.Sound) {identifier : String}
    (valid : Name.checkIdentifier identifier = .ok ()) (mine : ¬ theirs identifier)
    (attributes : Attributes) (bytes : ByteArray) (now : Instant) :
    Follows theirs Object.unnumbered s
      (outcome
        (commit identifier (s.draft bytes) attributes
          ((s.objects.find? identifier).map (objectAt identifier)) now)
        (s.kept bytes))
      (onObjects (fun ledger => .ok (Ledger.enter ledger identifier ⟨bytes, attributes, now⟩))
        s.shelf) := by
  rw [sound.outcome_commit]
  exact .answered rfl (sound.becomes_stored valid mine attributes bytes now)

/-- A blob that goes again leaves nothing but its number behind. -/
theorem without_kept (sound : s.Sound) (bytes : ByteArray) :
    (s.kept bytes).without s.nextBlob = s.skipped := by
  unfold kept without Store.skipped
  rw [Table.erase_insert sound.tidy.next_free]

/-! ## Operations -/

theorem follows_put (sound : s.Sound) {identifier : String} (mine : ¬ theirs identifier)
    (attributes : Attributes) (body : Body) (now : Instant) :
    Follows theirs Object.unnumbered s (outcome (put identifier attributes body now) s)
      (onObjects (Ledger.put · identifier attributes body now) s.shelf) := by
  rw [outcome_put, sound.placed]
  unfold onObjects Ledger.put
  rw [Ledger.checked_eq, Ledger.whole_eq]
  cases valid : Name.checkIdentifier identifier with
  | error fault => exact .failed sound.becomes_same
  | ok _ =>
      cases body.contents with
      | error fault => exact .failed sound.becomes_same
      | ok bytes =>
          dsimp only
          rw [sound.lookup]
          exact sound.follows_commit valid mine attributes bytes now

theorem follows_putPieces (sound : s.Sound) {identifier : String} (mine : ¬ theirs identifier)
    (attributes : Attributes) (pieces : List ByteArray) (now : Instant) :
    Follows theirs Object.unnumbered s (outcome (putPieces identifier attributes pieces now) s)
      (onObjects (Ledger.putPieces · identifier attributes pieces now) s.shelf) := by
  have same (ledger : Ledger) : ledger.putPieces identifier attributes pieces now =
      ledger.put identifier attributes (pieces.map .data) now := by
    unfold Ledger.putPieces Ledger.put
    rw [Ledger.whole_eq, contents_of_pieces]
    rfl
  rw [funext same]
  exact sound.follows_put mine attributes (pieces.map .data) now

theorem follows_update (sound : s.Sound) {identifier : String} (mine : ¬ theirs identifier)
    (body : Body) (now : Instant) :
    Follows theirs Object.unnumbered s (outcome (update identifier body now) s)
      (onObjects (Ledger.update · identifier body now) s.shelf) := by
  rw [outcome_update, sound.placed]
  unfold onObjects Ledger.update
  rw [Ledger.checked_eq, Ledger.whole_eq]
  cases valid : Name.checkIdentifier identifier with
  | error fault => exact .failed sound.becomes_same
  | ok _ =>
      cases body.contents with
      | error fault => exact .failed sound.becomes_same
      | ok bytes =>
          dsimp only
          rw [sound.fetched, fetch_shelf]
          cases found : s.objects.find? identifier with
          | none =>
              rw [sound.without_kept]
              exact .failed sound.becomes_skipped
          | some row =>
              have committed :=
                sound.follows_commit valid mine (s.recordOf row).attributes bytes now
              rw [found] at committed
              exact committed

/-- The parts of the store that an append goes through: the new bytes are there, then the old and
the new together, then neither the old nor the new alone. -/
theorem stored_after_append (sound : s.Sound) {identifier : String} {row : Row}
    (found : s.objects.find? identifier = some row) (attributes : Attributes)
    (bytes whole : ByteArray) (now : Instant) :
    ((((s.kept bytes).kept whole).pointing identifier
          (rowOf (s.skipped.draft whole) attributes now)).without row.blob).without s.nextBlob =
      s.skipped.stored identifier attributes whole now := by
  have freed : spent s.skipped.holding (.object identifier) = [row.blob] := by
    rw [spent_object]
    show ((s.objects.find? identifier).map Row.blob).toList = _
    rw [found]
    rfl
  have blobs : ((((s.blobs.insert s.nextBlob bytes).insert (s.nextBlob + 1) whole).erase
        row.blob).erase s.nextBlob) =
      (s.blobs.eraseAll [row.blob]).insert (s.nextBlob + 1) whole := by
    have newer : row.blob < s.nextBlob := sound.tidy.blob_lt (holding_object found)
    refine Table.ext_find? fun blob => ?_
    simp only [Table.find?_erase, Table.find?_insert, Table.find?_eraseAll, List.mem_singleton]
    by_cases here : blob = s.nextBlob
    · have absent := sound.tidy.next_free
      simp [here, absent]
    · by_cases newest : blob = s.nextBlob + 1
      · have other : blob ≠ row.blob := by omega
        simp [newest, newest ▸ other]
      · simp [here, newest]
  rw [Store.stored, freed]
  exact congrArg
    (fun blobs : Table Nat ByteArray =>
      ({ s with
        objects := s.objects.insert identifier (rowOf (s.skipped.draft whole) attributes now)
        blobs
        nextBlob := s.nextBlob + 1 + 1 } : Store))
    blobs

/-- The old bytes of an object and the newest blob, joined. -/
theorem joined_newest (sound : s.Sound) {identifier : String} {row : Row}
    (found : s.objects.find? identifier = some row) (bytes : ByteArray) :
    (s.kept bytes).joined [(objectAt identifier row).blob, (s.draft bytes).blob] =
      .ok ((s.recordOf row).bytes ++ bytes) := by
  have older : row.blob ≠ s.nextBlob := Nat.ne_of_lt (sound.tidy.blob_lt (holding_object found))
  show (s.kept bytes).joined [row.blob, s.nextBlob] = .ok (s.bytesOf row.blob ++ bytes)
  rw [joined_eq fun blob => if blob = s.nextBlob then bytes else s.bytesOf row.blob]
  · simp [older]
  · intro blob member
    rw [kept, Table.find?_insert]
    split
    · rfl
    · next other =>
        have same : blob = row.blob := by simpa [other] using member
        rw [same]
        exact (sound.held_object found).1

/-- Adding bytes to an object stores the old and the new together. -/
theorem outcome_append (sound : s.Sound) {identifier : String} {row : Row}
    (valid : Name.checkIdentifier identifier = .ok ())
    (found : s.objects.find? identifier = some row) {body : Body} {bytes : ByteArray}
    (read : body.contents = .ok bytes) (now : Instant) :
    let known := s.recordOf row
    outcome (append identifier body now) s =
      (.ok
          (objectOf identifier (s.skipped.draft (known.bytes ++ bytes)) known.attributes now),
        s.skipped.stored identifier known.attributes (known.bytes ++ bytes) now) := by
  intro known
  have fetched : (s.kept bytes).fetched identifier = .ok (objectAt identifier row) := by
    rw [fetched_kept, sound.fetched, found]
  have placed : (s.kept bytes).placed = s.kept bytes := by
    rw [Store.placed, kept, sound.health]
  have takes : ((s.kept bytes).kept (known.bytes ++ bytes)).takes identifier = true :=
    sound.takes identifier
  rw [Store.outcome_append, valid, read, sound.placed]
  dsimp only
  rw [outcome_joinTo, fetched]
  dsimp only
  rw [sound.joined_newest found, placed]
  dsimp only
  rw [Store.outcome_commit, if_pos takes]
  exact congrArg (Prod.mk _)
    (sound.stored_after_append found known.attributes bytes (known.bytes ++ bytes) now)

theorem follows_append (sound : s.Sound) {identifier : String} (mine : ¬ theirs identifier)
    (body : Body) (now : Instant) :
    Follows theirs Object.unnumbered s (outcome (append identifier body now) s)
      (onObjects (Ledger.append · identifier body now) s.shelf) := by
  unfold onObjects Ledger.append
  rw [Ledger.checked_eq, Ledger.whole_eq]
  cases valid : Name.checkIdentifier identifier with
  | error fault =>
      rw [Store.outcome_append, valid]
      exact .failed sound.becomes_same
  | ok _ =>
      cases read : body.contents with
      | error fault =>
          rw [Store.outcome_append, valid, read, sound.placed]
          exact .failed sound.becomes_same
      | ok bytes =>
          dsimp only
          rw [fetch_shelf]
          cases found : s.objects.find? identifier with
          | none =>
              have missing : (s.kept bytes).fetched identifier = .error (.notFound identifier) := by
                rw [fetched_kept, sound.fetched, found]
              rw [Store.outcome_append, valid, read, sound.placed]
              dsimp only
              rw [outcome_joinTo, missing]
              dsimp only
              rw [sound.without_kept]
              exact .failed sound.becomes_skipped
          | some row =>
              rw [sound.outcome_append valid found read]
              have becomes := sound.skipped.becomes_stored valid mine (s.recordOf row).attributes
                ((s.recordOf row).bytes ++ bytes) now
              exact .answered rfl
                { becomes with spares := sound.becomes_skipped.spares.trans becomes.spares }

theorem follows_rename (sound : s.Sound) {old new : String} (mineOld : ¬ theirs old)
    (mineNew : ¬ theirs new) (now : Instant) :
    Follows theirs Object.unnumbered s (outcome (rename old new now) s)
      (onObjects (Ledger.rename · old new now) s.shelf) := by
  rw [outcome_rename]
  unfold onObjects Ledger.rename
  rw [Ledger.checked_eq, Ledger.checked_eq]
  cases Name.checkIdentifier old with
  | error fault => exact .failed sound.becomes_same
  | ok _ =>
      cases valid : Name.checkIdentifier new with
      | error fault => exact .failed sound.becomes_same
      | ok _ =>
          dsimp only
          rw [sound.fetched, fetch_shelf]
          cases found : s.objects.find? old with
          | none => exact .failed sound.becomes_same
          | some row =>
              by_cases same : old = new
              · simp only [if_pos same]
                exact .answered (sound.unnumbered_objectAt found) sound.becomes_same
              · have has : s.shelf.objects.has new = (s.objects.find? new).isSome := by
                  rw [Table.has, find?_shelf_objects, Option.isSome_map]
                simp only [if_neg same, has]
                rw [sound.lookup]
                cases taken : s.objects.find? new with
                | some row' => exact .failed sound.becomes_same
                | none =>
                    have moved := sound.moved found valid taken now
                    have there : (s.moved old new { row with modified := now }).objects.find? new =
                        some { row with modified := now } := Table.find?_insert_self _ _ _
                    rw [sound.health]
                    dsimp only [Option.map_none]
                    rw [moved.readRow there]
                    exact .answered (moved.unnumbered_objectAt there)
                      (sound.becomes_moved found valid taken mineOld mineNew now)

/-- A copy looks its target up, also when that is its source. -/
theorem target_of_copy (sound : s.Sound) {source : String} {row : Row}
    (found : s.objects.find? source = some row) (destination : String) :
    (if source = destination then .ok (some (objectAt source row))
      else s.lookup destination : Except StoreFault (Option Object)) =
      .ok ((s.objects.find? destination).map (objectAt destination)) := by
  split
  · next same => rw [← same, found, Option.map_some]
  · exact sound.lookup destination

theorem joined_content (sound : s.Sound) {identifier : String} {row : Row}
    (found : s.objects.find? identifier = some row) :
    s.joined [(objectAt identifier row).blob] = .ok (s.recordOf row).bytes := by
  rw [joined_eq s.bytesOf]
  · simp [recordOf, objectAt]
  · intro blob member
    rw [List.mem_singleton.mp member]
    exact (sound.held_object found).1

theorem follows_copy (sound : s.Sound) (source : String) {destination : String}
    (mine : ¬ theirs destination) (attributes? : Option Attributes) (now : Instant) :
    Follows theirs Object.unnumbered s
      (outcome (copy source destination attributes? now) s)
      (onObjects (Ledger.copy · source destination attributes? now) s.shelf) := by
  rw [outcome_copy]
  unfold onObjects Ledger.copy
  rw [Ledger.checked_eq, Ledger.checked_eq]
  cases Name.checkIdentifier source with
  | error fault => exact .failed sound.becomes_same
  | ok _ =>
      cases valid : Name.checkIdentifier destination with
      | error fault => exact .failed sound.becomes_same
      | ok _ =>
          dsimp only
          rw [sound.fetched, fetch_shelf]
          cases found : s.objects.find? source with
          | none => exact .failed sound.becomes_same
          | some row =>
              dsimp only
              rw [sound.target_of_copy found, sound.joined_content found, sound.placed]
              exact sound.follows_commit valid mine _ _ now

theorem follows_delete (sound : s.Sound) {identifier : String} (mine : ¬ theirs identifier) :
    Follows theirs Object.unnumbered s (outcome (delete identifier) s)
      (onObjects (Ledger.delete · identifier) s.shelf) := by
  rw [outcome_delete, sound.health]
  unfold onObjects Ledger.delete
  rw [Ledger.checked_eq]
  cases Name.checkIdentifier identifier with
  | error fault => exact .failed sound.becomes_same
  | ok _ =>
      dsimp only
      rw [fetch_shelf]
      cases found : s.objects.find? identifier with
      | none => exact .failed sound.becomes_same
      | some row =>
          have state : (s.unlisted identifier).without row.blob = s.removed identifier := by
            rw [Store.removed, spent_object, found]
            rfl
          dsimp only
          rw [sound.readRow found]
          show Follows _ _ _ (_, (s.unlisted identifier).without row.blob) _
          rw [state]
          exact .answered (sound.unnumbered_objectAt found) (sound.becomes_removed mine)

/-! ## Operations that only look -/

theorem follows_head (sound : s.Sound) (identifier : String) :
    Follows theirs Object.unnumbered s (outcome (head identifier) s)
      (looking (Ledger.head · identifier) s.shelf) := by
  rw [outcome_head]
  unfold looking Ledger.head
  rw [Ledger.checked_eq]
  cases Name.checkIdentifier identifier with
  | error fault => exact .failed sound.becomes_same
  | ok _ =>
      dsimp only
      rw [sound.fetched, fetch_shelf]
      cases found : s.objects.find? identifier with
      | none => exact .failed sound.becomes_same
      | some row => exact .answered (sound.unnumbered_objectAt found) sound.becomes_same

theorem peeked (sound : s.Sound) (identifier : String) :
    s.peeked identifier =
      match s.objects.find? identifier with
      | some row => .ok ⟨objectAt identifier row, (s.recordOf row).bytes⟩
      | none => .error (.notFound identifier) := by
  unfold Store.peeked
  rw [sound.fetched]
  cases found : s.objects.find? identifier with
  | none => rfl
  | some row =>
      have there : s.content (objectAt identifier row).blob = .ok (s.recordOf row).bytes := by
        show s.content row.blob = _
        rw [content, (sound.held_object found).1]
        rfl
      dsimp only
      rw [there]
      rfl

theorem follows_peek (sound : s.Sound) (identifier : String) :
    Follows theirs Content.unnumbered s (outcome (peek identifier) s)
      (looking (Ledger.read · identifier) s.shelf) := by
  rw [outcome_peek]
  unfold looking Ledger.read
  rw [Ledger.checked_eq]
  cases Name.checkIdentifier identifier with
  | error fault => exact .failed sound.becomes_same
  | ok _ =>
      dsimp only
      rw [sound.peeked, fetch_shelf]
      cases found : s.objects.find? identifier with
      | none => exact .failed sound.becomes_same
      | some row =>
          refine .answered ?_ sound.becomes_same
          rw [← sound.unnumbered_objectAt found]
          rfl

/-- In a sound store the content of an object has the recorded digest. -/
theorem read_eq_peek (sound : s.Sound) (identifier : String) :
    outcome (read identifier) s = outcome (peek identifier) s := by
  rw [outcome_read, outcome_peek]
  cases Name.checkIdentifier identifier with
  | error fault => rfl
  | ok _ =>
      dsimp only
      rw [sound.peeked]
      cases found : s.objects.find? identifier with
      | none => rfl
      | some row =>
          have same : etagOf (s.recordOf row).bytes = (objectAt identifier row).etag :=
            (sound.held_object found).2.2.symm
          exact if_pos same

theorem follows_read (sound : s.Sound) (identifier : String) :
    Follows theirs Content.unnumbered s (outcome (read identifier) s)
      (looking (Ledger.read · identifier) s.shelf) :=
  sound.read_eq_peek identifier ▸ sound.follows_peek identifier

/-! ## Listings -/

/-- All rows of a sound store can be read. -/
theorem readRows (sound : s.Sound) {rows : List (String × Row)}
    (known : ∀ e, e ∈ rows → e ∈ s.objects.entries) :
    Store.readRows rows = .ok (rows.map fun e => objectAt e.1 e.2) :=
  readRows_of_metadata fun e member =>
    (sound.rows _ _ (Table.mem_entries_iff.mp (known e member))).2

/-- Without the numbers of their blobs, objects are their records. -/
theorem unnumbered_rows (sound : s.Sound) {rows : List (String × Row)}
    (known : ∀ e, e ∈ rows → e ∈ s.objects.entries) :
    (rows.map fun e => objectAt e.1 e.2).map Object.unnumbered =
      rows.map fun e => (s.recordOf e.2).object e.1 := by
  rw [List.map_map]
  refine List.map_congr_left fun e member => ?_
  exact sound.unnumbered_objectAt (Table.mem_entries_iff.mp (known e member))

/-- The rows under a beginning are those of the records under it. -/
theorem rowsUnder_shelf (sound : s.Sound) (beginning : String) :
    (s.rowsUnder beginning).map (fun e => (e.1, s.recordOf e.2)) =
      Ledger.under s.shelf.objects beginning := by
  have same : ∀ e, e ∈ s.objects.entries → isUnder beginning e.1 = beginsWith beginning e.1 := by
    intro e member
    have valid := (sound.rows e.1 e.2 (Table.mem_entries_iff.mp member)).1
    unfold isUnder
    cases within : beginsWith beginning e.1 with
    | false => rw [Bool.and_false]
    | true =>
        have clean : '\x00' ∉ beginning.toList := fun inside =>
          Name.noNul_of_valid valid
            ((List.isPrefixOf_iff_prefix.mp within).subset inside)
        simpa using clean
  show _ = (s.objects.entries.map fun e => (e.1, s.recordOf e.2)).filter _
  rw [List.filter_map, rowsUnder, List.filter_congr same]
  rfl

theorem mem_entries_of_under {beginning : String} {e : String × Row}
    (member : e ∈ s.rowsUnder beginning) : e ∈ s.objects.entries :=
  (List.mem_filter.mp member).1

theorem follows_list (sound : s.Sound) (beginning : String) :
    Follows theirs (List.map Object.unnumbered) s (outcome (list beginning) s)
      (.ok (Ledger.list s.shelf.objects beginning, s.shelf)) := by
  have known : ∀ e, e ∈ s.rowsUnder beginning → e ∈ s.objects.entries :=
    fun _ => mem_entries_of_under
  rw [outcome_list, sound.health, sound.readRows known]
  refine .answered ?_ sound.becomes_same
  rw [sound.unnumbered_rows known, Ledger.list, ← sound.rowsUnder_shelf, List.map_map]
  rfl

end Sound

/-! ## Calls and runs -/

theorem onObjects_map {α β : Type} (change : Ledger → Except StoreFault (α × Ledger))
    (f : α → β) (shelf : Shelf) :
    onObjects (fun ledger => (change ledger).map (Prod.map f id)) shelf =
      (onObjects change shelf).map (Prod.map f id) := by
  unfold onObjects
  dsimp only
  cases change shelf.objects <;> rfl

theorem map_beside {ε α β γ : Type} (found : Except ε α) (f : α → β) (c : γ) :
    (found.map fun a => (f a, c)) = (found.map fun a => (a, c)).map (Prod.map f id) := by
  cases found <;> rfl

theorem onObjects_looking {α β : Type} (look : Ledger → Except StoreFault α) (f : α → β)
    (shelf : Shelf) :
    onObjects (fun ledger => (look ledger).map fun a => (f a, ledger)) shelf =
      (looking look shelf).map (Prod.map f id) := by
  unfold looking
  rw [← map_beside, onObjects]
  dsimp only
  cases look shelf.objects <;> rfl

/-- Every operation on objects follows the ledger. -/
theorem ObjectCall.follows {s : Store} (sound : s.Sound) (call : ObjectCall) :
    Follows (fun _ => False) ObjectReply.unnumbered s (outcome call.perform s)
      (onObjects call.onLedger s.shelf) := by
  cases call with
  | put identifier attributes body now =>
      exact onObjects_map _ _ _ ▸ (sound.follows_put not_false attributes body now).map fun _ => rfl
  | putPieces identifier attributes pieces now =>
      exact onObjects_map _ _ _ ▸
        (sound.follows_putPieces not_false attributes pieces now).map fun _ => rfl
  | update identifier body now =>
      exact onObjects_map _ _ _ ▸ (sound.follows_update not_false body now).map fun _ => rfl
  | append identifier body now =>
      exact onObjects_map _ _ _ ▸ (sound.follows_append not_false body now).map fun _ => rfl
  | rename old new now =>
      exact onObjects_map _ _ _ ▸ (sound.follows_rename not_false not_false now).map fun _ => rfl
  | copy source destination attributes? now =>
      exact onObjects_map _ _ _ ▸
        (sound.follows_copy source not_false attributes? now).map fun _ => rfl
  | delete identifier =>
      exact onObjects_map _ _ _ ▸ (sound.follows_delete not_false).map fun _ => rfl
  | head identifier =>
      exact onObjects_looking _ _ _ ▸ (sound.follows_head identifier).map fun _ => rfl
  | read identifier =>
      exact onObjects_looking _ _ _ ▸ (sound.follows_read identifier).map fun _ => rfl
  | list beginning =>
      have sees (objects : List Object) : ObjectReply.unnumbered (.objects objects) =
          .objects (objects.map Object.unnumbered) := rfl
      exact (sound.follows_list beginning).map sees

/-- What a store answers to calls that are made one after another, without the numbers of blobs. -/
def answers : List ObjectCall → Store → List (Except StoreFault ObjectReply)
  | [], _ => []
  | call :: rest, s =>
      let done := outcome call.perform s
      done.1.map ObjectReply.unnumbered :: answers rest done.2

/-- In a sound store, calls are answered as by the ledger of its objects. -/
theorem Sound.answers_eq {s : Store} (sound : s.Sound) (calls : List ObjectCall) :
    answers calls s = ledgerAnswers calls s.shelf.objects := by
  induction calls generalizing s with
  | nil => rfl
  | cons call rest ih =>
      have follows := call.follows sound
      unfold answers ledgerAnswers
      unfold onObjects at follows
      generalize outcome call.perform s = done at follows
      cases specified : call.onLedger s.shelf.objects with
      | error fault =>
          rw [specified] at follows
          cases follows with
          | failed becomes =>
              dsimp only
              rw [ih becomes.sound, becomes.shelf]
              rfl
      | ok result =>
          rw [specified] at follows
          cases follows with
          | answered seen becomes =>
              dsimp only
              rw [ih becomes.sound, becomes.shelf, ← seen]
              rfl

/-- **Every run of operations on objects from the empty store is answered as by a finite map.** -/
theorem answers_eq_ledger (calls : List ObjectCall) :
    answers calls Store.empty = ledgerAnswers calls Table.empty :=
  sound_empty.answers_eq calls

end Store

end Depot

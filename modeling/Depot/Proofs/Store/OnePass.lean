import Depot.Proofs.Store.Pages
import Depot.Proofs.Store.Reachable
import Mathlib.Data.List.Infix
import Mathlib.Data.List.Pairwise

/-!
# A listing in one pass

A page can be told without batches, cursors and what was shown last: sort the
identifiers with the asked-for beginning by their bytes, roll each of them up,
drop the repetitions, keep what comes after the resume point, and show as much
of that as there is room for (`entriesAtOnce`).  The page that is collected row
by row is that one (`collectPage_at_once`).

Rows are read in batches, and each batch is asked for by the last identifier of
the one before it.  That reading ends, in any store: a batch that is full takes
its rows off what is left, so that a turn is needed for every full batch and one
more (`outcome_collectByTurns`).
-/

namespace Depot

set_option autoImplicit false

open Depot.Text

/-! ## The shortest initial part -/

namespace Text

/-- A text up to the end of the first occurrence of a word in it: its shortest initial part that
ends in the word. -/
def upToWord? (word text : String) : Option String :=
  (text.toList.inits.find? fun lead => word.toList.isSuffixOf lead).map String.ofList

/-- The shortest initial part that ends in a word ends with its first occurrence. -/
theorem find_inits_eq_some_iff {word text lead : List Char} :
    (text.inits.find? fun lead => word.isSuffixOf lead) = some lead ↔
      ∃ before after, FirstAt word text before after ∧ lead = before ++ word := by
  rw [List.find?_eq_some_iff_getElem]
  simp only [List.getElem_inits, List.length_inits, List.isSuffixOf_iff_suffix,
    Bool.not_eq_true', ← Bool.not_eq_true]
  constructor
  · rintro ⟨⟨before, ends⟩, n, inside, rfl, shortest⟩
    have whole : text = before ++ word ++ text.drop n := by
      rw [ends, List.take_append_drop]
    refine ⟨before, text.drop n, ⟨whole, fun earlier rest found => ?_⟩, ends.symm⟩
    by_contra short
    have length := congrArg List.length ends
    rw [List.length_append, List.length_take, Nat.min_eq_left (by omega)] at length
    refine shortest (earlier ++ word).length ?_ ⟨earlier, ?_⟩
    · rw [List.length_append]
      omega
    · rw [found, List.take_left]
  · rintro ⟨before, after, cut, rfl⟩
    have length := congrArg List.length cut.whole
    rw [List.length_append] at length
    refine ⟨⟨before, rfl⟩, (before ++ word).length, by omega, ?_, fun j shorter ends => ?_⟩
    · rw [cut.whole, List.take_left]
    · obtain ⟨earlier, ends⟩ := ends
      have first := cut.first earlier (text.drop j) (by rw [ends, List.take_append_drop])
      have short := congrArg List.length ends
      rw [List.length_append, List.length_take] at short
      rw [List.length_append] at shorter
      omega

theorem upToWord?_eq_some_iff {word text part : String} :
    upToWord? word text = some part ↔
      ∃ before after, FirstAt word.toList text.toList before after ∧
        part = String.ofList before ++ word := by
  unfold upToWord?
  rw [Option.map_eq_some_iff]
  have joined (before : List Char) :
      String.ofList (before ++ word.toList) = String.ofList before ++ word := by
    rw [String.ofList_append, String.ofList_toList]
  constructor
  · rintro ⟨lead, found, rfl⟩
    obtain ⟨before, after, cut, rfl⟩ := find_inits_eq_some_iff.mp found
    exact ⟨before, after, cut, joined before⟩
  · rintro ⟨before, after, cut, rfl⟩
    exact ⟨_, find_inits_eq_some_iff.mpr ⟨before, after, cut, rfl⟩, joined before⟩

end Text

namespace Store

/-! ## The listing -/

/-- The rows of the identifiers that begin with a text, in ascending order of the bytes of their
identifiers. -/
def rowsByBytes (s : Store) (beginning : String) : List (String × Row) :=
  (s.objects.entries.filter fun e => beginsWith beginning e.1).mergeSort
    fun a b => decide (bytes a.1 ≤ bytes b.1)

/-- What a row is listed as: the common stem up to the end of the first delimiter that follows the
asked-for stem, or the object. -/
def PageRequest.entryAtOnce (request : PageRequest) (e : String × Row) : PageEntry :=
  let rest := String.ofList (e.1.toList.drop (request.base ++ request.stem).length)
  match request.delimiter?.bind fun delimiter => upToWord? delimiter rest with
  | some part => .commonStem (request.stem ++ part)
  | none => .object (request.stem ++ rest) (objectAt e.1 e.2)

/-- The entries of a listing after its resume point, each once. -/
def entriesAtOnce (s : Store) (request : PageRequest) : List PageEntry :=
  (((s.rowsByBytes (request.base ++ request.stem)).map request.entryAtOnce).pwFilter
      fun entry next => entry.key ≠ next.key).filter
    fun entry => request.after?.all fun after => decide (bytes after < bytes entry.key)

/-- Tables keep identifiers in the order of their bytes. -/
theorem rowsByBytes_eq (s : Store) (beginning : String) :
    s.rowsByBytes beginning =
      s.objects.entries.filter fun e => beginsWith beginning e.1 := by
  refine List.mergeSort_of_pairwise ((s.objects.sorted.filter _).imp fun {a b} below => ?_)
  exact decide_eq_true (List.le_of_lt (bytes_lt_iff.mpr below))

theorem mem_rowsByBytes_iff {s : Store} {beginning identifier : String} {row : Row} :
    (identifier, row) ∈ s.rowsByBytes beginning ↔
      ∃ rest, identifier = beginning ++ rest ∧ s.objects.find? identifier = some row := by
  rw [rowsByBytes_eq, List.mem_filter, Table.mem_entries_iff, beginsWith_iff_exists_append,
    and_comm, exists_and_right]

/-- A key is rolled up to the end of the first delimiter after the stem. -/
theorem PageRequest.rolledUp?_append (request : PageRequest) (rest : String) :
    request.rolledUp? (request.stem ++ rest) =
      (request.delimiter?.bind fun delimiter => upToWord? delimiter rest).map
        (request.stem ++ ·) := by
  ext common
  rw [rolledUp?_eq_some_iff, Option.map_eq_some_iff]
  simp only [Option.bind_eq_some_iff, upToWord?_eq_some_iff]
  constructor
  · rintro ⟨delimiter, rest', before, after, known, same, cut, rfl⟩
    have lists := congrArg String.toList same
    rw [String.toList_append, String.toList_append] at lists
    rw [← List.append_cancel_left lists] at cut
    exact ⟨_, ⟨delimiter, known, before, after, cut, rfl⟩, (String.append_assoc ..).symm⟩
  · rintro ⟨_, ⟨delimiter, known, before, after, cut, rfl⟩, rfl⟩
    exact ⟨delimiter, rest, before, after, known, rfl, cut, (String.append_assoc ..).symm⟩

/-- A row with the asked-for beginning is listed as its object is. -/
theorem PageRequest.entryAtOnce_eq (request : PageRequest) (rest : String) (row : Row) :
    request.entryAtOnce (request.base ++ (request.stem ++ rest), row) =
      request.entryOf (objectAt (request.base ++ (request.stem ++ rest)) row) := by
  have back : String.ofList ((request.base ++ (request.stem ++ rest)).toList.drop
      (request.base ++ request.stem).length) = rest := by
    rw [← String.append_assoc, String.toList_append, ← String.length_toList, List.drop_left,
      String.ofList_toList]
  have key : request.keyOf (objectAt (request.base ++ (request.stem ++ rest)) row).identifier =
      request.stem ++ rest := request.keyOf_append _
  unfold entryAtOnce entryOf
  rw [key, back]
  dsimp only
  rw [request.rolledUp?_append]
  cases request.delimiter?.bind fun delimiter => upToWord? delimiter rest <;> rfl

/-- Of rising entries, those that are equal stand for the same common stem. -/
theorem PageEntry.Rises.eq_of_key_eq {entry next : PageEntry} (rises : entry.Rises next)
    (same : entry.key = next.key) : entry = next := by
  rcases rises with ⟨stem, rfl, rfl⟩ | below
  · rfl
  · exact absurd (same ▸ below) Std.lt_irrefl

/-- Dropping repetitions from rising entries drops no entry altogether. -/
theorem mem_pwFilter_iff {entries : List PageEntry} (rising : entries.Pairwise PageEntry.Rises)
    {entry : PageEntry} :
    entry ∈ entries.pwFilter (fun entry next => entry.key ≠ next.key) ↔ entry ∈ entries := by
  refine ⟨fun member => (List.pwFilter_sublist entries).subset member, fun member => ?_⟩
  induction entries with
  | nil => exact member
  | cons first rest ih =>
      obtain ⟨rises, rising⟩ := List.pairwise_cons.mp rising
      by_cases new : ∀ next ∈ rest.pwFilter (fun entry next => entry.key ≠ next.key),
          first.key ≠ next.key
      · rw [List.pwFilter_cons_of_pos new]
        rcases List.mem_cons.mp member with rfl | later
        · exact List.mem_cons_self
        · exact List.mem_cons_of_mem _ (ih rising later)
      · rw [List.pwFilter_cons_of_neg new]
        rcases List.mem_cons.mp member with rfl | later
        · simp only [not_forall, not_not] at new
          obtain ⟨next, among, same⟩ := new
          have later := (List.pwFilter_sublist rest).subset among
          exact (rises next later).eq_of_key_eq same ▸ among
        · exact ih rising later

/-- Rising entries ascend once repetitions are dropped. -/
theorem pwFilter_ascending {entries : List PageEntry}
    (rising : entries.Pairwise PageEntry.Rises) :
    (entries.pwFilter fun entry next => entry.key ≠ next.key).Pairwise
      fun entry next => entry.key < next.key := by
  have rising := rising.sublist
    (List.pwFilter_sublist (R := fun entry next => entry.key ≠ next.key) entries)
  refine (rising.and (List.pairwise_pwFilter entries)).imp fun {entry next} both => ?_
  obtain ⟨⟨stem, rfl, rfl⟩ | below, apart⟩ := both
  · exact absurd rfl apart
  · exact below

theorem entryAtOnce_rising (s : Store) (request : PageRequest) :
    ((s.rowsByBytes (request.base ++ request.stem)).map request.entryAtOnce).Pairwise
      PageEntry.Rises := by
  have sorted : (s.rowsByBytes (request.base ++ request.stem)).Pairwise fun a b => a.1 < b.1 := by
    rw [rowsByBytes_eq]
    exact s.objects.sorted.filter _
  rw [List.pairwise_map]
  refine sorted.imp_of_mem fun {a b} here there below => ?_
  obtain ⟨identifier, row⟩ := a
  obtain ⟨identifier', row'⟩ := b
  obtain ⟨rest, rfl, -⟩ := mem_rowsByBytes_iff.mp here
  obtain ⟨rest', rfl, -⟩ := mem_rowsByBytes_iff.mp there
  rw [String.append_assoc, String.append_assoc] at below ⊢
  rw [request.entryAtOnce_eq, request.entryAtOnce_eq]
  exact request.rises_of_lt (request.keyOf_append _) (request.keyOf_append _)
    (string_append_lt_append_iff.mp below)

/-- The entries that are listed at once are those of the objects under the stem, after the resume
point. -/
theorem mem_entriesAtOnce_iff {s : Store} {request : PageRequest} {entry : PageEntry} :
    entry ∈ s.entriesAtOnce request ↔
      (∃ rest row, s.objects.find? (request.base ++ (request.stem ++ rest)) = some row ∧
        entry =
          request.entryOf (objectAt (request.base ++ (request.stem ++ rest)) row)) ∧
      ∀ after, request.after? = some after → after < entry.key := by
  have beyond : (request.after?.all fun after => decide (bytes after < bytes entry.key)) = true ↔
      ∀ after, request.after? = some after → after < entry.key := by
    simp [Option.all_eq_true, bytes_lt_iff]
  rw [entriesAtOnce, List.mem_filter, mem_pwFilter_iff (s.entryAtOnce_rising request),
    List.mem_map, beyond]
  refine and_congr_left fun _ => ⟨?_, ?_⟩
  · rintro ⟨⟨identifier, row⟩, listed, rfl⟩
    obtain ⟨rest, rfl, found⟩ := mem_rowsByBytes_iff.mp listed
    rw [String.append_assoc] at found ⊢
    exact ⟨rest, row, found, request.entryAtOnce_eq rest row⟩
  · rintro ⟨rest, row, found, rfl⟩
    have listed := mem_rowsByBytes_iff.mpr ⟨rest, (String.append_assoc ..).symm, found⟩
    exact ⟨_, listed, request.entryAtOnce_eq rest row⟩

/-- What remains of a listing is what is listed at once. -/
theorem Listable.remaining_eq {s : Store} (listable : s.Listable) (request : PageRequest) :
    s.remaining request = s.entriesAtOnce request := by
  have ascending := (pwFilter_ascending (s.entryAtOnce_rising request)).filter
    fun entry => request.after?.all fun after => decide (bytes after < bytes entry.key)
  refine eq_of_ascending (s.remaining_ascending request) ascending fun entry => ?_
  exact listable.mem_remaining_iff.trans mem_entriesAtOnce_iff.symm

/-! ## Turn by turn -/

/-- Fills a page turn by turn.  Each turn reads a batch of rows, those after the last identifier of
the batch before; when there are not turns enough, there is no answer. -/
def PageRequest.fillByTurns (request : PageRequest) :
    Nat → PageDraft → Option String → Action (Option Page)
  | 0, _, _ => return none
  | turns + 1, draft, cursor? => do
      let batch ← listPage (request.base ++ request.stem) cursor? batchSize
      match batch.getLast? with
      | none => return some draft.close
      | some last =>
          match request.fill draft batch with
          | .inr page => return some page
          | .inl draft =>
              if batch.length < batchSize then return some draft.close
              else request.fillByTurns turns draft (some last.identifier)

/-- A page of at most `most` entries that is collected in a number of turns. -/
def collectByTurns (request : PageRequest) (most turns : Nat) : Action (Option Page) :=
  if most = 0 then return some ⟨[], none⟩
  else request.fillByTurns turns ⟨[], most⟩ (request.after?.map (request.base ++ ·))

/-- The rows after a listed one are those that follow it in the list. -/
theorem rowsAfter_last {s : Store} {beginning cursor : String} {before after : List (String × Row)}
    {last : String × Row} (whole : s.rowsAfter beginning cursor = before ++ last :: after) :
    s.rowsAfter beginning last.1 = after := by
  have sorted : (before ++ last :: after).Pairwise fun a b => a.1 < b.1 :=
    whole ▸ (s.objects.sorted.filter _).filter _
  obtain ⟨-, sorted, below⟩ := List.pairwise_append.mp sorted
  obtain ⟨above, -⟩ := List.pairwise_cons.mp sorted
  have beyond : cursor < last.1 := by
    have listed : last ∈ s.rowsAfter beginning cursor := whole ▸ by simp
    simpa using (List.mem_filter.mp listed).2
  have again : s.rowsAfter beginning last.1 =
      (s.rowsAfter beginning cursor).filter fun e => decide (last.1 < e.1) := by
    unfold rowsAfter
    rw [List.filter_filter]
    refine List.filter_congr fun e _ => ?_
    by_cases later : last.1 < e.1
    · simp [later, Std.lt_trans beyond later]
    · simp [later]
  have earlier : before.filter (fun e => decide (last.1 < e.1)) = [] := by
    refine List.filter_eq_nil_iff.mpr fun e member => ?_
    simpa using String.lt_asymm (below e member last List.mem_cons_self)
  have later : after.filter (fun e => decide (last.1 < e.1)) = after :=
    List.filter_eq_self.mpr fun e member => decide_eq_true (above e member)
  rw [again, whole, List.filter_append, earlier, List.nil_append,
    List.filter_cons_of_neg (by simp), later]

/-- The rows after the last one of a batch are those that the batch leaves. -/
theorem rowsAfter_batch {s : Store} {beginning cursor : String} {size : Nat}
    {last : String × Row}
    (ends : ((s.rowsAfter beginning cursor).take size).getLast? = some last) :
    s.rowsAfter beginning last.1 = (s.rowsAfter beginning cursor).drop size := by
  obtain ⟨before, batch⟩ := List.getLast?_eq_some_iff.mp ends
  have whole : s.rowsAfter beginning cursor =
      before ++ last :: (s.rowsAfter beginning cursor).drop size := by
    rw [← List.singleton_append, ← List.append_assoc, ← batch, List.take_append_drop]
  exact rowsAfter_last whole

/-- Rows are read as the objects that they describe, or not at all. -/
theorem eq_of_readRows {rows : List (String × Row)} {objects : List Object}
    (read : readRows rows = .ok objects) : objects = rows.map fun e => objectAt e.1 e.2 := by
  have known : ∀ e, e ∈ rows → e.2.metadata?.isSome := by
    induction rows generalizing objects with
    | nil => nofun
    | cons e rest ih =>
        rw [readRows, List.mapM_cons] at read
        cases metadata : e.2.metadata? with
        | none =>
            rw [readRow, metadata] at read
            cases read
        | some own =>
            rw [readRow, metadata] at read
            change (readRows rest >>= _) = _ at read
            cases others : readRows rest with
            | error fault =>
                rw [others] at read
                cases read
            | ok more => exact List.forall_mem_cons.mpr ⟨by rw [metadata]; rfl, ih others⟩
  rw [readRows_of_metadata known] at read
  exact (Except.ok.inj read).symm

/-- **A turn for every full batch and one more suffice to fill a page.** -/
theorem outcome_fillByTurns {s : Store} (reached : s.health.databaseOpen = true)
    (request : PageRequest) {turns : Nat} (draft : PageDraft) (cursor? : Option String)
    (enough : (s.rowsAfter (request.base ++ request.stem) (cursor?.getD "")).length / batchSize <
      turns) :
    outcome (request.fillByTurns turns draft cursor?) s =
      ((request.fillFrom draft
        (s.rowsAfter (request.base ++ request.stem) (cursor?.getD ""))).map some, s) := by
  have positive : 0 < batchSize := by decide
  -- Each turn takes a full batch off the rows that are left, or is the last one.
  induction turns generalizing draft cursor? with
  | zero => exact absurd enough (Nat.not_lt_zero _)
  | succ turns ih =>
      generalize remain : s.rowsAfter (request.base ++ request.stem) (cursor?.getD "") = rows at *
      rw [PageRequest.fillByTurns, outcome_bind, outcome_listPage, reached, remain,
        PageRequest.fillFrom]
      cases read : readRows (rows.take batchSize) with
      | error fault => rfl
      | ok batch =>
          obtain rfl := eq_of_readRows read
          simp only [if_true, List.getLast?_map, List.length_map, List.length_take]
          cases ends : (rows.take batchSize).getLast? with
          | none =>
              rw [List.getLast?_eq_none_iff, List.take_eq_nil_iff] at ends
              obtain rfl := ends.resolve_left positive.ne'
              rfl
          | some last =>
              simp only [Option.map_some]
              cases filled : request.fill draft
                  ((rows.take batchSize).map fun e => objectAt e.1 e.2) with
              | inr page => rfl
              | inl draft =>
                  dsimp only
                  by_cases few : rows.length < batchSize
                  · rw [dif_pos few, if_pos (by omega)]
                    rfl
                  · rw [dif_neg few, if_neg (by omega)]
                    have onward : s.rowsAfter (request.base ++ request.stem) last.1 =
                        rows.drop batchSize := by
                      subst remain
                      exact rowsAfter_batch ends
                    rw [Nat.div_eq_sub_div positive (Nat.le_of_not_lt few)] at enough
                    have next := ih draft (some last.1) (by
                      rw [Option.getD_some, onward, List.length_drop]
                      exact Nat.lt_of_succ_lt_succ enough)
                    rw [Option.getD_some, onward] at next
                    exact next

/-- **The reading of rows ends in every store**, whatever number of them there is, and collects the
page that is collected from all rows. -/
theorem outcome_collectByTurns (s : Store) (request : PageRequest) (most : Nat) {turns : Nat}
    (enough : s.objects.size / batchSize < turns) :
    outcome (collectByTurns request most turns) s =
      ((outcome (collectPage request most) s).1.map some, s) := by
  have fewer : (s.rowsAfter (request.base ++ request.stem) request.cursor).length ≤
      s.objects.size :=
    (List.length_filter_le _ _).trans (List.length_filter_le _ _)
  have cursor : (request.after?.map (request.base ++ ·)).getD "" = request.cursor := by
    unfold PageRequest.cursor
    cases request.after? <;> rfl
  unfold collectByTurns
  by_cases none : most = 0
  · subst none
    rfl
  rw [if_neg none]
  cases reached : s.health.databaseOpen with
  | true =>
      have enough := Nat.lt_of_le_of_lt (Nat.div_le_div_right fewer) enough
      rw [outcome_fillByTurns reached request _ _ (cursor ▸ enough), cursor,
        outcome_collectPage reached, if_neg none]
  | false =>
      cases turns with
      | zero => exact absurd enough (Nat.not_lt_zero _)
      | succ turns =>
          rw [PageRequest.fillByTurns, outcome_bind, outcome_listPage, reached]
          unfold collectPage
          rw [if_neg none, outcome_bind, outcome_requireDatabase, reached]
          rfl

/-! ## Pages at once -/

/-- Every run of calls leaves a store whose listings find every object. -/
theorem afterAll_listable (calls : List Call) : (afterAll calls Store.empty).Listable :=
  (afterAll_sound calls).listable

/-- A page without room shows nothing, and does not tell whether there is more. -/
theorem pageOf_zero (entries : List PageEntry) : pageOf entries 0 = ⟨[], none⟩ := by
  simp [pageOf]

/-- **A page is the first of the entries that are listed at once**, with the key of the last one
when more of them follow.  Collected turn by turn it is the same, and that ends in every store, with
a turn for every full batch of objects and one more. -/
theorem collectPage_at_once (s : Store) (request : PageRequest) (most : Nat) :
    (s.Listable →
      outcome (collectPage request most) s = (.ok (pageOf (s.entriesAtOnce request) most), s)) ∧
    ∀ turns, s.objects.size / batchSize < turns →
      outcome (collectByTurns request most turns) s =
        ((outcome (collectPage request most) s).1.map some, s) := by
  refine ⟨fun listable => ?_, fun turns => outcome_collectByTurns s request most⟩
  by_cases none : most = 0
  · rw [none, pageOf_zero]
    rfl
  · rw [listable.outcome_collectPage_eq request none, listable.remaining_eq]

/-- A store of three objects, two of them under one common stem. -/
def threeObjects : Store :=
  let row : Row := ⟨0, none, some Table.empty, 0, "", ⟨0, 0⟩⟩
  { Store.empty with
    objects := ⟨[("u/b/a/1", row), ("u/b/a/2", row), ("u/b/c", row)], by decide⟩ }

/-- The first page of one entry shows the common stem, collected at once or in one turn. -/
theorem first_page_of_three :
    threeObjects.Listable ∧
      ∃ page, outcome (collectPage ⟨"u/b/", "", some "/", none⟩ 1) threeObjects =
          (.ok page, threeObjects) ∧
        outcome (collectByTurns ⟨"u/b/", "", some "/", none⟩ 1 1) threeObjects =
          (.ok (some page), threeObjects) ∧
        page.entries.map PageEntry.key = ["a/"] ∧ page.next? = some "a/" := by
  have listable : threeObjects.Listable := by
    refine ⟨rfl, fun identifier row found => ?_⟩
    have listed : (identifier, row) ∈ threeObjects.objects.entries :=
      Table.mem_entries_iff.mpr found
    simp only [threeObjects, List.mem_cons, Prod.mk.injEq, List.not_mem_nil, or_false] at listed
    obtain ⟨rfl, rfl⟩ | ⟨rfl, rfl⟩ | ⟨rfl, rfl⟩ := listed <;> exact ⟨by decide, by decide, rfl⟩
  obtain ⟨page, turns⟩ := collectPage_at_once threeObjects ⟨"u/b/", "", some "/", none⟩ 1
  refine ⟨listable, _, page listable, ?_, ?_⟩
  · rw [turns 1 (by decide), page listable]
    rfl
  · rw [entriesAtOnce, rowsByBytes_eq]
    decide +kernel

end Store

end Depot

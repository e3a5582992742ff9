import Depot.Proofs.Order
import Depot.Proofs.Store.Surveys

/-!
# Pages one after another

A page shows what remains of a listing after its resume point, as far as it has
room (`Listable.outcome_collectPage_eq`).  What remains is in strictly ascending
order (`Listable.remaining_ascending`): each key without a common stem, and each
common stem once (`Listable.mem_remaining_iff`).  So the page that resumes after
the last entry of another one shows what that one left over
(`Listable.remaining_after`).

That a common stem is shown once rests on the order of texts: between a common
stem and a key with it there are only keys with the same common stem.
-/

namespace Depot

set_option autoImplicit false

open Depot.Text

/-! ## Common stems -/

namespace Text

/-- What follows the first occurrence of a word does not matter. -/
theorem FirstAt.followed_by {α : Type} {word text text' before after after' : List α}
    (cut : FirstAt word text before after) (whole : text' = before ++ word ++ after') :
    FirstAt word text' before after' := by
  refine ⟨whole, fun earlier rest found => ?_⟩
  -- An earlier occurrence would lie before the end of this one, where the texts agree.
  by_cases short : earlier.length < before.length
  · have inside : earlier ++ word <+: before ++ word :=
      List.prefix_of_prefix_length_le ⟨rest, found.symm⟩ ⟨after', whole.symm⟩ (by simp; omega)
    obtain ⟨between, same⟩ := inside
    have there : text = earlier ++ word ++ (between ++ after) := by
      rw [cut.whole, ← same, List.append_assoc _ between]
    exact cut.first _ _ there
  · exact Nat.le_of_not_lt short

end Text

namespace Store

/-- A key with a stem has the delimiter after that, and the common stem ends where it does so
first. -/
def HasCommonStem (stem : String) (delimiter? : Option String) (key common : String) : Prop :=
  ∃ delimiter rest before after, delimiter? = some delimiter ∧ key = stem ++ rest ∧
    FirstAt delimiter.toList rest.toList before after ∧
    common = stem ++ String.ofList before ++ delimiter

namespace PageRequest

variable {request : PageRequest} {rest common : String}

theorem rolledUp?_eq_some_iff :
    request.rolledUp? (request.stem ++ rest) = some common ↔
      HasCommonStem request.stem request.delimiter? (request.stem ++ rest) common := by
  have front : (request.stem ++ rest).toList.take request.stem.length = request.stem.toList := by
    rw [String.toList_append, ← String.length_toList, List.take_left]
  have back : (request.stem ++ rest).toList.drop request.stem.length = rest.toList := by
    rw [String.toList_append, ← String.length_toList, List.drop_left]
  have shown (before delimiter : String) :
      String.ofList (request.stem.toList ++ before.toList ++ delimiter.toList) =
        request.stem ++ before ++ delimiter := by
    simp [String.append_assoc]
  unfold rolledUp? HasCommonStem
  rw [front, back]
  cases request.delimiter? with
  | none => simp
  | some delimiter =>
      rw [Option.bind_some, Option.map_eq_some_iff]
      constructor
      · rintro ⟨⟨before, after⟩, cut, rfl⟩
        refine ⟨delimiter, rest, before, after, rfl, rfl, cutAtWord_eq_some_iff.mp cut, ?_⟩
        rw [← shown, String.toList_ofList]
      · rintro ⟨_, rest', before, after, ⟨⟩, same, cut, rfl⟩
        have own : rest' = rest := by
          have lists := congrArg String.toList same
          rw [String.toList_append, String.toList_append] at lists
          exact String.toList_inj.mp (List.append_cancel_left lists).symm
        subst own
        refine ⟨(before, after), cutAtWord_eq_some_iff.mpr cut, ?_⟩
        rw [← shown, String.toList_ofList]

end PageRequest

theorem HasCommonStem.isPrefix {stem key common : String} {delimiter? : Option String}
    (has : HasCommonStem stem delimiter? key common) : common.toList <+: key.toList := by
  obtain ⟨delimiter, rest, before, after, -, rfl, cut, rfl⟩ := has
  refine ⟨after, ?_⟩
  simp [cut.whole]

theorem HasCommonStem.unique {stem key common common' : String} {delimiter? : Option String}
    (has : HasCommonStem stem delimiter? key common)
    (has' : HasCommonStem stem delimiter? key common') : common = common' := by
  obtain ⟨delimiter, rest, before, after, known, rfl, cut, rfl⟩ := has
  obtain ⟨delimiter', rest', before', after', known', same, cut', rfl⟩ := has'
  cases known.symm.trans known'
  have lists := congrArg String.toList same
  rw [String.toList_append, String.toList_append] at lists
  rw [← List.append_cancel_left lists] at cut'
  rw [(cut.unique cut').1]

/-- Keys that begin with the common stem of a key have it too. -/
theorem HasCommonStem.of_isPrefix {stem key key' common : String} {delimiter? : Option String}
    (has : HasCommonStem stem delimiter? key common) (begins : common.toList <+: key'.toList) :
    HasCommonStem stem delimiter? key' common := by
  obtain ⟨delimiter, rest, before, after, known, rfl, cut, rfl⟩ := has
  obtain ⟨after', whole⟩ := begins
  have key : key' = stem ++ String.ofList (before ++ delimiter.toList ++ after') := by
    rw [← String.toList_inj, ← whole]
    simp
  exact ⟨delimiter, _, before, after', known, key, cut.followed_by (by simp), rfl⟩

/-- A key has no common stem when no delimiter follows the stem. -/
theorem not_hasCommonStem_iff {stem rest : String} {delimiter? : Option String} :
    (∀ common, ¬ HasCommonStem stem delimiter? (stem ++ rest) common) ↔
      ∀ delimiter, delimiter? = some delimiter → ¬ delimiter.toList <:+: rest.toList := by
  constructor
  · rintro none delimiter known ⟨before, after, whole⟩
    cases cut : cutAtWord delimiter.toList rest.toList with
    | none => exact cutAtWord_eq_none_iff.mp cut before after whole.symm
    | some parts =>
        exact none _ ⟨delimiter, rest, parts.1, parts.2, known, rfl,
          cutAtWord_eq_some_iff.mp cut, rfl⟩
  · rintro apart common ⟨delimiter, rest', before, after, known, same, cut, -⟩
    have lists := congrArg String.toList same
    rw [String.toList_append, String.toList_append] at lists
    have own := String.toList_inj.mp (List.append_cancel_left lists)
    exact apart delimiter known ⟨before, after, own ▸ cut.whole.symm⟩

/-- Between a common stem and a key with it there are only keys with it. -/
theorem HasCommonStem.of_between {stem key key' common : String} {delimiter? : Option String}
    (has : HasCommonStem stem delimiter? key common) (reaches : ¬ key' < common)
    (below : key' < key) : HasCommonStem stem delimiter? key' common :=
  has.of_isPrefix (isPrefix_of_between reaches below has.isPrefix)

theorem HasCommonStem.not_lt {stem key common : String} {delimiter? : Option String}
    (has : HasCommonStem stem delimiter? key common) : ¬ key < common :=
  not_lt_of_isPrefix has.isPrefix

/-! ## Entries -/

/-- An entry comes after another, or is the same common stem. -/
def PageEntry.Rises (entry next : PageEntry) : Prop :=
  (∃ stem, entry = .commonStem stem ∧ next = .commonStem stem) ∨ entry.key < next.key

theorem PageEntry.Rises.eq_or_lt {entry next : PageEntry} (rises : entry.Rises next) :
    next = .commonStem entry.key ∨ entry.key < next.key := by
  rcases rises with ⟨stem, rfl, rfl⟩ | above
  · exact .inl rfl
  · exact .inr above

namespace PageRequest

variable (request : PageRequest)

/-- The entry of an object under a key with the stem. -/
theorem entryOf_cases {object : Object} {rest : String}
    (key : request.keyOf object.identifier = request.stem ++ rest) :
    (∃ common, HasCommonStem request.stem request.delimiter? (request.stem ++ rest) common ∧
        request.entryOf object = .commonStem common) ∨
      (∀ common, ¬ HasCommonStem request.stem request.delimiter? (request.stem ++ rest) common) ∧
        request.entryOf object = .object (request.stem ++ rest) object := by
  unfold entryOf
  rw [key]
  dsimp only
  cases rolled : request.rolledUp? (request.stem ++ rest) with
  | some common => exact .inl ⟨common, rolledUp?_eq_some_iff.mp rolled, rfl⟩
  | none =>
      refine .inr ⟨fun common has => ?_, rfl⟩
      cases rolled.symm.trans (rolledUp?_eq_some_iff.mpr has)

/-- The entries of objects rise with their keys. -/
theorem rises_of_lt {object object' : Object} {rest rest' : String}
    (key : request.keyOf object.identifier = request.stem ++ rest)
    (key' : request.keyOf object'.identifier = request.stem ++ rest')
    (below : request.stem ++ rest < request.stem ++ rest') :
    (request.entryOf object).Rises (request.entryOf object') := by
  have upTo : ¬ request.stem ++ rest < (request.entryOf object).key := by
    rcases request.entryOf_cases key with ⟨common, has, entry⟩ | ⟨-, entry⟩
    · rw [entry]
      exact has.not_lt
    · rw [entry]
      exact Std.lt_irrefl
  have above {text : String} (beyond : request.stem ++ rest < text) :
      (request.entryOf object).key < text :=
    Std.lt_of_le_of_lt (Std.not_lt.mp upTo) beyond
  rcases request.entryOf_cases key' with ⟨common, has, entry'⟩ | ⟨-, entry'⟩
  · by_cases before : request.stem ++ rest < common
    · rw [entry']
      exact .inr (above before)
    · have same := has.of_between before below
      rcases request.entryOf_cases key with ⟨common', has', entry⟩ | ⟨none, -⟩
      · exact .inl ⟨common, has'.unique same ▸ entry, entry'⟩
      · exact absurd same (none common)
  · rw [entry']
    exact .inr (above below)

/-! ## What a page shows -/

/-- Whether an entry has been shown, given what was shown last. -/
def wasSeen (last? : Option String) : PageEntry → Bool
  | .object _ _ => false
  | .commonStem stem => last? == some stem || request.after?.any fun a => decide (stem ≤ a)

/-- The entries that are not passed over, given what was shown last. -/
def shown (last? : Option String) : List PageEntry → List PageEntry
  | [] => []
  | entry :: rest =>
      if request.wasSeen last? entry then shown last? rest
      else entry :: shown (some entry.key) rest

/-- A page has the first entries that are not passed over, as many as there is room for. -/
theorem filled_eq (draft : PageDraft) (objects : List Object) :
    request.filled draft objects =
      let remaining := request.shown (draft.reversed.head?.map PageEntry.key)
        (objects.map request.entryOf)
      let entries := draft.reversed.reverse ++ remaining.take draft.room
      ⟨entries,
        if draft.room < remaining.length then entries.getLast?.map PageEntry.key else none⟩ := by
  induction objects generalizing draft with
  | nil => simp [filled, fill, shown, PageDraft.close]
  | cons object rest ih =>
      have seen : request.isSeen draft (request.entryOf object) =
          request.wasSeen (draft.reversed.head?.map PageEntry.key) (request.entryOf object) := by
        cases request.entryOf object <;> rfl
      unfold filled at ih ⊢
      rw [fill, seen, List.map_cons, shown]
      cases request.wasSeen (draft.reversed.head?.map PageEntry.key) (request.entryOf object) with
      | true => exact ih draft
      | false =>
          obtain ⟨reversed, room⟩ := draft
          cases room with
          | zero => simp [PageDraft.closeWithMore]
          | succ room =>
              have onward := ih ⟨request.entryOf object :: reversed, room⟩
              simpa using onward

/-- Entries that rise from the first one come after it, or are it. -/
theorem after_first {first : PageEntry} {rest : List PageEntry}
    (rises : ∀ entry, entry ∈ rest → first.Rises entry) :
    ∀ last, some first.key = some last → ∀ entry, entry ∈ rest →
      entry = .commonStem last ∨ last < entry.key := by
  rintro _ ⟨⟩ entry member
  exact (rises entry member).eq_or_lt

/-- Showing an entry does not change which of those that rise from it are passed over. -/
theorem wasSeen_after_first {last? : Option String} {first entry : PageEntry}
    (reaches : ∀ last, last? = some last → first = .commonStem last ∨ last < first.key)
    (rises : first.Rises entry) (other : entry ≠ first) :
    request.wasSeen (some first.key) entry = request.wasSeen last? entry := by
  cases entry with
  | object key shown => rfl
  | commonStem stem =>
      have above : first.key < stem := by
        rcases rises with ⟨stem', here, there⟩ | above
        · cases there
          exact absurd here.symm other
        · exact above
      have notFirst : first.key ≠ stem := fun same => Std.lt_irrefl (same ▸ above)
      have notLast : last? ≠ some stem := by
        intro known
        rcases reaches stem known with same | below
        · exact notFirst (congrArg PageEntry.key same)
        · exact Std.lt_irrefl (Std.lt_trans below above)
      have first' : (some first.key == some stem) = false := by simpa using notFirst
      have last' : (last? == some stem) = false := by simpa using notLast
      unfold wasSeen
      dsimp only
      rw [first', last']

/-- Of rising entries, all are shown but the common stem that was shown last and those before the
resume point. -/
theorem mem_shown_iff {last? : Option String} {entries : List PageEntry}
    (rising : entries.Pairwise PageEntry.Rises)
    (after : ∀ last, last? = some last → ∀ entry, entry ∈ entries →
      entry = .commonStem last ∨ last < entry.key) {entry : PageEntry} :
    entry ∈ request.shown last? entries ↔
      entry ∈ entries ∧ request.wasSeen last? entry = false := by
  induction entries generalizing last? with
  | nil => simp [shown]
  | cons first rest ih =>
      obtain ⟨rises, rising⟩ := List.pairwise_cons.mp rising
      rw [shown]
      cases seen : request.wasSeen last? first with
      | true =>
          rw [if_pos rfl, ih rising fun last known e member => after last known e (.tail _ member),
            List.mem_cons]
          constructor
          · exact fun here => ⟨.inr here.1, here.2⟩
          · rintro ⟨rfl | here, unseen⟩
            · cases seen.symm.trans unseen
            · exact ⟨here, unseen⟩
      | false =>
          rw [if_neg (by simp), List.mem_cons, List.mem_cons, ih rising (after_first rises)]
          have same (member : entry ∈ rest) (other : entry ≠ first) :
              request.wasSeen (some first.key) entry = request.wasSeen last? entry :=
            request.wasSeen_after_first
              (fun last known => after last known first List.mem_cons_self)
              (rises entry member) other
          by_cases own : entry = first
          · subst own
            exact iff_of_true (.inl rfl) ⟨.inl rfl, seen⟩
          · constructor
            · rintro (here | ⟨member, unseen⟩)
              · exact absurd here own
              · exact ⟨.inr member, same member own ▸ unseen⟩
            · rintro ⟨here | member, unseen⟩
              · exact absurd here own
              · exact .inr ⟨member, (same member own).trans unseen⟩

/-- What is shown of rising entries ascends. -/
theorem shown_ascending {last? : Option String} {entries : List PageEntry}
    (rising : entries.Pairwise PageEntry.Rises) :
    (request.shown last? entries).Pairwise fun entry next => entry.key < next.key := by
  induction entries generalizing last? with
  | nil => exact .nil
  | cons first rest ih =>
      obtain ⟨rises, rising⟩ := List.pairwise_cons.mp rising
      rw [shown]
      split
      · exact ih rising
      · refine List.pairwise_cons.mpr ⟨fun entry member => ?_, ih rising⟩
        obtain ⟨among, unseen⟩ :=
          (request.mem_shown_iff rising (after_first rises)).mp member
        rcases rises entry among with ⟨stem, rfl, rfl⟩ | above
        · simp [wasSeen, PageEntry.key] at unseen
        · exact above

end PageRequest

/-! ## What remains of a listing -/

/-- The entries of a listing that come after its resume point. -/
def remaining (s : Store) (request : PageRequest) : List PageEntry :=
  request.shown none
    ((s.rowsAfter (request.base ++ request.stem) request.cursor).map fun e =>
      request.entryOf (objectAt e.1 e.2))

/-- The page that shows the first of some entries. -/
def pageOf (entries : List PageEntry) (room : Nat) : Page :=
  ⟨entries.take room,
    if room < entries.length then (entries.take room).getLast?.map PageEntry.key else none⟩

/-- A page has all entries, or ends with one after which there are more. -/
theorem pageOf_cases (entries : List PageEntry) {room : Nat} (positive : room ≠ 0) :
    (entries.length ≤ room ∧ pageOf entries room = ⟨entries, none⟩) ∨
      ∃ before last after, entries = before ++ last :: after ∧ after ≠ [] ∧
        before.length < room ∧ pageOf entries room = ⟨before ++ [last], some last.key⟩ := by
  by_cases long : room < entries.length
  · have filled : entries.take room ≠ [] := by
      intro empty
      have length := congrArg List.length empty
      rw [List.length_take, List.length_nil] at length
      omega
    have ends := List.dropLast_concat_getLast filled
    have length := congrArg List.length ends
    rw [List.length_append, List.length_take, List.length_singleton] at length
    refine .inr ⟨(entries.take room).dropLast, (entries.take room).getLast filled,
      entries.drop room, ?_, ?_, by omega, ?_⟩
    · rw [← List.singleton_append, ← List.append_assoc, ends, List.take_append_drop]
    · simpa using long
    · rw [ends, pageOf, if_pos long, List.getLast?_eq_some_getLast filled, Option.map_some]
  · have whole : entries.take room = entries := List.take_of_length_le (Nat.le_of_not_lt long)
    exact .inl ⟨Nat.le_of_not_lt long, by rw [pageOf, whole, if_neg long]⟩

theorem isUnder_append {beginning identifier : String} (under : isUnder beginning identifier) :
    ∃ rest, identifier = beginning ++ rest :=
  beginsWith_iff_exists_append.mp (Bool.and_eq_true_iff.mp under).2

theorem PageRequest.keyOf_append (request : PageRequest) (key : String) :
    request.keyOf (request.base ++ key) = key := by
  unfold keyOf
  rw [String.toList_append, ← String.length_toList, List.drop_left, String.ofList_toList]

theorem string_append_lt_append_iff {lead a b : String} : lead ++ a < lead ++ b ↔ a < b := by
  show (lead ++ a).toList < (lead ++ b).toList ↔ a.toList < b.toList
  rw [String.toList_append, String.toList_append, append_lt_append_iff]

theorem lt_of_ne_empty {text : String} (filled : text ≠ "") : "" < text := by
  show [] < text.toList
  cases chars : text.toList with
  | nil => exact absurd (String.toList_inj.mp chars) filled
  | cons c rest => exact List.nil_lt_cons c rest

/-- A common stem is not passed over at the start of a page just when it is after the resume
point. -/
theorem PageRequest.wasSeen_none_iff {request : PageRequest} {common : String} :
    request.wasSeen none (.commonStem common) = false ↔
      ∀ after, request.after? = some after → after < common := by
  unfold wasSeen
  cases request.after? <;> simp

/-- A key is read just when it is after the resume point. -/
theorem PageRequest.cursor_lt_iff {request : PageRequest} {key : String}
    (filled : request.base ++ key ≠ "") :
    request.cursor < request.base ++ key ↔
      ∀ after, request.after? = some after → after < key := by
  unfold cursor
  cases request.after? with
  | none => exact iff_of_true (lt_of_ne_empty filled) (by rintro _ ⟨⟩)
  | some after =>
      dsimp only
      rw [string_append_lt_append_iff]
      simp

/-- The rows of a listing have keys with the stem. -/
theorem key_of_rowsAfter {s : Store} {request : PageRequest} {cursor : String}
    {e : String × Row} (member : e ∈ s.rowsAfter (request.base ++ request.stem) cursor) :
    ∃ rest, e.1 = request.base ++ (request.stem ++ rest) ∧
      request.keyOf e.1 = request.stem ++ rest := by
  have under := (List.mem_filter.mp (List.mem_filter.mp member).1).2
  obtain ⟨rest, whole⟩ := isUnder_append under
  rw [String.append_assoc] at whole
  exact ⟨rest, whole, whole ▸ request.keyOf_append _⟩

theorem entries_rising (s : Store) (request : PageRequest) (cursor : String) :
    ((s.rowsAfter (request.base ++ request.stem) cursor).map fun e =>
      request.entryOf (objectAt e.1 e.2)).Pairwise PageEntry.Rises := by
  have sorted : (s.rowsAfter (request.base ++ request.stem) cursor).Pairwise fun a b => a.1 < b.1 :=
    (s.objects.sorted.filter _).filter _
  rw [List.pairwise_map]
  refine sorted.imp_of_mem fun {a b} here there below => ?_
  obtain ⟨rest, whole, key⟩ := key_of_rowsAfter here
  obtain ⟨rest', whole', key'⟩ := key_of_rowsAfter there
  rw [whole, whole', string_append_lt_append_iff] at below
  exact request.rises_of_lt key key' below

/-- Entries in strictly ascending order are determined by which there are. -/
theorem eq_of_ascending {entries entries' : List PageEntry}
    (ascending : entries.Pairwise fun entry next => entry.key < next.key)
    (ascending' : entries'.Pairwise fun entry next => entry.key < next.key)
    (same : ∀ entry, entry ∈ entries ↔ entry ∈ entries') : entries = entries' := by
  have distinct {list : List PageEntry}
      (ascending : list.Pairwise fun entry next => entry.key < next.key) : list.Nodup :=
    ascending.imp fun {_ _} below => by
      rintro rfl
      exact Std.lt_irrefl below
  have perm := (List.perm_ext_iff_of_nodup (distinct ascending) (distinct ascending')).mpr same
  exact perm.eq_of_pairwise (fun _ _ _ _ below above => absurd above (String.lt_asymm below))
    ascending ascending'

/-- **What remains of a listing is in strictly ascending order.** -/
theorem remaining_ascending (s : Store) (request : PageRequest) :
    (s.remaining request).Pairwise fun entry next => entry.key < next.key :=
  request.shown_ascending (s.entries_rising request request.cursor)

/-- A store in which a listing finds every object: the rows can be reached and read, and each
identifier comes after the empty one and has no NUL, at which a beginning would end. -/
structure Listable (s : Store) : Prop where
  reached : s.health.databaseOpen = true
  rows : ∀ identifier row, s.objects.find? identifier = some row →
    identifier ≠ "" ∧ '\x00' ∉ identifier.toList ∧ row.metadata?.isSome

theorem Sound.listable {s : Store} (sound : s.Sound) : s.Listable where
  reached := by rw [sound.health]
  rows := by
    intro identifier row found
    obtain ⟨valid, readable⟩ := sound.rows identifier row found
    refine ⟨?_, Name.noNul_of_valid valid, readable⟩
    rintro rfl
    have refused : Name.checkIdentifier "" = .error .empty := by rfl
    cases refused.symm.trans valid

namespace Listable

variable {s : Store}

/-- All rows can be read. -/
theorem readRows (listable : s.Listable) {rows : List (String × Row)}
    (known : ∀ e, e ∈ rows → e ∈ s.objects.entries) :
    Store.readRows rows = .ok (rows.map fun e => objectAt e.1 e.2) :=
  readRows_of_metadata fun e member =>
    (listable.rows _ _ (Table.mem_entries_iff.mp (known e member))).2.2

/-- **A page shows what remains of a listing, as far as it has room.** -/
theorem outcome_collectPage_eq (listable : s.Listable) (request : PageRequest) {room : Nat}
    (some : room ≠ 0) :
    outcome (collectPage request room) s = (.ok (pageOf (s.remaining request) room), s) := by
  rw [outcome_collectPage listable.reached, if_neg some,
    request.fillFrom_eq_filled (fun rows among => listable.readRows fun e member =>
      mem_entries_of_after (among e member)), request.filled_eq, List.map_map]
  rfl

/-- The rows under a beginning are those of the identifiers that begin so. -/
theorem mem_rowsUnder_iff (listable : s.Listable) {beginning identifier : String} {row : Row} :
    (identifier, row) ∈ s.rowsUnder beginning ↔
      ∃ rest, identifier = beginning ++ rest ∧ s.objects.find? identifier = some row := by
  constructor
  · intro listed
    obtain ⟨known, under⟩ := List.mem_filter.mp listed
    obtain ⟨rest, whole⟩ := isUnder_append under
    exact ⟨rest, whole, Table.mem_entries_iff.mp known⟩
  · rintro ⟨rest, rfl, found⟩
    have clean := (listable.rows _ _ found).2.1
    have outside : '\x00' ∉ beginning.toList := by
      rw [String.toList_append] at clean
      exact fun inside => clean (List.mem_append_left _ inside)
    have under : isUnder beginning (beginning ++ rest) := by
      rw [isUnder, beginsWith_append, Bool.and_true]
      simpa using outside
    exact List.mem_filter.mpr ⟨Table.mem_entries_iff.mpr found, under⟩

/-- The rows of a listing are those under the stem, after the resume point. -/
theorem mem_rowsAfter_iff (listable : s.Listable) {request : PageRequest} {identifier : String}
    {row : Row} :
    (identifier, row) ∈ s.rowsAfter (request.base ++ request.stem) request.cursor ↔
      ∃ rest, identifier = request.base ++ (request.stem ++ rest) ∧
        s.objects.find? identifier = some row ∧
        ∀ after, request.after? = some after → after < request.stem ++ rest := by
  constructor
  · intro listed
    obtain ⟨rest, rfl, -⟩ := key_of_rowsAfter listed
    have found := Table.mem_entries_iff.mp (mem_entries_of_after listed)
    have beyond : request.cursor < request.base ++ (request.stem ++ rest) := by
      simpa using (List.mem_filter.mp listed).2
    exact ⟨rest, rfl, found, (request.cursor_lt_iff (listable.rows _ _ found).1).mp beyond⟩
  · rintro ⟨rest, rfl, found, beyond⟩
    have under := listable.mem_rowsUnder_iff.mpr ⟨rest, (String.append_assoc ..).symm, found⟩
    have after := (request.cursor_lt_iff (listable.rows _ _ found).1).mpr beyond
    exact List.mem_filter.mpr ⟨under, by simpa using after⟩

/-- The entries that remain are those of the objects under the stem, after the resume point. -/
theorem mem_remaining_iff (listable : s.Listable) {request : PageRequest} {entry : PageEntry} :
    entry ∈ s.remaining request ↔
      (∃ rest row, s.objects.find? (request.base ++ (request.stem ++ rest)) = some row ∧
        entry =
          request.entryOf (objectAt (request.base ++ (request.stem ++ rest)) row)) ∧
      ∀ after, request.after? = some after → after < entry.key := by
  have shows (rest : String) (row : Row) :=
    request.entryOf_cases (show request.keyOf
      (objectAt (request.base ++ (request.stem ++ rest)) row).identifier = request.stem ++ rest
      from request.keyOf_append _)
  unfold remaining
  rw [request.mem_shown_iff (s.entries_rising request _) (by rintro _ ⟨⟩), List.mem_map]
  constructor
  · rintro ⟨⟨⟨_, row⟩, listed, rfl⟩, unseen⟩
    obtain ⟨rest, rfl, found, beyond⟩ := listable.mem_rowsAfter_iff.mp listed
    refine ⟨⟨rest, row, found, rfl⟩, ?_⟩
    rcases shows rest row with ⟨common, -, entry⟩ | ⟨-, entry⟩
    · rw [entry] at unseen ⊢
      exact PageRequest.wasSeen_none_iff.mp unseen
    · rw [entry]
      exact beyond
  · rintro ⟨⟨rest, row, found, rfl⟩, beyond⟩
    rcases shows rest row with ⟨common, has, entry⟩ | ⟨-, entry⟩
    · rw [entry] at beyond
      have earlier : ∀ after, request.after? = some after → after < request.stem ++ rest :=
        fun after known => Std.lt_of_lt_of_le (beyond after known) (String.not_lt.mp has.not_lt)
      refine ⟨⟨(_, row), listable.mem_rowsAfter_iff.mpr ⟨rest, rfl, found, earlier⟩, rfl⟩, ?_⟩
      rw [entry]
      exact PageRequest.wasSeen_none_iff.mpr beyond
    · rw [entry] at beyond
      refine ⟨⟨(_, row), listable.mem_rowsAfter_iff.mpr ⟨rest, rfl, found, beyond⟩, rfl⟩, ?_⟩
      rw [entry]
      rfl

/-- **What remains after some entries is what they left over.** -/
theorem remaining_after (listable : s.Listable) {request : PageRequest}
    {before after : List PageEntry} {last : PageEntry}
    (whole : s.remaining request = before ++ last :: after) :
    s.remaining { request with after? := some last.key } = after := by
  have ascending := whole ▸ s.remaining_ascending request
  obtain ⟨-, ascending, below⟩ := List.pairwise_append.mp ascending
  obtain ⟨above, onward⟩ := List.pairwise_cons.mp ascending
  refine eq_of_ascending (s.remaining_ascending _) onward fun entry => ?_
  have here : entry ∈ s.remaining request ↔ _ := listable.mem_remaining_iff
  have there : entry ∈ s.remaining { request with after? := some last.key } ↔ _ :=
    listable.mem_remaining_iff
  rw [whole, List.mem_append, List.mem_cons] at here
  rw [there]
  constructor
  · rintro ⟨held, beyond⟩
    have among : last ∈ s.remaining request :=
      whole ▸ List.mem_append_right before List.mem_cons_self
    have upTo {after : String} (known : request.after? = some after) : after < last.key :=
      (listable.mem_remaining_iff.mp among).2 after known
    have beyond : last.key < entry.key := beyond _ rfl
    rcases here.mpr ⟨held, fun after known => Std.lt_trans (upTo known) beyond⟩ with
      earlier | rfl | later
    · exact absurd (below entry earlier last List.mem_cons_self) (String.lt_asymm beyond)
    · exact absurd beyond Std.lt_irrefl
    · exact later
  · intro later
    refine ⟨(here.mp (.inr (.inr later))).1, ?_⟩
    rintro _ ⟨⟩
    exact above entry later

end Listable

end Store

end Depot

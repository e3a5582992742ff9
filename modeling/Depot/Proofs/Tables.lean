import Depot.Store.Table

/-!
# Tables as finite maps

A table is determined by what `find?` answers (`Table.ext_find?`), so that two
tables are shown equal by looking up one key.  Each operation is described by
its look-up: insertion, removal, restriction, and the map over the values that
turns a table of rows into a table of what the rows stand for.
-/

namespace Depot.Table

set_option autoImplicit false

variable {κ α β : Type} [LT κ] [DecidableLT κ] [DecidableEq κ]

/-! ## Entries and look-ups -/

section

variable [LE κ] [Std.IsLinearOrder κ] [Std.LawfulOrderLT κ]

omit [DecidableLT κ] [DecidableEq κ] [Std.IsLinearOrder κ] in
/-- The keys of a table are pairwise distinct. -/
theorem keys_nodup (t : Table κ α) : t.keys.Nodup := by
  refine List.pairwise_map.mpr (t.sorted.imp ?_)
  intro a b below same
  rw [same] at below
  exact Std.lt_irrefl below

omit [LT κ] [DecidableLT κ] [LE κ] [Std.IsLinearOrder κ] [Std.LawfulOrderLT κ] in
/-- Among entries with distinct keys, a look-up finds each of them. -/
theorem mem_iff_lookup {entries : List (κ × α)} (distinct : (entries.map Prod.fst).Nodup)
    {k : κ} {v : α} : (k, v) ∈ entries ↔ entries.lookup k = some v := by
  induction entries with
  | nil => simp
  | cons head rest ih =>
      obtain ⟨k', v'⟩ := head
      obtain ⟨missing, restDistinct⟩ := List.nodup_cons.mp distinct
      by_cases same : k = k'
      · subst same
        have absent : (k, v) ∉ rest := fun member =>
          missing (List.mem_map.mpr ⟨(k, v), member, rfl⟩)
        simp [absent, eq_comm]
      · have differs : (k == k') = false := by simpa using same
        simp [List.lookup_cons, differs, same, ih restDistinct]

omit [DecidableLT κ] [Std.IsLinearOrder κ] in
/-- The entries of a table are what `find?` answers. -/
theorem mem_entries_iff {t : Table κ α} {k : κ} {v : α} :
    (k, v) ∈ t.entries ↔ t.find? k = some v :=
  mem_iff_lookup t.keys_nodup

omit [DecidableLT κ] in
/-- Tables with the same look-ups are equal. -/
theorem ext_find? {t t' : Table κ α} (same : ∀ k, t.find? k = t'.find? k) : t = t' := by
  have nodup (u : Table κ α) : u.entries.Nodup := by
    refine u.sorted.imp ?_
    intro a b below same
    exact Std.lt_irrefl (same ▸ below)
  have perm : t.entries.Perm t'.entries := by
    refine (List.perm_ext_iff_of_nodup (nodup t) (nodup t')).mpr ?_
    rintro ⟨k, v⟩
    rw [mem_entries_iff, mem_entries_iff, same]
  have equal : t.entries = t'.entries := by
    refine perm.eq_of_pairwise ?_ t.sorted t'.sorted
    intro a b _ _ ab ba
    exact absurd (Std.lt_trans ab ba) Std.lt_irrefl
  cases t
  cases t'
  simpa using equal

theorem find?_insert (t : Table κ α) (k k' : κ) (v : α) :
    (t.insert k v).find? k' = if k' = k then some v else t.find? k' := by
  split
  · next same => rw [same, find?_insert_self]
  · next differs => exact find?_insert_of_ne t v differs

omit [DecidableLT κ] [LE κ] [Std.IsLinearOrder κ] [Std.LawfulOrderLT κ] in
theorem find?_erase (t : Table κ α) (k k' : κ) :
    (t.erase k).find? k' = if k' = k then none else t.find? k' := by
  split
  · next same => rw [same, find?_erase_self]
  · next differs => exact find?_erase_of_ne t differs

/-- A new entry that goes again leaves nothing. -/
theorem erase_insert {t : Table κ α} {k : κ} (absent : t.find? k = none) (v : α) :
    (t.insert k v).erase k = t := by
  refine ext_find? fun k' => ?_
  rw [find?_erase, find?_insert]
  split
  · next same => rw [same, absent]
  · rfl

omit [DecidableLT κ] [Std.IsLinearOrder κ] in
theorem find?_filter (t : Table κ α) (p : κ → α → Bool) (k : κ) :
    (t.filter p).find? k = (t.find? k).filter (p k) := by
  refine Option.ext fun v => ?_
  rw [← mem_entries_iff, Option.filter_eq_some_iff, ← mem_entries_iff]
  exact List.mem_filter

theorem filter_insert (t : Table κ α) (p : κ → α → Bool) (k : κ) (v : α) :
    (t.insert k v).filter p =
      if p k v then (t.filter p).insert k v else (t.filter p).erase k := by
  refine ext_find? fun k' => ?_
  rw [find?_filter, find?_insert]
  split <;> split
  · next here holds => rw [find?_insert, if_pos here, here, Option.filter_some, if_pos holds]
  · next here fails => rw [find?_erase, if_pos here, here, Option.filter_some, if_neg fails]
  · next other _ => rw [find?_insert, if_neg other, find?_filter]
  · next other _ => rw [find?_erase, if_neg other, find?_filter]

omit [DecidableLT κ] in
theorem filter_erase (t : Table κ α) (p : κ → α → Bool) (k : κ) :
    (t.erase k).filter p = (t.filter p).erase k := by
  refine ext_find? fun k' => ?_
  rw [find?_filter, find?_erase, find?_erase, find?_filter]
  split <;> rfl

end

/-! ## Several removals -/

def eraseAll (t : Table κ α) (keys : List κ) : Table κ α := keys.foldl erase t

omit [DecidableLT κ] in
theorem find?_eraseAll (t : Table κ α) (keys : List κ) (k : κ) :
    (t.eraseAll keys).find? k = if k ∈ keys then none else t.find? k := by
  unfold eraseAll
  induction keys generalizing t with
  | nil => simp
  | cons key rest ih =>
      rw [List.foldl_cons, ih, find?_erase]
      by_cases here : k = key <;> simp [here]

/-! ## Values through a function -/

section

variable [LE κ] [Std.IsLinearOrder κ] [Std.LawfulOrderLT κ]

omit [DecidableLT κ] in
/-- Functions that agree on the entries of a table map it alike. -/
theorem mapValues_congr {f g : κ → α → β} {t : Table κ α}
    (same : ∀ k v, t.find? k = some v → f k v = g k v) : t.mapValues f = t.mapValues g := by
  refine ext_find? fun k => ?_
  rw [find?_mapValues, find?_mapValues]
  cases found : t.find? k with
  | none => rfl
  | some v => exact congrArg some (same k v found)

/-- A new entry through one function, the others through another that agrees on them. -/
theorem mapValues_insert {f g : κ → α → β} {t : Table κ α} {k : κ} (v : α)
    (same : ∀ k' v', k' ≠ k → t.find? k' = some v' → f k' v' = g k' v') :
    (t.insert k v).mapValues f = (t.mapValues g).insert k (f k v) := by
  refine ext_find? fun k' => ?_
  rw [find?_mapValues, find?_insert, find?_insert, find?_mapValues]
  split
  · next here => rw [here, Option.map_some]
  · next other =>
      cases found : t.find? k' with
      | none => rfl
      | some v' => exact congrArg some (same k' v' other found)

omit [DecidableLT κ] in
theorem mapValues_erase {f g : κ → α → β} {t : Table κ α} {k : κ}
    (same : ∀ k' v', k' ≠ k → t.find? k' = some v' → f k' v' = g k' v') :
    (t.erase k).mapValues f = (t.mapValues g).erase k := by
  refine ext_find? fun k' => ?_
  rw [find?_mapValues, find?_erase, find?_erase, find?_mapValues]
  split
  · rfl
  · next other =>
      cases found : t.find? k' with
      | none => rfl
      | some v' => exact congrArg some (same k' v' other found)

end

/-! ## Keys through a function -/

section

variable {κ' : Type} [LT κ'] [DecidableLT κ'] [DecidableEq κ'] (f : κ → κ')
  (rises : ∀ a b, f a < f b ↔ a < b)

/-- The table with each key replaced by what a function that keeps their order makes of it. -/
def mapKeys (t : Table κ α) : Table κ' α :=
  ⟨t.entries.map fun e => (f e.1, e.2),
    List.pairwise_map.mpr (t.sorted.imp fun {a b} below => (rises a.1 b.1).mpr below)⟩

variable {f} (apart : ∀ a b, f a = f b ↔ a = b)

include apart

omit [DecidableLT κ] [DecidableLT κ'] in
@[simp] theorem find?_mapKeys (t : Table κ α) (k : κ) :
    (t.mapKeys f rises).find? (f k) = t.find? k := by
  unfold find? mapKeys
  dsimp only
  induction t.entries with
  | nil => rfl
  | cons head rest ih =>
      obtain ⟨k', v⟩ := head
      by_cases same : k = k'
      · simp [same]
      · have differs : (k == k') = false := by simpa using same
        have differs' : (f k == f k') = false := by simpa [apart] using same
        simpa [List.lookup_cons, differs, differs'] using ih

omit [DecidableLT κ] [DecidableLT κ'] in
theorem mapKeys_erase (t : Table κ α) (k : κ) :
    (t.erase k).mapKeys f rises = (t.mapKeys f rises).erase (f k) := by
  have stays (k' : κ) : decide (f k' ≠ f k) = decide (k' ≠ k) := by simp only [ne_eq, apart]
  unfold erase filter mapKeys
  simp only [Table.mk.injEq, List.filter_map]
  refine congrArg _ (List.filter_congr fun e _ => ?_)
  exact (stays e.1).symm

theorem mapKeys_insert [LE κ] [Std.IsLinearOrder κ] [Std.LawfulOrderLT κ] [LE κ']
    [Std.IsLinearOrder κ'] [Std.LawfulOrderLT κ'] (t : Table κ α) (k : κ) (v : α) :
    (t.insert k v).mapKeys f rises = (t.mapKeys f rises).insert (f k) v := by
  unfold insert mapKeys
  simp only [Table.mk.injEq]
  induction t.entries with
  | nil => rfl
  | cons head rest ih =>
      obtain ⟨k', v'⟩ := head
      simp only [List.map_cons, insertEntry, rises, apart]
      split
      · rfl
      · split
        · rfl
        · rw [List.map_cons, ih]

end

end Depot.Table

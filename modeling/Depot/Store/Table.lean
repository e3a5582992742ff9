/-!
# Tables

A finite map kept as a list of entries in ascending order of their keys.  The
order is part of the type, so a listing of a table needs no sorting and two
tables with the same entries are equal.  The lemmas say what each operation does
to `find?`.
-/

namespace Depot

set_option autoImplicit false

/-- A finite map with entries in ascending order of their keys. -/
structure Table (κ α : Type) [LT κ] where
  entries : List (κ × α)
  sorted : entries.Pairwise fun a b => a.1 < b.1
  deriving DecidableEq

namespace Table

variable {κ α : Type} [LT κ] [DecidableLT κ] [DecidableEq κ]

def empty : Table κ α := ⟨[], .nil⟩

instance : Inhabited (Table κ α) := ⟨empty⟩

def find? (t : Table κ α) (k : κ) : Option α := t.entries.lookup k

def has (t : Table κ α) (k : κ) : Bool := (t.find? k).isSome

def size (t : Table κ α) : Nat := t.entries.length

def keys (t : Table κ α) : List κ := t.entries.map Prod.fst

/-! ## Insertion -/

/-- Puts an entry into its place, in the place of one with the same key. -/
def insertEntry (k : κ) (v : α) : List (κ × α) → List (κ × α)
  | [] => [(k, v)]
  | (k', v') :: rest =>
      if k < k' then (k, v) :: (k', v') :: rest
      else if k = k' then (k, v) :: rest
      else (k', v') :: insertEntry k v rest

theorem mem_insertEntry {k : κ} {v : α} {e : κ × α} {entries : List (κ × α)}
    (h : e ∈ insertEntry k v entries) : e = (k, v) ∨ e ∈ entries := by
  induction entries with
  | nil => simpa [insertEntry] using h
  | cons head rest ih =>
      obtain ⟨k', v'⟩ := head
      unfold insertEntry at h
      split at h
      · simpa using h
      · split at h
        · rcases List.mem_cons.mp h with h | h
          · exact .inl h
          · exact .inr (List.mem_cons_of_mem _ h)
        · rcases List.mem_cons.mp h with h | h
          · exact .inr (h ▸ List.mem_cons_self)
          · rcases ih h with h | h
            · exact .inl h
            · exact .inr (List.mem_cons_of_mem _ h)

section

variable [LE κ] [Std.IsLinearOrder κ] [Std.LawfulOrderLT κ]

theorem insertEntry_sorted (k : κ) (v : α) {entries : List (κ × α)}
    (h : entries.Pairwise fun a b => a.1 < b.1) :
    (insertEntry k v entries).Pairwise fun a b => a.1 < b.1 := by
  induction entries with
  | nil => simp [insertEntry]
  | cons head rest ih =>
      obtain ⟨k', v'⟩ := head
      have below := (List.pairwise_cons.mp h).1
      unfold insertEntry
      split
      · next lt =>
          refine List.pairwise_cons.mpr ⟨?_, h⟩
          intro e he
          rcases List.mem_cons.mp he with he | he
          · exact he ▸ lt
          · exact Std.lt_trans lt (below e he)
      · split
        · next _ eq =>
            subst eq
            exact List.pairwise_cons.mpr ⟨below, (List.pairwise_cons.mp h).2⟩
        · next notLt notEq =>
            refine List.pairwise_cons.mpr ⟨?_, ih (List.pairwise_cons.mp h).2⟩
            intro e he
            rcases mem_insertEntry he with he | he
            · subst he
              rcases Std.lt_trichotomy k k' with lt | eq | gt
              · exact absurd lt notLt
              · exact absurd eq notEq
              · exact gt
            · exact below e he

def insert (t : Table κ α) (k : κ) (v : α) : Table κ α :=
  ⟨insertEntry k v t.entries, insertEntry_sorted k v t.sorted⟩

/-- The table of a list of entries; of two with one key the later counts. -/
def ofList (entries : List (κ × α)) : Table κ α :=
  entries.foldl (fun t e => t.insert e.1 e.2) empty

end

/-! ## Removal and restriction -/

def filter (p : κ → α → Bool) (t : Table κ α) : Table κ α :=
  ⟨t.entries.filter fun e => p e.1 e.2, t.sorted.filter _⟩

def erase (t : Table κ α) (k : κ) : Table κ α := t.filter fun k' _ => decide (k' ≠ k)

/-! ## What the operations do to `find?` -/

omit [DecidableLT κ] in
@[simp] theorem find?_empty (k : κ) : (empty : Table κ α).find? k = none := rfl

theorem lookup_insertEntry_self (k : κ) (v : α) (entries : List (κ × α)) :
    (insertEntry k v entries).lookup k = some v := by
  induction entries with
  | nil => simp [insertEntry]
  | cons head rest ih =>
      obtain ⟨k', v'⟩ := head
      unfold insertEntry
      split
      · simp
      · split
        · simp
        · next ne =>
            have : (k == k') = false := by simpa using ne
            rw [List.lookup_cons, this]
            exact ih

theorem lookup_insertEntry_of_ne {k k' : κ} (v : α) (h : k' ≠ k) (entries : List (κ × α)) :
    (insertEntry k v entries).lookup k' = entries.lookup k' := by
  have kf : (k' == k) = false := by simpa using h
  induction entries with
  | nil => simp [insertEntry, List.lookup_cons, kf]
  | cons head rest ih =>
      obtain ⟨k'', v''⟩ := head
      unfold insertEntry
      split
      · rw [List.lookup_cons, kf]
      · split
        · next _ eq =>
            subst eq
            rw [List.lookup_cons, kf, List.lookup_cons, kf]
        · rw [List.lookup_cons, List.lookup_cons, ih]

@[simp] theorem find?_insert_self [LE κ] [Std.IsLinearOrder κ] [Std.LawfulOrderLT κ]
    (t : Table κ α) (k : κ) (v : α) : (t.insert k v).find? k = some v :=
  lookup_insertEntry_self k v t.entries

theorem find?_insert_of_ne [LE κ] [Std.IsLinearOrder κ] [Std.LawfulOrderLT κ]
    (t : Table κ α) {k k' : κ} (v : α) (h : k' ≠ k) :
    (t.insert k v).find? k' = t.find? k' :=
  lookup_insertEntry_of_ne v h t.entries

omit [LT κ] [DecidableLT κ] in
theorem lookup_filter_ne_self (k : κ) (entries : List (κ × α)) :
    (entries.filter fun e => decide (e.1 ≠ k)).lookup k = none := by
  induction entries with
  | nil => rfl
  | cons head rest ih =>
      obtain ⟨k', v'⟩ := head
      by_cases h : k' = k
      · simpa [h] using ih
      · have kf : (k == k') = false := by simpa using Ne.symm h
        rw [List.filter_cons_of_pos (by simpa using h), List.lookup_cons, kf]
        exact ih

omit [LT κ] [DecidableLT κ] in
theorem lookup_filter_ne_of_ne {k k' : κ} (h : k' ≠ k) (entries : List (κ × α)) :
    (entries.filter fun e => decide (e.1 ≠ k)).lookup k' = entries.lookup k' := by
  induction entries with
  | nil => rfl
  | cons head rest ih =>
      obtain ⟨k'', v''⟩ := head
      by_cases eq : k'' = k
      · have kf : (k' == k'') = false := by simpa [eq] using h
        rw [List.filter_cons_of_neg (by simpa using eq), List.lookup_cons, kf]
        exact ih
      · rw [List.filter_cons_of_pos (by simpa using eq), List.lookup_cons, List.lookup_cons, ih]

omit [DecidableLT κ] in
@[simp] theorem find?_erase_self (t : Table κ α) (k : κ) : (t.erase k).find? k = none :=
  lookup_filter_ne_self k t.entries

omit [DecidableLT κ] in
theorem find?_erase_of_ne (t : Table κ α) {k k' : κ} (h : k' ≠ k) :
    (t.erase k).find? k' = t.find? k' :=
  lookup_filter_ne_of_ne h t.entries

/-! ## Values through a function -/

section

variable {β : Type}

/-- The table with each value replaced by what a function makes of its key and it. -/
def mapValues (f : κ → α → β) (t : Table κ α) : Table κ β :=
  ⟨t.entries.map fun e => (e.1, f e.1 e.2), List.pairwise_map.mpr t.sorted⟩

omit [LT κ] [DecidableLT κ] in
theorem lookup_mapValues (f : κ → α → β) (k : κ) (entries : List (κ × α)) :
    (entries.map fun e => (e.1, f e.1 e.2)).lookup k = (entries.lookup k).map (f k) := by
  induction entries with
  | nil => rfl
  | cons head rest ih =>
      obtain ⟨k', v⟩ := head
      by_cases same : k = k'
      · subst same
        simp
      · have differs : (k == k') = false := by simpa using same
        simpa [List.lookup_cons, differs] using ih

omit [DecidableLT κ] in
@[simp] theorem find?_mapValues (f : κ → α → β) (t : Table κ α) (k : κ) :
    (t.mapValues f).find? k = (t.find? k).map (f k) :=
  lookup_mapValues f k t.entries

end

end Table

end Depot

import Depot.Name.Identifier
import Depot.Proofs.Results

/-!
# Owners and their identifiers

Every identifier of an owner begins with the scope of that owner: the owner and
the mark after it.  No owner contains the mark, so an identifier is in the scope
of one owner at most.  An identifier that can be stored has no control
characters but that mark.
-/

namespace Depot

set_option autoImplicit false

open Depot.Text

/-! ## Cutting at an element -/

namespace Text

variable {α : Type}

/-- A cut leaves out the element at which it was made, and nothing else. -/
theorem append_of_cutWhere {p : α → Bool} {text before after : List α}
    (cut : cutWhere p text = some (before, after)) : ∃ a, p a ∧ text = before ++ a :: after := by
  induction text generalizing before with
  | nil => cases cut
  | cons a rest ih =>
      unfold cutWhere at cut
      split at cut
      · next found =>
          cases cut
          exact ⟨a, found, rfl⟩
      · rw [Option.map_eq_some_iff] at cut
        obtain ⟨⟨before', after'⟩, cut, same⟩ := cut
        cases same
        obtain ⟨sep, found, rfl⟩ := ih cut
        exact ⟨sep, found, rfl⟩

theorem append_of_cutString {sep : Char} {text before after : String}
    (cut : cutString sep text = some (before, after)) :
    text.toList = before.toList ++ sep :: after.toList := by
  unfold cutString at cut
  rw [Option.map_eq_some_iff] at cut
  obtain ⟨⟨first, last⟩, cut, same⟩ := cut
  cases same
  obtain ⟨c, found, whole⟩ := append_of_cutWhere cut
  rw [eq_of_beq found] at whole
  rw [String.toList_ofList, String.toList_ofList, whole]

/-- A cut is made at the first element that satisfies `p`, when there is one. -/
theorem cutWhere_eq (p : α → Bool) (text : List α) :
    cutWhere p text =
      if text.any p then some (text.takeWhile (!p ·), (text.dropWhile (!p ·)).tail) else none := by
  induction text with
  | nil => rfl
  | cons a rest ih =>
      unfold cutWhere
      cases found : p a with
      | true => simp [found]
      | false =>
          rw [ih]
          by_cases more : rest.any p <;> simp [found, more]
/-- A beginning of a beginning is a beginning. -/
theorem beginsWith_trans {lead text whole : String} (first : beginsWith lead text)
    (second : beginsWith text whole) : beginsWith lead whole := by
  simp only [beginsWith, List.isPrefixOf_iff_prefix] at *
  exact first.trans second

theorem beginsWith_append (lead rest : String) : beginsWith lead (lead ++ rest) := by
  simp [beginsWith]

theorem beginsWith_iff_exists_append {lead text : String} :
    beginsWith lead text ↔ ∃ rest, text = lead ++ rest := by
  constructor
  · intro begins
    obtain ⟨rest, whole⟩ := List.isPrefixOf_iff_prefix.mp begins
    refine ⟨String.ofList rest, ?_⟩
    rw [← String.toList_inj, ← whole]
    simp
  · rintro ⟨rest, rfl⟩
    exact beginsWith_append lead rest

end Text

namespace Name

/-! ## Valid identifiers -/

/-- What follows the owner in an identifier, and the whole of one without owner. -/
def pathOf (identifier : String) : List Char :=
  if ownerMark ∈ identifier.toList then (identifier.toList.dropWhile (· != ownerMark)).tail
  else identifier.toList

theorem splitOwner_eq (identifier : String) :
    splitOwner identifier =
      (if ownerMark ∈ identifier.toList then
        some (String.ofList (identifier.toList.takeWhile (· != ownerMark))) else none,
        String.ofList (pathOf identifier)) := by
  unfold splitOwner pathOf cutString cutAt
  rw [cutWhere_eq, List.any_beq']
  by_cases owned : ownerMark ∈ identifier.toList
  · simp [owned]
    constructor <;> rfl
  · simp [owned]

/-- No mark stands before the first one. -/
theorem mark_notMem_lead (text : List Char) : ownerMark ∉ text.takeWhile (· != ownerMark) := by
  intro member
  have other := List.all_eq_true.mp (List.all_takeWhile (p := (· != ownerMark))) _ member
  simp at other

/-- An identifier with a mark is cut at the first one. -/
theorem append_of_mark {identifier : String} (owned : ownerMark ∈ identifier.toList) :
    identifier.toList =
      identifier.toList.takeWhile (· != ownerMark) ++ ownerMark :: pathOf identifier := by
  have whole := List.takeWhile_append_dropWhile (p := (· != ownerMark)) (l := identifier.toList)
  unfold pathOf
  rw [if_pos owned]
  cases rest : identifier.toList.dropWhile (· != ownerMark) with
  | nil =>
      rw [rest, List.append_nil] at whole
      exact absurd (whole ▸ owned) (mark_notMem_lead _)
  | cons c rest' =>
      have first := List.head?_dropWhile_not (· != ownerMark) identifier.toList
      rw [rest] at first
      obtain rfl : c = ownerMark := by simpa using first
      rw [rest] at whole
      exact whole.symm

theorem checkIdentifier_eq (identifier : String) :
    checkIdentifier identifier =
      if identifier.toList.head? = some ownerMark then .error .noOwner
      else if pathOf identifier = [] then .error .empty
      else if 1024 < (String.ofList (pathOf identifier)).utf8ByteSize then .error .tooLong
      else if (identifier.toList.erase ownerMark).any isControl then .error .control
      else .ok () := by
  unfold checkIdentifier
  rw [splitOwner_eq]
  by_cases owned : ownerMark ∈ identifier.toList
  · have clean := mark_notMem_lead identifier.toList
    have whole := append_of_mark owned
    generalize lead : identifier.toList.takeWhile (· != ownerMark) = owner at clean whole
    have erased : identifier.toList.erase ownerMark = owner ++ pathOf identifier := by
      rw [whole, List.erase_append_right _ clean, List.erase_cons_head]
    have first : identifier.toList.head? = some ownerMark ↔ owner = [] := by
      rw [whole]
      cases owner with
      | nil => simp
      | cons c rest => simpa using fun same : c = ownerMark => clean (same ▸ List.mem_cons_self)
    rw [erased]
    simp [owned, first, maxIdentifierLength]
  · have first : identifier.toList.head? ≠ some ownerMark :=
      fun same => owned (List.mem_of_mem_head? same)
    have none : pathOf identifier = identifier.toList := if_neg owned
    rw [List.erase_of_not_mem owned]
    simp [owned, first, none, maxIdentifierLength]

/-- What a text is like that can be stored as an identifier. -/
structure Storable (identifier : String) : Prop where
  /-- It has no owner, or one that is not empty. -/
  owner : identifier.toList.head? ≠ some ownerMark
  path : pathOf identifier ≠ []
  short : (String.ofList (pathOf identifier)).utf8ByteSize ≤ 1024
  /-- No control character but the mark of the owner stands in it. -/
  clean : ∀ c, c ∈ identifier.toList.erase ownerMark → isControl c = false

/-- The check lets just those texts pass that can be stored. -/
theorem checkIdentifier_eq_ok_iff {identifier : String} :
    checkIdentifier identifier = .ok () ↔ Storable identifier := by
  rw [checkIdentifier_eq, Results.guard_eq_ok_iff, Results.guard_eq_ok_iff,
    Results.guard_eq_ok_iff, Results.guard_eq_ok_iff]
  constructor
  · rintro ⟨owner, path, short, clean, -⟩
    exact ⟨owner, path, Nat.le_of_not_lt short, by simpa using clean⟩
  · rintro ⟨owner, path, short, clean⟩
    exact ⟨owner, path, Nat.not_lt_of_le short, by simpa using clean, rfl⟩

/-- The mark of the owner is the only control character in an identifier that can be stored. -/
theorem control_of_valid {identifier : String} (valid : checkIdentifier identifier = .ok ())
    {c : Char} (member : c ∈ identifier.toList) (control : isControl c) : c = ownerMark := by
  have parts : (splitOwner identifier).1.any (·.toList.any isControl) = false ∧
      (splitOwner identifier).2.toList.any isControl = false := by
    simp only [checkIdentifier, Results.guard_eq_ok_iff] at valid
    simpa using valid.2.2.2.1
  obtain ⟨owner, path⟩ := parts
  unfold splitOwner at owner path
  split at owner
  · next owner' path' cut =>
      rw [cut] at path
      rw [append_of_cutString cut, List.mem_append, List.mem_cons] at member
      rcases member with member | same | member
      · exact absurd control (List.any_eq_false.mp owner c member)
      · exact same
      · exact absurd control (List.any_eq_false.mp path c member)
  · next cut =>
      rw [cut] at path
      exact absurd control (List.any_eq_false.mp path c member)

theorem noNul_of_valid {identifier : String} (valid : checkIdentifier identifier = .ok ()) :
    '\x00' ∉ identifier.toList := by
  intro member
  have same := control_of_valid valid member (by decide)
  exact absurd same (by decide)

/-! ## Scopes -/

def inScope (owner identifier : String) : Bool := beginsWith (ownerScope owner) identifier

/-- In the scope of its owner, an object has the path of bucket and key. -/
theorem identifier_eq_append (owner bucket key : String) :
    identifier owner bucket key = ownerScope owner ++ (bucket ++ "/" ++ key) := by
  simp [identifier, bucketScope, String.append_assoc]

/-- The identifiers in a bucket of an owner are in the scope of the owner. -/
theorem bucketScope_beginsWith (owner bucket : String) :
    beginsWith (ownerScope owner) (bucketScope owner bucket) := by
  unfold bucketScope
  rw [String.append_assoc]
  exact beginsWith_append _ _

theorem inScope_identifier (owner bucket key : String) :
    inScope owner (identifier owner bucket key) :=
  beginsWith_trans (bucketScope_beginsWith owner bucket) (beginsWith_append _ _)

/-- **An identifier is in the scope of one owner at most.** -/
theorem owner_unique {owner owner' identifier : String} (clean : ownerMark ∉ owner.toList)
    (clean' : ownerMark ∉ owner'.toList) (here : inScope owner identifier)
    (there : inScope owner' identifier) : owner = owner' := by
  have before {name : String} (clean : ownerMark ∉ name.toList)
      (within : inScope name identifier) :
      identifier.toList.takeWhile (· != ownerMark) = name.toList := by
    simp only [inScope, beginsWith, ownerScope, List.isPrefixOf_iff_prefix] at within
    obtain ⟨rest, whole⟩ := within
    rw [← whole, String.toList_append, List.append_assoc,
      List.takeWhile_append_of_pos]
    · simp
    · intro c member
      have differs : c ≠ ownerMark := fun same => clean (same ▸ member)
      simpa using differs
  have same := (before clean here).symm.trans (before clean' there)
  exact String.toList_inj.mp same

end Name

end Depot

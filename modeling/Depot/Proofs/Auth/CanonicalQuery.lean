import Depot.Auth.Canonical
import Depot.Proofs.Queries

/-!
# Queries in canonical form

A query stands for pairs of names and values: its pieces, cut at their first
equals sign, with all triples read.  The canonical form stands for the same
pairs, in an order of its own (`decodedPairs_canonicalQuery`), so two queries
have one canonical form when they stand for the same pairs, each as often
(`canonicalQuery_eq_iff`).
-/

namespace Depot.Auth

set_option autoImplicit false

open Depot.Http
open Depot.Text

/-- The bytes that a piece of a query stands for: a name and a value. -/
def decodedPair (piece : List UInt8) : List UInt8 × List UInt8 :=
  match cutAt 61 piece with
  | some (name, value) => (Percent.decode name, Percent.decode value)
  | none => (Percent.decode piece, [])

/-- The names and values that a query stands for, in order. -/
def decodedPairs (query : String) : List (List UInt8 × List UInt8) :=
  ((pieces 38 (bytes query)).filter (!·.isEmpty)).map decodedPair

/-- A pair in canonical form. -/
def encodedPair (pair : List UInt8 × List UInt8) : String × String :=
  (Percent.encodedText Percent.isUnreserved pair.1,
    Percent.encodedText Percent.isUnreserved pair.2)

def writtenPair (pair : String × String) : String := pair.1 ++ "=" ++ pair.2

theorem canonicalPair_eq (piece : List UInt8) :
    canonicalPair piece = encodedPair (decodedPair piece) := by
  unfold canonicalPair decodedPair
  cases cutAt 61 piece <;> rfl

theorem canonicalPairs_eq (query : String) :
    canonicalPairs query = ((decodedPairs query).map encodedPair).mergeSort pairLe := by
  rw [canonicalPairs, decodedPairs, List.map_map]
  congr 1
  exact List.map_congr_left fun piece _ => canonicalPair_eq piece

theorem bytes_writtenPair (pair : String × String) :
    bytes (writtenPair pair) = bytes pair.1 ++ 61 :: bytes pair.2 := by
  rw [writtenPair, bytes_append, bytes_append, List.append_assoc]
  rfl

/-- A pair is read from its canonical form. -/
theorem decodedPair_encodedPair (pair : List UInt8 × List UInt8) :
    decodedPair (bytes (writtenPair (encodedPair pair))) = pair := by
  have clean : 61 ∉ bytes (encodedPair pair).1 :=
    fun member => (clean_encoded pair.1 _ member).2.1 rfl
  have back (list : List UInt8) :=
    Percent.decodedBytes_encodedText (fun _ => Percent.isUnreserved_ascii) (by decide) list
  rw [decodedPair, bytes_writtenPair, cutAt_append clean]
  exact Prod.ext (back pair.1) (back pair.2)

theorem clean_encodedPair (pair : List UInt8 × List UInt8) :
    38 ∉ bytes (writtenPair (encodedPair pair)) ∧ bytes (writtenPair (encodedPair pair)) ≠ [] := by
  rw [bytes_writtenPair]
  refine ⟨?_, by simp⟩
  rw [List.mem_append, List.mem_cons]
  rintro (member | same | member)
  · exact (clean_encoded pair.1 _ member).1 rfl
  · cases same
  · exact (clean_encoded pair.2 _ member).1 rfl

/-- **A query and its canonical form stand for the same pairs.** -/
theorem decodedPairs_canonicalQuery (query? : Option String) :
    (decodedPairs (canonicalQuery query?)).Perm (decodedPairs (query?.getD "")) := by
  let sent := decodedPairs (query?.getD "")
  have sorted : ((sent.map encodedPair).mergeSort pairLe).Perm (sent.map encodedPair) :=
    List.mergeSort_perm _ _
  have clean : ∀ text, text ∈ ((sent.map encodedPair).mergeSort pairLe).map writtenPair →
      38 ∉ bytes text ∧ bytes text ≠ [] := by
    intro text member
    obtain ⟨written, known, rfl⟩ := List.mem_map.mp member
    obtain ⟨pair, -, rfl⟩ := List.mem_map.mp (sorted.mem_iff.mp known)
    exact clean_encodedPair pair
  have read : decodedPairs (canonicalQuery query?) =
      ((sent.map encodedPair).mergeSort pairLe).map
        fun pair => decodedPair (bytes (writtenPair pair)) := by
    rw [decodedPairs, canonicalQuery, canonicalPairs_eq]
    show ((pieces 38 (bytes (joined "&"
      (((sent.map encodedPair).mergeSort pairLe).map writtenPair)))).filter (!·.isEmpty)).map
        decodedPair = _
    rw [pieces_joined clean, List.map_map, List.map_map]
    rfl
  rw [read]
  refine (sorted.map _).trans (.of_eq ?_)
  rw [List.map_map]
  exact (List.map_congr_left fun pair _ => decodedPair_encodedPair pair).trans (List.map_id sent)

/-! ## The order of the pairs -/

theorem pairLe_iff {a b : String × String} :
    pairLe a b ↔ a.1 < b.1 ∨ a.1 = b.1 ∧ a.2 ≤ b.2 := by
  rw [pairLe, Bool.or_eq_true, Bool.and_eq_true, decide_eq_true_iff, decide_eq_true_iff, beq_iff_eq]

theorem pairLe_trans {a b c : String × String} (first : pairLe a b) (second : pairLe b c) :
    pairLe a c := by
  rw [pairLe_iff] at *
  rcases first with less | ⟨same, below⟩
  · rcases second with less' | ⟨same', -⟩
    · exact .inl (String.lt_trans less less')
    · exact .inl (same' ▸ less)
  · rcases second with less' | ⟨same', below'⟩
    · exact .inl (same ▸ less')
    · exact .inr ⟨same.trans same', String.le_trans below below'⟩

theorem pairLe_total (a b : String × String) : pairLe a b || pairLe b a := by
  rw [Bool.or_eq_true, pairLe_iff, pairLe_iff]
  by_cases less : a.1 < b.1
  · exact .inl (.inl less)
  · by_cases more : b.1 < a.1
    · exact .inr (.inl more)
    · have same : a.1 = b.1 := String.le_antisymm (String.not_lt.mp more) (String.not_lt.mp less)
      exact (String.le_total a.2 b.2).imp (fun below => .inr ⟨same, below⟩)
        fun below => .inr ⟨same.symm, below⟩

theorem pairLe_antisymm {a b : String × String} (below : pairLe a b) (above : pairLe b a) :
    a = b := by
  rw [pairLe_iff] at *
  rcases below with less | ⟨same, below⟩
  · rcases above with more | ⟨same, -⟩
    · exact absurd more (String.lt_asymm less)
    · exact absurd less (same ▸ String.lt_irrefl b.1)
  · rcases above with more | ⟨-, above⟩
    · exact absurd more (same ▸ String.lt_irrefl a.1)
    · exact Prod.ext same (String.le_antisymm below above)

theorem mergeSort_eq_of_perm {list list' : List (String × String)} (perm : list.Perm list') :
    list.mergeSort pairLe = list'.mergeSort pairLe := by
  have sorted (list : List (String × String)) :
      (list.mergeSort pairLe).Pairwise fun a b => pairLe a b :=
    @List.pairwise_mergeSort _ pairLe (fun _ _ _ => pairLe_trans) pairLe_total list
  have same : (list.mergeSort pairLe).Perm (list'.mergeSort pairLe) :=
    (List.mergeSort_perm _ _).trans (perm.trans (List.mergeSort_perm _ _).symm)
  exact same.eq_of_pairwise (fun _ _ _ _ => pairLe_antisymm) (sorted list) (sorted list')

/-- **Queries have one canonical form when they stand for the same pairs**, in whatever order. -/
theorem canonicalQuery_eq_iff {query? query?' : Option String} :
    canonicalQuery query? = canonicalQuery query?' ↔
      (decodedPairs (query?.getD "")).Perm (decodedPairs (query?'.getD "")) := by
  constructor
  · intro same
    have read := decodedPairs_canonicalQuery query?
    rw [same] at read
    exact read.symm.trans (decodedPairs_canonicalQuery query?')
  · intro perm
    rw [canonicalQuery, canonicalQuery, canonicalPairs_eq, canonicalPairs_eq,
      mergeSort_eq_of_perm (perm.map encodedPair)]

end Depot.Auth

import Depot.Http.Query
import Depot.Proofs.Percent
import Depot.Proofs.RoundTrips

/-!
# Queries are read as they were written

A client writes parameters as names and values in percent encoding, between
ampersands; the server reads the same parameters (`parameters_queryOf`).  When
no two have one name, a value is found under the name it was written for.
-/

namespace Depot.Http

set_option autoImplicit false

open Depot.Text

/-- A parameter as it is written into a query. -/
def Parameter.written (p : Parameter) : String :=
  Percent.encodedText Percent.isUnreserved (bytes p.name) ++ "=" ++
    Percent.encodedText Percent.isUnreserved (bytes p.value)

def queryOf (params : List Parameter) : String := joined "&" (params.map Parameter.written)

theorem bytes_joined (sep : String) (texts : List String) :
    bytes (joined sep texts) = (bytes sep).intercalate (texts.map bytes) := by
  induction texts with
  | nil => rfl
  | cons first rest ih =>
      cases rest with
      | nil => simp [joined]
      | cons second more =>
          have step : joined sep (first :: second :: more) =
              first ++ sep ++ joined sep (second :: more) := by
            rw [← String.toList_inj]
            simp [joined, List.intercalate_cons_cons]
          rw [step, bytes_append, bytes_append, ih, List.map_cons, List.map_cons, List.map_cons,
            List.intercalate_cons_cons]

/-- Whether a byte is no mark of a query. -/
def isUnmarked (b : UInt8) : Bool := b != 38 && b != 61 && b != 43

theorem isUnmarked_spec {b : UInt8} (unmarked : isUnmarked b) : b ≠ 38 ∧ b ≠ 61 ∧ b ≠ 43 := by
  simpa [isUnmarked, and_assoc] using unmarked

/-- Encoded bytes contain no mark of a query. -/
theorem unmarked_encoded (list : List UInt8) :
    ∀ b, b ∈ bytes (Percent.encodedText Percent.isUnreserved list) → isUnmarked b := by
  have kept : ∀ n : Fin 256, Percent.isUnreserved (UInt8.ofFin n) → isUnmarked (UInt8.ofFin n) := by
    decide +kernel
  have escaped : ∀ n : Fin 256, (Percent.triple (UInt8.ofFin n)).all isUnmarked := by
    decide +kernel
  intro b member
  rw [Percent.encodedText,
    bytes_ascii (Percent.encode_ascii (fun _ => Percent.isUnreserved_ascii) _)] at member
  obtain ⟨b', -, part⟩ := List.mem_flatMap.mp member
  split at part
  · next unreserved =>
      cases List.mem_singleton.mp part
      exact kept b.toFin unreserved
  · exact List.all_eq_true.mp (escaped b'.toFin) b part

theorem clean_encoded (list : List UInt8) :
    ∀ b, b ∈ bytes (Percent.encodedText Percent.isUnreserved list) → b ≠ 38 ∧ b ≠ 61 ∧ b ≠ 43 :=
  fun b member => isUnmarked_spec (unmarked_encoded list b member)

/-- A name or value is read as it was written. -/
theorem formText_encoded (text : String) :
    formText (bytes (Percent.encodedText Percent.isUnreserved (bytes text))) = text := by
  have noPlus : (bytes (Percent.encodedText Percent.isUnreserved (bytes text))).map plusAsSpace =
      bytes (Percent.encodedText Percent.isUnreserved (bytes text)) := by
    refine (List.map_congr_left fun b member => ?_).trans (List.map_id _)
    exact if_neg (clean_encoded (bytes text) b member).2.2
  have back := Percent.decodedBytes_encodedText (fun _ => Percent.isUnreserved_ascii)
    (by decide) (bytes text)
  rw [formText, noPlus, ← Percent.decodedBytes, back, lossy_bytes]

theorem bytes_written (p : Parameter) :
    bytes p.written =
      bytes (Percent.encodedText Percent.isUnreserved (bytes p.name)) ++
        61 :: bytes (Percent.encodedText Percent.isUnreserved (bytes p.value)) := by
  rw [Parameter.written, bytes_append, bytes_append, List.append_assoc]
  rfl

theorem ofPiece_written (p : Parameter) : Parameter.ofPiece (bytes p.written) = p := by
  have clean : 61 ∉ bytes (Percent.encodedText Percent.isUnreserved (bytes p.name)) :=
    fun member => (clean_encoded (bytes p.name) _ member).2.1 rfl
  rw [Parameter.ofPiece, bytes_written, cutAt_append clean]
  dsimp only
  rw [formText_encoded, formText_encoded]

theorem clean_written (p : Parameter) : 38 ∉ bytes p.written := by
  rw [bytes_written, List.mem_append, List.mem_cons]
  rintro (member | same | member)
  · exact (clean_encoded (bytes p.name) _ member).1 rfl
  · cases same
  · exact (clean_encoded (bytes p.value) _ member).1 rfl

/-- Texts that are joined into a query are its pieces. -/
theorem pieces_joined {texts : List String}
    (clean : ∀ text, text ∈ texts → 38 ∉ bytes text ∧ bytes text ≠ []) :
    (pieces 38 (bytes (joined "&" texts))).filter (!·.isEmpty) = texts.map bytes := by
  have filled : ∀ piece, piece ∈ texts.map bytes → !piece.isEmpty := by
    simpa using fun text member => (clean text member).2
  rw [bytes_joined]
  by_cases none : texts = []
  · subst none
    rfl
  · have cut : pieces 38 ((bytes "&").intercalate (texts.map bytes)) = texts.map bytes :=
      pieces_intercalate (by simpa using none)
        (by simpa using fun text known => (clean text known).1)
    rw [cut, List.filter_eq_self.mpr filled]

/-- **Parameters are read as they were written.** -/
theorem parameters_queryOf (params : List Parameter) : parameters (queryOf params) = params := by
  have clean : ∀ text, text ∈ params.map Parameter.written → 38 ∉ bytes text ∧ bytes text ≠ [] := by
    simpa using fun p _ => ⟨clean_written p, by simp [bytes_written]⟩
  rw [parameters, queryOf, pieces_joined clean, List.map_map, List.map_map]
  exact (List.map_congr_left fun p _ => ofPiece_written p).trans (List.map_id params)

/-! ## Names that stand once -/

section

variable {params : List Parameter} (once : (params.map Parameter.name).Nodup)

include once

theorem repeatedName?_eq_none (known : List String) : repeatedName? known params = none := by
  have walk (met : List String) (new : ∀ p, p ∈ params → p.name ∉ met) :
      repeatedName?.go known met params = none := by
    induction params generalizing met with
    | nil => rfl
    | cons p rest ih =>
        obtain ⟨differs, once⟩ := List.nodup_cons.mp once
        have later (met : List String) (new : ∀ q, q ∈ rest → q.name ∉ met) :=
          ih once met new
        have rest' : ∀ q, q ∈ rest → q.name ∉ met := fun q member => new q (.tail _ member)
        rw [repeatedName?.go]
        split
        · exact later met rest'
        · rw [if_neg (by simpa using new p List.mem_cons_self)]
          refine later _ fun q member => ?_
          rw [List.mem_cons]
          rintro (same | inside)
          · exact differs (same ▸ List.mem_map_of_mem member)
          · exact rest' q member inside
  exact walk [] fun p _ => by simp

/-- The value of a name is the one that it was given. -/
theorem valueOf?_eq_some_iff {name value : String} :
    valueOf? params name = some value ↔ ⟨name, value⟩ ∈ params := by
  induction params with
  | nil => simp [valueOf?]
  | cons p rest ih =>
      obtain ⟨name', value'⟩ := p
      obtain ⟨differs, once⟩ := List.nodup_cons.mp once
      have onward := ih once
      unfold valueOf? at onward ⊢
      rw [List.find?_cons, List.mem_cons]
      by_cases same : name' = name
      · subst same
        have absent : ⟨name', value⟩ ∉ rest := fun member =>
          differs (List.mem_map.mpr ⟨_, member, rfl⟩)
        simp [absent, eq_comm]
      · simpa [same, Ne.symm same, beq_eq_false_iff_ne.mpr same] using onward

end

end Depot.Http

import Depot.Http.Headers
import Depot.Proofs.Cutting

/-!
# Header lines that are set and read

A text of visible characters is sent as it is and read from its bytes.  A header
line that is put in its place is the one that is found under its name, and
leaves those of other names alone.
-/

namespace Depot.Http

set_option autoImplicit false

open Depot.Text

/-! ## Text in values -/

/-- All characters of a text are visible ASCII, spaces and tabs. -/
def Visible (text : String) : Prop :=
  ∀ c, c ∈ text.toList → isTextByte c.toUInt8 ∧ Char.ofUInt8 c.toUInt8 = c

instance (text : String) : Decidable (Visible text) :=
  List.decidableBAll (fun c : Char => isTextByte c.toUInt8 ∧ Char.ofUInt8 c.toUInt8 = c)
    text.toList

theorem Visible.append {a b : String} (first : Visible a) (second : Visible b) :
    Visible (a ++ b) := by
  intro c member
  rw [String.toList_append, List.mem_append] at member
  exact member.elim (first c) (second c)

theorem Visible.back {text : String} (visible : Visible text) :
    (text.toList.map Char.toUInt8).map Char.ofUInt8 = text.toList := by
  rw [List.map_map]
  refine (List.map_congr_left fun c member => (visible c member).2).trans ?_
  simp

/-- The bytes of a visible text are the codes of its characters. -/
theorem Visible.bytes_eq {text : String} (visible : Visible text) :
    bytes text = text.toList.map Char.toUInt8 := by
  have ascii : ∀ b, b ∈ text.toList.map Char.toUInt8 → b < 128 := by
    have every : ∀ n : Fin 256, isTextByte (UInt8.ofFin n) → UInt8.ofFin n < 128 := by
      decide +kernel
    intro b member
    obtain ⟨c, known, rfl⟩ := List.mem_map.mp member
    exact every _ (visible c known).1
  have whole := bytes_ascii ascii
  rwa [visible.back, String.ofList_toList] at whole

/-- A visible text is read from its bytes. -/
theorem Visible.valueText? {text : String} (visible : Visible text) :
    valueText? text.toUTF8 = some text := by
  have own : text.toUTF8.data.toList = text.toList.map Char.toUInt8 := visible.bytes_eq
  have all : (text.toList.map Char.toUInt8).all isTextByte := by
    simpa using fun c member => (visible c member).1
  rw [Http.valueText?, own, if_pos all, visible.back, String.ofList_toList]

/-- A visible text can be sent. -/
theorem Visible.fieldValue? {text : String} (visible : Visible text) :
    fieldValue? text = some text.toUTF8 := by
  have sent (b : UInt8) (text : isTextByte b) : isValueByte b := by
    have every : ∀ n : Fin 256, isTextByte (UInt8.ofFin n) → isValueByte (UInt8.ofFin n) := by
      decide +kernel
    exact every b.toFin text
  have all : (bytes text).all isValueByte := by
    rw [visible.bytes_eq]
    simpa using fun c member => sent _ (visible c member).1
  rw [Http.fieldValue?, if_pos all]

/-- Decimal digits are visible. -/
theorem Visible.of_digits {text : String} (digits : ∀ c, c ∈ text.toList → c.isDigit) :
    Visible text := by
  intro c member
  have digit := digits c member
  have ascii := ascii_of_isDigit digit
  revert digit
  exact of_ascii (by decide) ascii

/-! ## Header names -/

/-- A character of a header name is visible, and separates nothing. -/
theorem isNameChar_spec {c : Char} (named : isNameChar c) :
    (isTextByte c.toUInt8 ∧ Char.ofUInt8 c.toUInt8 = c) ∧ c ≠ ',' ∧ c ≠ ';' ∧
      isBlank c = false := by
  have ascii : c.toNat < 128 := by
    obtain alphanum | mark := Bool.or_eq_true_iff.mp named
    · exact ascii_of_isAlphanum alphanum
    · have every : nameMarks.all fun mark => mark.toNat < 128 := by decide
      exact of_decide_eq_true (List.all_eq_true.mp every c (List.contains_iff_mem.mp mark))
  revert named
  exact of_ascii (by decide) ascii

/-- A header name in lower case is not empty and has the characters of names. -/
theorem of_fieldName? {name : String} (known : fieldName? name = some name) :
    name ≠ "" ∧ lower name = name ∧ ∀ c, c ∈ name.toList → isNameChar c := by
  unfold fieldName? at known
  split at known
  · next fine =>
      rw [Bool.and_eq_true, Bool.and_eq_true] at fine
      refine ⟨?_, Option.some.inj known, List.all_eq_true.mp fine.2⟩
      rintro rfl
      exact absurd fine.1.1 (by decide)
  · cases known

/-! ## Lines that are set -/

namespace Headers

variable (h : Headers) (name : String)

theorem get?_insert_self (value : FieldValue) : (h.insert name value).get? name = some value := by
  have absent : (h.lines.filter (·.1 != name)).find? (·.1 == name) = none := by simp
  rw [get?, insert, append, erase, List.find?_append, absent]
  simp

theorem get?_insert_of_ne {other : String} (differs : name ≠ other) (value : FieldValue) :
    (h.insert name value).get? other = h.get? other := by
  have kept : (h.lines.filter (·.1 != name)).find? (·.1 == other) =
      h.lines.find? (·.1 == other) := by
    rw [List.find?_filter]
    congr 1
    funext line
    by_cases own : line.1 = other <;> simp [own, Ne.symm differs]
  rw [get?, get?, insert, append, erase, List.find?_append, kept]
  simp [differs]

theorem get?_insertText_of_ne {other : String} (differs : name ≠ other) (text : String) :
    (h.insertText name text).get? other = h.get? other := by
  unfold insertText
  split
  · exact h.get?_insert_of_ne name differs _
  · rfl

theorem text?_insertText_self {text : String} (visible : Visible text) :
    (h.insertText name text).text? name = some text := by
  rw [text?, insertText, visible.fieldValue?]
  dsimp only
  rw [get?_insert_self]
  exact visible.valueText?

theorem text?_insertText_of_ne {other : String} (differs : name ≠ other) (text : String) :
    (h.insertText name text).text? other = h.text? other := by
  rw [text?, h.get?_insertText_of_ne name differs, text?]

theorem get?_erase_of_ne {other : String} (differs : name ≠ other) :
    (h.erase name).get? other = h.get? other := by
  have whole := h.get?_insert_of_ne name differs ByteArray.empty
  rw [get?, insert, append, List.find?_append] at whole
  simpa [differs, get?] using whole

theorem getAll_insert_of_ne {other : String} (differs : name ≠ other) (value : FieldValue) :
    (h.insert name value).getAll other = h.getAll other := by
  have kept : (h.lines.filter (·.1 != name)).filter (·.1 == other) =
      h.lines.filter (·.1 == other) := by
    rw [List.filter_filter]
    congr 1
    funext line
    by_cases own : line.1 = other <;> simp [own, Ne.symm differs]
  rw [getAll, getAll, insert, append, erase, List.filter_append, kept]
  simp [differs]

theorem mem_insert_iff {line : String × FieldValue} {value : FieldValue} :
    line ∈ (h.insert name value).lines ↔
      line ∈ h.lines ∧ line.1 ≠ name ∨ line = (name, value) := by
  simp [insert, append, erase]

theorem mem_erase_iff {line : String × FieldValue} :
    line ∈ (h.erase name).lines ↔ line ∈ h.lines ∧ line.1 ≠ name := by
  simp [erase]

theorem mem_getAll_iff {value : FieldValue} : value ∈ h.getAll name ↔ (name, value) ∈ h.lines := by
  simp [getAll]

/-- The names that occur are those of the lines. -/
theorem mem_names_iff : name ∈ h.names ↔ ∃ value, (name, value) ∈ h.lines := by
  simp [names, List.mem_eraseDups]

theorem has_of_text? {text : String} (known : h.text? name = some text) : h.has name := by
  obtain ⟨value, found, -⟩ := Option.bind_eq_some_iff.mp known
  obtain ⟨line, found, -⟩ := Option.map_eq_some_iff.mp found
  have same := List.find?_some found
  exact List.any_eq_true.mpr ⟨line, List.mem_of_find?_eq_some found, same⟩

/-! ## Lines of text -/

/-- All lines have header names in lower case and values of text. -/
structure Textual (h : Headers) : Prop where
  name : ∀ line, line ∈ h.lines → fieldName? line.1 = some line.1
  value : ∀ line, line ∈ h.lines → ∃ text, valueText? line.2 = some text

variable {h name}

theorem Textual.insert (textual : h.Textual) (known : fieldName? name = some name) {text : String}
    (visible : Visible text) : (h.insert name text.toUTF8).Textual where
  name line member := by
    obtain ⟨old, -⟩ | rfl := (h.mem_insert_iff name).mp member
    · exact textual.name line old
    · exact known
  value line member := by
    obtain ⟨old, -⟩ | rfl := (h.mem_insert_iff name).mp member
    · exact textual.value line old
    · exact ⟨text, visible.valueText?⟩

theorem Textual.erase (textual : h.Textual) (name : String) : (h.erase name).Textual where
  name line member := textual.name line ((h.mem_erase_iff name).mp member).1
  value line member := textual.value line ((h.mem_erase_iff name).mp member).1

end Headers

end Depot.Http

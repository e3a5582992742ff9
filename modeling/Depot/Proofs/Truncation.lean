import Depot.Proofs.Completions

/-!
# Documents that are cut off

A client that completes an upload may be cut off while it sends its document.
What is left shows the parts whose elements have arrived as a whole, and nothing
tells that there should be more: the end of the root is not looked for
(`requestedParts?_cut`).  So a document that is cut off is refused before the name
of its root is complete, asks for what it was to ask for once its last part is
complete, and for less in between.
-/

namespace Depot.Xml

set_option autoImplicit false

open Depot.Text

/-! ## Elements that are cut off -/

/-- A text in which no start tag begins shows no element, wherever it is cut off. -/
theorem elementChars_of_isPrefix {name text start : List Char} (free : Free (openTag name) text)
    (begins : start <+: text) : elementChars name start = [] := by
  obtain ⟨more, rfl⟩ := begins
  rw [elementChars_eq]
  cases opened : cutAtWord (openTag name) start with
  | none => rfl
  | some parts =>
      obtain ⟨before, inside⟩ := parts
      have whole := (cutAtWord_eq_some_iff.mp opened).whole
      have long := free [] before (inside ++ more) (by rw [whole]; simp)
      have short := congrArg List.length whole
      simp [openTag] at long short
      omega

/-- An element that is cut off is not read. -/
theorem elementChars_of_cut {name content start : List Char}
    (free : Free (closeTag name) content)
    (begins : start <+: openTag name ++ content ++ closeTag name)
    (short : start.length < (openTag name ++ content ++ closeTag name).length) :
    elementChars name start = [] := by
  obtain ⟨more, element⟩ := begins
  have left : more ≠ [] := by
    rintro rfl
    rw [← element, List.append_nil] at short
    exact Nat.lt_irrefl _ short
  rw [elementChars_eq]
  cases opened : cutAtWord (openTag name) start with
  | none => rfl
  | some parts =>
      obtain ⟨before, inside⟩ := parts
      dsimp only
      cases closed : cutAtWord (closeTag name) inside with
      | none => rfl
      | some parts =>
          obtain ⟨found, rest⟩ := parts
          have whole := (cutAtWord_eq_some_iff.mp opened).whole
          rw [(cutAtWord_eq_some_iff.mp closed).whole] at whole
          have first : openTag name <+: start ++ more := by
            rw [element, List.append_assoc]
            exact List.prefix_append _ _
          have second : before ++ openTag name ++ found <+: start ++ more := by
            rw [whole]
            simp
          obtain ⟨ahead, lead⟩ := List.prefix_of_prefix_length_le first second (by simp; omega)
          have same : content ++ closeTag name = ahead ++ closeTag name ++ (rest ++ more) := by
            rw [← List.append_right_inj (openTag name), ← List.append_assoc, ← element, whole]
            simp only [← List.append_assoc]
            rw [lead]
          have long := free _ _ _ same
          have lengths := congrArg List.length same
          have some := List.length_pos_iff.mpr left
          simp only [List.length_append] at lengths
          omega

/-! ## Documents -/

/-- What a client writes of a part that it asks for: its number and its digest. -/
def askedContent (part : Int64 × String) : String :=
  element "PartNumber" (signedDecimal part.1.toInt) ++ textElement "ETag" part.2

def askedText (part : Int64 × String) : String := element "Part" (askedContent part)

def askedDocument (parts : List (Int64 × String)) : String :=
  element "CompleteMultipartUpload" (String.join (parts.map askedText))

/-- What a request to complete an upload is known by: its root up to the name. -/
def completionMark : String := "<CompleteMultipartUpload"

def cut (n : Nat) (text : String) : String := String.ofList (text.toList.take n)

/-- The parts whose elements stand as a whole among the first characters. -/
def wholeParts (room : Nat) : List (Int64 × String) → List (Int64 × String)
  | [] => []
  | part :: rest =>
      if (askedText part).length ≤ room then
        part :: wholeParts (room - (askedText part).length) rest
      else []

/-- The part that is asked for: of its digest the blanks at the ends do not count. -/
def askedPart (part : Int64 × String) : RequestedPart :=
  ⟨part.1.toInt, String.ofList (trimBlank part.2.toList)⟩

/-! ## Whole parts -/

theorem length_askedText (part : Int64 × String) :
    (askedText part).length =
      (openTag "Part".toList ++ (askedContent part).toList ++ closeTag "Part".toList).length := by
  rw [← String.length_toList, askedText, toList_element]

theorem wholeParts_zero (parts : List (Int64 × String)) : wholeParts 0 parts = [] := by
  cases parts with
  | nil => rfl
  | cons part rest =>
      refine if_neg ?_
      rw [length_askedText]
      simp [openTag]

theorem wholeParts_isPrefix (room : Nat) (parts : List (Int64 × String)) :
    wholeParts room parts <+: parts := by
  induction parts generalizing room with
  | nil => exact List.prefix_rfl
  | cons part rest ih =>
      rw [wholeParts]
      split
      · exact List.cons_prefix_cons.mpr ⟨rfl, ih _⟩
      · exact List.nil_prefix

/-- All parts are whole just when there is room for all of them. -/
theorem wholeParts_eq_self_iff {room : Nat} {parts : List (Int64 × String)} :
    wholeParts room parts = parts ↔ (String.join (parts.map askedText)).length ≤ room := by
  induction parts generalizing room with
  | nil => simp [wholeParts]
  | cons part rest ih =>
      have joined : (String.join ((part :: rest).map askedText)).length =
          (askedText part).length + (String.join (rest.map askedText)).length := by simp
      rw [wholeParts, joined]
      split
      · next fits =>
          rw [List.cons_inj_right, ih]
          omega
      · next tight => exact iff_of_false (by simp) (by omega)

/-! ## Reading a part -/

theorem markup_askedContent (part : Int64 × String) :
    Markup (askedContent part)
      [("PartNumber", signedDecimal part.1.toInt), ("ETag", escape part.2)] :=
  .append
    (.plain (by decide) (not_mem_signedDecimal (by decide) (by decide) part.1.toInt))
    (.textElement (by decide) part.2)

theorem trimBlank_escapeChars (text : List Char) :
    trimBlank (escapeChars text) = escapeChars (trimBlank text) := by
  refine trim_flatMap (fun c blank => ?_) (fun c solid => ?_) (fun c solid => ?_) text
  · refine ⟨c, ?_, blank⟩
    have other {special : Char} (solid : isBlank special = false) : c ≠ special := by
      rintro rfl
      rw [solid] at blank
      cases blank
    simp [escapeChar, other (show isBlank '&' = false by decide),
      other (show isBlank '<' = false by decide), other (show isBlank '>' = false by decide),
      other (show isBlank '\x22' = false by decide), other (show isBlank '\x27' = false by decide)]
  · unfold escapeChar
    repeat' split
    all_goals first | exact ⟨'&', rfl, rfl⟩ | exact ⟨c, rfl, solid⟩
  · unfold escapeChar
    repeat' split
    all_goals first | exact ⟨';', rfl, rfl⟩ | exact ⟨c, rfl, solid⟩

/-- What is written of a part asks for it. -/
theorem requestedPart?_askedContent (part : Int64 × String) :
    requestedPart? (askedContent part).toList = some (askedPart part) := by
  have names : NamesPart (askedContent part) (signedDecimal part.1.toInt, escape part.2) :=
    ⟨_, markup_askedContent part, by simp, by simp⟩
  rw [requestedPart?_of_names names, partAsked?_toInt, escape, String.toList_ofList,
    trimBlank_escapeChars, unescapeChars_escapeChars]
  rfl

/-! ## Reading what is left -/

/-- Of parts that are cut off, those are read that are whole. -/
theorem elementChars_cut {ending : List Char} (free : Free (openTag "Part".toList) ending)
    (parts : List (Int64 × String)) (room : Nat) :
    elementChars "Part".toList
        (((String.join (parts.map askedText)).toList ++ ending).take room) =
      (wholeParts room parts).map fun part => (askedContent part).toList := by
  induction parts generalizing room with
  | nil => exact elementChars_of_isPrefix free (List.take_prefix room ending)
  | cons part rest ih =>
      have inside : Free (closeTag "Part".toList) (askedContent part).toList :=
        (markup_askedContent part).free_closeTag (by decide) (by simp)
      have joined : (String.join ((part :: rest).map askedText)).toList ++ ending =
          (openTag "Part".toList ++ (askedContent part).toList ++ closeTag "Part".toList) ++
            ((String.join (rest.map askedText)).toList ++ ending) := by
        rw [List.map_cons, String.join_cons, String.toList_append, askedText, toList_element,
          List.append_assoc _ _ ending]
      rw [joined, wholeParts, length_askedText]
      split
      · next fits =>
          rw [List.take_append, List.take_of_length_le fits, elementChars_element inside, ih]
          rfl
      · next tight =>
          have short := Nat.lt_of_not_le tight
          rw [List.take_append_of_le_length (Nat.le_of_lt short)]
          exact elementChars_of_cut inside (List.take_prefix _ _)
            (by rwa [List.length_take, Nat.min_eq_left (Nat.le_of_lt short)])

theorem hasWord_of_short {word text : List Char} (short : text.length < word.length) :
    hasWord word text = false := by
  rw [Bool.eq_false_iff, ne_eq, hasWord_iff]
  rintro ⟨before, after, whole⟩
  have length := congrArg List.length whole
  rw [List.length_append, List.length_append] at length
  omega

section

variable (parts : List (Int64 × String)) (n : Nat)

/-- A document that is cut off is cut off in the start of its root or after it. -/
theorem toList_cut :
    (cut n (askedDocument parts)).toList =
      (openTag "CompleteMultipartUpload".toList ++
        ((String.join (parts.map askedText)).toList ++
          closeTag "CompleteMultipartUpload".toList)).take n := by
  rw [cut, String.toList_ofList, askedDocument, toList_element, List.append_assoc]

theorem openTag_root :
    openTag "CompleteMultipartUpload".toList = completionMark.toList ++ ['>'] := by decide

/-- A document that is cut off asks for a completion once the name of its root is complete. -/
theorem hasWord_cut :
    hasWord completionMark.toList (cut n (askedDocument parts)).toList =
      decide (completionMark.length ≤ n) := by
  have length : completionMark.toList.length = completionMark.length := String.length_toList
  rw [toList_cut, openTag_root]
  by_cases early : n < completionMark.length
  · rw [decide_eq_false (Nat.not_le_of_lt early)]
    refine hasWord_of_short (Nat.lt_of_le_of_lt (List.length_take_le _ _) ?_)
    rwa [length]
  · rw [decide_eq_true (Nat.le_of_not_lt early), List.append_assoc, List.take_append,
      List.take_of_length_le (by omega)]
    exact hasWord_append [] _ _

/-- A document that is cut off shows the parts that are whole in it. -/
theorem elementChars_cut_askedDocument :
    elementChars "Part".toList (cut n (askedDocument parts)).toList =
      (wholeParts (n - (completionMark.length + 1)) parts).map
        fun part => (askedContent part).toList := by
  have tags := free_element (show isName "Part" by decide)
    (show isName "CompleteMultipartUpload" by decide) (by decide)
  have opened :
      (openTag "CompleteMultipartUpload".toList).length = completionMark.length + 1 := by
    rw [openTag_root, List.length_append, String.length_toList]
    rfl
  rw [toList_cut]
  by_cases late : completionMark.length + 1 ≤ n
  · rw [List.take_append, List.take_of_length_le (by omega), elementChars_append tags.1.1, opened]
    exact elementChars_cut tags.1.2 parts _
  · rw [List.take_append_of_le_length (by omega), Nat.sub_eq_zero_of_le (by omega),
      wholeParts_zero]
    exact elementChars_of_isPrefix tags.1.1 (List.take_prefix _ _)

theorem requestedParts?_cut_eq :
    requestedParts? (cut n (askedDocument parts)) =
      if n < completionMark.length then none
      else some ((wholeParts (n - (completionMark.length + 1)) parts).map askedPart) := by
  unfold requestedParts?
  dsimp only
  rw [show "<CompleteMultipartUpload".toList = completionMark.toList from rfl, hasWord_cut,
    elementChars_cut_askedDocument]
  by_cases early : n < completionMark.length
  · rw [if_pos early, if_neg (by simpa using early)]
  · rw [if_neg early, if_pos (by simpa using early)]
    exact mapM_map_eq_some requestedPart?_askedContent _

end

theorem cut_of_length_le {n : Nat} {text : String} (long : text.length ≤ n) :
    cut n text = text := by
  rw [cut, List.take_of_length_le (by rwa [String.length_toList]), String.ofList_toList]

/-- The whole document asks for all its parts. -/
theorem requestedParts?_askedDocument (parts : List (Int64 × String)) :
    requestedParts? (askedDocument parts) = some (parts.map askedPart) := by
  have length : (askedDocument parts).length =
      completionMark.length + 1 + (String.join (parts.map askedText)).length +
        (completionMark.length + 2) := by
    have tags : "<".length = 1 ∧ "CompleteMultipartUpload".length = 23 ∧ ">".length = 1 ∧
        "</".length = 2 ∧ completionMark.length = 24 := by decide
    simp only [askedDocument, element, String.length_append, tags]
  have all := requestedParts?_cut_eq parts (askedDocument parts).length
  rwa [cut_of_length_le (Nat.le_refl _), if_neg (by omega),
    wholeParts_eq_self_iff.mpr (by omega)] at all

/-- **A document that is cut off asks for the parts that are whole in it**, once the name of its
root is.  So it is refused or asks for all that the whole document asks for just when it is cut off
before that name ends, or after the last part does. -/
theorem requestedParts?_cut (parts : List (Int64 × String)) (n : Nat) :
    requestedParts? (askedDocument parts) = some (parts.map askedPart) ∧
    requestedParts? (cut n (askedDocument parts)) =
      (if n < completionMark.length then none
        else some ((wholeParts (n - (completionMark.length + 1)) parts).map askedPart)) ∧
    ((requestedParts? (cut n (askedDocument parts)) = none ∨
        requestedParts? (cut n (askedDocument parts)) =
          requestedParts? (askedDocument parts)) ↔
      n < completionMark.length ∨
        (String.join (parts.map askedText)).length ≤ n - (completionMark.length + 1)) := by
  refine ⟨requestedParts?_askedDocument parts, requestedParts?_cut_eq parts n, ?_⟩
  rw [requestedParts?_askedDocument, requestedParts?_cut_eq, ← wholeParts_eq_self_iff]
  by_cases early : n < completionMark.length
  · simp [early]
  · rw [if_neg early, Option.some_inj]
    refine or_congr (iff_of_false nofun early) ⟨fun same => ?_, fun same => by rw [same]⟩
    refine (wholeParts_isPrefix _ parts).eq_of_length ?_
    have length := congrArg List.length same
    rwa [List.length_map, List.length_map] at length

/-- What is left of a document that is cut off after the start of its root is no refused request but
an empty one. -/
example : requestedParts? "<CompleteMultipartUpload>" = some [] := by decide

end Depot.Xml

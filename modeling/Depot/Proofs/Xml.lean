import Depot.Proofs.Cutting
import Depot.Xml.Text

/-!
# Elements are read as they were written

Whoever reads a document looks for the next start tag of a name and then for the
next end tag of it.  That finds the elements that were written, in order and no
others (`Markup.elements_eq`, `Markup.elements_document`): text has no `<` in
it, so no tag begins there, and a tag that is written is no other one.  An
element must not stand within one of its own name.
-/

namespace Depot.Xml

set_option autoImplicit false

open Depot.Text

/-! ## Words that do not begin in a text -/

/-- A word does not begin in a text, whatever follows the text. -/
def Free (word text : List Char) : Prop :=
  ∀ more before after, text ++ more = before ++ word ++ after → text.length ≤ before.length

/-- Where a word does not begin in a text, it occurs in what follows. -/
theorem Free.later {word text more before after : List Char} (free : Free word text)
    (whole : text ++ more = before ++ word ++ after) :
    ∃ between, before = text ++ between ∧ more = between ++ word ++ after := by
  have long := free _ _ _ whole
  rw [List.append_assoc] at whole
  obtain ⟨between, rfl⟩ : text <+: before :=
    List.prefix_of_prefix_length_le ⟨more, whole⟩ (List.prefix_append _ _) long
  rw [List.append_assoc] at whole
  exact ⟨between, rfl, by rw [List.append_cancel_left whole, List.append_assoc]⟩

theorem Free.append {word text text' : List Char} (free : Free word text)
    (free' : Free word text') : Free word (text ++ text') := by
  intro more before after whole
  rw [List.append_assoc] at whole
  obtain ⟨between, rfl, onward⟩ := free.later whole
  have long := free' _ _ _ onward
  rw [List.length_append, List.length_append]
  omega

theorem Free.cutAtWord_eq {word text : List Char} (free : Free word text) (after : List Char) :
    cutAtWord word (text ++ word ++ after) = some (text, after) := by
  refine cutAtWord_eq_some_iff.mpr ⟨rfl, fun before' after' whole => ?_⟩
  exact free (word ++ after) before' after' (by rw [← whole, List.append_assoc])

theorem Free.cutAtWord_append {word text : List Char} (free : Free word text)
    (more : List Char) :
    cutAtWord word (text ++ more) =
      (cutAtWord word more).map fun (before, after) => (text ++ before, after) := by
  cases found : cutAtWord word more with
  | none =>
      rw [Option.map_none, cutAtWord_eq_none_iff]
      intro before after whole
      obtain ⟨between, -, onward⟩ := free.later whole
      exact cutAtWord_eq_none_iff.mp found between after onward
  | some parts =>
      obtain ⟨before, after⟩ := parts
      have cut := cutAtWord_eq_some_iff.mp found
      rw [Option.map_some, cutAtWord_eq_some_iff]
      refine ⟨by rw [cut.whole]; simp, fun before' after' whole => ?_⟩
      obtain ⟨between, rfl, onward⟩ := free.later whole
      have first := cut.first _ _ onward
      rw [List.length_append, List.length_append]
      omega

/-! ## Reading elements -/

theorem elementsFrom_found (fuel : Nat) (name : List Char) (found : List (List Char))
    (document : List Char) :
    elementsFrom fuel name found document =
      found.reverse ++ elementsFrom fuel name [] document := by
  induction fuel generalizing found document with
  | zero => simp [elementsFrom]
  | succ fuel ih =>
      rw [elementsFrom, elementsFrom]
      cases cutAtWord (openTag name) document with
      | none => simp
      | some parts =>
          obtain ⟨_, inside⟩ := parts
          dsimp only
          cases cutAtWord (closeTag name) inside with
          | none => simp
          | some parts =>
              obtain ⟨content, rest⟩ := parts
              dsimp only
              rw [ih (content :: found) rest, ih [content] rest]
              simp

/-- What follows an element is shorter than the document. -/
theorem length_lt_of_cuts {name document before inside content rest : List Char}
    (opened : cutAtWord (openTag name) document = some (before, inside))
    (closed : cutAtWord (closeTag name) inside = some (content, rest)) :
    rest.length < document.length := by
  rw [(cutAtWord_eq_some_iff.mp opened).whole, (cutAtWord_eq_some_iff.mp closed).whole]
  simp [openTag]
  omega

/-- The number of steps does not matter to how elements are read, if there are enough of them. -/
theorem elementsFrom_fuel {fuel fuel' : Nat} {name document : List Char}
    (enough : document.length < fuel) (enough' : document.length < fuel') :
    elementsFrom fuel name [] document = elementsFrom fuel' name [] document := by
  induction fuel generalizing fuel' document with
  | zero => cases enough
  | succ fuel ih =>
      cases fuel' with
      | zero => cases enough'
      | succ fuel' =>
          rw [elementsFrom, elementsFrom]
          cases opened : cutAtWord (openTag name) document with
          | none => rfl
          | some parts =>
              obtain ⟨before, inside⟩ := parts
              dsimp only
              cases closed : cutAtWord (closeTag name) inside with
              | none => rfl
              | some parts =>
                  obtain ⟨content, rest⟩ := parts
                  have shorter := length_lt_of_cuts opened closed
                  dsimp only
                  rw [elementsFrom_found, elementsFrom_found fuel',
                    ih (by omega) (Nat.lt_of_lt_of_le shorter (Nat.le_of_lt_succ enough'))]

/-- The elements of a document are its first one and those of what follows that. -/
theorem elementChars_eq (name document : List Char) :
    elementChars name document =
      match cutAtWord (openTag name) document with
      | none => []
      | some (_, inside) =>
          match cutAtWord (closeTag name) inside with
          | none => []
          | some (content, rest) => content :: elementChars name rest := by
  unfold elementChars
  rw [elementsFrom]
  cases opened : cutAtWord (openTag name) document with
  | none => rfl
  | some parts =>
      obtain ⟨before, inside⟩ := parts
      dsimp only
      cases closed : cutAtWord (closeTag name) inside with
      | none => rfl
      | some parts =>
          obtain ⟨content, rest⟩ := parts
          have shorter := length_lt_of_cuts opened closed
          dsimp only
          rw [elementsFrom_found, elementsFrom_fuel shorter (Nat.lt_succ_self _)]
          rfl

/-- A text in which no start tag begins shows no element. -/
theorem elementChars_append {name text : List Char} (free : Free (openTag name) text)
    (more : List Char) : elementChars name (text ++ more) = elementChars name more := by
  rw [elementChars_eq, free.cutAtWord_append, elementChars_eq name more]
  cases cutAtWord (openTag name) more <;> rfl

/-- A content in which no end tag begins is read between its tags. -/
theorem elementChars_element {name content : List Char} (free : Free (closeTag name) content)
    (more : List Char) :
    elementChars name (openTag name ++ content ++ closeTag name ++ more) =
      content :: elementChars name more := by
  have whole : openTag name ++ content ++ closeTag name ++ more =
      openTag name ++ (content ++ closeTag name ++ more) := by simp
  rw [elementChars_eq, whole, cutAtWord_append_word]
  dsimp only
  rw [free.cutAtWord_eq]

/-! ## Tags -/

/-- No tag begins in a text without the mark of one. -/
theorem free_of_clean {text : List Char} (clean : '<' ∉ text) (body : List Char) :
    Free (openTag body) text := by
  intro more before after whole
  refine Nat.le_of_not_lt fun short => clean ?_
  have here : (text ++ more)[before.length]? = some '<' := by
    rw [whole]
    simp [openTag]
  rw [List.getElem?_append_left short] at here
  exact List.mem_of_getElem? here

/-- No tag begins in one that reads otherwise from its start on. -/
theorem free_openTag_of_ne {body body' : List Char} (clean : '<' ∉ body)
    (differs : ∀ more after, body ++ '>' :: more ≠ body' ++ '>' :: after) :
    Free (openTag body') (openTag body) := by
  intro more before after whole
  have inner : Free (openTag body') (body ++ ['>']) := free_of_clean (by simp [clean]) body'
  cases before with
  | nil => exact absurd (by simpa [openTag] using whole) (differs more after)
  | cons c before =>
      have onward : body ++ ['>'] ++ more = before ++ openTag body' ++ after := by
        simp [openTag] at whole ⊢
        exact whole.2
      have long := inner more before after onward
      simp [openTag] at long ⊢
      omega

/-- No tag begins in a different one. -/
theorem free_openTag {body body' : List Char} (opens : '<' ∉ body) (closes : '>' ∉ body)
    (closes' : '>' ∉ body') (differs : body ≠ body') : Free (openTag body') (openTag body) := by
  refine free_openTag_of_ne opens fun more after same => differs ?_
  have cuts := cutAt_append closes more
  rw [same, cutAt_append closes' after] at cuts
  cases cuts
  rfl

/-- No tag begins in one with another first character, whatever else that has in it. -/
theorem free_openTag_of_head {c d : Char} {name body : List Char} (other : c ≠ d)
    (clean : '<' ∉ d :: body) : Free (openTag (c :: name)) (openTag (d :: body)) :=
  free_openTag_of_ne clean fun _ _ same => other (List.cons.inj same).1.symm

/-- Whether a text is the name of an element: letters only. -/
def isName (name : String) : Bool := name.toList.all Char.isAlpha

theorem not_mem_of_isName {name : String} (isName : isName name) {c : Char}
    (other : c.isAlpha = false) : c ∉ name.toList := by
  intro member
  have letter := List.all_eq_true.mp isName c member
  rw [other] at letter
  cases letter

/-- No tag of an element begins in a tag that has no other. -/
theorem free_of_isName (body : List Char) (opens : '<' ∉ body) (closes : '>' ∉ body)
    {name : String} (known : isName name) :
    (body ≠ name.toList → Free (openTag name.toList) (openTag body)) ∧
      (body ≠ '/' :: name.toList → Free (closeTag name.toList) (openTag body)) := by
  have closes' : '>' ∉ name.toList := not_mem_of_isName known (by decide)
  have ends : '>' ∉ '/' :: name.toList := by simpa using closes'
  exact ⟨free_openTag opens closes closes', free_openTag opens closes ends⟩

/-! ## Markup -/

/-- A text of a document together with its elements, each as its name and content, in the order of
their start tags. -/
inductive Markup : String → List (String × String) → Prop where
  | text {text : String} (clean : '<' ∉ text.toList) : Markup text []
  | append {first second : String} {parts parts' : List (String × String)}
      (here : Markup first parts) (there : Markup second parts') :
      Markup (first ++ second) (parts ++ parts')
  | element {name content : String} {parts : List (String × String)} (known : isName name)
      (inside : Markup content parts) (apart : ∀ part, part ∈ parts → part.1 ≠ name) :
      Markup (element name content) ((name, content) :: parts)

/-- The contents of the elements of a name. -/
def contentsOf (name : String) (parts : List (String × String)) : List String :=
  (parts.filter (·.1 = name)).map Prod.snd

@[simp] theorem contentsOf_nil (name : String) : contentsOf name [] = [] := rfl

@[simp] theorem contentsOf_cons (name name' content : String) (rest : List (String × String)) :
    contentsOf name ((name', content) :: rest) =
      if name' = name then content :: contentsOf name rest else contentsOf name rest := by
  by_cases same : name' = name <;> simp [contentsOf, same]

@[simp] theorem contentsOf_append (name : String) (parts parts' : List (String × String)) :
    contentsOf name (parts ++ parts') = contentsOf name parts ++ contentsOf name parts' := by
  simp [contentsOf]

@[simp] theorem contentsOf_flatMap {α : Type} (name : String) (texts : List α)
    (parts : α → List (String × String)) :
    contentsOf name (texts.flatMap parts) = texts.flatMap fun a => contentsOf name (parts a) := by
  induction texts with
  | nil => rfl
  | cons first rest ih => rw [List.flatMap_cons, contentsOf_append, ih, List.flatMap_cons]

theorem contentsOf_eq_nil {name : String} {parts : List (String × String)}
    (absent : ∀ part, part ∈ parts → part.1 ≠ name) : contentsOf name parts = [] := by
  simpa [contentsOf] using fun a b member => absent (a, b) member

theorem toList_element (name content : String) :
    (element name content).toList =
      openTag name.toList ++ content.toList ++ closeTag name.toList := by
  simp [element, openTag, closeTag]

/-- The tags of an element are not those of another name. -/
theorem free_element {name name' : String} (known : isName name) (known' : isName name')
    (differs : name' ≠ name) :
    (Free (openTag name.toList) (openTag name'.toList) ∧
      Free (openTag name.toList) (closeTag name'.toList)) ∧
    (Free (closeTag name.toList) (openTag name'.toList) ∧
      Free (closeTag name.toList) (closeTag name'.toList)) := by
  have opens : '<' ∉ name'.toList := not_mem_of_isName known' (by decide)
  have closes : '>' ∉ name'.toList := not_mem_of_isName known' (by decide)
  have slash : '/' ∉ name.toList := not_mem_of_isName known (by decide)
  have slash' : '/' ∉ name'.toList := not_mem_of_isName known' (by decide)
  have other : name'.toList ≠ name.toList := fun same => differs (String.toList_inj.mp same)
  obtain ⟨start, ending⟩ := free_of_isName _ opens closes known
  obtain ⟨start', ending'⟩ := free_of_isName ('/' :: name'.toList) (by simpa using opens)
    (by simpa using closes) known
  refine ⟨⟨start other, start' fun same => slash (same ▸ List.mem_cons_self)⟩,
    ending fun same => slash' (same ▸ List.mem_cons_self), ending' fun same => other ?_⟩
  exact (List.cons.inj same).2

namespace Markup

variable {text : String} {parts : List (String × String)} {name : String}

/-- No end tag of a name begins in markup without elements of that name. -/
theorem free_closeTag (markup : Markup text parts) (known : isName name)
    (absent : ∀ part, part ∈ parts → part.1 ≠ name) :
    Free (closeTag name.toList) text.toList := by
  induction markup with
  | text clean => exact free_of_clean clean _
  | append here there ih ih' =>
      rw [String.toList_append]
      exact (ih fun part member => absent part (List.mem_append_left _ member)).append
        (ih' fun part member => absent part (List.mem_append_right _ member))
  | element known' inside apart ih =>
      have tags := free_element known known' (absent _ List.mem_cons_self)
      rw [toList_element]
      exact (tags.2.1.append (ih fun part member => absent part (.tail _ member))).append tags.2.2

/-- Markup shows its elements, whatever follows it. -/
theorem elementChars_append (markup : Markup text parts) (known : isName name)
    (more : List Char) :
    elementChars name.toList (text.toList ++ more) =
      (contentsOf name parts).map String.toList ++ elementChars name.toList more := by
  induction markup generalizing more with
  | text clean => exact Xml.elementChars_append (free_of_clean clean _) more
  | append here there ih ih' =>
      rw [String.toList_append, List.append_assoc, ih, ih', contentsOf_append, List.map_append,
        List.append_assoc]
  | @element name' content parts known' inside apart ih =>
      rw [toList_element]
      by_cases same : name' = name
      · subst same
        rw [elementChars_element (inside.free_closeTag known' apart)]
        have own : contentsOf name' ((name', content) :: parts) =
            content :: contentsOf name' parts := by simp [contentsOf]
        rw [own, contentsOf_eq_nil apart]
        rfl
      · have tags := free_element known known' same
        have other : contentsOf name ((name', content) :: parts) = contentsOf name parts := by
          simp [contentsOf, same]
        rw [other, List.append_assoc, List.append_assoc,
          Xml.elementChars_append tags.1.1, ih, Xml.elementChars_append tags.1.2]

/-- **The elements of markup are read as they were written.** -/
theorem elements_eq (markup : Markup text parts) (known : isName name) :
    elements name text = contentsOf name parts := by
  have shown := markup.elementChars_append known []
  rw [List.append_nil] at shown
  rw [elements, shown]
  simp [elementChars, elementsFrom, cutAtWord_nil, openTag]

end Markup

/-! ## Documents -/

/-- What stands in the tag of the declaration. -/
def declarationBody : List Char := "?xml version=\x221.0\x22 encoding=\x22UTF-8\x22?".toList

/-- What stands in the start tag of a root after its name. -/
def rootAttribute : String := " xmlns=\x22" ++ nameSpace ++ "\x22"

theorem toList_declaration : declaration.toList = openTag declarationBody := by decide

theorem toList_document (root content : String) :
    (document root content).toList =
      openTag declarationBody ++ (openTag (root.toList ++ rootAttribute.toList) ++
        (content.toList ++ closeTag root.toList)) := by
  have marks : "<".toList = ['<'] ∧ "</".toList = ['<', '/'] ∧ ">".toList = ['>'] ∧
      "\x22>".toList = ['\x22', '>'] ∧ "\x22".toList = ['\x22'] := by decide
  obtain ⟨less, ends, greater, closes, quote⟩ := marks
  unfold document rootAttribute
  simp only [String.toList_append, less, ends, greater, closes, quote, toList_declaration]
  -- The long texts stay closed; only the tags are opened.
  generalize openTag declarationBody = first
  generalize " xmlns=\x22".toList = second
  generalize nameSpace.toList = third
  simp [openTag, closeTag]

theorem clean_rootAttribute :
    '<' ∉ rootAttribute.toList ∧ '>' ∉ rootAttribute.toList ∧ '=' ∈ rootAttribute.toList := by
  decide

/-- No start tag of an element begins in the tags around the content of a document. -/
theorem free_document {root name : String} (rooted : isName root) (known : isName name) :
    Free (openTag name.toList) (openTag declarationBody) ∧
      Free (openTag name.toList) (openTag (root.toList ++ rootAttribute.toList)) ∧
      Free (openTag name.toList) (closeTag root.toList) := by
  have opens : '<' ∉ root.toList := not_mem_of_isName rooted (by decide)
  have closes : '>' ∉ root.toList := not_mem_of_isName rooted (by decide)
  have differs {body : List Char} {c : Char} (member : c ∈ body) (other : c.isAlpha = false) :
      body ≠ name.toList :=
    fun same => not_mem_of_isName known other (same ▸ member)
  refine ⟨?_, ?_, ?_⟩
  · have clean : '<' ∉ declarationBody ∧ '>' ∉ declarationBody ∧ '?' ∈ declarationBody := by
      decide
    exact (free_of_isName declarationBody clean.1 clean.2.1 known).1
      (differs clean.2.2 (by decide))
  · obtain ⟨less, greater, equals⟩ := clean_rootAttribute
    exact (free_of_isName (root.toList ++ rootAttribute.toList) (by simp [opens, less])
      (by simp [closes, greater]) known).1
      (differs (List.mem_append_right _ equals) (by decide))
  · exact (free_of_isName ('/' :: root.toList) (by simpa using opens) (by simpa using closes)
      known).1 (differs List.mem_cons_self (by decide))

/-- **The elements of a document are read as they were written.** -/
theorem Markup.elements_document {content root name : String} {parts : List (String × String)}
    (markup : Markup content parts) (rooted : isName root) (known : isName name) :
    elements name (document root content) = contentsOf name parts := by
  obtain ⟨first, second, last⟩ := free_document rooted known
  have rest := Xml.elementChars_append last []
  rw [List.append_nil] at rest
  rw [elements, toList_document, Xml.elementChars_append first, Xml.elementChars_append second,
    markup.elementChars_append known, rest]
  simp [elementChars, elementsFrom, cutAtWord_nil, openTag]

/-! ## Elements of texts -/

theorem clean_escapeChar (c : Char) : '<' ∉ escapeChar c := by
  unfold escapeChar
  intro part
  repeat' split at part
  all_goals simp_all [eq_comm]

theorem clean_escape (text : String) : '<' ∉ (escape text).toList := by
  rw [escape, String.toList_ofList, escapeChars]
  intro member
  obtain ⟨c, -, part⟩ := List.mem_flatMap.mp member
  exact clean_escapeChar c part

theorem Markup.textElement {name : String} (known : isName name) (text : String) :
    Markup (textElement name text) [(name, escape text)] :=
  .element known (.text (clean_escape text)) (by simp)

end Depot.Xml

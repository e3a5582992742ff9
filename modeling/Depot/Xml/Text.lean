import Depot.Text.Blank
import Depot.Text.Cut

/-!
# Text in XML

Writing text with the five special characters as entities, reading it back, and
taking the contents of all elements of a name out of a document.
`unescape_escape` says that reading undoes writing.
-/

namespace Depot.Xml

set_option autoImplicit false

open Depot.Text

/-! ## Entities -/

/-- A character as it stands in a document. -/
def escapeChar (c : Char) : List Char :=
  if c = '&' then "&amp;".toList
  else if c = '<' then "&lt;".toList
  else if c = '>' then "&gt;".toList
  else if c = '\x22' then "&quot;".toList
  else if c = '\x27' then "&apos;".toList
  else [c]

def escapeChars (text : List Char) : List Char := text.flatMap escapeChar

/-- Characters of a document with the five entities read; any other text stays as it is. -/
def unescapeChars : List Char → List Char
  | [] => []
  | '&' :: 'a' :: 'm' :: 'p' :: ';' :: rest => '&' :: unescapeChars rest
  | '&' :: 'l' :: 't' :: ';' :: rest => '<' :: unescapeChars rest
  | '&' :: 'g' :: 't' :: ';' :: rest => '>' :: unescapeChars rest
  | '&' :: 'q' :: 'u' :: 'o' :: 't' :: ';' :: rest => '\x22' :: unescapeChars rest
  | '&' :: 'a' :: 'p' :: 'o' :: 's' :: ';' :: rest => '\x27' :: unescapeChars rest
  | c :: rest => c :: unescapeChars rest

/-- A text as it stands in a document. -/
def escape (text : String) : String := String.ofList (escapeChars text.toList)

/-- A text of a document with the five entities read. -/
def unescape (text : String) : String := String.ofList (unescapeChars text.toList)

theorem unescapeChars_cons {c : Char} (rest : List Char) (h : c ≠ '&') :
    unescapeChars (c :: rest) = c :: unescapeChars rest := by
  rw [unescapeChars.eq_def]
  split <;> simp_all

theorem unescapeChars_escapeChar (c : Char) (rest : List Char) :
    unescapeChars (escapeChar c ++ rest) = c :: unescapeChars rest := by
  unfold escapeChar
  split
  · next h => subst h; rfl
  · split
    · next h => subst h; rfl
    · split
      · next h => subst h; rfl
      · split
        · next h => subst h; rfl
        · split
          · next h => subst h; rfl
          · next h _ _ _ _ => exact unescapeChars_cons rest h

theorem unescapeChars_escapeChars (text : List Char) :
    unescapeChars (escapeChars text) = text := by
  induction text with
  | nil => rfl
  | cons c rest ih =>
      have step : escapeChars (c :: rest) = escapeChar c ++ escapeChars rest := rfl
      rw [step, unescapeChars_escapeChar, ih]

/-- Reading a written text gives the text. -/
theorem unescape_escape (text : String) : unescape (escape text) = text := by
  simp [unescape, escape, unescapeChars_escapeChars]

/-! ## Elements -/

def openTag (name : List Char) : List Char := ['<'] ++ name ++ ['>']

def closeTag (name : List Char) : List Char := ['<', '/'] ++ name ++ ['>']

/-- The contents of the elements of a name, last one first onto `found`; `fuel` bounds their
number. -/
def elementsFrom (fuel : Nat) (name : List Char) (found : List (List Char))
    (document : List Char) : List (List Char) :=
  match fuel with
  | 0 => found.reverse
  | fuel + 1 =>
      match cutAtWord (openTag name) document with
      | none => found.reverse
      | some (_, inside) =>
          match cutAtWord (closeTag name) inside with
          | none => found.reverse
          | some (content, rest) => elementsFrom fuel name (content :: found) rest

/-- The contents of the elements of a name in the order of the document.  An element ends at the
first end tag of its name. -/
def elementChars (name document : List Char) : List (List Char) :=
  elementsFrom (document.length + 1) name [] document

def elements (name document : String) : List String :=
  (elementChars name.toList document.toList).map String.ofList

def element (name content : String) : String :=
  "<" ++ name ++ ">" ++ content ++ "</" ++ name ++ ">"

def textElement (name text : String) : String := element name (escape text)

/-- The line that every document begins with. -/
def declaration : String := "<?xml version=\x221.0\x22 encoding=\x22UTF-8\x22?>"

def nameSpace : String := "http://s3.amazonaws.com/doc/2006-03-01/"

/-- A document whose root element is in the name space. -/
def document (root content : String) : String :=
  declaration ++ "<" ++ root ++ " xmlns=\x22" ++ nameSpace ++ "\x22>" ++ content ++
    "</" ++ root ++ ">"

end Depot.Xml

/-!
# Cutting a sequence

Cutting at the first occurrence of an element or of a word, cutting at every
occurrence of an element, trimming both ends, and joining strings.  The cuts
work on lists of any element type, because the same ones serve characters and
bytes; the forms for strings stand at the end.

The search for a word keeps what it has passed in an accumulator, so that a
long document does not deepen the stack.
-/

namespace Depot.Text

set_option autoImplicit false

variable {α : Type}

/-! ## Cutting at an element -/

/-- What stands before and after the first element that satisfies `p`. -/
def cutWhere (p : α → Bool) : List α → Option (List α × List α)
  | [] => none
  | a :: rest =>
      if p a then some ([], rest)
      else (cutWhere p rest).map fun (before, after) => (a :: before, after)

/-- What stands before and after the first `sep`. -/
def cutAt [BEq α] (sep : α) (text : List α) : Option (List α × List α) :=
  cutWhere (· == sep) text

/-- The pieces between the separators; there is one piece more than there are separators. -/
def pieces [BEq α] (sep : α) : List α → List (List α)
  | [] => [[]]
  | a :: rest =>
      if a == sep then [] :: pieces sep rest
      else
        match pieces sep rest with
        | [] => [[a]]
        | piece :: more => (a :: piece) :: more

@[simp] theorem pieces_nil [BEq α] (sep : α) : pieces sep ([] : List α) = [[]] := rfl

theorem pieces_ne_nil [BEq α] (sep : α) (text : List α) : pieces sep text ≠ [] := by
  cases text with
  | nil => simp
  | cons a rest =>
      unfold pieces
      split
      · simp
      · split <;> simp

/-! ## Cutting at a word -/

/-- Looks for `word` in `text`, holding what was passed, last element first, in `passed`. -/
def cutAtWordFrom [BEq α] (word : List α) (passed : List α) :
    List α → Option (List α × List α)
  | [] => if word.isEmpty then some (passed.reverse, []) else none
  | a :: rest =>
      match word.isPrefixOf? (a :: rest) with
      | some after => some (passed.reverse, after)
      | none => cutAtWordFrom word (a :: passed) rest

/-- What stands before and after the first occurrence of `word`. -/
def cutAtWord [BEq α] (word text : List α) : Option (List α × List α) :=
  cutAtWordFrom word [] text

def hasWord [BEq α] (word text : List α) : Bool := (cutAtWord word text).isSome

/-- The rest of `text` after `lead`, when it begins with it. -/
def afterLead? [BEq α] (lead text : List α) : Option (List α) := lead.isPrefixOf? text

/-! ## Trimming -/

def trimStart (p : α → Bool) (text : List α) : List α := text.dropWhile p

def trimEnd (p : α → Bool) (text : List α) : List α := (text.reverse.dropWhile p).reverse

def trim (p : α → Bool) (text : List α) : List α := trimEnd p (trimStart p text)

/-! ## The same cuts on strings -/

/-- What stands before and after the first `sep` in a string. -/
def cutString (sep : Char) (text : String) : Option (String × String) :=
  (cutAt sep text.toList).map fun (before, after) =>
    (String.ofList before, String.ofList after)

def stringPieces (sep : Char) (text : String) : List String :=
  (pieces sep text.toList).map String.ofList

/-- Some strings as one, with `sep` between each and the next. -/
def joined (sep : String) (texts : List String) : String :=
  String.ofList (sep.toList.intercalate (texts.map String.toList))

/-- The rest of a string after `lead`, when it begins with it. -/
def stringAfter? (lead text : String) : Option String :=
  (afterLead? lead.toList text.toList).map String.ofList

def beginsWith (lead text : String) : Bool := lead.toList.isPrefixOf text.toList

/-- ASCII capitals in lower case, every other character as it is. -/
def lower (text : String) : String := String.ofList (text.toList.map Char.toLower)

/-- ASCII small letters in upper case, every other character as it is. -/
def upper (text : String) : String := String.ofList (text.toList.map Char.toUpper)

end Depot.Text

import Depot.Text.Cut

/-!
# Blanks and control characters

Which characters count as blank, by the Unicode property White_Space, and which
as control characters, by the general category Cc.  Blanks are trimmed from
numbers and header components, control characters are refused in names.
-/

namespace Depot.Text

set_option autoImplicit false

/-- The characters of the Unicode property White_Space. -/
def isBlank (c : Char) : Bool :=
  let n := c.toNat
  (9 ≤ n && n ≤ 13) || n == 0x20 || n == 0x85 || n == 0xA0 || n == 0x1680 ||
    (0x2000 ≤ n && n ≤ 0x200A) || n == 0x2028 || n == 0x2029 || n == 0x202F ||
    n == 0x205F || n == 0x3000

/-- The characters of the general category Cc. -/
def isControl (c : Char) : Bool :=
  let n := c.toNat
  n < 0x20 || (0x7F ≤ n && n < 0xA0)

def trimBlank (text : List Char) : List Char := trim isBlank text

/-- The non-empty words between runs of blanks. -/
def blankWords (text : List Char) : List (List Char) :=
  let step (c : Char) (acc : List (List Char)) : List (List Char) :=
    if isBlank c then [] :: acc
    else
      match acc with
      | [] => [[c]]
      | word :: more => (c :: word) :: more
  (text.foldr step [[]]).filter (!·.isEmpty)

end Depot.Text

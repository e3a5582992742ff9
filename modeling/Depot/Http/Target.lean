import Depot.Text.Cut

/-!
# Request targets

The target of a request in its four forms: a path with an optional query, a
whole address, the host alone, or an asterisk.  A fragment is dropped.  Path
and query are kept as they were sent.
-/

namespace Depot.Http

set_option autoImplicit false

open Depot.Text

/-- The target of a request. -/
structure Target where
  /-- The host, with a port or user when the target names them. -/
  authority? : Option String
  path : String
  query? : Option String
  deriving DecidableEq, Repr

namespace Target

/-- The text before the first of some characters, and the text from there on. -/
def splitBefore (stops : List Char) (text : List Char) : List Char × List Char :=
  (text.takeWhile (!stops.contains ·), text.dropWhile (!stops.contains ·))

/-- Path and query of a target, which begin with a slash or a question mark. -/
def ofPathAndQuery (authority? : Option String) (text : List Char) : Target :=
  let kept := (splitBefore ['#'] text).1
  match cutAt '?' kept with
  | some (path, query) =>
      { authority?
        path := if path.isEmpty then "/" else String.ofList path
        query? := some (String.ofList query) }
  | none =>
      { authority?
        path := if kept.isEmpty then "/" else String.ofList kept
        query? := none }

/-- Reads a target. -/
def ofText (text : String) : Target :=
  let chars := text.toList
  if chars == ['*'] then { authority? := none, path := "*", query? := none }
  else if chars.head? == some '/' then ofPathAndQuery none chars
  else
    match cutAtWord "://".toList chars with
    | some (_, rest) =>
        let (authority, rest) := splitBefore ['/', '?', '#'] rest
        ofPathAndQuery (some (String.ofList authority)) rest
    | none => { authority? := some text, path := "", query? := none }

end Target

end Depot.Http

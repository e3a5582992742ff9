import Depot.Codec.Percent
import Depot.Text.Cut

/-!
# Query strings

The parameters of a query string as a form writes them: pairs between
ampersands, a plus sign for a space, everything else percent-encoded.  A name
without equals sign has the empty value, and bytes that are no text are
replaced.
-/

namespace Depot.Http

set_option autoImplicit false

open Depot.Text

/-- One parameter. -/
structure Parameter where
  name : String
  value : String
  deriving DecidableEq, Repr

def plusAsSpace (b : UInt8) : UInt8 := if b = 43 then 32 else b

/-- A name or value as it was before it was written into the query. -/
def formText (encoded : List UInt8) : String :=
  lossy (Percent.decode (encoded.map plusAsSpace))

/-- The parameter written in one piece of the query. -/
def Parameter.ofPiece (piece : List UInt8) : Parameter :=
  match cutAt 61 piece with
  | some (name, value) => ⟨formText name, formText value⟩
  | none => ⟨formText piece, ""⟩

/-- The parameters of a query string in order; empty pieces are skipped. -/
def parameters (query : String) : List Parameter :=
  ((pieces 38 (bytes query)).filter (!·.isEmpty)).map Parameter.ofPiece

/-- The first known name that stands in the query more than once, when there is one: the name at
its second place. -/
def repeatedName? (known : List String) (params : List Parameter) : Option String :=
  go [] params
where
  /-- Walks the parameters with the known names met so far. -/
  go (met : List String) : List Parameter → Option String
    | [] => none
    | p :: rest =>
        if !known.contains p.name then go met rest
        else if met.contains p.name then some p.name
        else go (p.name :: met) rest

def valueOf? (params : List Parameter) (name : String) : Option String :=
  (params.find? (·.name == name)).map Parameter.value

end Depot.Http

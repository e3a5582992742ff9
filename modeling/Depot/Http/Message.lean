import Depot.Http.Body
import Depot.Http.Headers
import Depot.Http.Target
import Depot.Text.Decimal

/-!
# Requests and responses
-/

namespace Depot.Http

set_option autoImplicit false

open Depot.Text

/-- A request. -/
structure Request where
  method : String
  target : Target
  headers : Headers
  body : Body

/-- A response. -/
structure Response where
  status : Nat
  headers : Headers
  body : ByteArray

namespace Response

def ofStatus (status : Nat) : Response := ⟨status, Headers.empty, ByteArray.empty⟩

/-- A response whose body is a text of a media type. -/
def ofText (status : Nat) (mediaType : String) (text : String) : Response :=
  ⟨status, Headers.empty.insertText "content-type" mediaType, text.toUTF8⟩

def plain (status : Nat) (text : String) : Response :=
  ofText status "text/plain; charset=utf-8" text

def xml (status : Nat) (document : String) : Response := ofText status "application/xml" document

def json (status : Nat) (text : String) : Response := ofText status "application/json" text

/-- The response with one header line more, in the place of all of that name. -/
def withHeader (r : Response) (name text : String) : Response :=
  { r with headers := r.headers.insertText name text }

/-- The response with the length of its body, unless it states one. -/
def withLength (r : Response) : Response :=
  if r.headers.has "content-length" then r
  else r.withHeader "content-length" (decimal r.body.size)

def withoutBody (r : Response) : Response := { r with body := ByteArray.empty }

end Response

end Depot.Http

import Depot.Name.Identifier
import Depot.Store.Table
import Depot.Time.Format

/-!
# Objects

What is known of a stored object beside its bytes: its identifier, the
attributes its writer gave it, its size, the digest of its content and the
moment of its last change.
-/

namespace Depot

set_option autoImplicit false

open Depot.Time

/-- User metadata: names and values, in ascending order of the names. -/
abbrev Metadata := Table String String

/-- What a writer says about an object. -/
structure Attributes where
  contentType? : Option String
  metadata : Metadata
  deriving DecidableEq, Inhabited

def Attributes.none : Attributes := ⟨Option.none, Table.empty⟩

/-- A stored object without its bytes. -/
structure Object where
  identifier : String
  /-- The number of the blob that holds the bytes. -/
  blob : Nat
  attributes : Attributes
  /-- The number of bytes. -/
  size : Int
  /-- The MD5 digest of the bytes in lower-case hexadecimal. -/
  etag : String
  modified : Instant

namespace Object

def defaultContentType : String := "application/octet-stream"

def contentType (o : Object) : String := o.attributes.contentType?.getD defaultContentType

/-- The digest of an object between quotes, as clients compare it. -/
def quotedEtag (o : Object) : String := "\x22" ++ o.etag ++ "\x22"

def key (o : Object) : String := Name.keyOf o.identifier

end Object

/-- The bytes of an object together with what is known of it. -/
structure Content where
  object : Object
  bytes : ByteArray

end Depot

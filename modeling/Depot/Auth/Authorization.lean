import Depot.Auth.Fault
import Depot.Codec.Hex
import Depot.Text.Blank

/-!
# Authorization values

The value of the header that carries a signature: the algorithm, the scope of
the credential, the names of the signed headers and the signature.
-/

namespace Depot.Auth

set_option autoImplicit false

open Depot.Text

def algorithm : String := "AWS4-HMAC-SHA256"

def service : String := "s3"

def terminator : String := "aws4_request"

/-- What a signature is good for: an access key on a day, in a region, for a service. -/
structure Scope where
  accessKey : String
  date : String
  region : String
  service : String
  deriving DecidableEq, Repr

/-- A scope without its access key, as it is signed. -/
def Scope.text (s : Scope) : String :=
  s.date ++ "/" ++ s.region ++ "/" ++ s.service ++ "/" ++ terminator

/-- The value of an authorization header. -/
structure Authorization where
  scope : Scope
  /-- The names of the signed headers in lower case, in the order in which they are signed. -/
  signedHeaders : List String
  /-- Sixty-four hexadecimal digits in lower case. -/
  signature : String
  deriving DecidableEq, Repr

namespace Authorization

/-- An authorization as the value of its header. -/
def text (a : Authorization) : String :=
  algorithm ++ " Credential=" ++ a.scope.accessKey ++ "/" ++ a.scope.text ++ ", SignedHeaders=" ++
    joined ";" a.signedHeaders ++ ", Signature=" ++ a.signature

/-- A component of an authorization: what stands before and after its equals sign. -/
def component (field : List Char) : Except AuthFault (String × String) :=
  match cutAt '=' field with
  | some (name, value) => .ok (String.ofList name, String.ofList value)
  | none => .error (.malformed ("unexpected component `" ++ String.ofList field ++ "`"))

/-- The components of an authorization, which commas separate. -/
def components (text : List Char) : Except AuthFault (List (String × String)) :=
  (((pieces ',' text).map trimBlank).filter (!·.isEmpty)).mapM component

def lastOf? (components : List (String × String)) (name : String) : Option String :=
  (components.reverse.find? (·.1 == name)).map Prod.snd

/-- Reads a scope with its access key. -/
def readScope (credential : String) : Except AuthFault Scope :=
  match stringPieces '/' credential with
  | [accessKey, date, region, service, last] =>
      if last = terminator ∧ accessKey ≠ "" then .ok ⟨accessKey, date, region, service⟩
      else .error (.malformed "credential scope has the wrong shape")
  | _ => .error (.malformed "credential scope has the wrong shape")

def readSignedHeaders (names : String) : List String :=
  ((stringPieces ';' names).filter (!·.isEmpty)).map lower

/-- A component that must be there. -/
def require (component? : Option String) (name : String) : Except AuthFault String :=
  match component? with
  | some value => .ok value
  | none => .error (.malformed ("missing " ++ name))

/-- Reads the value of an authorization header. -/
def ofText (text : String) : Except AuthFault Authorization :=
  match afterLead? algorithm.toList text.toList with
  | some (' ' :: rest) => do
      let components ← components (' ' :: rest)
      let scope ← readScope (← require (lastOf? components "Credential") "Credential")
      let names ← require (lastOf? components "SignedHeaders") "SignedHeaders"
      let signedHeaders := readSignedHeaders names
      if signedHeaders.isEmpty then throw (.malformed "SignedHeaders is empty")
      let signature ← require (lastOf? components "Signature") "Signature"
      if Hex.isDigest signature then return ⟨scope, signedHeaders, lower signature⟩
      else throw (.malformed "signature is not 64 hex digits")
  | _ => .error (.malformed "unsupported signing algorithm")

end Authorization

end Depot.Auth

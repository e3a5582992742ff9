import Depot.Auth.Authorization
import Depot.Auth.Canonical
import Depot.Auth.Credential
import Depot.Digest.Hmac
import Depot.Time.Format

/-!
# Signatures

Making a signature for a request and checking the one that a request carries.
-/

namespace Depot.Auth

set_option autoImplicit false

open Depot.Http
open Depot.Text
open Depot.Time

/-! ## The signature of a canonical request -/

def payloadHash (bytes : ByteArray) : String := Hex.encode (Digest.Sha256.digest bytes)

/-- The text that is signed for a canonical request. -/
def stringToSign (moment : Instant) (scope canonical : String) : String :=
  algorithm ++ "\n" ++ moment.compact ++ "\n" ++ scope ++ "\n" ++ payloadHash canonical.toUTF8

/-- The key that signs within a scope: the secret, keyed in turn by day, region and service. -/
def signingKey (secretKey date region service : String) : ByteArray :=
  let step (key : ByteArray) (text : String) := Digest.Hmac.sha256 key text.toUTF8
  step (step (step (step ("AWS4" ++ secretKey).toUTF8 date) region) service) terminator

def signatureOf (key : ByteArray) (text : String) : String :=
  Hex.encode (Digest.Hmac.sha256 key text.toUTF8)

/-- Whether hexadecimal digits in either case are the signature of a text. -/
def verifiesSignature (key : ByteArray) (text signature : String) : Bool :=
  match Hex.decode signature with
  | some bytes => bytes == Digest.Hmac.sha256 key text.toUTF8
  | none => false

/-! ## Signing -/

/-- Who signs, and for which region. -/
structure Signer where
  accessKey : String
  secretKey : String
  region : String

namespace Signer

/-- The scope of a signer at a moment. -/
def scope (s : Signer) (moment : Instant) : Scope :=
  ⟨s.accessKey, moment.compactDate, s.region, service⟩

/-- The authorization for a request whose date and digest headers are in place. -/
def authorize (s : Signer) (method : String) (target : Target) (headers : Headers)
    (signedHeaders : List String) (payloadHash : String) (moment : Instant) :
    Except AuthFault Authorization := do
  let scope := s.scope moment
  let canonical ← canonicalRequest method target headers signedHeaders payloadHash
  let key := signingKey s.secretKey scope.date scope.region scope.service
  return ⟨scope, signedHeaders, signatureOf key (stringToSign moment scope.text canonical)⟩

/-- The headers with a text under a name, which must be fit to be sent. -/
def put (headers : Headers) (name text : String) : Except AuthFault Headers :=
  match fieldValue? text with
  | some value => .ok (headers.insert name value)
  | none => .error (.malformed "unrepresentable header value")

/-- Signs a request with all headers it has, for a given digest of its body. -/
def signWithHash (s : Signer) (method : String) (target : Target) (headers : Headers)
    (payloadHash : String) (moment : Instant) : Except AuthFault Headers := do
  let headers ← put headers dateHeader moment.compact
  let headers ← put headers digestHeader payloadHash
  let headers := headers.erase "authorization"
  let authorization ← s.authorize method target headers headers.names payloadHash moment
  put headers "authorization" authorization.text

/-- Signs a request with all headers it has, for its body. -/
def sign (s : Signer) (method : String) (target : Target) (headers : Headers)
    (payload : ByteArray) (moment : Instant) : Except AuthFault Headers :=
  s.signWithHash method target headers (Auth.payloadHash payload) moment

end Signer

/-! ## Checking -/

/-- What a signature covers of a request. -/
structure SignedRequest where
  method : String
  target : Target
  headers : Headers
  /-- The digest of the body in hexadecimal, or the text for an unsigned body. -/
  payloadHash : String

/-- Knows the credentials, and checks requests against them. -/
structure Verifier where
  credentials : CredentialBook
  region : String
  /-- The greatest distance in seconds between the time of signing and the clock. -/
  maxSkew : Nat

namespace Verifier

/-- The user who signed a request, as seen at a moment. -/
def verify (v : Verifier) (request : SignedRequest) (now : Instant) :
    Except AuthFault User := do
  let some value := request.headers.get? "authorization"
    | throw (.missingHeader "authorization")
  let some text := valueText? value
    | throw (.malformed "authorization is not ASCII")
  let authorization ← Authorization.ofText text
  let scope := authorization.scope
  let some credential := v.credentials.find? scope.accessKey
    | throw .unknownAccessKey
  if scope.service ≠ service then
    throw (.scopeMismatch ("service `" ++ scope.service ++ "`"))
  if scope.region ≠ v.region then
    throw (.scopeMismatch ("region `" ++ scope.region ++ "`"))
  let moment ← requestTime request.headers
  if scope.date ≠ moment.compactDate then
    throw (.scopeMismatch ("date `" ++ scope.date ++ "`"))
  if v.maxSkew < now.secondsApart moment then throw .requestExpired
  let canonical ← canonicalRequest request.method request.target request.headers
    authorization.signedHeaders request.payloadHash
  let key := signingKey credential.secretKey scope.date scope.region scope.service
  if verifiesSignature key (stringToSign moment scope.text canonical) authorization.signature then
    return credential.user
  else throw .signatureMismatch

/-- The user with an access key, when the key is theirs. -/
def verifyAccessKey (v : Verifier) (userId accessKey : String) : Except AuthFault User :=
  match v.credentials.find? accessKey with
  | none => .error .unknownAccessKey
  | some credential =>
      if credential.userId = userId then .ok credential.user else .error .userMismatch

end Verifier

end Depot.Auth

import Depot.Auth.Credential
import Depot.Http.Form
import Depot.Http.Message
import Depot.Name.Bucket
import Depot.Server.Attributes
import Depot.Server.Fault
import Depot.Store.Read
import Depot.Store.Write

/-!
# The native protocol

One verb per route, keys instead of paths, and JSON reports.  A key lives in the
bucket that a header names, or in the default one, among the objects of the user
who asks.
-/

namespace Depot.Server.Native

set_option autoImplicit false

open Depot.Auth
open Depot.Http
open Depot.Time

abbrev Action (α : Type) := ExceptT NativeFault (StateM Store) α

/-- An operation of the store, with its faults as the native protocol answers them. -/
def fromStore {α : Type} (action : Store.Action α) : Action α :=
  ExceptT.adapt NativeFault.ofStore action

/-- The bucket that a request names. -/
def bucketOf (headers : Headers) : Except NativeFault String :=
  match headers.get? "bucket" with
  | none => .ok Name.defaultBucket
  | some value =>
      match valueText? value with
      | some name => .ok name
      | none => .error (.badRequest "Bucket header is not valid ASCII")

/-- The identifier of a key of a user in the bucket that the headers name. -/
def identifierOf (user : User) (headers : Headers) (key : String) :
    Except NativeFault String := do
  let bucket ← bucketOf headers
  match Name.checkBucket bucket with
  | .ok () => return Name.identifier user.userId bucket key
  | .error fault => throw (.badRequest (fault.message bucket))

def report (object : Object) : Response := .json 200 (summary object)

/-- Creates or replaces the object under a key with the body of the request. -/
def put (user : User) (key : String) (headers : Headers) (body : Body) (now : Instant) :
    Action Response := do
  let identifier ← identifierOf user headers key
  return report (← fromStore (Store.put identifier (attributesOf headers) body now))

/-- The attributes of an object that is sent as a form: the first content type of a field. -/
def formAttributes (fields : List FormField) : Attributes :=
  { Attributes.none with contentType? := fields.findSome? FormField.contentType? }

/-- Creates or replaces the object under a key with the fields of a form, one after another. -/
def putForm (forms : Form.Reader) (user : User) (key : String) (headers : Headers)
    (boundary : String) (limit : Nat) (body : Body) (now : Instant) : Action Response := do
  let identifier ← identifierOf user headers key
  match forms boundary limit body with
  | .error fault => throw (.badRequest fault.message)
  | .ok fields =>
      let pieces := fields.map FormField.content
      let object ← fromStore (Store.putPieces identifier (formAttributes fields) pieces now)
      return report object

/-- The object under a key. -/
def get (user : User) (key : String) (headers : Headers) : Action Response := do
  let identifier ← identifierOf user headers key
  let content ← fromStore (Store.read identifier)
  return ⟨200, describe Headers.empty content.object, content.bytes⟩

/-- Replaces the content under a key. -/
def update (user : User) (key : String) (headers : Headers) (body : Body) (now : Instant) :
    Action Response := do
  let identifier ← identifierOf user headers key
  return report (← fromStore (Store.update identifier body now))

/-- Adds the body of the request to the content under a key. -/
def append (user : User) (key : String) (headers : Headers) (body : Body) (now : Instant) :
    Action Response := do
  let identifier ← identifierOf user headers key
  return report (← fromStore (Store.append identifier body now))

/-- Moves the object under a key to another key. -/
def rename (user : User) (oldKey newKey : String) (headers : Headers) (now : Instant) :
    Action Response := do
  let old ← identifierOf user headers oldKey
  let new ← identifierOf user headers newKey
  return report (← fromStore (Store.rename old new now))

/-- Removes the object under a key. -/
def delete (user : User) (key : String) (headers : Headers) : Action Response := do
  let identifier ← identifierOf user headers key
  let _ ← fromStore (Store.delete identifier)
  return .json 200 (Json.objectText [("deleted", Json.quote key)])

end Depot.Server.Native

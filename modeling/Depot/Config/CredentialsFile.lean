import Depot.Auth.Credential
import Depot.Codec.Json

/-!
# Credentials files

A file of credentials is a JSON array.  Each item is an object with three
fields, beside which others are ignored, or an array of three strings.
-/

namespace Depot.Config

set_option autoImplicit false

open Depot.Auth

/-- The values of all fields of a name. -/
def fieldValues (fields : List (Option String × Json.Value)) (name : String) : List Json.Value :=
  (fields.filter (·.1 == some name)).map Prod.snd

/-- The text of a field that must stand in an object once. -/
def textField? (fields : List (Option String × Json.Value)) (name : String) : Option String :=
  match fieldValues fields name with
  | [.string text?] => text?
  | _ => none

/-- Reads one credential. -/
def readCredential? : Json.Value → Option Credential
  | .object fields => do
      if fields.any (·.1.isNone) then none
      let userId ← textField? fields "user_id"
      let accessKey ← textField? fields "access_key"
      let secretKey ← textField? fields "secret_key"
      return ⟨userId, accessKey, secretKey⟩
  | .array [.string userId?, .string accessKey?, .string secretKey?] => do
      return ⟨← userId?, ← accessKey?, ← secretKey?⟩
  | _ => none

/-- Reads a file of credentials. -/
def readCredentials? (text : String) : Option (List Credential) :=
  match Json.read? text with
  | some (.array items) => items.mapM readCredential?
  | _ => none

end Depot.Config

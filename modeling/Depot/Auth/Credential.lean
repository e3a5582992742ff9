import Depot.Store.Table
import Depot.Text.Quoted

/-!
# Credentials

Pairs of an access key and a secret key, each belonging to a user, and the book
in which they are looked up by access key.
-/

namespace Depot.Auth

set_option autoImplicit false

/-- A key pair and the user it belongs to. -/
structure Credential where
  userId : String
  accessKey : String
  secretKey : String
  deriving DecidableEq, Repr, Inhabited

/-- A credential in a report; the secret is left out. -/
def Credential.report (c : Credential) : String :=
  "Credential \x7b user_id: " ++ Text.quoted c.userId ++ ", access_key: " ++
    Text.quoted c.accessKey ++ ", secret_key: \x22<redacted>\x22 \x7d"

/-- Who a request was authenticated as. -/
structure User where
  userId : String
  accessKey : String
  deriving DecidableEq, Repr

def Credential.user (c : Credential) : User := ⟨c.userId, c.accessKey⟩

abbrev CredentialBook := Table String Credential

/-- The book of some credentials; of two with one access key the later counts. -/
def CredentialBook.ofList (credentials : List Credential) : CredentialBook :=
  Table.ofList (credentials.map fun c => (c.accessKey, c))

end Depot.Auth

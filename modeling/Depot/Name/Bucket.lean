import Depot.Text.Blank
import Depot.Text.Decimal

/-!
# Bucket names

The rules for the name of a bucket: its length, its characters, its ends, the
marks that may stand side by side, and that it is no address of four numbers.
The rules are checked in this order and the first that is broken is reported.
-/

namespace Depot.Name

set_option autoImplicit false

open Depot.Text

/-- Which rule a bucket name breaks. -/
inductive BucketFault where
  | length
  | character
  | ends
  | marks
  | address
  deriving DecidableEq, Repr

/-- The wording of a broken rule. -/
def BucketFault.reason : BucketFault → String
  | .length => "must be between 3 and 63 characters"
  | .character => "allowed characters are lowercase letters, digits, dots, and hyphens"
  | .ends => "must start and end with a lowercase letter or digit"
  | .marks => "cannot contain consecutive dots or dot-hyphen combinations"
  | .address => "cannot be formatted as an IP address"

/-- The report of a broken rule for a name. -/
def BucketFault.message (name : String) (fault : BucketFault) : String :=
  "invalid bucket name `" ++ name ++ "`: " ++ fault.reason

/-- The characters a bucket name may have. -/
def isBucketChar (c : Char) : Bool :=
  ('a' ≤ c && c ≤ 'z') || ('0' ≤ c && c ≤ '9') || c == '.' || c == '-'

/-- The characters that join the labels of a bucket name. -/
def isMark (c : Char) : Bool := c == '.' || c == '-'

/-- Whether a dot stands beside another dot or a hyphen. -/
def hasMarkPair (name : List Char) : Bool :=
  hasWord ['.', '.'] name || hasWord ['-', '.'] name || hasWord ['.', '-'] name

/-- Whether a label is a number from 0 to 255 in one to three digits. -/
def isOctet (label : List Char) : Bool :=
  !label.isEmpty && label.length ≤ 3 && label.all isDigit && (natural 255 label).isOk

/-- Whether a name is four such numbers between dots. -/
def isAddress (name : List Char) : Bool :=
  let labels := pieces '.' name
  labels.length == 4 && labels.all isOctet

def minBucketLength : Nat := 3

def maxBucketLength : Nat := 63

/-- Checks the name of a bucket.  Its length is counted in bytes. -/
def checkBucket (name : String) : Except BucketFault Unit :=
  let chars := name.toList
  if name.utf8ByteSize < minBucketLength ∨ maxBucketLength < name.utf8ByteSize then .error .length
  else if !chars.all isBucketChar then .error .character
  else if chars.head?.any isMark || chars.getLast?.any isMark then .error .ends
  else if hasMarkPair chars then .error .marks
  else if isAddress chars then .error .address
  else .ok ()

def isBucketName (name : String) : Bool := (checkBucket name).isOk

/-- The bucket of native requests that name none. -/
def defaultBucket : String := "default"

end Depot.Name

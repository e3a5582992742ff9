import Depot.Text.Cut
import Depot.Text.Decimal

/-!
# Command line flags

The options of the command line, each with a value after an equals sign or in
the next word, and three flags without value.  Words are read from the left.  A
value in the next word is checked only when the next option comes or the line
ends, because until then the option may turn out to have no value at all.

How the words are read is the affair of a library.  What is shown of command lines
holds for every reader that sets the options that are written.
-/

namespace Depot.Config

set_option autoImplicit false

open Depot.Text

/-- Why a command line is refused, or what it asks for in the place of a start. -/
inductive UsageFault where
  | unknownArgument
  | invalidValue
  | valueValidation
  | argumentConflict
  | tooManyValues
  | displayHelp
  | displayVersion
  deriving DecidableEq, Repr

/-- What is said of a refused command line; help and version are no refusals. -/
def UsageFault.message? : UsageFault → Option String
  | .unknownArgument => some "an argument is not known"
  | .invalidValue => some "a value is missing"
  | .valueValidation => some "a value is not a number in its limits"
  | .argumentConflict => some "an argument is given twice"
  | .tooManyValues => some "a flag is given a value"
  | .displayHelp | .displayVersion => none

/-- The options that take a value. -/
inductive Setting where
  | host
  | port
  | storageDir
  | databaseUrl
  | region
  | maxClockSkew
  | credentialsFile
  | maxBodyBytes
  | maxBufferedBytes
  deriving DecidableEq, Repr

/-- The name of an option on the command line. -/
def Setting.flag : Setting → String
  | .host => "host"
  | .port => "port"
  | .storageDir => "storage-dir"
  | .databaseUrl => "database-url"
  | .region => "region"
  | .maxClockSkew => "max-clock-skew-secs"
  | .credentialsFile => "credentials-file"
  | .maxBodyBytes => "max-body-bytes"
  | .maxBufferedBytes => "max-buffered-body-bytes"

/-- All options that take a value. -/
def Setting.all : List Setting :=
  [.host, .port, .storageDir, .databaseUrl, .region, .maxClockSkew, .credentialsFile,
    .maxBodyBytes, .maxBufferedBytes]

/-- The option of a name. -/
def Setting.ofFlag? (name : String) : Option Setting := Setting.all.find? (·.flag == name)

/-- What a command line sets. -/
structure Flags where
  host? : Option String := none
  port? : Option Nat := none
  storageDir? : Option String := none
  databaseUrl? : Option String := none
  region? : Option String := none
  maxClockSkew? : Option Nat := none
  credentialsFile? : Option String := none
  maxBodyBytes? : Option Nat := none
  maxBufferedBytes? : Option Nat := none
  migrate : Bool := false
  deriving DecidableEq, Repr

namespace Flags

/-- Whether an option has been set. -/
def has (f : Flags) : Setting → Bool
  | .host => f.host?.isSome
  | .port => f.port?.isSome
  | .storageDir => f.storageDir?.isSome
  | .databaseUrl => f.databaseUrl?.isSome
  | .region => f.region?.isSome
  | .maxClockSkew => f.maxClockSkew?.isSome
  | .credentialsFile => f.credentialsFile?.isSome
  | .maxBodyBytes => f.maxBodyBytes?.isSome
  | .maxBufferedBytes => f.maxBufferedBytes?.isSome

/-- Reads the number of a port; it may have a sign. -/
def readPort (value : String) : Except UsageFault Nat :=
  match integer64? value with
  | some n => if 0 ≤ n ∧ n ≤ max16 then .ok n.toNat else .error .valueValidation
  | none => .error .valueValidation

/-- Reads a number. -/
def readNumber (value : String) : Except UsageFault Nat :=
  match natural64? value with
  | some n => .ok n
  | none => .error .valueValidation

/-- Sets an option that has not been set before. -/
def set (f : Flags) (setting : Setting) (value : String) : Except UsageFault Flags :=
  if f.has setting then .error .argumentConflict
  else
    match setting with
    | .host => .ok { f with host? := some value }
    | .port => (readPort value).map fun n => { f with port? := some n }
    | .storageDir => .ok { f with storageDir? := some value }
    | .databaseUrl => .ok { f with databaseUrl? := some value }
    | .region => .ok { f with region? := some value }
    | .maxClockSkew => (readNumber value).map fun n => { f with maxClockSkew? := some n }
    | .credentialsFile =>
        if value.isEmpty then .error .invalidValue
        else .ok { f with credentialsFile? := some value }
    | .maxBodyBytes => (readNumber value).map fun n => { f with maxBodyBytes? := some n }
    | .maxBufferedBytes => (readNumber value).map fun n => { f with maxBufferedBytes? := some n }

/-- An option that waits for its value, and the value when it has come. -/
structure Pending where
  setting : Setting
  value? : Option String

/-- Sets the option that waits, which must have its value. -/
def settle (f : Flags) (pending? : Option Pending) : Except UsageFault Flags :=
  match pending? with
  | none => .ok f
  | some ⟨_, none⟩ => .error .invalidValue
  | some ⟨setting, some value⟩ => f.set setting value

def setMigrate (f : Flags) : Except UsageFault Flags :=
  if f.migrate then .error .argumentConflict else .ok { f with migrate := true }

/-- What one word of a command line is. -/
inductive Word where
  /-- Two hyphens: only plain words follow. -/
  | divider
  /-- A name after two hyphens, and a value after an equals sign. -/
  | long (name : String) (value? : Option String)
  /-- Letters after one hyphen, of which the first counts. -/
  | short (letter : Char)
  | plain (text : String)
  deriving DecidableEq, Repr

/-- Reads one word. -/
def Word.ofText (text : String) : Word :=
  match text.toList with
  | ['-', '-'] => .divider
  | '-' :: '-' :: rest =>
      match cutAt '=' rest with
      | some (name, value) => .long (String.ofList name) (some (String.ofList value))
      | none => .long (String.ofList rest) none
  | '-' :: letter :: _ => .short letter
  | _ => .plain text

/-- Whether a long name is one of the flags without value. -/
def isBareFlag (name : String) : Bool := name == "migrate" || name == "help" || name == "version"

/-- Reads words onto what has been set, with the option that waits for its value. -/
def readWords (f : Flags) (pending? : Option Pending) : List String → Except UsageFault Flags
  | [] => f.settle pending?
  | text :: rest =>
      match Word.ofText text with
      | .divider => if rest.isEmpty then f.settle pending? else .error .unknownArgument
      | .long name (some value) =>
          if isBareFlag name then .error .tooManyValues
          else
            match Setting.ofFlag? name with
            | none => .error .unknownArgument
            | some setting =>
                match f.settle pending? with
                | .error fault => .error fault
                | .ok f =>
                    match f.set setting value with
                    | .error fault => .error fault
                    | .ok f => readWords f none rest
      | .long name none =>
          if name = "help" then (f.settle pending?).bind fun _ => .error .displayHelp
          else if name = "version" then (f.settle pending?).bind fun _ => .error .displayVersion
          else if name = "migrate" then
            match (f.settle pending?).bind setMigrate with
            | .error fault => .error fault
            | .ok f => readWords f none rest
          else
            match Setting.ofFlag? name with
            | none => .error .unknownArgument
            | some setting =>
                match f.settle pending? with
                | .error fault => .error fault
                | .ok f => readWords f (some ⟨setting, none⟩) rest
      | .short letter =>
          if letter = 'h' then (f.settle pending?).bind fun _ => .error .displayHelp
          else if letter = 'V' then (f.settle pending?).bind fun _ => .error .displayVersion
          else .error .unknownArgument
      | .plain value =>
          match pending? with
          | some ⟨setting, none⟩ => readWords f (some ⟨setting, some value⟩) rest
          | _ => .error .unknownArgument

def ofWords (words : List String) : Except UsageFault Flags := readWords {} none words

end Flags

end Depot.Config

import Depot.Config.Resolved

/-!
# The command line

Finds the configuration that a server would be started with and prints it, one
value a line.  Secret keys are not printed.  All decisions are made by
`Config.Flags.ofWords` and `Config.resolve`; what stands here reads the
variables and the file of credentials, and prints.
-/

set_option autoImplicit false

namespace Depot.CommandLine

open Depot.Config

/-- What the command line takes. -/
def usage : String :=
  "Usage: depot [OPTIONS]\n\nOptions:\n" ++
    String.join (Setting.all.map fun setting => "  --" ++ setting.flag ++ " <VALUE>\n") ++
    "  --migrate\n  -h, --help\n  -V, --version"

/-- The lines that show a configuration. -/
def lines (r : Resolved) : List String :=
  ["address " ++ r.address, "storage directory " ++ r.storageDir, "database " ++ r.databaseUrl,
    "region " ++ r.region, "clock skew " ++ toString r.maxClockSkew,
    "largest body " ++ toString r.maxBodyBytes,
    "largest buffered body " ++ toString r.maxBufferedBytes] ++
    r.credentials.map fun c => "user " ++ c.userId ++ " with access key " ++ c.accessKey

/-- The variables that are set. -/
def readVariables : IO (List (String × String)) :=
  variableNames.filterMapM fun name => do
    return (← IO.getEnv name).map fun value => (name, value)

/-- The text of a file, when it can be read. -/
def readText? (path : String) : IO (Option String) := do
  match ← (IO.FS.readFile path).toBaseIO with
  | .ok text => return some text
  | .error _ => return none

/-- What the flags are resolved in. -/
def readSurroundings (flags : Flags) : IO Surroundings := do
  let known ← readVariables
  let bare : Surroundings := ⟨fun name => known.lookup name, fun _ => none⟩
  match bare.credentialsPath? flags with
  | none => return bare
  | some path =>
      let text? ← readText? path
      return { bare with file? := fun other => if other = path then text? else none }

/-- Prints the configuration of flags, or why there is none. -/
def report (flags : Flags) : IO UInt32 := do
  match resolve flags (← readSurroundings flags) with
  | .ok r =>
      for line in lines r do IO.println line
      return 0
  | .error fault =>
      IO.eprintln ("error: " ++ fault.message)
      for cause in fault.cause?.toList do IO.eprintln ("caused by: " ++ cause)
      return 1

end Depot.CommandLine

/-- Prints the configuration that the words of a command line ask for. -/
def main (words : List String) : IO UInt32 := do
  match Depot.Config.Flags.ofWords words with
  | .ok flags => Depot.CommandLine.report flags
  | .error fault =>
      match fault.message? with
      | some message =>
          IO.eprintln ("error: " ++ message)
          return 2
      | none =>
          IO.println Depot.CommandLine.usage
          return 0

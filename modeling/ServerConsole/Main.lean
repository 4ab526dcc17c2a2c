import ServerConsole.CommandLine
import ServerConsole.Places

/-!
# The program

Reads the command line, the environment and the settings file, and prints the address of the server's
console channel. Mistakes on the command line end with code 2, everything else that fails with code 1.
-/

namespace ServerConsole.Program

def variableNames : List String :=
  [Arguments.panelUrlVariable, Arguments.tokenVariable, "HOME", "XDG_CONFIG_HOME", "XDG_STATE_HOME"]

def environment : IO Places.Environment := do
  let values ← variableNames.mapM fun name => return (name, ← IO.getEnv name)
  return fun name => (values.find? (·.1 == name)).bind (·.2)

def contentOf (path : String) : IO (Option (List UInt8)) := do
  try
    return some (← IO.FS.readBinFile path).toList
  catch _ =>
    return none

def isThere (path : String) : IO Bool := do
  try
    let _ ← IO.FS.realPath path
    return true
  catch _ =>
    return false

def refuse (r : Refusal) : IO UInt32 := do
  if r.isRequested then
    IO.println r.message
    return 0
  IO.eprintln r.message
  return 2

def fail (f : Failure) : IO UInt32 := do
  IO.eprintln ("Error: " ++ f.message)
  if f.isRetryable then
    IO.eprintln "The panel may be temporarily unreachable; try again shortly."
  return 1

/-- the address of the console channel that the arguments lead to -/
def address (a : Arguments) (files : Settings.Files) (defaultPath : String) (isThere : Bool) :
    Except Failure Url := do
  let options ← (← a.load files defaultPath isThere).options
  Panel.socketUrl options.panel a.server options.token

def run (words : List String) : IO UInt32 := do
  let env ← environment
  match Arguments.parse words env with
  | .error r => refuse r
  | .ok a =>
    let defaultPath := Places.settingsFile env none
    let path := a.config.getD defaultPath
    let content ← contentOf path
    let files : Settings.Files := fun p => if p == path then content else none
    match address a files defaultPath (← isThere defaultPath) with
    | .error f => fail f
    | .ok url =>
      IO.println url.text
      return 0

end ServerConsole.Program

def main (words : List String) : IO UInt32 := ServerConsole.Program.run words

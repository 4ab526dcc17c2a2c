import ServerConsole.Failure
import ServerConsole.Logging.Filter
import ServerConsole.Places
import ServerConsole.Storage

/-!
# The program's own log

Not the console of a server, but what the program notes about itself, to the terminal's error stream
or to a file.

* `Plan`         where to, what, and in which detail; three plans are ready made;
* `openFile`     the log file, its folders put in where they are missing;
* `Setup.start`  logging begins; it does so once.
-/

namespace ServerConsole.Logging

/-! ## plans -/

inductive Output
  | terminal
  | file
  | both
  deriving DecidableEq

structure Plan where
  output : Output
  filter : String
  /-- note when a span is entered and left -/
  spans : Bool
  /-- note where in the program a line comes from -/
  places : Bool
  fileName : String
  deriving DecidableEq

namespace Plan

def standard : Plan := ⟨.terminal, "info", false, false, "console.log"⟩

def filterVariable : String := "BIRDACTYL_LOG"

/-- while the console owns the terminal -/
def interactive (env : Places.Environment) : Plan :=
  { standard with output := .file, filter := (env filterVariable).getD "warn" }

def development : Plan := { standard with filter := "debug", spans := true, places := true }

def usesFile (p : Plan) : Bool := p.output != .terminal

end Plan

/-! ## log files -/

/-- opens the file for appending, which puts it in if it is missing; the first path that fails is
reported, and folders put in by then stay -/
def openFile (folder name : String) (s : Storage) : Except Failure Unit × Storage :=
  match s.createFolders? folder with
  | none => (.error (.fileWrite folder "not a directory"), s)
  | some s =>
    let path := Places.join folder name
    match s.append? path "" with
    | none => (.error (.fileWrite path "cannot be opened"), s)
    | some s => (.ok (), s)

/-! ## setup -/

structure Setup where
  storage : Storage
  started : Bool

namespace Setup

/-- the file is opened before it turns out whether logging has begun already -/
def start (p : Plan) (folder : String) (s : Setup) : Except Failure Unit × Setup :=
  if !isFilter p.filter then (.error (.config "Invalid log filter"), s)
  else
    let (opened, storage) :=
      if p.usesFile then openFile folder p.fileName s.storage else (.ok (), s.storage)
    match opened with
    | .error f => (.error f, ⟨storage, s.started⟩)
    | .ok () =>
      if s.started then (.error (.internal "Failed to init logging"), ⟨storage, true⟩)
      else (.ok (), ⟨storage, true⟩)

end Setup

end ServerConsole.Logging

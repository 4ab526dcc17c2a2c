import ServerConsole.Json.Writer
import ServerConsole.Server.Record
import ServerConsole.Text.Blank

/-!
# Frames of the console channel

Each text message carries one frame, a JSON object whose member `type` names its kind.

* `Command`        what the console sends: one line for the input of the server process;
* `Frame`          what the panel sends: an output line, a telemetry sample, a status, an error;
* `Frame.decode`   reads a message; a kind that is not known is told apart from a broken frame;
* `Frame.toJson`   the written frame, for every kind but telemetry.
-/

namespace ServerConsole

open Json

/-! ## commands -/

/-- a command line; sent ones come from `ofInput?` and are not blank -/
structure Command where
  line : String
  deriving DecidableEq

namespace Command

/-- a typed line without surrounding blanks; nothing when only blanks were typed -/
def ofInput? (typed : String) : Option Command :=
  let line := Text.trim typed
  if line.isEmpty then none else some ⟨line⟩

def toJson (c : Command) : List Char :=
  writeObject [(tagName, quote "command"), ("command", quote c.line)]

def wire (c : Command) : String := String.ofList c.toJson

def record : Record (Option String) Command where
  fields := [.of ["command"] .string fun x _ => some x]
  required := 1
  blank := none
  finish? := fun line => line.map .mk

def kind? (name : String) : Option Unit := if name == "command" then some () else none

/-- a command at the front of a text -/
def read (budget depth : Nat) : Reader Command := fun s => do
  let ((_, content), rest) ← readTagged kind? budget depth s
  let command ← expect (record.ofValue? content)
  pure (command, rest)

def decode (text : String) : Except Fault Command := complete read text.toList

end Command

/-! ## frames of the panel -/

inductive Frame
  /-- one output line; `daemon` marks output of the node rather than of the server process -/
  | console (line : String) (color : Option String) (daemon : Bool)
  | stats (sample : Sample)
  | status (status : Status)
  /-- the panel refuses to go on -/
  | error (message : String)
  deriving DecidableEq

inductive FrameKind
  | console
  | stats
  | status
  | error
  deriving DecidableEq

namespace FrameKind

def name : FrameKind → String
  | console => "console"
  | stats => "stats"
  | status => "status"
  | error => "error"

def all : List FrameKind := [console, stats, status, error]

def ofName? (s : String) : Option FrameKind := all.find? (·.name == s)

theorem ofName?_name (k : FrameKind) : ofName? k.name = some k := by cases k <;> decide

end FrameKind

namespace Frame

def kind : Frame → FrameKind
  | console .. => .console
  | stats _ => .stats
  | status _ => .status
  | error _ => .error

/-! ## content of each kind -/

structure ConsoleDraft where
  line : Option String := none
  color : Option String := none
  daemon : Bool := false

def consoleRecord : Record ConsoleDraft Frame where
  fields := [
    .of ["line", "data"] .string fun x d => { d with line := some x },
    .of ["color"] (.optional .string) fun x d => { d with color := x },
    .of ["daemon"] .bool fun x d => { d with daemon := x }]
  required := 1
  blank := {}
  finish? := fun d => d.line.map fun line => .console line d.color d.daemon

def statusRecord : Record (Option Status) Frame where
  fields := [.of ["status"] Status.shape fun x _ => some x]
  required := 1
  blank := none
  finish? := fun s => s.map .status

def errorRecord : Record (Option String) Frame where
  fields := [.of ["message"] .string fun x _ => some x]
  required := 1
  blank := none
  finish? := fun m => m.map .error

def ofContent? (kind : FrameKind) (content : Value) : Option Frame :=
  match kind with
  | .console => consoleRecord.ofValue? content
  | .stats => (Sample.record.ofValue? content).map .stats
  | .status => statusRecord.ofValue? content
  | .error => errorRecord.ofValue? content

def ofValue? (v : Value) : Option Frame :=
  (tagged? FrameKind.ofName? v).bind fun (kind, content) => ofContent? kind content

/-! ## messages -/

/-- the longest message taken, in bytes -/
def maxSize : Nat := 1048576

inductive Refusal
  | json (fault : Fault)
  | unknownKind (name : String)
  | noKind
  | tooLarge (size : Nat)
  deriving DecidableEq

/-- a kind this console does not know is expected from newer panels -/
def Refusal.isForwardCompatible : Refusal → Bool
  | .unknownKind _ => true
  | _ => false

def Refusal.message : Refusal → String
  | .json _ => "Serialization error"
  | .unknownKind name => "Unknown frame type: " ++ name
  | .noKind => "Frame has no type discriminator"
  | .tooLarge size =>
    "Frame too large: " ++ Text.decimal size ++ " bytes (max " ++ Text.decimal maxSize ++ ")"

/-- why a JSON value that is no frame is refused -/
def refusalOf (v : Value) : Refusal :=
  match (v.member? tagName).bind Value.string? with
  | none => .noKind
  | some name => if (FrameKind.ofName? name).isSome then .json .mismatched else .unknownKind name

def decode (text : String) : Except Refusal Frame :=
  if maxSize < text.utf8ByteSize then .error (.tooLarge text.utf8ByteSize)
  else match parse text.toList with
    | .error fault => .error (.json fault)
    | .ok v =>
      match ofValue? v with
      | some frame => .ok frame
      | none => .error (refusalOf v)

/-! ## written frames -/

def members : Frame → Option (List Member)
  | console line color daemon =>
    some ([("line", quote line)]
      ++ (match color with | some c => [("color", quote c)] | none => [])
      ++ (if daemon then [("daemon", writeBool true)] else []))
  | stats _ => none
  | status s => some [("status", s.toJson)]
  | error message => some [("message", quote message)]

def toJson (f : Frame) : Option (List Char) :=
  f.members.map fun ms => writeObject ((tagName, quote f.kind.name) :: ms)

def wire (f : Frame) : Option String := f.toJson.map String.ofList

end Frame

end ServerConsole

import ServerConsole.Json.Shape

/-!
# Lifecycle status of a hosted server

The panel names five statuses; two of them discard the telemetry of the run before.
-/

namespace ServerConsole

inductive Status
  | installing
  | running
  | stopped
  | suspended
  | failed
  deriving DecidableEq

namespace Status

def name : Status → String
  | installing => "installing"
  | running => "running"
  | stopped => "stopped"
  | suspended => "suspended"
  | failed => "failed"

def all : List Status := [installing, running, stopped, suspended, failed]

def ofName? (s : String) : Option Status := all.find? (·.name == s)

theorem ofName?_name (s : Status) : ofName? s.name = some s := by cases s <;> decide

/-- telemetry of a run before is void in this status -/
def clearsTelemetry : Status → Bool
  | stopped | installing => true
  | _ => false

def shape : Json.Shape Status := .choice ofName?

def toJson (s : Status) : List Char := Json.quote s.name

end Status

end ServerConsole

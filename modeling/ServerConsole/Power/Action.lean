import ServerConsole.Json.Shape

/-!
# Power actions

The four transitions an operator may ask for; each has its own permission.
-/

namespace ServerConsole

inductive PowerAction
  | start
  | stop
  | restart
  | kill
  deriving DecidableEq

namespace PowerAction

def name : PowerAction → String
  | start => "start"
  | stop => "stop"
  | restart => "restart"
  | kill => "kill"

def all : List PowerAction := [start, stop, restart, kill]

def ofName? (s : String) : Option PowerAction := all.find? (·.name == s)

theorem ofName?_name (a : PowerAction) : ofName? a.name = some a := by cases a <;> decide

theorem mem_all (a : PowerAction) : a ∈ all := by cases a <;> decide

def permission : PowerAction → String
  | start => "power.start"
  | stop => "power.stop"
  | restart => "power.restart"
  | kill => "power.kill"

/-- the word for an action under way -/
def progressive : PowerAction → String
  | start => "starting"
  | stop => "stopping"
  | restart => "restarting"
  | kill => "killing"

def shape : Json.Shape PowerAction := .choice ofName?

def toJson (a : PowerAction) : List Char := Json.quote a.name

end PowerAction

end ServerConsole

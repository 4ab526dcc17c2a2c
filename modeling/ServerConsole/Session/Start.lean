import ServerConsole.Panel.Address
import ServerConsole.Session.Basic

/-!
# Starting a session

The panel is asked for the server, for the permissions granted and for the status, in this order.
The first failure of the first two ends the start; without the status the session starts all the
same, with what the record says.

* `Session.Options`  what a session is started with;
* `Session.Fetched`  the three answers;
* `Session.start`    the session they lead to.
-/

namespace ServerConsole.Session

structure Options where
  panel : Url
  token : String
  scrollback : Nat
  /-- the longest time a power call may take, in seconds -/
  patience : Nat
  reconnect : Link.Policy
  deriving DecidableEq

structure Fetched where
  server : Except Failure Server
  permissions : Except Failure (List String)
  report : Except Failure StatusReport

def readRefused : Failure := .permissionDenied (Grant.consoleRead ++ " is required to open the console")

def start (o : Options) (id : ServerId) (clock : String) (f : Fetched) : Except Failure Session := do
  let server ← f.server
  let grant : Grant := ⟨← f.permissions⟩
  if !grant.allows Grant.consoleRead then throw readRefused
  let _ ← Panel.socketUrl o.panel id o.token
  let session := assemble server grant o.scrollback clock
  return match f.report with
    | .ok report => session.seed report
    | .error _ => session

end ServerConsole.Session

import ServerConsole.Failure
import ServerConsole.Frame
import ServerConsole.Link.Backoff

/-!
# The console channel as its owner sees it

* `Event`   what the background task reports;
* `State`   where the channel stands;
* `Link`    state, the reason shown while it is unusable, and whether queued commands still reach
            the task;
* `Link.observe`  takes one event in;
* `Link.send`     queues a command, while the channel is up.

The queue to the task has no bound here. `Link.send` is the moment at which a command enters it: a sender
that has to wait for room holds the channel until then, so nothing else is sent or taken in meanwhile, and
the outcome is that of the moment its wait is over.
-/

namespace ServerConsole

namespace Link

inductive Event
  /-- the socket is up; `reconnected` after a gap -/
  | opened (reconnected : Bool)
  | frame (frame : Frame)
  | rejected (reason : String)
  | lost (reason : String)
  | reconnecting (attempt : UInt32) (delay : Nanos)
  | gaveUp (attempts : UInt32)
  | closed
  deriving DecidableEq

inductive State
  | connecting
  | connected
  | reconnecting
  /-- refused or out of attempts; final -/
  | failed
  | closed
  deriving DecidableEq

def State.name : State → String
  | connecting => "connecting"
  | connected => "connected"
  | reconnecting => "reconnecting"
  | failed => "error"
  | closed => "closed"

end Link

structure Link where
  state : Link.State
  error : Option String
  accepting : Bool
  deriving DecidableEq

namespace Link

def new : Link := ⟨.connecting, none, true⟩

def isClosed (l : Link) : Bool := l.state == .closed

def gaveUpText (attempts : UInt32) : String :=
  "gave up after " ++ Text.decimal attempts.toNat ++ " attempts"

/-- the state and error after an event -/
def observe (l : Link) : Event → Link
  | .opened _ => { l with state := .connected, error := none }
  | .frame _ => l
  | .rejected reason => { l with state := .failed, error := some reason }
  | .lost _ | .reconnecting _ _ => { l with state := .reconnecting }
  | .gaveUp attempts => { l with state := .failed, error := some (gaveUpText attempts) }
  | .closed => { l with state := .closed }

/-- whether a command may be queued now -/
def send (l : Link) : Except Failure Unit :=
  if l.state ≠ .connected then .error .notConnected
  else if l.accepting then .ok () else .error .connectionClosed

def close (l : Link) : Link := { l with state := .closed }

end Link

end ServerConsole

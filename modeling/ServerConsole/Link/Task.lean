import ServerConsole.Link.Disconnect
import ServerConsole.Link.State

/-!
# The background task of a channel

The task connects, passes frames in and commands out, and connects again after a loss. It is a machine
that is fed with what happens around it and puts out what it does.

* `Happening`  what happens: outcomes of attempts, messages, ends of sockets, commands queued, delays
               that are over, and the owner's wish to stop;
* `Phase`      what the task waits for;
* `Task`       phase, reconnect budget, and the commands in its queue;
* `Task.step`  one happening; what the phase does not wait for changes nothing.

A new socket starts with an empty queue: commands meant for an earlier one are dropped.

The queue has no bound here. A command is queued at the moment it enters the queue: a sender that has to
wait for room has queued nothing yet, and whatever happens until there is room comes before.
-/

namespace ServerConsole.Link

/-! ## the world around the task -/

inductive Message
  | text (text : String)
  /-- bytes, or a message of the socket itself -/
  | other
  deriving DecidableEq

inductive Happening
  /-- the attempt opened a socket -/
  | connected
  /-- the attempt failed -/
  | refused (error : SocketError)
  | received (message : Message)
  /-- the panel closes the socket, with or without giving a code and a reason -/
  | closed (frame : Option CloseFrame)
  /-- reading failed -/
  | broken (error : SocketError)
  /-- the socket ended without a word -/
  | ended
  /-- a command of the owner enters the queue -/
  | queued (command : Command)
  /-- the socket takes a command -/
  | writable
  /-- the socket does not take the command any more -/
  | unwritable (error : SocketError)
  /-- the delay before the next attempt is over -/
  | elapsed
  /-- the owner has no use for the channel any more -/
  | cancelled
  deriving DecidableEq

inductive Output
  | event (event : Event)
  | write (command : Command)

def Output.event? : Output → Option Event
  | event e => some e
  | write _ => none

def Output.write? : Output → Option Command
  | event _ => none
  | write c => some c

/-! ## the task -/

inductive Phase
  | connecting
  | pumping
  /-- between two attempts -/
  | waiting
  | finished
  deriving DecidableEq

structure Task where
  phase : Phase
  backoff : Backoff
  /-- a socket has been open before -/
  reconnected : Bool
  queue : List Command
  deriving DecidableEq

namespace Task

def new (policy : Policy) : Task := ⟨.connecting, .new policy, false, []⟩

/-- after a loss: a further attempt within the budget, or the end -/
def retry (t : Task) : Task × List Output :=
  match t.backoff.next? with
  | some (delay, backoff) =>
    ({ t with phase := .waiting, backoff := backoff },
      [.event (.reconnecting backoff.attempt delay)])
  | none => ({ t with phase := .finished }, [.event (.gaveUp t.backoff.attempt)])

/-- the end of an attempt or of a socket -/
def disconnect (t : Task) : Disconnect → Task × List Output
  | .rejected reason => ({ t with phase := .finished }, [.event (.rejected reason)])
  | .lost reason =>
    let (t, out) := t.retry
    (t, .event (.lost reason) :: out)

/-- a socket is open: the budget is full again, and the queue starts anew -/
def opened (t : Task) : Task × List Output :=
  ({ t with phase := .pumping, backoff := t.backoff.reset, reconnected := true, queue := [] },
    [.event (.opened t.reconnected)])

/-- a frame of kind error is passed on and then ends the channel -/
def frame (t : Task) : Frame → Task × List Output
  | .error message =>
    let (t, out) := t.disconnect (.rejected message)
    (t, .event (.frame (.error message)) :: out)
  | f => (t, [.event (.frame f)])

/-- texts that are no frame are dropped -/
def message (t : Task) : Message → Task × List Output
  | .text text =>
    match Frame.decode text with
    | .ok f => t.frame f
    | .error _ => (t, [])
  | .other => (t, [])

/-- the first command of the queue goes out -/
def write (t : Task) : Task × List Output :=
  match t.queue with
  | [] => (t, [])
  | c :: queue => ({ t with queue := queue }, [.write c])

/-- the first command of the queue is lost with the socket -/
def failWrite (t : Task) (e : SocketError) : Task × List Output :=
  match t.queue with
  | [] => (t, [])
  | _ :: queue => { t with queue := queue }.disconnect (.ofError e)

def cancel (t : Task) : Task × List Output := ({ t with phase := .finished }, [.event .closed])

def streamEnded : Disconnect := .lost "stream ended"

def step (t : Task) (h : Happening) : Task × List Output :=
  match t.phase, h with
  | .finished, _ => (t, [])
  | _, .queued c => ({ t with queue := t.queue ++ [c] }, [])
  | _, .cancelled => t.cancel
  | .connecting, .connected => t.opened
  | .connecting, .refused e => t.disconnect (.ofError e)
  | .pumping, .received m => t.message m
  | .pumping, .closed f => t.disconnect (.ofClose f)
  | .pumping, .broken e => t.disconnect (.ofError e)
  | .pumping, .ended => t.disconnect streamEnded
  | .pumping, .writable => t.write
  | .pumping, .unwritable e => t.failWrite e
  | .waiting, .elapsed => ({ t with phase := .connecting }, [])
  | _, _ => (t, [])

/-- a whole run: the task at its end, and everything it put out -/
def run (t : Task) : List Happening → Task × List Output
  | [] => (t, [])
  | h :: hs =>
    let (t, out) := t.step h
    let (t, more) := t.run hs
    (t, out ++ more)

theorem run_nil (t : Task) : t.run [] = (t, []) := rfl

theorem run_cons (t : Task) (h : Happening) (hs : List Happening) :
    t.run (h :: hs) = (((t.step h).1.run hs).1, (t.step h).2 ++ ((t.step h).1.run hs).2) := rfl

theorem run_append (t : Task) (a b : List Happening) :
    t.run (a ++ b) = (((t.run a).1.run b).1, (t.run a).2 ++ ((t.run a).1.run b).2) := by
  induction a generalizing t with
  | nil => simp [run_nil]
  | cons h a ih => simp [run_cons, ih]

theorem step_of_finished (t : Task) (h : t.phase = .finished) (x : Happening) :
    t.step x = (t, []) := by
  simp [step, h]

end Task

end ServerConsole.Link

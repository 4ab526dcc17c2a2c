import ServerConsole.Link.Task

/-!
# A channel and its task

The owner's end of a channel together with the background task and the events on their way.

* `Route`            what a phase of the task meets with by itself on a given network;
* `Channel.next?`    the next event, waited for if need be;
* `Channel.ready?`   the next event if it is there already;
* `Channel.send`, `Channel.close`  a command for the task, and the end.
-/

namespace ServerConsole.Link

/-! ## networks -/

abbrev Route := Phase → Option Happening

/-- no host can be reached: each attempt fails at once -/
def unreachable : Route
  | .connecting => some (.refused (.io "Network is unreachable (os error 101)"))
  | .waiting => some .elapsed
  | .pumping | .finished => none

/-! ## channels -/

structure Channel where
  link : Link
  task : Task
  events : List Event

namespace Channel

def new (policy : Policy) : Channel := ⟨.new, .new policy, []⟩

def feed (c : Channel) (h : Happening) : Channel :=
  let (task, out) := c.task.step h
  { c with task := task, events := c.events ++ out.filterMap Output.event? }

/-- lets the network act until an event is there, a phase of silence at most -/
def await (c : Channel) (route : Route) : Channel :=
  let act (c : Channel) : Channel :=
    if c.events.isEmpty then (route c.task.phase).elim c c.feed else c
  act (act c)

/-- takes the first event off the queue; nothing once the channel is closed -/
def ready? (c : Channel) : Channel × Option Event :=
  match c.link.isClosed, c.events with
  | false, e :: events => ({ c with link := c.link.observe e, events := events }, some e)
  | _, _ => (c, none)

def next? (c : Channel) (route : Route) : Channel × Option Event :=
  if c.link.isClosed then (c, none) else (c.await route).ready?

/-- a task that has finished takes no commands -/
def send (c : Channel) (command : Command) : Except Failure Channel :=
  let link := { c.link with accepting := c.task.phase != Phase.finished }
  link.send.map fun _ => c.feed (.queued command)

def close (c : Channel) : Channel :=
  if c.link.isClosed then c else { c.feed .cancelled with link := c.link.close }

end Channel

end ServerConsole.Link

import ServerConsole.Link.State
import ServerConsole.Permission
import ServerConsole.Power.Machine
import ServerConsole.Server.StatusView
import ServerConsole.Session.History
import ServerConsole.Session.Log
import ServerConsole.Session.Telemetry

/-!
# Sessions

A session is the console of one server: the status shown, the log, the telemetry, the commands
sent, the power machine and the channel. Each operation gives the next session and what has to be
carried out in the world, as a list of `Effect`s.

* `submit`   a typed command;
* `request`  a power action;
* `revisit`   an older or newer command;
* `receive`  an event of the channel, which first moves the channel's own state;
* `handle`   an event as such, a power completion or one of the channel;
* `seed`     the status report fetched when the session starts;
* `close`    the end; after it nothing changes any more.
-/

namespace ServerConsole

/-! ## types -/

structure Session where
  /-- the server record; its status is the last confirmed one -/
  server : Server
  view : StatusView
  log : Log
  telemetry : Telemetry
  history : History
  power : Power.Machine
  link : Link
  grant : Grant
  closed : Bool
  /-- the label put on lines that come in now -/
  clock : String

namespace Session

inductive Effect
  /-- a panel call is begun -/
  | call (ticket : Power.Ticket) (action : PowerAction)
  /-- a command goes to the channel's queue -/
  | queue (command : Command)
  deriving DecidableEq

/-- the outcome of a panel call -/
structure Completion where
  ticket : Power.Ticket
  action : PowerAction
  failure : Power.Outcome
  deriving DecidableEq

inductive Event
  | link (event : Link.Event)
  | power (completion : Completion)

/-- the result of something the operator asked for -/
structure Reply where
  session : Session
  effects : List Effect
  result : Except Failure Unit

/-! ## a new session -/

def assemble (server : Server) (grant : Grant) (scrollback : Nat) (clock : String) : Session where
  server := server
  view := .new server.status server.isSuspended
  log := .withCapacity scrollback
  telemetry := if server.status.clearsTelemetry then Telemetry.unknown.reset else .unknown
  history := .new
  power := .initial
  link := .new
  grant := grant
  closed := false
  clock := clock

/-! ## reading -/

/-- the status to display -/
def status (s : Session) : Status := s.view.effective

def powerView (s : Session) : Power.View := s.power.view s.status

def can (s : Session) (permission : String) : Bool := s.grant.allows permission

/-! ## log lines -/

def append (s : Session) (line : LogLine) : Session := { s with log := s.log.append line }

def appendSystem (s : Session) (text : String) : Session := s.append (.system s.clock text)

def appendError (s : Session) (reason : String) : Session := s.append (.error s.clock reason)

/-- marks the place where output may be missing -/
def gapMarker : String := "connection restored; output during the outage may be missing"

def commandsRefused : String := "You do not have permission to send commands."

def actionRefused (action : PowerAction) : String :=
  "You do not have permission to " ++ action.name ++ " this server."

/-! ## status -/

/-- takes a status of the panel; entering one without a live run voids the telemetry -/
def confirm (s : Session) (status : Status) : Session :=
  let (view, changed) := s.view.confirm status
  { s with
    view := view
    server := { s.server with status := status }
    telemetry := if changed && status.clearsTelemetry then s.telemetry.reset else s.telemetry }

/-- takes the status report fetched at the start -/
def seed (s : Session) (report : StatusReport) : Session :=
  let s := s.confirm report.status
  match report.sample with
  | some sample =>
    if report.status.clearsTelemetry then s else { s with telemetry := s.telemetry.update sample }
  | none => s

/-! ## power -/

/-- the change an effect of the power machine makes; a dispatch makes none -/
def applyPower (s : Session) : Power.Effect → Session
  | .dispatch _ _ => s
  | .setStatus status => { s with view := (s.view.assume status).1 }
  | .resetStats => { s with telemetry := s.telemetry.reset }
  | .markStatsUnknown => { s with telemetry := s.telemetry.forget }
  | .logError reason => s.appendError reason

def callOf? : Power.Effect → Option Effect
  | .dispatch ticket action => some (.call ticket action)
  | _ => none

def stepPower (s : Session) (event : Power.Event) : Session × List Effect :=
  let (machine, effects) := s.power.step event s.status
  (effects.foldl applyPower { s with power := machine }, effects.filterMap callOf?)

/-- what a request amounts to: a second stop is a kill -/
def amounts (s : Session) (action : PowerAction) : PowerAction :=
  match action, s.power.phase with
  | .stop, .stopping _ => .kill
  | _, _ => action

def request (s : Session) (action : PowerAction) : Reply :=
  if s.closed then ⟨s, [], .error .sessionClosed⟩
  else
    let amount := s.amounts action
    if s.can amount.permission then
      let (s, effects) := s.stepPower (.requested action)
      ⟨s, effects, .ok ()⟩
    else ⟨s.appendSystem (actionRefused amount), [], .error (.permissionDenied amount.permission)⟩

/-! ## commands -/

def submit (s : Session) (typed : String) : Reply :=
  if s.closed then ⟨s, [], .error .sessionClosed⟩
  else match Command.ofInput? typed with
    | none => ⟨s, [], .ok ()⟩
    | some command =>
      if s.can Grant.consoleWrite then
        match s.link.send with
        | .error failure => ⟨s, [], .error failure⟩
        | .ok () =>
          let s := s.append (.echo s.clock command.line)
          ⟨{ s with history := s.history.push command.line }, [.queue command], .ok ()⟩
      else ⟨s.appendSystem commandsRefused, [], .error (.permissionDenied Grant.consoleWrite)⟩

def revisit (s : Session) (direction : Direction) : Session × String :=
  let (history, text) := s.history.navigate direction
  ({ s with history := history }, text)

/-! ## events -/

def handleFrame (s : Session) : Frame → Session
  | .console line color daemon =>
    s.append ⟨s.clock, line, color, if daemon then .system else .server⟩
  | .stats sample => { s with telemetry := s.telemetry.update sample }
  | .status status => s.confirm status
  | .error message => s.appendError message

def handleLink (s : Session) : Link.Event → Session
  | .opened reconnected => if reconnected then s.appendSystem gapMarker else s
  | .frame frame => s.handleFrame frame
  | .rejected _ | .lost _ | .gaveUp _ => { s with telemetry := s.telemetry.markStale }
  | .reconnecting _ _ | .closed => s

def handlePower (s : Session) (c : Completion) : Session × List Effect :=
  s.stepPower (.completed c.ticket c.action c.failure)

/-- an event is dropped once the session is closed -/
def handle (s : Session) (event : Event) : Session × List Effect :=
  if s.closed then (s, [])
  else match event with
    | .link e => (s.handleLink e, [])
    | .power c => s.handlePower c

/-- an event is waited for no longer once the session is closed, one of the channel neither once
the channel is -/
def awaits (s : Session) : Event → Bool
  | .link _ => !s.closed && !s.link.isClosed
  | .power _ => !s.closed

/-- takes an event off its queue and handles it -/
def receive (s : Session) (event : Event) : Session × List Effect :=
  if s.awaits event then
    match event with
    | .link e => { s with link := s.link.observe e }.handle event
    | .power _ => s.handle event
  else (s, [])

/-! ## the end -/

def close (s : Session) : Session :=
  if s.closed then s
  else { s with
    closed := true
    link := s.link.close
    log := s.log.clear
    telemetry := .unknown
    history := .new }

end Session

end ServerConsole

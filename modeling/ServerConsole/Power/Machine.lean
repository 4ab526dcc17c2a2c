import ServerConsole.Power.Action
import ServerConsole.Server.Status

/-!
# The power machine

Every dispatched call carries a ticket of its own. At most one start, stop or restart is under way;
a second stop while a stop is under way becomes a kill, and a kill is taken in every phase.

* `Phase`    what is under way; `escalated` is a kill on top of a stop that has not finished;
* `Machine`  phase and next ticket;
* `Event`    a request of the operator, or the outcome of a call;
* `Effect`   what has to be done after a step, in order;
* `Machine.step`  one step, given the status shown;
* `View.allows`   the actions that a request would dispatch.
-/

namespace ServerConsole.Power

/-! ## types -/

abbrev Ticket := UInt64

inductive Phase
  | idle
  | starting (ticket : Ticket)
  | stopping (ticket : Ticket)
  | escalated (stop kill : Ticket)
  | restarting (ticket : Ticket)
  deriving DecidableEq

structure Machine where
  phase : Phase
  nextTicket : Ticket
  deriving DecidableEq

/-- the outcome of a call: nothing on success, else the reason of the failure -/
abbrev Outcome := Option String

inductive Event
  | requested (action : PowerAction)
  | completed (ticket : Ticket) (action : PowerAction) (failure : Outcome)
  deriving DecidableEq

inductive Effect
  | dispatch (ticket : Ticket) (action : PowerAction)
  | setStatus (status : Status)
  | resetStats
  | markStatsUnknown
  | logError (reason : String)
  deriving DecidableEq

/-! ## views -/

/-- the action under way other than a kill -/
def Phase.action? : Phase → Option PowerAction
  | .idle => none
  | .starting _ => some .start
  | .stopping _ | .escalated _ _ => some .stop
  | .restarting _ => some .restart

def Phase.isEscalating : Phase → Bool
  | .escalated _ _ => true
  | _ => false

/-- the ticket and action that end the phase -/
def Phase.awaited? : Phase → Option (Ticket × PowerAction)
  | .idle => none
  | .starting t => some (t, .start)
  | .stopping t | .escalated t _ => some (t, .stop)
  | .restarting t => some (t, .restart)

/-- what the operator is shown: the status and the action under way -/
structure View where
  status : Status
  inFlight : Option PowerAction
  escalating : Bool
  deriving DecidableEq

def View.allows (v : View) : PowerAction → Bool
  | .start => v.inFlight.isNone && (v.status == .stopped || v.status == .failed)
  | .stop => (v.inFlight.isNone && v.status == .running) || (v.inFlight == some .stop && !v.escalating)
  | .restart => v.inFlight.isNone && v.status == .running
  | .kill => true

namespace Machine

def initial : Machine := ⟨.idle, 1⟩

def isIdle (m : Machine) : Bool := m.phase == .idle

def view (m : Machine) (status : Status) : View :=
  ⟨status, m.phase.action?, m.phase.isEscalating⟩

/-! ## requests -/

/-- uses up a ticket and goes to a phase -/
def issue (m : Machine) (phase : Ticket → Phase) : Machine :=
  ⟨phase m.nextTicket, m.nextTicket + 1⟩

/-- the phase after a kill is dispatched -/
def afterKill (phase : Phase) (kill : Ticket) : Phase :=
  match phase with
  | .stopping stop | .escalated stop _ => .escalated stop kill
  | other => other

def request (m : Machine) (action : PowerAction) (status : Status) : Machine × List Effect :=
  match action, m.phase with
  | .kill, phase => (m.issue (afterKill phase), [.dispatch m.nextTicket .kill])
  | .stop, .stopping stop => (m.issue (.escalated stop), [.dispatch m.nextTicket .kill])
  | .start, .idle =>
    if status = .stopped ∨ status = .failed then
      (m.issue .starting, [.resetStats, .dispatch m.nextTicket .start])
    else (m, [])
  | .stop, .idle =>
    if status = .running then (m.issue .stopping, [.dispatch m.nextTicket .stop]) else (m, [])
  | .restart, .idle =>
    if status = .running then
      (m.issue .restarting, [.markStatsUnknown, .dispatch m.nextTicket .restart])
    else (m, [])
  | _, _ => (m, [])

/-! ## completions -/

/-- the effects of a finished kill or stop -/
def stopped : Outcome → List Effect
  | none => [.setStatus .stopped, .resetStats]
  | some reason => [.logError reason]

/-- the phase after a kill finishes: only the latest kill of an escalation ends it -/
def phaseAfterKill (phase : Phase) (ticket : Ticket) (failure : Outcome) : Phase :=
  match phase with
  | .escalated stop kill =>
    if kill = ticket then (if failure.isNone then .idle else .stopping stop) else phase
  | other => other

/-- the effects of the awaited call -/
def finished (action : PowerAction) (failure : Outcome) : List Effect :=
  match action, failure with
  | _, some reason => [.logError reason]
  | .stop, none => stopped none
  | _, none => [.setStatus .running]

def complete (m : Machine) (ticket : Ticket) (action : PowerAction) (failure : Outcome) :
    Machine × List Effect :=
  if action = .kill then ({ m with phase := phaseAfterKill m.phase ticket failure }, stopped failure)
  else if m.phase.awaited? = some (ticket, action) then
    ({ m with phase := .idle }, finished action failure)
  else (m, [])

/-! ## steps -/

def step (m : Machine) (event : Event) (status : Status) : Machine × List Effect :=
  match event with
  | .requested action => m.request action status
  | .completed ticket action failure => m.complete ticket action failure

end Machine

end ServerConsole.Power

import ServerConsole.App

/-!
# An app in time

A clock in milliseconds and the panel calls that are still out. A call ends once: it is answered,
or it has been out for the longest time allowed; either way its completion goes to the session.

* `deliver`  hands an event to the app, if it waits for it;
* `perform`  takes over what an operation left to do;
* `expire`   ends the calls that have been out too long, in order of their tickets;
* `finish`, `advance`  an answer of the panel, and the passing of time.
-/

namespace ServerConsole

structure PendingCall where
  ticket : Power.Ticket
  action : PowerAction
  since : Nat
  deriving DecidableEq

/-- what happened in a stretch of time -/
structure Happenings where
  events : List Session.Event := []
  begun : List PowerAction := []
  sent : List Command := []

def Happenings.append (a b : Happenings) : Happenings :=
  ⟨a.events ++ b.events, a.begun ++ b.begun, a.sent ++ b.sent⟩

structure Timeline where
  app : App
  now : Nat
  /-- the longest time a call may take -/
  patience : Nat
  calls : List PendingCall

namespace Timeline

def new (session : Session) (patience : Nat) : Timeline := ⟨.new session, 0, patience, []⟩

/-! ## effects -/

def begun? : Session.Effect → Option PowerAction
  | .call _ action => some action
  | .queue _ => none

def sent? : Session.Effect → Option Command
  | .call _ _ => none
  | .queue command => some command

def pending? (now : Nat) : Session.Effect → Option PendingCall
  | .call ticket action => some ⟨ticket, action, now⟩
  | .queue _ => none

/-- the app after an operation, with the calls it began -/
def carry (t : Timeline) (app : App) (effects : List Session.Effect) : Timeline × Happenings :=
  ({ t with app := app, calls := t.calls ++ effects.filterMap (pending? t.now) },
    ⟨[], effects.filterMap begun?, effects.filterMap sent?⟩)

/-! ## events -/

def deliver (t : Timeline) (event : Session.Event) : Timeline × Happenings :=
  if t.app.session.awaits event then
    let (app, effects) := t.app.received event
    let (t, h) := t.carry app effects
    (t, { h with events := [event] })
  else (t, {})

def deliverAll (t : Timeline) : List Session.Event → Timeline × Happenings
  | [] => (t, {})
  | event :: events =>
    let (t, h) := t.deliver event
    let (t, more) := t.deliverAll events
    (t, h.append more)

/-! ## ends of calls -/

def overdue (t : Timeline) (c : PendingCall) : Bool := t.patience ≤ t.now - c.since

/-- the event that ends a call -/
def ended (c : PendingCall) (failure : Power.Outcome) : Session.Event :=
  .power ⟨c.ticket, c.action, failure⟩

def timeoutText (t : Timeline) : String :=
  (Failure.timeout (t.patience / 1000).toUInt64).message

def expire (t : Timeline) : Timeline × Happenings :=
  let (late, out) := t.calls.partition t.overdue
  { t with calls := out }.deliverAll (late.map fun c => ended c (some t.timeoutText))

def andExpire (step : Timeline × Happenings) : Timeline × Happenings :=
  let (t, more) := step.1.expire
  (t, step.2.append more)

/-- an operation on the app -/
def perform (t : Timeline) (app : App) (effects : List Session.Effect) : Timeline × Happenings :=
  andExpire (t.carry app effects)

def arrive (t : Timeline) (event : Link.Event) : Timeline × Happenings :=
  andExpire (t.deliver (.link event))

/-- the panel answers the call of a ticket; nothing when no such call is out -/
def finish? (t : Timeline) (ticket : Power.Ticket) (failure : Option Failure) :
    Option (Timeline × Happenings) :=
  (t.calls.find? (·.ticket == ticket)).map fun c =>
    { t with calls := t.calls.filter (·.ticket != ticket) }.deliver
      (ended c (failure.map Failure.reason))

def advance (t : Timeline) (ms : Nat) : Timeline × Happenings := { t with now := t.now + ms }.expire

end Timeline

end ServerConsole

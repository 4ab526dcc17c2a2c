import ServerConsole.Keys
import ServerConsole.Session.Basic

/-!
# The interactive console

An `App` is a session with an input line, a scroll offset, and a message for the footer.

* `scroll` counts the lines below the visible ones; zero follows the output;
* `pressed`   a key press;
* `received`  an event of the session; a scrolled view stays where it is while lines come in;
* `visibleRange`  the lines shown in a pane of some height.
-/

namespace ServerConsole

/-! ## scrolling -/

/-- lines moved by one page key -/
def scrollStep : Nat := 10

def scrolledUp (scroll size : Nat) : Nat := min (scroll + scrollStep) size

def scrolledDown (scroll : Nat) : Nat := scroll - scrollStep

/-- the offset after `added` lines came in; at the bottom it follows them -/
def anchored (scroll added size : Nat) : Nat := if scroll = 0 then 0 else min (scroll + added) size

/-- first and one past the last index of the lines shown -/
def visibleRange (size height scroll : Nat) : Nat × Nat :=
  let stop := size - scroll
  (stop - height, stop)

/-! ## the app -/

structure App where
  session : Session
  editor : Editor
  scroll : Nat
  message : Option String
  quit : Bool

/-- what happens at the terminal -/
inductive Terminal
  | key (key : Key)
  | paste (text : String)
  | resize
  | tick

namespace App

def new (session : Session) : App := ⟨session, .empty, 0, none, false⟩

/-- the footer's wording of a failure; a missing permission is already told in the log -/
def notice? : Failure → Option String
  | .notConnected => some "Not connected; command kept in the input line"
  | .permissionDenied _ => none
  | other => some other.message

def report (a : App) (failure : Failure) : App :=
  match notice? failure with
  | some text => { a with message := some text }
  | none => a

/-! ## keys -/

def submit (a : App) : App × List Session.Effect :=
  let (editor, line) := a.editor.take
  let reply := a.session.submit line
  let a := { a with session := reply.session, editor := editor }
  match reply.result with
  | .ok () => ({ a with scroll := 0 }, reply.effects)
  | .error failure => ({ a with editor := a.editor.set line }.report failure, reply.effects)

def revisit (a : App) (direction : Direction) : App :=
  let (session, text) := a.session.revisit direction
  { a with session := session, editor := a.editor.set text }

def request (a : App) (action : PowerAction) : App × List Session.Effect :=
  let reply := a.session.request action
  let a := { a with session := reply.session }
  match reply.result with
  | .ok () => (a, reply.effects)
  | .error failure => (a.report failure, reply.effects)

def act (a : App) : KeyAction → App × List Session.Effect
  | .quit => ({ a with quit := true }, [])
  | .submit => a.submit
  | .historyOlder => (a.revisit .older, [])
  | .historyNewer => (a.revisit .newer, [])
  | .power action => a.request action
  | .scrollUp => ({ a with scroll := scrolledUp a.scroll a.session.log.size }, [])
  | .scrollDown => ({ a with scroll := scrolledDown a.scroll }, [])
  | .edit edit => ({ a with editor := a.editor.apply edit }, [])
  | .none => (a, [])

/-- a key with a meaning also takes the message away -/
def pressed (a : App) (key : Key) : App × List Session.Effect :=
  match key.meaning with
  | .none => (a, [])
  | action => { a with message := none }.act action

def terminal (a : App) : Terminal → App × List Session.Effect
  | .key key => a.pressed key
  | .paste text => ({ a with editor := a.editor.insertText text }, [])
  | .resize | .tick => (a, [])

/-! ## session events -/

/-- keeps the lines in view after the log went from `before` to its present state -/
def follow (a : App) (before : Log) : App :=
  { a with scroll := anchored a.scroll (Log.added before a.session.log) a.session.log.size }

def received (a : App) (event : Session.Event) : App × List Session.Effect :=
  if a.session.awaits event then
    let (session, effects) := a.session.receive event
    ({ a with session := session }.follow a.session.log, effects)
  else (a, [])

/-- first and one past the last index of the lines shown -/
def visible (a : App) (height : Nat) : Nat × Nat :=
  visibleRange a.session.log.size height a.scroll

end App

end ServerConsole

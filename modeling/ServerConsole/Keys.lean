import ServerConsole.Editor
import ServerConsole.Power.Action

/-!
# Key bindings

What a key press means: `Key.meaning` gives a `KeyAction`. Of the modifiers only control counts.
-/

namespace ServerConsole

inductive KeyCode
  | char (c : Char)
  | enter
  | up
  | down
  | left
  | right
  | home
  | finish
  | pageUp
  | pageDown
  | backspace
  | delete
  /-- any key without a binding -/
  | other
  deriving DecidableEq

structure Key where
  code : KeyCode
  control : Bool
  deriving DecidableEq

inductive KeyAction
  | submit
  | historyOlder
  | historyNewer
  | power (action : PowerAction)
  | scrollUp
  | scrollDown
  | quit
  | edit (edit : Edit)
  | none
  deriving DecidableEq

namespace Key

/-- characters typed with control held -/
def controlMeaning (c : Char) : KeyAction :=
  match c with
  | 'q' | 'c' => .quit
  | 's' => .power .start
  | 'x' => .power .stop
  | 'r' => .power .restart
  | 'k' => .power .kill
  | 'u' => .edit .clear
  | 'a' => .edit .home
  | 'e' => .edit .finish
  | _ => .none

def meaning (k : Key) : KeyAction :=
  match k.code with
  | .char c => if k.control then controlMeaning c else .edit (.insert c)
  | .enter => .submit
  | .up => .historyOlder
  | .down => .historyNewer
  | .pageUp => .scrollUp
  | .pageDown => .scrollDown
  | .backspace => .edit .backspace
  | .delete => .edit .delete
  | .left => .edit .left
  | .right => .edit .right
  | .home => .edit .home
  | .finish => .edit .finish
  | .other => .none

end Key

end ServerConsole

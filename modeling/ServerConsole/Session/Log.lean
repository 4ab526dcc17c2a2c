/-!
# Console log

* `LogLine`  a line with the clock label of its arrival, an optional colour, and its origin;
* `Log`      the last lines in order of arrival; when it is full each new line drops the oldest;
* `Log.appended`  how many lines came in since the log was last cleared, dropped ones included.

`Log.toList` is the view: everything else about the lines is said through it.
-/

namespace ServerConsole

/-! ## lines -/

inductive Origin
  | server
  | system
  | echo
  deriving DecidableEq

structure LogLine where
  time : String
  text : String
  color : Option String
  origin : Origin
  deriving DecidableEq

namespace LogLine

def errorColor : String := "#ef4444"

def server (time text : String) (color : Option String) : LogLine := ⟨time, text, color, .server⟩
def system (time text : String) : LogLine := ⟨time, text, none, .system⟩
def error (time reason : String) : LogLine := ⟨time, "[ERROR] " ++ reason, some errorColor, .system⟩
def echo (time command : String) : LogLine := ⟨time, "> " ++ command, none, .echo⟩

end LogLine

/-! ## the log -/

structure Log where
  lines : Array LogLine
  capacity : Nat
  appended : UInt64
  deriving DecidableEq

namespace Log

def defaultCapacity : Nat := 1000

def withCapacity (capacity : Nat) : Log := ⟨#[], max capacity 1, 0⟩

def toList (log : Log) : List LogLine := log.lines.toList

def size (log : Log) : Nat := log.lines.size

def last? (log : Log) : Option LogLine := log.lines.back?

def append (log : Log) (line : LogLine) : Log :=
  let kept := if log.lines.size = log.capacity then log.lines.extract 1 else log.lines
  { log with lines := kept.push line, appended := log.appended + 1 }

def clear (log : Log) : Log := { log with lines := #[], appended := 0 }

/-- lines that came in after `before` lines were counted, as far as they are still held -/
def added (before after : Log) : Nat := after.appended.toNat - before.appended.toNat

def linesSince (before after : Log) : List LogLine :=
  after.toList.drop (after.size - added before after)

theorem toList_withCapacity (n : Nat) : (withCapacity n).toList = [] := rfl
theorem toList_clear (log : Log) : log.clear.toList = [] := rfl
theorem capacity_append (log : Log) (l : LogLine) : (log.append l).capacity = log.capacity := rfl
theorem appended_append (log : Log) (l : LogLine) :
    (log.append l).appended = log.appended + 1 := rfl

theorem toList_append (log : Log) (l : LogLine) :
    (log.append l).toList =
      (if log.size = log.capacity then log.toList.drop 1 else log.toList) ++ [l] := by
  unfold append toList size
  split
  · simp [List.take_of_length_le]
  · simp

end Log

end ServerConsole

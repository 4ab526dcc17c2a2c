/-!
# Command history

The commands sent, most recent first, never more than a limit, and a position among them. Position
`-1` is the empty prompt; moves to older and newer commands stop at the ends.

* `push`      remembers a command and goes back to the prompt;
* `navigate`  moves and gives the text at the new position.
-/

namespace ServerConsole

inductive Direction
  | older
  | newer
  deriving DecidableEq

structure History where
  entries : List String
  cursor : Int
  limit : Nat
  deriving DecidableEq

namespace History

def defaultLimit : Nat := 50

def withLimit (limit : Nat) : History := ⟨[], -1, max limit 1⟩

def new : History := withLimit defaultLimit

def size (h : History) : Nat := h.entries.length

def push (h : History) (command : String) : History :=
  { h with entries := (command :: h.entries).take h.limit, cursor := -1 }

/-- the position after one move among `size` entries -/
def moved (size : Nat) (cursor : Int) : Direction → Int
  | .older => min (cursor + 1) (size - 1)
  | .newer => max (cursor - 1) (-1)

def current? (h : History) : Option String :=
  if h.cursor < 0 then none else h.entries[h.cursor.toNat]?

def navigate (h : History) (direction : Direction) : History × String :=
  let next := { h with cursor := moved h.size h.cursor direction }
  (next, next.current?.getD "")

theorem entries_navigate (h : History) (d : Direction) : (h.navigate d).1.entries = h.entries := rfl
theorem cursor_push (h : History) (c : String) : (h.push c).cursor = -1 := rfl

end History

end ServerConsole

import ServerConsole.Text.Control
import ServerConsole.Text.Utf8

/-!
# The input line

A single line with a cursor that counts characters. Characters are put in and taken out at byte
offsets of the line's UTF-8 form.

* `byteIndex`     the offset of a character position;
* `splitAtByte?`  the two parts of a line at an offset, if it lies between two characters;
* `Edit`, `Editor.apply`  the edits;
* `Editor.insertText`  pastes, without the control characters.
-/

namespace ServerConsole

/-! ## offsets -/

/-- the offset of the `n`-th character; past the end, the length -/
def byteIndex (cs : List Char) (n : Nat) : Nat := Text.byteLength (cs.take n)

def splitAtByte? : Nat → List Char → Option (List Char × List Char)
  | 0, cs => some ([], cs)
  | _ + 1, [] => none
  | n + 1, c :: cs =>
    if c.utf8Size ≤ n + 1 then
      (splitAtByte? (n + 1 - c.utf8Size) cs).map fun (a, b) => (c :: a, b)
    else none
termination_by _ cs => cs.length

/-- puts a character in at an offset between two characters -/
def insertAtByte? (cs : List Char) (offset : Nat) (c : Char) : Option (List Char) :=
  (splitAtByte? offset cs).map fun (a, b) => a ++ c :: b

/-- takes out the character that starts at an offset -/
def removeAtByte? (cs : List Char) (offset : Nat) : Option (List Char) :=
  match splitAtByte? offset cs with
  | some (a, _ :: b) => some (a ++ b)
  | _ => none

/-! ## the editor -/

inductive Edit
  | insert (c : Char)
  | backspace
  | delete
  | left
  | right
  | home
  | finish
  | clear
  deriving DecidableEq

structure Editor where
  chars : List Char
  cursor : Nat
  deriving DecidableEq

namespace Editor

def empty : Editor := ⟨[], 0⟩

def text (e : Editor) : String := String.ofList e.chars

/-- replaces the line; the cursor goes to its end -/
def set (_ : Editor) (s : String) : Editor := ⟨s.toList, s.toList.length⟩

/-- takes the line out -/
def take (e : Editor) : Editor × String := (empty, e.text)

/-- a line that cannot be changed at the offset asked for stays as it is -/
def insert (e : Editor) (c : Char) : Editor :=
  match insertAtByte? e.chars (byteIndex e.chars e.cursor) c with
  | some cs => ⟨cs, e.cursor + 1⟩
  | none => e

/-- takes out the character at a position and puts the cursor there -/
def removeAt (e : Editor) (position : Nat) : Editor :=
  match removeAtByte? e.chars (byteIndex e.chars position) with
  | some cs => ⟨cs, position⟩
  | none => e

def apply (e : Editor) : Edit → Editor
  | .insert c => e.insert c
  | .backspace => if 0 < e.cursor then e.removeAt (e.cursor - 1) else e
  | .delete => if e.cursor < e.chars.length then e.removeAt e.cursor else e
  | .left => { e with cursor := e.cursor - 1 }
  | .right => { e with cursor := min (e.cursor + 1) e.chars.length }
  | .home => { e with cursor := 0 }
  | .finish => { e with cursor := e.chars.length }
  | .clear => empty

def insertText (e : Editor) (s : String) : Editor :=
  (s.toList.filter fun c => !Text.isControl c).foldl insert e

end Editor

end ServerConsole

import ServerConsole.Json.Reader

/-!
# Reading JSON from bytes

Bytes have to be well formed where a string is kept, and only there: a string that is passed over may
hold bytes that are no text.

* `spelling`  how an ill-formed piece is put before a reader of characters;
* `spelled`   a byte text in this form;
* `ofBytes?`  a whole byte text: one value with spaces around it.

An ill-formed piece becomes the replacement character and the escape of a lone low half. No reader goes
on at the first one outside a string, behind a backslash, among the digits of an escape or behind a high
half, and there it may not go on at such bytes either. In a string the first one passes, and it is the
half that is refused if the string is kept, and not looked at if it is passed over.
-/

namespace ServerConsole.Json

open Text

/-- the escape of a low half that belongs to no high half -/
def loneHalf : List Char := ['\\', 'u', 'd', 'c', '0', '0']

def spelling : Option Char → List Char
  | some c => [c]
  | none => replacement :: loneHalf

def spelled (pieces : List (Option Char)) : List Char := pieces.flatMap spelling

theorem spelled_nil : spelled [] = [] := rfl

theorem spelled_some (c : Char) (ps : List (Option Char)) : spelled (some c :: ps) = c :: spelled ps := rfl

theorem spelled_none (ps : List (Option Char)) :
    spelled (none :: ps) = replacement :: (loneHalf ++ spelled ps) := rfl

/-- one value and nothing after it; no loop step takes less than a piece, so the pieces pay for all -/
def ofBytes? {α : Type} (reader : Nat → Nat → Reader α) (bytes : List UInt8) : Option α :=
  let ps := pieces bytes
  match reader ps.length maxDepth (spelled ps) with
  | .ok (x, rest) => if (skipSpaces rest).isEmpty then some x else none
  | .error _ => none

/-- the byte `0xff` between two quotes, passed over and kept -/
example : (skipString (spelled (pieces [0xff, 0x22, 0x2c]))).toOption = some [','] ∧
    (readString (spelled (pieces [0xff, 0x22, 0x2c]))).toOption = none := by decide +kernel

end ServerConsole.Json

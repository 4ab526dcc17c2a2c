/-!
# JSON values

* `Fault`   why a text is not taken: broken grammar, wrong shape, or cut short;
* `Number`  a number as it is read: a natural or negated 64-bit integer, else a double;
* `Value`   a value; an object keeps its members in the order written, repeats included.
-/

namespace ServerConsole.Json

/-- why reading stopped -/
inductive Fault
  /-- the grammar is broken, a number or an escape is out of range, or nesting is too deep -/
  | malformed
  /-- well formed so far, but not of the shape asked for -/
  | mismatched
  /-- the text ends too early -/
  | truncated
  deriving DecidableEq

inductive Number
  | natural (n : UInt64)
  /-- the negation of `n` -/
  | negative (n : UInt64)
  | real (x : Float)

def Number.toFloat : Number → Float
  | .natural n => n.toFloat
  | .negative n => -n.toFloat
  | .real x => x

inductive Value
  | null
  | bool (b : Bool)
  | number (n : Number)
  | string (s : String)
  | array (items : List Value)
  | object (members : List (String × Value))

/-- the member of a name, the last one when the name is repeated -/
def Value.member? (v : Value) (name : String) : Option Value :=
  match v with
  | .object members => (members.reverse.find? (·.1 == name)).map (·.2)
  | _ => none

def Value.string? : Value → Option String
  | .string s => some s
  | _ => none

end ServerConsole.Json

/-!
# TOML values

* `Origin`  how a table came to be, which decides what may still be added to it;
* `Value`   a value; numbers with a fraction and moments in time are kept as they are written.
-/

namespace ServerConsole.Toml

inductive Origin
  /-- under a header of its own, or the whole document -/
  | header
  /-- on the way to the header of another table -/
  | implied
  /-- by a dotted key -/
  | dotted
  /-- in braces; complete -/
  | braces
  deriving DecidableEq

inductive Value
  | string (s : String)
  | integer (n : Int)
  | bool (b : Bool)
  | real (written : List Char)
  | moment (written : List Char)
  | array (items : List Value)
  | table (origin : Origin) (entries : List (String × Value))
  /-- tables under repeated headers -/
  | tables (items : List (List (String × Value)))

abbrev Entries := List (String × Value)

def Entries.value? (key : String) (es : Entries) : Option Value :=
  (List.find? (·.1 == key) es).map (·.2)

/-- replaces the value of a key, or adds the key at the end -/
def Entries.put (key : String) (v : Value) : Entries → Entries
  | [] => [(key, v)]
  | e :: es => if e.1 = key then (key, v) :: es else e :: Entries.put key v es

end ServerConsole.Toml

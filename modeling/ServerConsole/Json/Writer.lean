import ServerConsole.Json.Quoted
import ServerConsole.Text.Decimal

/-!
# Writing JSON objects

Members are written in order, without spaces. `Member` pairs a name with a value already written.
-/

namespace ServerConsole.Json

abbrev Member := String × List Char

def writeMember (m : Member) : List Char := quote m.1 ++ ':' :: m.2

/-- written parts with a comma between each two -/
def joined : List (List Char) → List Char
  | [] => []
  | [x] => x
  | x :: y :: rest => x ++ ',' :: joined (y :: rest)

theorem joined_nil : joined [] = [] := rfl
theorem joined_singleton (x : List Char) : joined [x] = x := rfl
theorem joined_cons_cons (x y : List Char) (rest : List (List Char)) :
    joined (x :: y :: rest) = x ++ ',' :: joined (y :: rest) := rfl

def writeObject (members : List Member) : List Char :=
  '{' :: (joined (members.map writeMember) ++ ['}'])

def writeBool (b : Bool) : List Char :=
  if b then ['t', 'r', 'u', 'e'] else ['f', 'a', 'l', 's', 'e']

def writeNatural (n : UInt64) : List Char := Text.digits n.toNat

end ServerConsole.Json

import ServerConsole.Json.Number
import ServerConsole.Json.Quoted

/-!
# Reading JSON texts

A reader takes a value off the front of a text. The first fault from the left is the one reported.

* `readValue`  any value, nested at most as deep as allowed;
* `skipValue`  passes over any value, nested as deep as it likes;
* `parse`      a whole text: one value with spaces around it.

Every loop carries a budget that the length of the text always covers.
-/

namespace ServerConsole.Json

abbrev Reader (α : Type) := List Char → Except Fault (α × List Char)

/-! ## spaces, words and separators -/

def isSpace (c : Char) : Bool := c == ' ' || c == '\n' || c == '\t' || c == '\r'

def skipSpaces (s : List Char) : List Char := s.dropWhile isSpace

/-- the letters of a word, in order -/
def readWord : List Char → List Char → Except Fault (List Char)
  | [], s => .ok s
  | _ :: _, [] => .error .truncated
  | w :: ws, c :: s => if w = c then readWord ws s else .error .malformed

def readColon (s : List Char) : Except Fault (List Char) :=
  match skipSpaces s with
  | ':' :: r => .ok r
  | r => .error (unexpected r)

/-- where a list or an object goes on: at its closing bracket, or at the next part -/
inductive Next
  | done (rest : List Char)
  | more (rest : List Char)

/-- the next item of a list; `rest` starts after the closing bracket, or at the item -/
def nextItem (first : Bool) (s : List Char) : Except Fault Next :=
  match skipSpaces s with
  | [] => .error .truncated
  | ']' :: r => .ok (.done r)
  | c :: r =>
    if first then .ok (.more (c :: r))
    else if c = ',' then
      match skipSpaces r with
      | [] => .error .truncated
      | ']' :: _ => .error .malformed
      | r' => .ok (.more r')
    else .error .malformed

/-- the next member of an object; `rest` starts after the closing bracket, or in the name -/
def nextMember (first : Bool) (s : List Char) : Except Fault Next :=
  match skipSpaces s with
  | '}' :: r => .ok (.done r)
  | ',' :: r =>
    if first then .error .malformed
    else match skipSpaces r with
      | '"' :: r' => .ok (.more r')
      | r' => .error (unexpected r')
  | '"' :: r => if first then .ok (.more r) else .error .malformed
  | r => .error (unexpected r)

/-! ## values -/

/-- a value without parts -/
def readScalar (s : List Char) : Except Fault (Value × List Char) :=
  match s with
  | 'n' :: r => do pure (.null, ← readWord ['u', 'l', 'l'] r)
  | 't' :: r => do pure (.bool true, ← readWord ['r', 'u', 'e'] r)
  | 'f' :: r => do pure (.bool false, ← readWord ['a', 'l', 's', 'e'] r)
  | '"' :: r => do
    let (text, r) ← readString r
    pure (.string text, r)
  | '-' :: r => do
    let (n, r) ← readNumber false r
    pure (.number n, r)
  | [] => .error .truncated
  | c :: r =>
    if Text.isDigit c then do
      let (n, r) ← readNumber true (c :: r)
      pure (.number n, r)
    else .error .malformed

/-- the items of a list after its opening bracket -/
def readItems {α : Type} (item : Reader α) :
    Nat → Bool → List α → List Char → Except Fault (List α × List Char)
  | 0, _, _, _ => .error .truncated
  | budget + 1, first, done, s => do
    match ← nextItem first s with
    | .done r => pure (done.reverse, r)
    | .more r =>
      let (x, r) ← item r
      readItems item budget false (x :: done) r

/-- the members of an object after its opening bracket -/
def readMembers {α : Type} (item : Reader α) :
    Nat → Bool → List (String × α) → List Char → Except Fault (List (String × α) × List Char)
  | 0, _, _, _ => .error .truncated
  | budget + 1, first, done, s => do
    match ← nextMember first s with
    | .done r => pure (done.reverse, r)
    | .more r =>
      let (name, r) ← readString r
      let (x, r) ← item (← readColon r)
      readMembers item budget false ((name, x) :: done) r

/-- a value with at most `depth` levels of brackets -/
def readValue (budget : Nat) : Nat → Reader Value
  | 0, s =>
    match skipSpaces s with
    | '[' :: _ | '{' :: _ => .error .malformed
    | r => readScalar r
  | depth + 1, s =>
    match skipSpaces s with
    | '[' :: r => do
      let (items, r) ← readItems (readValue budget depth) budget true [] r
      pure (.array items, r)
    | '{' :: r => do
      let (members, r) ← readMembers (readValue budget depth) budget true [] r
      pure (.object members, r)
    | r => readScalar r

/-! ## values that are passed over -/

inductive Enclosure
  | list
  | object

def skipScalar (s : List Char) : Except Fault (List Char) :=
  match s with
  | 'n' :: r => readWord ['u', 'l', 'l'] r
  | 't' :: r => readWord ['r', 'u', 'e'] r
  | 'f' :: r => readWord ['a', 'l', 's', 'e'] r
  | '"' :: r => skipString r
  | '-' :: r => skipNumber r
  | [] => .error .truncated
  | c :: r => if Text.isDigit c then skipNumber (c :: r) else .error .malformed

/-- a member's name and colon, from the opening quote -/
def skipName (s : List Char) : Except Fault (List Char) :=
  match skipSpaces s with
  | '"' :: r => do readColon (← skipString r)
  | r => .error (unexpected r)

/-- passes a value when `value` is set, else what follows one; `outer` are the open brackets -/
def skipFrom : Nat → Bool → List Enclosure → List Char → Except Fault (List Char)
  | 0, _, _, _ => .error .truncated
  | budget + 1, true, outer, s =>
    match skipSpaces s with
    | '[' :: r =>
      match skipSpaces r with
      | ']' :: r => skipFrom budget false outer r
      | [] => .error .truncated
      | r => skipFrom budget true (.list :: outer) r
    | '{' :: r =>
      match skipSpaces r with
      | '}' :: r => skipFrom budget false outer r
      | r => do skipFrom budget true (.object :: outer) (← skipName r)
    | r => do skipFrom budget false outer (← skipScalar r)
  | budget + 1, false, outer, s =>
    match outer with
    | [] => .ok s
    | .list :: rest =>
      match skipSpaces s with
      | ',' :: r => skipFrom budget true outer r
      | ']' :: r => skipFrom budget false rest r
      | r => .error (unexpected r)
    | .object :: rest =>
      match skipSpaces s with
      | ',' :: r => do skipFrom budget true outer (← skipName r)
      | '}' :: r => skipFrom budget false rest r
      | r => .error (unexpected r)

def skipValue (budget : Nat) (s : List Char) : Except Fault (List Char) :=
  skipFrom (budget + 1) true [] s

/-- what follows the value is left alone -/
example : skipValue 9 ['[', '1', 'e', '9', ',', '{', '}', ']', ',', ' '] = .ok [',', ' '] := by cbv

/-! ## whole texts -/

/-- levels of brackets in a value that is kept -/
def maxDepth : Nat := 127

/-- one value and nothing after it -/
def complete {α : Type} (reader : Nat → Nat → Reader α) (s : List Char) : Except Fault α := do
  let (x, rest) ← reader s.length maxDepth s
  if (skipSpaces rest).isEmpty then pure x else .error .malformed

def parse (s : List Char) : Except Fault Value := complete readValue s

end ServerConsole.Json

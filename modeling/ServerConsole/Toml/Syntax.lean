import ServerConsole.Toml.Quoted
import ServerConsole.Toml.Scalar
import ServerConsole.Toml.Table

/-!
# TOML syntax

* `readKey`     names joined by dots;
* `readValue`   a value; lists may run over several lines, tables in braces may not;
* `Statement`   what a line of a document says;
* `statements?` the statements of a document.

Every loop carries a budget that the length of the text always covers.
-/

namespace ServerConsole.Toml

open Text

abbrev Reader (α : Type) := List Char → Option (α × List Char)

/-- levels of brackets in a value, and names in a key -/
def maxDepth : Nat := 79

/-! ## blanks and comments -/

def skipBlanks (cs : List Char) : List Char := cs.dropWhile isLineBlank

/-- a comment up to the end of its line -/
def skipComment : List Char → List Char
  | '#' :: cs => cs.dropWhile isTextChar
  | cs => cs

/-- the text after a line with nothing more than a comment on it -/
def lineEnd? (cs : List Char) : Option (List Char) :=
  match skipComment (skipBlanks cs) with
  | [] => some []
  | rest => lineBreak? rest

/-- passes blanks, line breaks and comments -/
def skipGap : Nat → List Char → List Char
  | 0, cs => cs
  | budget + 1, cs =>
    match lineBreak? (skipComment (skipBlanks cs)) with
    | some rest => skipGap budget rest
    | none => skipComment (skipBlanks cs)

/-! ## keys -/

def isBareChar (c : Char) : Bool := c.isAlphanum || c == '_' || c == '-'

def readName : Reader String
  | '"' :: cs => readBasic [] cs
  | '\'' :: cs => readLiteral cs
  | cs =>
    let name := cs.takeWhile isBareChar
    if name.isEmpty then none else some (String.ofList name, cs.drop name.length)

/-- names with blanks around them; `room` is how many may still come -/
def readKey : Nat → Reader Key
  | 0, _ => none
  | room + 1, cs => do
    let (name, cs) ← readName (skipBlanks cs)
    match skipBlanks cs with
    | '.' :: cs => do
      let (path, cs) ← readKey room cs
      return (name :: path, cs)
    | cs => return ([name], cs)

def readPair (value : Reader Value) (cs : List Char) : Option ((Key × Value) × List Char) := do
  let (key, cs) ← readKey maxDepth cs
  match cs with
  | '=' :: cs => do
    let (v, cs) ← value (skipBlanks cs)
    return ((key, v), cs)
  | _ => none

/-! ## values -/

/-- the items of a list after its opening bracket, with an item or the closing one to come -/
def readItems (value : Reader Value) (gap : List Char → List Char) :
    Nat → List Value → Reader (List Value)
  | 0, _, _ => none
  | budget + 1, done, cs =>
    match gap cs with
    | ']' :: rest => some (done.reverse, rest)
    | cs => do
      let (v, cs) ← value cs
      match gap cs with
      | ',' :: rest => readItems value gap budget (v :: done) rest
      | ']' :: rest => return ((v :: done).reverse, rest)
      | _ => none

/-- the entries of a table in braces, with an entry to come -/
def readEntries (value : Reader Value) : Nat → Entries → Reader Entries
  | 0, _, _ => none
  | budget + 1, es, cs => do
    let ((key, v), cs) ← readPair value cs
    let es ← assign? key v es
    match skipBlanks cs with
    | ',' :: rest => readEntries value budget es rest
    | '}' :: rest => return (es, rest)
    | _ => none

/-- a value with at most `depth` levels of brackets -/
def readValue (budget : Nat) : Nat → Reader Value
  | depth, cs =>
    match cs, depth with
    | '[' :: _, 0 | '{' :: _, 0 => none
    | '[' :: rest, depth + 1 => do
      let (items, rest) ← readItems (readValue budget depth) (skipGap budget) budget [] rest
      return (.array items, rest)
    | '{' :: rest, depth + 1 =>
      match skipBlanks rest with
      | '}' :: rest => some (.table .braces [], rest)
      | rest => do
        let (es, rest) ← readEntries (readValue budget depth) budget [] rest
        return (.table .braces es, rest)
    | '"' :: _, _ | '\'' :: _, _ => (readString cs).map fun (s, rest) => (.string s, rest)
    | _, _ => readScalar cs

/-! ## statements -/

inductive Statement
  | assignment (key : Key) (value : Value)
  /-- the header of a table -/
  | header (key : Key)
  /-- the header of one more table of several -/
  | item (key : Key)

/-- a header between its brackets -/
def readHeader (cs : List Char) : Option (Key × List Char) := do
  let (key, cs) ← readKey maxDepth cs
  match cs with
  | ']' :: cs => return (key, cs)
  | _ => none

def readStatement (budget : Nat) : Reader Statement
  | '[' :: '[' :: cs => do
    let (key, cs) ← readHeader cs
    match cs with
    | ']' :: cs => return (.item key, cs)
    | _ => none
  | '[' :: cs => do
    let (key, cs) ← readHeader cs
    return (.header key, cs)
  | cs => do
    let ((key, v), cs) ← readPair (readValue budget maxDepth) cs
    return (.assignment key v, cs)

/-- statements line by line; `done` holds those read so far, last first -/
def readStatements (length : Nat) : Nat → List Statement → List Char → Option (List Statement)
  | 0, done, cs => if cs.isEmpty then some done.reverse else none
  | budget + 1, done, cs =>
    match skipBlanks cs with
    | [] => some done.reverse
    | c :: rest =>
      if ['#', '\n', '\r'].contains c then
        (lineEnd? (c :: rest)).bind (readStatements length budget done)
      else do
        let (s, rest) ← readStatement length (c :: rest)
        readStatements length budget (s :: done) (← lineEnd? rest)

/-- the statements of a text; a byte order mark at its start does not count -/
def statements? (cs : List Char) : Option (List Statement) :=
  let body := match cs with
    | '\uFEFF' :: rest => rest
    | _ => cs
  readStatements (body.length + 1) (body.length + 1) [] body

end ServerConsole.Toml

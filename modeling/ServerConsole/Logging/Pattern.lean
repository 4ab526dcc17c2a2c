import ServerConsole.Text.Blank
import ServerConsole.Text.Hex
import ServerConsole.Unicode.Letters

/-!
# Patterns

The regular expressions that fields are compared with. They match texts of UTF-8 and know no tables
of Unicode properties: a class such as `\d` and a word boundary need `(?-u)`, where everything is
ASCII, and so does a letter after `(?i)`; with `(?-u)`, what matches a part of a character is refused.

* `Flags`        what the flags in force make of the text behind them;
* `readEscape?`  what stands behind a backslash;
* `readClass?`   a class in brackets, with nested classes and set operations;
* `isPattern`    a whole pattern.
-/

namespace ServerConsole.Logging.Pattern

open Text Unicode

/-! ## flags -/

structure Flags where
  ignoreCase : Bool := false
  /-- bytes below 128 rather than characters -/
  ascii : Bool := false
  /-- blanks and comments do not count -/
  spaced : Bool := false
  deriving DecidableEq

namespace Flags

def set (f : Flags) (name : Char) (on : Bool) : Flags :=
  match name with
  | 'i' => { f with ignoreCase := on }
  | 'u' => { f with ascii := !on }
  | 'x' => { f with spaced := on }
  | _ => f

/-- letters in both cases would need a table -/
def lacksCases (f : Flags) : Bool := f.ignoreCase && !f.ascii

end Flags

/-- a text without its leading blanks and comments, which end with their line -/
def skipSpaced (inComment : Bool) : List Char → List Char
  | [] => []
  | c :: cs =>
    if inComment then skipSpaced (c != '\n') cs
    else if c == '#' then skipSpaced true cs
    else if isBlank c then skipSpaced false cs
    else c :: cs

def skip (f : Flags) (cs : List Char) : List Char := if f.spaced then skipSpaced false cs else cs

/-! ## escapes -/

/-- a part that is not made of other parts -/
inductive Primitive
  /-- a character, or with `byte` a byte written in two hexadecimal digits -/
  | literal (c : Char) (byte : Bool)
  /-- a class of ASCII with a letter of its own, or what is outside of it -/
  | letterClass (negated : Bool)
  | wordBoundary
  | boundary
  | dot
  deriving DecidableEq

def hexDigits? (f : Flags) (acc : Nat) : Nat → List Char → Option (Nat × List Char)
  | 0, cs => some (acc, cs)
  | n + 1, cs =>
    match skip f cs with
    | c :: cs => (hexValue? c).bind fun d => hexDigits? f (16 * acc + d) n cs
    | [] => none

/-- a character of as many digits; numbers of no character are refused -/
def readHex? (f : Flags) (count : Nat) (cs : List Char) : Option (Primitive × List Char) := do
  let (n, rest) ← hexDigits? f 0 count cs
  if n.isValidChar then some (.literal (Char.ofNat n) (count == 2), rest) else none

/-- the control characters with a letter of their own -/
def controlEscape? : Char → Option Char
  | 'a' => some '\x07'
  | 'f' => some '\x0c'
  | 't' => some '\t'
  | 'n' => some '\n'
  | 'r' => some '\r'
  | 'v' => some '\x0b'
  | _ => none

/-- signs of ASCII, which stand for themselves behind a backslash -/
def isSign (c : Char) : Bool :=
  c.val < 0x80 && !c.isAlphanum && c != '<' && c != '>'

def readEscape? (f : Flags) : List Char → Option (Primitive × List Char)
  | [] => none
  | c :: cs =>
    if c == 'x' then readHex? f 2 cs
    else if c == 'u' then readHex? f 4 cs
    else if c == 'U' then readHex? f 8 cs
    else if ['d', 's', 'w'].contains c then some (.letterClass false, cs)
    else if ['D', 'S', 'W'].contains c then some (.letterClass true, cs)
    else if isSign c then some (.literal c false, cs)
    else if ['A', 'z'].contains c then some (.boundary, cs)
    else if ['b', 'B', '<', '>'].contains c then some (.wordBoundary, cs)
    else (controlEscape? c).map fun control => (.literal control false, cs)

/-- whether a part outside a class can be matched -/
def Primitive.isAllowed (f : Flags) : Primitive → Bool
  | literal c byte => if f.ascii then !byte || c.val < 0x80 else !f.ignoreCase
  | letterClass negated => f.ascii && !negated
  | wordBoundary => f.ascii
  | boundary => true
  | dot => !f.ascii

/-! ## sets of characters -/

/-- a set under way, as far as it decides what is refused -/
structure CharClass where
  /-- whether bytes from 128 on are in it; no set holds only some of them -/
  high : Bool := false
  depth : Nat := 0

/-- the parts of a set side by side: how many, how deep, and what they hold -/
structure Parts where
  count : Nat := 0
  deep : Nat := 0
  high : Bool := false

namespace Parts

def add (p : Parts) (c : CharClass) : Parts := ⟨p.count + 1, max p.deep c.depth, p.high || c.high⟩

def close (p : Parts) : CharClass := ⟨p.high, if p.count ≤ 1 then p.deep else p.deep + 1⟩

end Parts

inductive SetOperation
  | both
  | without
  | either
  deriving DecidableEq

def SetOperation.apply (op : SetOperation) (a b : CharClass) : CharClass where
  high := match op with
    | both => a.high && b.high
    | without => a.high && !b.high
    | either => a.high != b.high
  depth := max a.depth b.depth + 1

/-- an open bracket: the operand waiting on the left and the parts read since -/
structure Bracket where
  negated : Bool
  left : Option (CharClass × SetOperation)
  parts : Parts

namespace Bracket

def operand (b : Bracket) : CharClass :=
  match b.left with
  | none => b.parts.close
  | some (a, op) => op.apply a b.parts.close

def operate (b : Bracket) (op : SetOperation) : Bracket := ⟨b.negated, some (b.operand, op), {}⟩

def add (b : Bracket) (c : CharClass) : Bracket := { b with parts := b.parts.add c }

/-- the set in the brackets -/
def close (b : Bracket) : CharClass :=
  let c := b.operand
  ⟨c.high != b.negated, c.depth + 1⟩

end Bracket

/-! ## classes -/

def namedClasses : List String :=
  ["alnum", "alpha", "ascii", "blank", "cntrl", "digit", "graph", "lower", "print", "punct", "space",
    "upper", "word", "xdigit"]

/-- a class named between colons, behind its opening bracket; tells whether it is negated -/
def namedClass? : List Char → Option (Bool × List Char)
  | ':' :: cs =>
    let (negated, cs) := match cs with
      | '^' :: rest => (true, rest)
      | _ => (false, cs)
    match cs.dropWhile (· != ':') with
    | ':' :: ']' :: rest =>
      if namedClasses.contains (String.ofList (cs.takeWhile (· != ':'))) then some (negated, rest)
      else none
    | _ => none
  | _ => none

/-- a part of a class: a character or an escape -/
def classPrimitive? (f : Flags) : List Char → Option (Primitive × List Char)
  | [] => none
  | '\\' :: cs => readEscape? f cs
  | c :: cs => some (.literal c false, cs)

/-- a part of a class as a set -/
def Primitive.class? (f : Flags) : Primitive → Option CharClass
  | literal c _ => if f.lacksCases || (f.ascii && 0x80 ≤ c.val) then none else some {}
  | letterClass negated => if f.ascii && !negated then some {} else none
  | _ => none

/-- the next character but one, blanks and a mark of a comment passed -/
def secondNext? (f : Flags) (cs : List Char) : Option Char :=
  let rest := cs.drop 1
  if f.spaced then
    match rest.dropWhile isBlank with
    | '#' :: more => (more.dropWhile isBlank).head?
    | more => more.head?
  else rest.head?

/-- one character of a class, or two and what lies between them -/
def readRange? (f : Flags) (cs : List Char) : Option (CharClass × List Char) := do
  let (low, rest) ← classPrimitive? f cs
  let set ← low.class? f
  let rest := skip f rest
  if rest.isEmpty then none
  else if rest.head? != some '-' || secondNext? f rest == some ']' || secondNext? f rest == some '-' then
    some (set, rest)
  else
    let (high, rest) ← classPrimitive? f (skip f (rest.drop 1))
    let _ ← high.class? f
    match low, high with
    | .literal a _, .literal b _ => if a ≤ b then some (set, rest) else none
    | _, _ => none

/-- dashes at the start of a class, which stand for themselves -/
def readDashes (f : Flags) : Nat → Bracket → List Char → Bracket × List Char
  | 0, b, cs => (b, cs)
  | fuel + 1, b, cs =>
    match cs with
    | '-' :: rest => readDashes f fuel (b.add {}) (skip f rest)
    | _ => (b, cs)

/-- the start of a class behind its opening bracket, with signs that mean something else elsewhere -/
def openBracket? (f : Flags) (cs : List Char) : Option (Bracket × List Char) :=
  let cs := skip f cs
  let (negated, cs) := match cs with
    | '^' :: rest => (true, skip f rest)
    | _ => (false, cs)
  let (b, cs) := readDashes f cs.length ⟨negated, none, {}⟩ cs
  let (b, cs) := match b.parts.count, cs with
    | 0, ']' :: rest => (b.add {}, skip f rest)
    | _, _ => (b, cs)
  if cs.isEmpty || (f.lacksCases && b.parts.count ≠ 0) then none else some (b, cs)

/-- goes on in a class; `outer` are the brackets around the innermost one -/
def readBrackets? (f : Flags) :
    Nat → Bracket → List Bracket → List Char → Option (CharClass × List Char)
  | 0, _, _, _ => none
  | fuel + 1, b, outer, cs =>
    match skip f cs with
    | [] => none
    | '[' :: rest =>
      match namedClass? rest with
      | some (negated, rest) =>
        if f.lacksCases then none
        else readBrackets? f fuel (b.add { high := f.ascii && negated }) outer rest
      | none => do
        let (inner, rest) ← openBracket? f rest
        readBrackets? f fuel inner (b :: outer) rest
    | ']' :: rest =>
      let set := b.close
      if f.ascii && set.high then none
      else match outer with
        | [] => some (set, rest)
        | around :: outer => readBrackets? f fuel (around.add set) outer rest
    | '&' :: '&' :: rest => readBrackets? f fuel (b.operate .both) outer rest
    | '-' :: '-' :: rest => readBrackets? f fuel (b.operate .without) outer rest
    | '~' :: '~' :: rest => readBrackets? f fuel (b.operate .either) outer rest
    | rest => do
      let (set, rest) ← readRange? f rest
      readBrackets? f fuel (b.add set) outer rest

/-- a class behind its opening bracket, with its depth -/
def readClass? (f : Flags) (cs : List Char) : Option (Nat × List Char) := do
  let (b, rest) ← openBracket? f cs
  let (set, rest) ← readBrackets? f cs.length b [] rest
  return (set.depth, rest)

/-! ## groups -/

def isNameChar (first : Bool) (c : Char) : Bool :=
  if first then c == '_' || isAlphabetic c
  else ['_', '.', '[', ']'].contains c || isAlphanumeric c

/-- the name of a group up to its closing angle -/
def readName? (cs : List Char) : Option (List Char × List Char) :=
  match cs.takeWhile (· != '>'), cs.dropWhile (· != '>') with
  | c :: more, _ :: rest =>
    if isNameChar true c && more.all (isNameChar false) then some (c :: more, rest) else none
  | _, _ => none

def flagNames : List Char := ['i', 'm', 's', 'U', 'u', 'R', 'x']

/-- flags up to the colon or the bracket behind them; `seen` are those read, a dash included -/
def readFlags? (f : Flags) (seen : List Char) : List Char → Option (Flags × List Char × List Char)
  | [] => none
  | c :: cs =>
    if c == ':' || c == ')' then
      if seen.head? = some '-' then none else some (f, seen, c :: cs)
    else if seen.contains c || !(c == '-' || flagNames.contains c) then none
    else readFlags? (f.set c (!seen.contains '-')) (c :: seen) cs

/-- what an opening bracket begins -/
inductive Opening
  | group (flags : Flags) (name : Option (List Char))
  /-- flags for the rest of the group around -/
  | flags (flags : Flags)

def readOpening? (f : Flags) (cs : List Char) : Option (Opening × List Char) :=
  match skip f cs with
  | '?' :: '=' :: _ | '?' :: '!' :: _ | '?' :: '<' :: '=' :: _ | '?' :: '<' :: '!' :: _ => none
  | '?' :: 'P' :: '<' :: rest | '?' :: '<' :: rest =>
    (readName? rest).map fun (name, rest) => (.group f (some name), rest)
  | '?' :: rest =>
    match readFlags? f [] rest with
    | some (set, _, ':' :: rest) => some (.group set none, rest)
    | some (set, _ :: _, ')' :: rest) => some (.flags set, rest)
    | _ => none
  | rest => some (.group f none, rest)

/-! ## patterns -/

/-- an alternative under way: the depth of each of its parts, the last one first, none for flags -/
abbrev Sequence := List (Option Nat)

def sequenceDepth : Sequence → Nat
  | [] => 0
  | [part] => part.getD 0
  | parts => (parts.map (·.getD 0)).foldl max 0 + 1

/-- the alternatives of a group: those done, by depth, and the one under way -/
structure Alternatives where
  done : List Nat := []
  parts : Sequence := []

namespace Alternatives

def add (a : Alternatives) (part : Option Nat) : Alternatives := { a with parts := part :: a.parts }

def split (a : Alternatives) : Alternatives := ⟨sequenceDepth a.parts :: a.done, []⟩

def depth (a : Alternatives) : Nat :=
  match a.done with
  | [] => sequenceDepth a.parts
  | done => (sequenceDepth a.parts :: done).foldl max 0 + 1

/-- the last part repeated, if there is one -/
def repeat? (a : Alternatives) : Option Alternatives :=
  match a.parts with
  | some depth :: parts => some { a with parts := some (depth + 1) :: parts }
  | _ => none

end Alternatives

structure State where
  flags : Flags := {}
  current : Alternatives := {}
  /-- the groups around: their flags and alternatives -/
  outer : List (Flags × Alternatives) := []
  names : List (List Char) := []

namespace State

def add (s : State) (part : Option Nat) : State := { s with current := s.current.add part }

def openGroup? (s : State) (cs : List Char) : Option (State × List Char) := do
  match ← readOpening? s.flags cs with
  | (.flags f, rest) => some ({ s with flags := f, current := s.current.add none }, rest)
  | (.group f name, rest) =>
    if name.any s.names.contains then none
    else some (⟨f, {}, (s.flags, s.current) :: s.outer, name.toList ++ s.names⟩, rest)

def closeGroup? (s : State) : Option State :=
  match s.outer with
  | [] => none
  | (f, around) :: outer =>
    some { s with flags := f, current := around.add (some (s.current.depth + 1)), outer := outer }

def addPrimitive? (s : State) (p : Primitive) : Option State :=
  if p.isAllowed s.flags then some (s.add (some 0)) else none

/-- takes what stands at the front of a text -/
def step? (s : State) : List Char → Option (State × List Char)
  | [] => some (s, [])
  | '(' :: cs => s.openGroup? cs
  | ')' :: cs => s.closeGroup?.map (·, cs)
  | '|' :: cs => some ({ s with current := s.current.split }, cs)
  | '[' :: cs => (readClass? s.flags cs).map fun (depth, rest) => (s.add (some depth), rest)
  | '{' :: _ => none
  | '\\' :: cs => do
    let (p, rest) ← readEscape? s.flags cs
    return (← s.addPrimitive? p, rest)
  | c :: cs =>
    if c == '?' || c == '*' || c == '+' then
      s.current.repeat?.map fun a =>
        ({ s with current := a }, if cs.head? = some '?' then cs.drop 1 else cs)
    else
      let p : Primitive :=
        if c == '.' then .dot else if c == '^' || c == '$' then .boundary else .literal c false
      (s.addPrimitive? p).map (·, cs)

def run? (s : State) : Nat → List Char → Option State
  | 0, cs => if cs.isEmpty then some s else none
  | fuel + 1, cs =>
    match skip s.flags cs with
    | [] => some s
    | cs => do
      let (s, rest) ← s.step? cs
      s.run? fuel rest

end State

/-- how deep parts may lie in one another -/
def maxDepth : Nat := 250

/-- counted repetitions have no place in a filter, whose fields end at the first closing brace -/
def isPattern (cs : List Char) : Bool :=
  ((State.run? {} cs.length cs).filter fun s => s.outer.isEmpty && s.current.depth ≤ maxDepth).isSome

end ServerConsole.Logging.Pattern

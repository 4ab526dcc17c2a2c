import ServerConsole.Logging.Pattern
import ServerConsole.Text.Decimal
import ServerConsole.Text.Utf8

/-!
# Log filters

A filter is a list of directives between commas; empty ones do not count. A directive is a level, or a
target and behind it, if wanted, a span with fields in brackets and an equals sign with a level:
`info`, `net=debug`, `net[request{id=7}]=trace`.

* `Level.ofText?`   the levels, by word in any case or by number;
* `isField`         the name of a field and the number or pattern it is compared with;
* `isDirective`     one directive;
* `isFilter`        a whole filter.
-/

namespace ServerConsole.Logging

open Text

/-! ## levels -/

inductive Level
  | off
  | error
  | warn
  | info
  | debug
  | trace
  deriving DecidableEq

namespace Level

def ofNumber? : Nat → Option Level
  | 0 => some off
  | 1 => some error
  | 2 => some warn
  | 3 => some info
  | 4 => some debug
  | 5 => some trace
  | _ => none

def ofWord? (cs : List Char) : Option Level :=
  match String.ofList (cs.map Char.toLower) with
  | "" => some error
  | "off" => some off
  | "error" => some error
  | "warn" => some warn
  | "info" => some info
  | "debug" => some debug
  | "trace" => some trace
  | _ => none

def ofText? (cs : List Char) : Option Level :=
  ((unsigned? (UInt64.size - 1) cs).bind ofNumber?).or (ofWord? cs)

end Level

/-! ## fields -/

/-- digits, with a point among them if there is one digit at least, and an exponent if wanted -/
def isUnsignedNumber (cs : List Char) : Bool :=
  let behind := cs.dropWhile isDigit
  let (fraction, rest) := match behind with
    | '.' :: more => (more.takeWhile isDigit, more.dropWhile isDigit)
    | _ => ([], behind)
  let exponent := match rest with
    | [] => true
    | e :: '+' :: more | e :: '-' :: more => e.toLower == 'e' && (natural? more).isSome
    | e :: more => e.toLower == 'e' && (natural? more).isSome
  ((cs.head?.any isDigit) || !fraction.isEmpty) && exponent

/-- numbers that a field may be compared with, by name or in digits, with a sign if wanted -/
def isNumber (cs : List Char) : Bool :=
  let unsigned := match cs with
    | '+' :: rest | '-' :: rest => rest
    | _ => cs
  ["inf", "infinity", "nan"].contains (String.ofList (unsigned.map Char.toLower))
    || isUnsignedNumber unsigned

/-- a field's name, and behind an equals sign a number or a pattern; what follows a second equals
sign does not count -/
def isField (cs : List Char) : Bool :=
  match splitOn '=' cs with
  | _ :: value :: _ => isNumber value || Pattern.isPattern value
  | _ => true

/-! ## directives -/

/-- where in a directive a character stands; positions count bytes -/
inductive Part
  | start
  /-- a level or a target -/
  | word
  | span
  /-- in a field of a span that begins at a position -/
  | field (start : Nat)
  /-- behind the fields -/
  | fields
  /-- behind the brackets -/
  | closed
  /-- in a level that begins at a position -/
  | level (start : Nat)
  deriving DecidableEq

/-- the text between two positions, if none of them is inside a character -/
def slice? (bytes : List UInt8) (start stop : Nat) : Option (List Char) :=
  decode? ((bytes.drop start).take (stop - start))

namespace Part

def startsWord (c : Char) : Bool := Unicode.isAlphanumeric c || ['-', ':', '_'].contains c

/-- the part behind a character at a position; fields are cut out of `bytes` -/
def next? (bytes : List UInt8) (place : Nat) : Part → Char → Option Part
  | start, c => if c = '[' then some span else if startsWord c then some word else none
  | word, c => some (if c = '=' then level (place + 1) else if c = '[' then span else word)
  | span, c => some (if c = ']' then closed else if c = '{' then field (place + 1) else span)
  | field first, c =>
    if c ≠ '}' then some (field first)
    else if place = first then none
    else if (slice? bytes first place).any isField then some fields
    else none
  | fields, c => if c = ']' then some closed else none
  | closed, c => if c = '=' then some (level (place + 1)) else none
  | level first, _ => some (level first)

/-- the part at the end of a text whose first character is at `place` -/
def run? (bytes : List UInt8) (place : Nat) (part : Part) : List Char → Option Part
  | [] => some part
  | c :: cs => (part.next? bytes place c).bind fun next => next.run? bytes (place + c.utf8Size) cs

end Part

/-- positions are counted in the trimmed text, fields and level are cut out of the text as it is -/
def isDirective (directive : List Char) : Bool :=
  let bytes := encode directive
  match Part.start.run? bytes 0 (trimChars directive) with
  | some .word | some .closed => true
  | some (.level first) =>
    (slice? bytes first bytes.length).any fun text => text.isEmpty || (Level.ofText? text).isSome
  | _ => false

/-! ## filters -/

def isFilter (filter : String) : Bool :=
  ((splitOn ',' filter.toList).filter (!·.isEmpty)).all isDirective

end ServerConsole.Logging

import ServerConsole.Text.Decimal
import ServerConsole.Text.Hex
import ServerConsole.Text.Pieces
import ServerConsole.Toml.Value

/-!
# Numbers, words and moments

The values that are written without quotes and brackets. They consist of letters, digits and
`+ - . : _`, except that a blank may stand between a date and a time.

* `integer?`   an integer of 64 bits, in decimal, or after `0x`, `0o`, `0b`;
* `isReal`     a number with a fraction or an exponent, or `inf` or `nan`; too large a positive one
               is refused;
* `isMoment`   a date, a time of day, or both with or without an offset;
* `readScalar` the value at the front of a text.
-/

namespace ServerConsole.Toml

open Text

/-! ## digits in groups -/

/-- digits, with single underscores between them -/
def isGrouped (isDigit : Char → Bool) (cs : List Char) : Bool :=
  (splitOn '_' cs).all fun group => !group.isEmpty && group.all isDigit

def ungrouped (cs : List Char) : List Char := cs.filter (· != '_')

/-- the number in a base, of digits that are known to be hexadecimal -/
def inBase (base : Nat) (cs : List Char) : Nat :=
  cs.foldl (fun n c => base * n + (hexValue? c).getD 0) 0

def isDigitOf (base : Nat) (c : Char) : Bool := (hexValue? c).any (· < base)

def unsign : List Char → Bool × List Char
  | '+' :: cs => (false, cs)
  | '-' :: cs => (true, cs)
  | cs => (false, cs)

/-! ## integers -/

/-- a decimal without leading zeros -/
def isPlainDecimal (cs : List Char) : Bool :=
  isGrouped isDigit cs && (cs.length == 1 || cs.head? != some '0')

def fits (n : Int) : Option Int := if -9223372036854775808 ≤ n ∧ n < 9223372036854775808 then some n else none

def radix? (base : Nat) (cs : List Char) : Option Int :=
  if isGrouped (isDigitOf base) cs then fits (inBase base (ungrouped cs)) else none

def decimal? (cs : List Char) : Option Int :=
  let (negative, body) := unsign cs
  if isPlainDecimal body then
    let n : Int := ofDigits (ungrouped body)
    fits (if negative then -n else n)
  else none

def integer? : List Char → Option Int
  | '0' :: 'x' :: cs => radix? 16 cs
  | '0' :: 'o' :: cs => radix? 8 cs
  | '0' :: 'b' :: cs => radix? 2 cs
  | cs => decimal? cs

/-! ## reals -/

/-- the least number above every double -/
def realBound : Nat := Nat.pow 2 1024 - Nat.pow 2 970

/-- whether digits times a power of ten reach beyond the doubles -/
def isTooLarge (significand : List Char) (exponent : Int) : Bool :=
  let cs := significand.dropWhile (· == '0')
  let magnitude : Int := cs.length + exponent
  if cs.isEmpty || magnitude < 308 then false
  else if 310 < magnitude then true
  else if 0 ≤ exponent then realBound ≤ ofDigits cs * Nat.pow 10 exponent.toNat
  else realBound * Nat.pow 10 exponent.natAbs ≤ ofDigits cs

/-- the exponent after `e` -/
def exponent? (cs : List Char) : Option Int :=
  let (negative, body) := unsign cs
  if isGrouped isDigit body then
    let n : Int := ofDigits (ungrouped body)
    some (if negative then -n else n)
  else none

def isReal (cs : List Char) : Bool :=
  let (negative, body) := unsign cs
  let whole := body.takeWhile fun c => isDigit c || c == '_'
  let rest := body.drop whole.length
  let inRange (fraction : List Char) (exponent : Int) : Bool :=
    negative || !isTooLarge (ungrouped (whole ++ fraction)) (exponent - (ungrouped fraction).length)
  let exponentOf : List Char → Option Int
    | [] => some 0
    | c :: cs => if c == 'e' || c == 'E' then exponent? cs else none
  if body == ['i', 'n', 'f'] || body == ['n', 'a', 'n'] then true
  else if !isPlainDecimal whole then false
  else match rest with
    | [] => false
    | '.' :: rest =>
      let fraction := rest.takeWhile fun c => isDigit c || c == '_'
      isGrouped isDigit fraction && (exponentOf (rest.drop fraction.length)).any (inRange fraction)
    | rest => (exponentOf rest).any (inRange [])

/-! ## moments -/

/-- a number of exactly `width` digits within bounds, and what follows it -/
def field? (width low high : Nat) (cs : List Char) : Option (Nat × List Char) :=
  let head := cs.take width
  let n := ofDigits head
  if head.length = width ∧ head.all isDigit ∧ low ≤ n ∧ n ≤ high then some (n, cs.drop width)
  else none

def mark? (mark : Char) : List Char → Option (List Char)
  | [] => none
  | c :: cs => if c == mark then some cs else none

def isLeapYear (year : Nat) : Bool := year % 4 == 0 && (year % 100 != 0 || year % 400 == 0)

def daysIn (year month : Nat) : Nat :=
  if month = 2 then (if isLeapYear year then 29 else 28)
  else if [4, 6, 9, 11].contains month then 30 else 31

/-- `1979-05-27`, and what follows -/
def date? (cs : List Char) : Option (List Char) := do
  let (year, cs) ← field? 4 0 9999 cs
  let (month, cs) ← field? 2 1 12 (← mark? '-' cs)
  let (_, cs) ← field? 2 1 (daysIn year month) (← mark? '-' cs)
  return cs

def fraction? : List Char → Option (List Char)
  | '.' :: cs => if cs.head?.any isDigit then some (cs.dropWhile isDigit) else none
  | cs => some cs

/-- `07:32:00.5`, and what follows -/
def time? (cs : List Char) : Option (List Char) := do
  let (_, cs) ← field? 2 0 23 cs
  let (_, cs) ← field? 2 0 59 (← mark? ':' cs)
  let (_, cs) ← field? 2 0 60 (← mark? ':' cs)
  fraction? cs

def isOffset : List Char → Bool
  | [] => true
  | [c] => c == 'Z' || c == 'z'
  | c :: cs =>
    (c == '+' || c == '-') && (((field? 2 0 23 cs).bind fun r => mark? ':' r.2).bind
      (field? 2 0 59)).any (·.2.isEmpty)

def isTimeWithOffset (cs : List Char) : Bool := (time? cs).any isOffset

def isDate (cs : List Char) : Bool := (date? cs).any List.isEmpty

def isMoment (cs : List Char) : Bool :=
  match date? cs with
  | some [] => true
  | some (c :: rest) => (c == 'T' || c == 't') && isTimeWithOffset rest
  | none => (time? cs).any List.isEmpty

/-! ## scalars -/

def isScalarChar (c : Char) : Bool := c.isAlphanum || ['+', '-', '.', ':', '_'].contains c

def scalar? (cs : List Char) : Option Value :=
  if cs == "true".toList then some (.bool true)
  else if cs == "false".toList then some (.bool false)
  else match integer? cs with
    | some n => some (.integer n)
    | none =>
      if isReal cs then some (.real cs) else if isMoment cs then some (.moment cs) else none

/-- a scalar and what follows; a date goes on behind a blank where something stands there -/
def readScalar (cs : List Char) : Option (Value × List Char) :=
  let written := cs.takeWhile isScalarChar
  let rest := cs.drop written.length
  match isDate written, rest with
  | true, ' ' :: more =>
    let time := more.takeWhile isScalarChar
    if time.isEmpty then some (.moment written, rest)
    else if isTimeWithOffset time then
      some (.moment (written ++ ' ' :: time), more.drop time.length)
    else none
  | _, _ => (scalar? written).map (·, rest)

end ServerConsole.Toml

import ServerConsole.Json.Value
import ServerConsole.Text.Decimal

/-!
# Reading JSON numbers

A number without fraction and exponent that fits 64 bits is an integer; every other number is a
double, computed from a significand of at most 64 bits and a power of ten.

* `takeSignificand`  digits into a significand, up to the first that does not fit;
* `scaled`           significand and exponent to a double, one rounding per operation;
* `readNumber`       a number, its sign already taken off;
* `skipNumber`       the same grammar without a value, for parts that are ignored.

Digits after a full significand only move the exponent (before the point) or are dropped (after
it), so two long numerals may read as one double.
-/

namespace ServerConsole.Json

open Text

/-- what is wrong with a text that should go on -/
def unexpected : List Char → Fault
  | [] => .truncated
  | _ :: _ => .malformed

def startsWithDigit : List Char → Bool
  | [] => false
  | c :: _ => isDigit c

def dropDigits (s : List Char) : List Char := s.dropWhile isDigit

/-! ## doubles -/

def powerOfTen (n : Nat) : Float := OfScientific.ofScientific 1 false n

/-- multiplies or divides by powers of ten of at most 308; too large a result is refused -/
def scaled (f : Float) (exponent : Int) : Except Fault Float :=
  if h : exponent < -308 then
    if f == 0 then .ok f else scaled (f / powerOfTen 308) (exponent + 308)
  else if exponent < 0 then .ok (f / powerOfTen exponent.natAbs)
  else if exponent ≤ 308 then
    let g := f * powerOfTen exponent.natAbs
    if g.isInf then .error .malformed else .ok g
  else if f == 0 then .ok f
  else .error .malformed
termination_by exponent.natAbs
decreasing_by omega

def signed (positive : Bool) (f : Float) : Float := if positive then f else -f

def realOf (positive : Bool) (significand : Nat) (exponent : Int) : Except Fault Number :=
  (scaled significand.toUInt64.toFloat exponent).map fun f => .real (signed positive f)

/-! ## digits -/

/-- digits taken into a significand below `2 ^ 64`: the significand, how many, and the rest -/
def takeSignificand (n taken : Nat) : List Char → Nat × Nat × List Char
  | [] => (n, taken, [])
  | c :: cs =>
    let m := 10 * n + digitValue c
    if isDigit c && m < UInt64.size then takeSignificand m (taken + 1) cs else (n, taken, c :: cs)

/-- the number of leading digits and the rest -/
def countDigits (s : List Char) : Nat × List Char :=
  ((s.takeWhile isDigit).length, s.dropWhile isDigit)

/-! ## numbers with a value -/

/-- the exponent after `e` -/
def readExponent (s : List Char) : Except Fault (Int × List Char) :=
  let (negative, body) := match s with
    | '+' :: r => (false, r)
    | '-' :: r => (true, r)
    | _ => (false, s)
  if startsWithDigit body then
    let e : Int := ofDigits (body.takeWhile isDigit)
    .ok (if negative then -e else e, dropDigits body)
  else .error (unexpected body)

/-- what follows the digits: an exponent or nothing more -/
def finishReal (positive : Bool) (significand : Nat) (exponent : Int) (s : List Char) :
    Except Fault (Number × List Char) :=
  match s with
  | 'e' :: r | 'E' :: r => do
    let (e, r) ← readExponent r
    let x ← realOf positive significand (exponent + e)
    pure (x, r)
  | _ => do
    let x ← realOf positive significand exponent
    pure (x, s)

/-- the digits after the point -/
def readFraction (positive : Bool) (significand : Nat) (exponent : Int) (s : List Char) :
    Except Fault (Number × List Char) :=
  if startsWithDigit s then
    let (m, taken, r) := takeSignificand significand 0 s
    finishReal positive m (exponent - taken) (dropDigits r)
  else .error (unexpected s)

/-- what follows the digits of the integer part -/
def finishInteger (positive : Bool) (n : Nat) (s : List Char) :
    Except Fault (Number × List Char) :=
  match s with
  | '.' :: r => readFraction positive n 0 r
  | 'e' :: _ | 'E' :: _ => finishReal positive n 0 s
  | _ =>
    if positive then .ok (.natural n.toUInt64, s)
    else if n = 0 ∨ UInt64.size / 2 < n then .ok (.real (-n.toUInt64.toFloat), s)
    else .ok (.negative n.toUInt64, s)

/-- an integer part that does not fit: further digits are powers of ten -/
def finishLong (positive : Bool) (n : Nat) (s : List Char) :
    Except Fault (Number × List Char) :=
  let (more, r) := countDigits s
  match r with
  | '.' :: r => readFraction positive n more r
  | _ => finishReal positive n more r

def readNumber (positive : Bool) (s : List Char) : Except Fault (Number × List Char) :=
  match s with
  | '0' :: r => if startsWithDigit r then .error .malformed else finishInteger positive 0 r
  | _ =>
    if startsWithDigit s then
      let (n, _, r) := takeSignificand 0 0 s
      if startsWithDigit r then finishLong positive n r else finishInteger positive n r
    else .error (unexpected s)

/-! ## numbers without a value -/

def skipDigits (s : List Char) : Except Fault (List Char) :=
  if startsWithDigit s then .ok (dropDigits s) else .error .malformed

def skipExponent (s : List Char) : Except Fault (List Char) :=
  match s with
  | 'e' :: '+' :: r | 'e' :: '-' :: r | 'E' :: '+' :: r | 'E' :: '-' :: r => skipDigits r
  | 'e' :: r | 'E' :: r => skipDigits r
  | _ => .ok s

def skipFraction (s : List Char) : Except Fault (List Char) :=
  match s with
  | '.' :: r => skipDigits r
  | _ => .ok s

def skipNumber (s : List Char) : Except Fault (List Char) := do
  let r ← match s with
    | '0' :: r => if startsWithDigit r then .error .malformed else .ok r
    | _ => skipDigits s
  skipExponent (← skipFraction r)

end ServerConsole.Json
